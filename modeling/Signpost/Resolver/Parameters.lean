import Signpost.Resolver.Compile

/-!
# Parameters of a resolver

The structure that holds the parameters of a ruleset, and the builder that makes it: each parameter has a
field and a method that reads it, and the builder two methods that set it. Parameters that are always set
are plain fields, the others options.
-/

namespace Signpost.Resolver

open Code (Token Ident Path Item code parens squares braces)
open Rules (Parameter ParameterType ParameterValue)

/-- A parameter and its identifier. -/
structure NamedParameter where
  ident : Ident
  parameter : Parameter
  deriving DecidableEq, Repr

/-- A type as an option. -/
def optionOf (type : List Token) : List Token :=
  code ":: std :: option :: Option <" ++ type ++ [.leaf ">"]

/-- The type of strings. -/
def stringType : List Token := code ":: std :: string :: String"

/-- A string of its own with the text. -/
def ownedString (s : String) : List Token := Code.string s :: code ". to_owned ()"

/-- The attribute that lists what is derived. -/
def derive (traits : List String) : List Token :=
  [.leaf "#", squares [.leaf "derive", parens (Code.commas (traits.map ([.leaf ·])))]]

/-- The attribute that forbids dropping the result. -/
def mustUse : List Token := [.leaf "#", squares [.leaf "must_use"]]

namespace NamedParameter

/-- The parameter with its identifier; nothing if none can be made of its name. -/
def of? (p : Parameter) : Option NamedParameter := (Ident.ofName? p.name).map fun i => ⟨i, p⟩

/-- The method that sets the parameter or leaves it out. -/
def setter (p : NamedParameter) : Ident := ⟨"set_" ++ p.ident.name, false⟩

/-- The type of a value of the parameter. -/
def valueType (p : NamedParameter) : List Token :=
  match p.parameter.type with
  | .string => stringType
  | .boolean => code "bool"
  | .stringArray => code ":: std :: vec :: Vec <" ++ stringType ++ [.leaf ">"]

/-- The type of the field that holds the parameter. -/
def fieldType (p : NamedParameter) : List Token :=
  if p.parameter.isAlwaysSet then p.valueType else optionOf p.valueType

/-- The field of the value itself. -/
def own (p : NamedParameter) : List Token := [.leaf "self", .leaf ".", Code.ident p.ident]

/-! ### Documentation -/

/-- A paragraph after others, with an empty line between. -/
private def paragraph (before lines : List String) : List String :=
  if lines.isEmpty then before
  else if before.isEmpty then lines
  else before ++ "" :: lines

/-- That the parameter should not be used. -/
private def deprecation (d : Rules.Deprecation) : String :=
  " Deprecated" ++ (d.since.map (" since " ++ ·)).getD "" ++ (d.message.map (": " ++ ·)).getD ""

/-- The lines that document the parameter. -/
def docs (p : NamedParameter) : List String :=
  let p := p.parameter
  let text := ((p.documentation.map Code.lines).getD []).map (" " ++ ·)
  let builtIn := (p.builtIn.map fun b => " Supplied by the `" ++ b ++ "` built-in.").toList
  let deprecated := (p.deprecated.map deprecation).toList
  paragraph (paragraph text builtIn) deprecated

/-- The attributes that document the parameter. -/
def docTokens (p : NamedParameter) : List Token := p.docs.flatMap Code.doc

/-! ### Methods -/

/-- The type and the body of the method that reads the parameter. -/
private def reading (p : NamedParameter) : List Token × List Token :=
  let slice : List Token := [.leaf "&", squares stringType]
  match p.parameter.type, p.parameter.isAlwaysSet with
  | .string, true => (code "& str", .leaf "&" :: p.own)
  | .string, false => (optionOf (code "& str"), p.own ++ code ". as_deref ()")
  | .boolean, true => (code "bool", p.own)
  | .boolean, false => (optionOf (code "bool"), p.own)
  | .stringArray, true => (slice, .leaf "&" :: p.own)
  | .stringArray, false => (optionOf slice, p.own ++ code ". as_deref ()")

/-- The method that reads the parameter. -/
def reader (p : NamedParameter) : Code.Function where
  header := p.docTokens ++ code "pub fn"
  name := p.ident
  signature := parens (code "& self") :: .leaf "->" :: p.reading.1
  body := p.reading.2

/-- A method of the builder that changes the parameter's field. -/
private def change (p : NamedParameter) (name : Ident) (argument body : List Token) : Code.Function where
  header := p.docTokens ++ mustUse ++ code "pub fn"
  name := name
  signature := parens (code "mut self ," ++ argument) :: code "-> Self"
  body := p.own ++ .leaf "=" :: (body ++ code "; self")

/-- The methods of the builder that set the parameter: to a value, or to a value or nothing. -/
def setters (p : NamedParameter) : List Code.Function :=
  [p.change p.ident
    (code "value : impl :: std :: convert :: Into <" ++ p.valueType ++ [.leaf ">"])
    (code ":: std :: option :: Option :: Some" ++ [parens (code "value . into ()")]),
   p.change p.setter (code "param :" ++ optionOf p.valueType) (code "param")]

/-! ### Building -/

/-- The tokens of a default. -/
private def defaultTokens : ParameterValue → List Token
  | .string s => ownedString s
  | .bool b => [Code.bool b]
  | .stringArray items => code ":: std :: vec !" ++ [squares (Code.commas (items.map ownedString))]

/-- What the builder puts into the parameter's field. -/
def built (runtime : Path) (p : NamedParameter) : List Token :=
  match p.parameter.default, p.parameter.required with
  | some (.bool b), _ => p.own ++ code ". unwrap_or" ++ [parens [Code.bool b]]
  | some v, _ => p.own ++ code ". unwrap_or_else" ++ [parens (.leaf "||" :: defaultTokens v)]
  | none, true =>
    let missing := runtime.extend ["InvalidParams", "missing"] ++ [parens [Code.string p.ident.name]]
    p.own ++ code ". ok_or_else" ++ [parens (.leaf "||" :: missing), .leaf "?"]
  | none, false => p.own

end NamedParameter

/-- The structure of parameters. -/
def paramsName : Ident := ⟨"Params", false⟩

/-- The builder of parameters. -/
def builderName : Ident := ⟨"ParamsBuilder", false⟩

/-- The method that makes a builder. -/
private def builderFunction : Code.Function where
  header := Code.comment " Starts building a `Params`." ++ code "pub fn"
  name := ⟨"builder", false⟩
  signature := code "() -> ParamsBuilder"
  body := code "ParamsBuilder :: default ()"

/-- The method that builds the parameters. -/
private def buildFunction (runtime : Path) (ps : List NamedParameter) : Code.Function where
  header :=
    Code.comment " Fills in defaults and checks that every required" ++
      Code.comment " parameter is set." ++ code "pub fn"
  name := ⟨"build", false⟩
  signature :=
    parens (code "self") :: (code "-> :: std :: result :: Result < Params ," ++
      runtime.extend ["InvalidParams"] ++ [.leaf ">"])
  body :=
    code ":: std :: result :: Result :: Ok" ++
      [parens [.leaf "Params", braces (Code.fieldTokens (ps.map fun p => (p.ident, p.built runtime)))]]

/-- The structure of parameters and its builder, with their methods. -/
def parameterItems (runtime : Path) (ps : List NamedParameter) : List Item :=
  [.record {
    header :=
      Code.comment " The parameters endpoint resolution depends on." ++
        .leaf "#" :: squares (code "non_exhaustive") ::
        (derive ["Clone", "Debug", "PartialEq"] ++ code "pub")
    name := paramsName
    fields := ps.map fun p => (p.ident, p.fieldType) },
   .implementation none paramsName (builderFunction :: ps.map (·.reader)),
   .record {
    header :=
      Code.comment " Builds a [`Params`]." ++ derive ["Clone", "Debug", "Default", "PartialEq"] ++
        code "pub"
    name := builderName
    fields := ps.map fun p => (p.ident, optionOf p.valueType) },
   .implementation none builderName (buildFunction runtime ps :: ps.flatMap (·.setters))]

end Signpost.Resolver
