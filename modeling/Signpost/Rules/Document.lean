import Signpost.Rules.Ruleset
import Signpost.Rules.Template
import Signpost.Json.Decode

/-!
# Ruleset documents

A ruleset as JSON text. The text is first read into drafts, whose expressions are still JSON values;
then drafts become rules, in which every string is a template. Mistakes of the second step carry the
path of the rule.
-/

namespace Signpost.Rules

open Json

/-- Why a text is not a ruleset. -/
inductive DocumentError where
  | mismatch (m : Mismatch)
  /-- A default of another type than its parameter. -/
  | wrongDefault (parameter : String) (type found : ParameterType)
  | badTemplate (path text : String) (error : Template.Error)
  | notWhole (path : String) (n : Number)
  | badArguments (path name : String) (found : Value)
  | null (path : String)

/-- The mistake in words. -/
def DocumentError.message : DocumentError → String
  | mismatch m => m.message
  | wrongDefault parameter type found =>
    "parameter `" ++ parameter ++ "` has type " ++ type.name ++ " but its default is a " ++ found.name
  | badTemplate path text error => path ++ ": " ++ (error.diagnosis text).render
  | notWhole path n => path ++ ": only integers are supported, found " ++ n.write
  | badArguments path name found =>
    path ++ ": `argv` of `" ++ name ++ "` must be an array, found " ++ found.write
  | null path => path ++ ": null is not a valid expression"

/-- The mistake as it is reported. -/
def DocumentError.diagnosis (e : DocumentError) : Diagnosis := ⟨.invalidDocument, e.message, none⟩

/-! ### Drafts -/

namespace Draft

/-- A parameter while its entries are read. -/
structure Parameter where
  type : Option ParameterType
  required : Option Bool
  default : Option (Option ParameterValue)
  builtIn : Option (Option String)
  documentation : Option (Option String)
  deprecated : Option (Option Deprecation)

/-- A condition whose arguments are JSON. -/
structure Condition where
  function : Option String
  arguments : Option (List Value)
  assign : Option (Option String)

/-- An endpoint whose parts are JSON. -/
structure Endpoint where
  url : Option Value
  properties : Option (Table String Value)
  headers : Option (Table String (List Value))

mutual

/-- A rule whose expressions are JSON. -/
inductive Rule where
  | mk (documentation : Option String) (conditions : List Condition) (outcome : Outcome)

inductive Outcome where
  | endpoint (e : Endpoint)
  | error (message : Value)
  | tree (rules : List Rule)

end

/-- A rule while its entries are read: what is neither documentation nor conditions is held. -/
structure RuleFields where
  documentation : Option (Option String)
  conditions : Option (List Condition)

/-- A ruleset while its entries are read. -/
structure Ruleset where
  version : Option String
  parameters : Option (Table String Parameter)
  rules : Option (List Rule)

/-- Nothing but `null`. -/
def unit : Decoder Unit := fun _ o =>
  match o with
  | .null => .ok ()
  | o => .error (o.mismatch "unit")

def parameterType : Decoder ParameterType :=
  Decoder.alternative <|
    [("String", ParameterType.string), ("string", .string), ("Boolean", .boolean),
     ("boolean", .boolean), ("StringArray", .stringArray), ("stringArray", .stringArray)].map
      fun (name, t) => ⟨name, some t, fun src o => (unit src o).map fun _ => t⟩

/-- The strings of a list that holds nothing else. -/
def strings? (items : List Outline) : Option (List String) :=
  items.mapM fun o => match o with
    | .string ⟨.ok s, _⟩ => some s
    | _ => none

/-- A string, a truth value or a list of strings, recognized after it has been read. -/
def parameterValue : Decoder ParameterValue := fun _ o => do
  let _ ← orMismatch o.read
  match o with
  | .string ⟨.ok s, _⟩ => return .string s
  | .bool b => return .bool b
  | .list _ items _ =>
    match strings? items with
    | some ss => return .stringArray ss
    | none => .error (.noAlternative "ParameterValue")
  | _ => .error (.noAlternative "ParameterValue")

private def optionalString : Decoder (Option String) := Decoder.optional Decoder.string

/-- A deprecation while its entries are read. -/
structure Notice where
  message : Option (Option String)
  since : Option (Option String)

private def noticeFields : List (Json.Field Notice) :=
  [.of "message" false (·.message) (fun s d => { d with message := some s }) optionalString,
   .of "since" false (·.since) (fun s d => { d with since := some s }) optionalString]

def deprecation : Decoder Deprecation := fun src o => do
  let d ← Record.decoder noticeFields "struct Deprecated" ⟨none, none⟩ src o
  return ⟨d.message.join, d.since.join⟩

private def parameterFields : List (Json.Field Parameter) :=
  [.of "type" true (·.type) (fun t p => { p with type := some t }) parameterType,
   .of "required" false (·.required) (fun b p => { p with required := some b }) Decoder.bool,
   .of "default" false (·.default) (fun v p => { p with default := some v })
     (Decoder.optional parameterValue),
   .of "builtIn" false (·.builtIn) (fun s p => { p with builtIn := some s }) optionalString,
   .of "documentation" false (·.documentation) (fun s p => { p with documentation := some s })
     optionalString,
   .of "deprecated" false (·.deprecated) (fun d p => { p with deprecated := some d })
     (Decoder.optional deprecation)]

def parameter : Decoder Parameter :=
  Record.decoder parameterFields "struct RawParameter" ⟨none, none, none, none, none, none⟩

private def conditionFields : List (Json.Field Condition) :=
  [.of "fn" true (·.function) (fun s c => { c with function := some s }) Decoder.string,
   .of "argv" false (·.arguments) (fun vs c => { c with arguments := some vs })
     (Decoder.list Decoder.value),
   .of "assign" false (·.assign) (fun s c => { c with assign := some s }) optionalString]

def condition : Decoder Condition :=
  Record.decoder conditionFields "struct RawCondition" ⟨none, none, none⟩

private def endpointFields : List (Json.Field Endpoint) :=
  [.of "url" true (·.url) (fun v e => { e with url := some v }) Decoder.value,
   .of "properties" false (·.properties) (fun t e => { e with properties := some t })
     (Decoder.entries Decoder.value),
   .of "headers" false (·.headers) (fun t e => { e with headers := some t })
     (Decoder.entries (Decoder.list Decoder.value))]

def endpoint : Decoder Endpoint :=
  Record.decoder endpointFields "struct RawEndpoint" ⟨none, none, none⟩

private def ruleFields : List (Json.Field RuleFields) :=
  [.of "documentation" false (·.documentation) (fun s r => { r with documentation := some s })
     optionalString,
   .of "conditions" false (·.conditions) (fun cs r => { r with conditions := some cs })
     (Decoder.list condition)]

/-- The entries of a rule: its own fields are read at once, the others are held for its outcome. -/
def splitRule (src : Source) : RuleFields → List (Scanned String × Outline) →
    Except Mismatch (RuleFields × List (Scanned String × Outline))
  | draft, [] => .ok (draft, [])
  | draft, (k, o) :: es => do
    let key ← orMismatch k.read
    match ruleFields.find? (·.name = key) with
    | some f =>
      if f.isSet draft then .error (.repeated key)
      else splitRule src (← f.read src o draft) es
    | none =>
      let _ ← orMismatch o.read
      let (draft, rest) ← splitRule src draft es
      return (draft, (k, o) :: rest)

/-- A field that alone makes up an outcome. -/
private def sole {α : Type} (field : String) (d : Decoder α) (f : α → Outcome) : Decoder Outcome :=
  fun src o => do
    match ← Record.single "outcome" field true d src o with
    | some a => return f a
    | none => .error (.missing field)

/-- A rule; trees are nested at most `depth` levels deep. -/
def rule : Nat → Decoder Rule
  | 0 => fun _ _ => .error (.fault .tooDeep)
  | depth + 1 => fun src o =>
    match o with
    | .object level es ending =>
      if Outline.maxLevel ≤ level then .error (.fault .tooDeep)
      else do
        let (draft, rest) ← splitRule src ⟨none, none⟩ es
        let kinds : List (String × Decoder Outcome) :=
          [("endpoint", sole "endpoint" endpoint .endpoint),
           ("error", sole "error" Decoder.value .error),
           ("tree", sole "rules" (Decoder.list (rule depth)) .tree)]
        match ending.object? with
        | some f => .error (.fault f)
        | none =>
          let outcome ← Decoder.tagged "type" "internally tagged enum RawRuleKind" kinds .held
            (.object 1 rest .closed)
          return .mk draft.documentation.join (draft.conditions.getD []) outcome
    | o => .error (o.mismatch "struct RawRule")

private def rulesetFields : List (Json.Field Ruleset) :=
  [.of "version" true (·.version) (fun s r => { r with version := some s }) Decoder.string,
   .of "parameters" false (·.parameters) (fun t r => { r with parameters := some t })
     (Decoder.entries parameter),
   .of "rules" true (·.rules) (fun rs r => { r with rules := some rs })
     (Decoder.list (rule Outline.maxLevel))]

def ruleset : Decoder Ruleset :=
  Record.decoder rulesetFields "struct RawRuleSet" ⟨none, none, none⟩

end Draft

/-! ### Expressions -/

namespace Expr

/-- A JSON value under a key, if there is one. -/
def lookup? (entries : List (String × Value)) (key : String) : Option Value :=
  (entries.find? (·.1 = key)).map (·.2)

mutual

/-- The expression that a JSON value at a path stands for. An object with a string under `ref` is a
reference and one with a string under `fn` a call; any other is a record of what it holds besides
`fn`. -/
def ofJson (path : String) : Value → Except DocumentError Expr
  | .string s =>
    match Template.ofText s with
    | .ok t => .ok (.string t)
    | .error e => .error (.badTemplate path s e)
  | .bool b => .ok (.bool b)
  | .number n =>
    match n with
    | .int i => if i < 0x8000000000000000 then .ok (.int i) else .error (.notWhole path n)
    | .real _ => .error (.notWhole path n)
  | .array items => (ofItems path items).map .array
  | .object entries =>
    match lookup? entries "ref", lookup? entries "fn" with
    | some (.string name), _ => .ok (.ref name)
    | _, some (.string name) => (ofArguments path name entries).map (.call name)
    | _, _ => (ofFields path entries).map .record
  | .null => .error (.null path)

def ofItems (path : String) : List Value → Except DocumentError (List Expr)
  | [] => .ok []
  | v :: vs => do
    let e ← ofJson path v
    let es ← ofItems path vs
    return e :: es

/-- The arguments of a call, the list under `argv`. -/
def ofArguments (path name : String) : List (String × Value) → Except DocumentError (List Expr)
  | [] => .ok []
  | (k, v) :: es =>
    if k = "argv" then
      match v with
      | .array items => ofItems path items
      | other => .error (.badArguments path name other)
    else ofArguments path name es

/-- The fields of a record. -/
def ofFields (path : String) : List (String × Value) → Except DocumentError (List (String × Expr))
  | [] => .ok []
  | (k, v) :: es =>
    if k = "fn" then ofFields path es
    else do
      let e ← ofJson path v
      let fs ← ofFields path es
      return (k, e) :: fs

end

end Expr

/-! ### Rulesets -/

namespace Draft

/-- The path of an item of a list. -/
def item (path : String) (i : Nat) : String := path ++ "[" ++ toString i ++ "]"

def Parameter.toParameter (name : String) (p : Parameter) : Except DocumentError Rules.Parameter :=
  let type := p.type.getD Inhabited.default
  let result : Rules.Parameter :=
    ⟨name, type, p.required.getD false, p.default.join, p.builtIn.join, p.documentation.join,
      p.deprecated.join⟩
  match p.default.join with
  | some v => if v.type = type then .ok result else .error (.wrongDefault name type v.type)
  | none => .ok result

def Condition.toCondition (path : String) (c : Condition) : Except DocumentError Rules.Condition := do
  let args ← Expr.ofItems path (c.arguments.getD [])
  return ⟨⟨c.function.getD "", args⟩, c.assign.join⟩

/-- The conditions from the `i`-th on. -/
def toConditions (path : String) (i : Nat) : List Condition → Except DocumentError (List Rules.Condition)
  | [] => .ok []
  | c :: cs => do
    let c ← c.toCondition (item (path ++ ".conditions") i)
    let cs ← toConditions path (i + 1) cs
    return c :: cs

def Endpoint.toEndpoint (path : String) (e : Endpoint) : Except DocumentError EndpointTemplate := do
  let headers ← (e.headers.getD []).mapM fun (name, vs) => do
    return (name, ← Expr.ofItems path vs)
  let properties ← (e.properties.getD []).mapM fun (name, v) => do
    return (name, ← Expr.ofJson path v)
  let url ← Expr.ofJson path (e.url.getD .null)
  return ⟨url, headers, properties⟩

mutual

def Rule.toRule (path : String) : Rule → Except DocumentError Rules.Rule
  | .mk documentation conditions outcome => do
    let conditions ← toConditions path 0 conditions
    let outcome ← Outcome.toOutcome path outcome
    return .mk documentation conditions outcome

def Outcome.toOutcome (path : String) : Outcome → Except DocumentError Rules.Outcome
  | .endpoint e => (e.toEndpoint (path ++ ".endpoint")).map .endpoint
  | .error v => (Expr.ofJson (path ++ ".error") v).map .error
  | .tree rules => (toRules (path ++ ".rules") 0 rules).map .tree

/-- The rules from the `i`-th on. -/
def toRules (path : String) (i : Nat) : List Rule → Except DocumentError (List Rules.Rule)
  | [] => .ok []
  | r :: rs => do
    let r ← r.toRule (item path i)
    let rs ← toRules path (i + 1) rs
    return r :: rs

end

def Ruleset.toRuleset (d : Ruleset) : Except DocumentError Rules.Ruleset := do
  let parameters ← (d.parameters.getD []).mapM fun (name, p) => p.toParameter name
  let rules ← toRules "rules" 0 (d.rules.getD [])
  return ⟨d.version.getD "", parameters, rules⟩

end Draft

/-- Reads a ruleset. -/
def Ruleset.ofText (text : String) : Except DocumentError Ruleset :=
  match decode Draft.ruleset text with
  | .error m => .error (.mismatch m)
  | .ok d => d.toRuleset

end Signpost.Rules
