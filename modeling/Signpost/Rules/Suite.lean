import Signpost.Rules.Document
import Signpost.Schema.Document

/-!
# Test suites

Test cases for a ruleset as JSON text: values for its parameters, and the endpoint or the error that
they should lead to.
-/

namespace Signpost.Rules

open Json

/-- The value of an endpoint property. -/
inductive PropertyValue where
  | string (s : String)
  | bool (b : Bool)
  | int (n : Int)
  | array (items : List PropertyValue)
  | object (fields : List (String × PropertyValue))
  deriving Inhabited, Repr

/-- The endpoint that a test expects. -/
structure ExpectedEndpoint where
  url : String
  headers : Table String (List String)
  properties : Table String PropertyValue
  deriving Inhabited, Repr

/-- What a test expects. -/
inductive Expectation where
  | endpoint (e : ExpectedEndpoint)
  | error (message : String)
  deriving Inhabited, Repr

/-- A test of a ruleset. -/
structure TestCase where
  documentation : Option String
  params : Table String ParameterValue
  expect : Expectation
  deriving Inhabited, Repr

/-- Tests of a ruleset, in order. -/
structure TestSuite where
  cases : List TestCase
  deriving Inhabited, Repr

/-! ### Reading -/

namespace PropertyValue

mutual

/-- The property value that an outline without faults holds, if it is one. -/
def ofOutline? : Outline → Option PropertyValue
  | .string ⟨.ok s, _⟩ => some (string s)
  | .bool b => some (bool b)
  | .number ⟨.ok (.int n), _⟩ => if n < 0x8000000000000000 then some (int n) else none
  | .list _ items _ => (ofItems? items).map array
  | .object _ entries _ => (ofEntries? [] entries).map object
  | _ => none

def ofItems? : List Outline → Option (List PropertyValue)
  | [] => some []
  | o :: os => do
    let v ← ofOutline? o
    let vs ← ofItems? os
    return v :: vs

/-- The entries put into a table. -/
def ofEntries? (table : Table String PropertyValue) :
    List (Scanned String × Outline) → Option (Table String PropertyValue)
  | [] => some table
  | (⟨.ok key, _⟩, o) :: es => do
    let v ← ofOutline? o
    ofEntries? (table.put key v) es
  | (⟨.error _, _⟩, _) :: _ => none

end

/-- A property value, recognized after it has been read. -/
def decoder : Decoder PropertyValue := fun _ o => do
  let _ ← orMismatch o.read
  match ofOutline? o with
  | some v => return v
  | none => .error (.noAlternative "PropertyValue")

mutual

/-- The value as JSON. -/
def write : PropertyValue → String
  | string s => Value.quote s
  | bool b => writeBool b
  | int n => toString n
  | array items => Json.writeList (writeItems items)
  | object fields => writeObject (writeFields fields)

def writeItems : List PropertyValue → List String
  | [] => []
  | v :: vs => write v :: writeItems vs

def writeFields : List (String × PropertyValue) → List (String × String)
  | [] => []
  | (k, v) :: fs => (k, write v) :: writeFields fs

end

end PropertyValue

namespace TestSuite

/-- An expected endpoint while its entries are read. -/
structure EndpointDraft where
  url : Option String
  headers : Option (Table String (List String))
  properties : Option (Table String PropertyValue)

def endpointFields : List (Json.Field EndpointDraft) :=
  [.of "url" true (·.url) (fun s e => { e with url := some s }) Decoder.string,
   .of "headers" false (·.headers) (fun t e => { e with headers := some t })
     (Decoder.entries (Decoder.list Decoder.string)),
   .of "properties" false (·.properties) (fun t e => { e with properties := some t })
     (Decoder.entries PropertyValue.decoder)]

def endpoint : Decoder ExpectedEndpoint := fun src o => do
  let e ← Record.decoder endpointFields "struct ExpectedEndpoint" ⟨none, none, none⟩ src o
  return ⟨e.url.getD "", e.headers.getD [], e.properties.getD []⟩

def expectation : Decoder Expectation :=
  Decoder.alternative
    [⟨"endpoint", none, fun src o => (endpoint src o).map .endpoint⟩,
     ⟨"error", none, fun src o => (Decoder.string src o).map .error⟩]

/-- A test while its entries are read. -/
structure CaseDraft where
  documentation : Option (Option String)
  params : Option (Table String ParameterValue)
  expect : Option Expectation

def caseFields : List (Json.Field CaseDraft) :=
  [.of "documentation" false (·.documentation) (fun s c => { c with documentation := some s })
     (Decoder.optional Decoder.string),
   .of "params" false (·.params) (fun t c => { c with params := some t })
     (Decoder.entries Draft.parameterValue),
   .of "expect" true (·.expect) (fun e c => { c with expect := some e }) expectation]

def testCase : Decoder TestCase := fun src o => do
  let c ← Record.decoder caseFields "struct TestCase" ⟨none, none, none⟩ src o
  return ⟨c.documentation.join, c.params.getD [], c.expect.getD default⟩

def decoder : Decoder TestSuite := fun src o => do
  let cases ← Record.single "struct TestSuite" "testCases" false (Decoder.list testCase) src o
  return ⟨cases.getD []⟩

/-- Reads a test suite. -/
def ofText (text : String) : Except DocumentError TestSuite :=
  match decode decoder text with
  | .error m => .error (.mismatch m)
  | .ok s => .ok s

end TestSuite

/-! ### Writing -/

/-- The value as JSON. -/
def ParameterValue.write : ParameterValue → String
  | string s => Value.quote s
  | bool b => writeBool b
  | stringArray items => Json.writeList (items.map Value.quote)

/-- The expectation as JSON. -/
def Expectation.write : Expectation → String
  | endpoint e =>
    writeObject [("endpoint", writeObject
      [("url", Value.quote e.url),
       ("headers", writeObject (e.headers.map fun (k, vs) => (k, Json.writeList (vs.map Value.quote)))),
       ("properties", writeObject (e.properties.map fun (k, v) => (k, v.write)))])]
  | error message => writeObject [("error", Value.quote message)]

/-- The test as JSON. -/
def TestCase.write (c : TestCase) : String :=
  writeObject
    [("documentation", (c.documentation.map Value.quote).getD "null"),
     ("params", writeObject (c.params.map fun (k, v) => (k, v.write))),
     ("expect", c.expect.write)]

/-- The suite as JSON. -/
def TestSuite.write (s : TestSuite) : String :=
  writeObject [("testCases", Json.writeList (s.cases.map TestCase.write))]

end Signpost.Rules
