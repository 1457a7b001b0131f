import Signpost.Table

/-!
# Endpoints

Where requests go: a URL, headers with any number of values each, and properties. An endpoint is built
from one that has nothing by setting its URL, adding values of headers and setting properties. The order
of headers and properties of different names does not count when endpoints are compared.
-/

namespace Signpost

/-- The value of a property. -/
inductive Document where
  /-- Values by name; no name comes twice. -/
  | object (fields : List (String × Document))
  | array (items : List Document)
  | number (n : Int)
  | string (s : String)
  | bool (b : Bool)
  | null
  deriving Repr, Inhabited

namespace Document

/-- The string, if the value is one. -/
def asString? : Document → Option String
  | string s => some s
  | _ => none

/-- The fields, if the value is an object. -/
def asObject? : Document → Option (List (String × Document))
  | object fields => some fields
  | _ => none

mutual

/-- Whether two values are equal, where the fields of objects are compared by name. -/
def beq : Document → Document → Bool
  | object fs, object gs => fs.length == gs.length && fieldsBeq fs gs
  | array as, array bs => itemsBeq as bs
  | number m, number n => m == n
  | string s, string t => s == t
  | bool b, bool c => b == c
  | null, null => true
  | _, _ => false

/-- Whether the items of two arrays are equal in order. -/
def itemsBeq : List Document → List Document → Bool
  | [], [] => true
  | a :: as, b :: bs => a.beq b && itemsBeq as bs
  | _, _ => false

/-- Whether each of the fields is equal to the one of its name in another object. -/
def fieldsBeq : List (String × Document) → Table String Document → Bool
  | [], _ => true
  | (name, a) :: fs, gs =>
    (match gs.get? name with
      | some b => a.beq b
      | none => false) && fieldsBeq fs gs

end

instance : BEq Document := ⟨beq⟩

end Document

/-- An endpoint. -/
structure Endpoint where
  url : String
  headers : Table String (List String)
  properties : Table String Document
  deriving Repr, Inhabited

namespace Endpoint

/-- Whether two endpoints are equal, where headers and properties are compared by name. -/
def beq (e f : Endpoint) : Bool :=
  e.url == f.url && e.headers.agrees (· == ·) f.headers && e.properties.agrees (· == ·) f.properties

instance : BEq Endpoint := ⟨beq⟩

/-- The endpoint that has nothing. -/
def empty : Endpoint := ⟨"", [], []⟩

/-- The endpoint with a URL. -/
def setUrl (e : Endpoint) (url : String) : Endpoint := { e with url }

/-- The values of a header, in the order in which they were added. -/
def header (e : Endpoint) (name : String) : List String := (e.headers.get? name).getD []

/-- The endpoint with one more value of a header. -/
def addHeader (e : Endpoint) (name value : String) : Endpoint :=
  { e with headers := e.headers.put name (e.header name ++ [value]) }

/-- The endpoint with a property, in place of an earlier one of the name. -/
def setProperty (e : Endpoint) (name : String) (value : Document) : Endpoint :=
  { e with properties := e.properties.put name value }

end Endpoint

end Signpost
