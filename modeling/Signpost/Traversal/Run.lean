import Signpost.Traversal.Datum
import Signpost.Traversal.Function

/-!
# Running traversals

What the steps of a traversal do when they run: each binds a value to its local, and a block may return
nothing before its end. Blocks of closures end there; the right sides of `&&` and `||` end the block that
they stand in. Steps that do not fit the values they meet get stuck.
-/

namespace Signpost.Traversal

open Code (Ident)

/-- Why a block stops before its end. -/
inductive Stop where
  | stuck
  /-- It returns nothing. -/
  | nothing
  deriving DecidableEq, Repr

/-- What may stop early. -/
abbrev Running := Except Stop

/-- The locals in scope with their values, the latest first. -/
abbrev Locals := List (Ident × Datum)

/-- A value, unless there is none to go on with. -/
def orStuck {α : Type} : Option α → Running α
  | some a => .ok a
  | none => .error .stuck

/-- The value of a local. -/
def Locals.get (ls : Locals) (i : Ident) : Running Datum := orStuck (ls.lookup i)

/-- The value inside an option; without one, the block returns nothing. -/
def inside : Datum → Running Datum
  | .present d => .ok d
  | .absent => .error .nothing
  | _ => .error .stuck

/-- An option that may be absent; if that is early, the block returns nothing. -/
def eagerly (eager : Bool) (d : Datum) : Running Datum := if eager then inside d else .ok d

/-- The option that a closure returns, also if it returns early. -/
def closed : Running Datum → Running (Option Datum)
  | .ok (.present d) => .ok (some d)
  | .ok .absent | .error .nothing => .ok none
  | .ok _ | .error .stuck => .error .stuck

/-- The truth value that a closure returns; it never returns early. -/
def closedBool : Running Datum → Running Bool
  | .ok (.bool b) => .ok b
  | _ => .error .stuck

/-- What a function makes of the value inside an option. -/
def mapInside (f : Datum → Running Datum) : Datum → Running Datum
  | .absent => .ok .absent
  | .present d => (f d).map .present
  | _ => .error .stuck

/-- A number as one of another type. -/
def castTo (target : Ty) : Datum → Running Datum
  | .int n => match target with
    | .float _ => .ok (.float (.ofInt n))
    | .int _ => .ok (.int n)
    | _ => .error .stuck
  | .float x => match target with
    | .float _ => .ok (.float x)
    | _ => .error .stuck
  | _ => .error .stuck

/-- Text, or an enum as text. -/
def textOf : Datum → Running Datum
  | .text s => .ok (.text s)
  | _ => .error .stuck

/-- The field of a structure. -/
def fieldOf (name : String) : Datum → Running Datum
  | .record fields => orStuck (fields.lookup name)
  | _ => .error .stuck

/-- The elements of a list. -/
def itemsOf : Datum → Running (List Datum)
  | .list items => .ok items
  | _ => .error .stuck

/-- The entries of a map. -/
def entriesOf : Datum → Running (List (String × Datum))
  | .map entries => .ok entries
  | _ => .error .stuck

/-- What a closure ranges over. -/
def Source.of : Source → Datum → Running (List Datum)
  | elements, d => itemsOf d
  | values, d => (entriesOf d).map (·.map (·.2))

/-- Whether a text has a part. -/
def hasPart (part : List Char) : List Char → Bool
  | [] => part.isEmpty
  | c :: cs => part.isPrefixOf (c :: cs) || hasPart part cs

/-- What a block gives. -/
def Tail.run (t : Tail) (ls : Locals) : Running Datum :=
  match t with
  | plain i => ls.get i
  | present i => (ls.get i).map .present
  | equal l r => do
    return .bool (← orStuck ((← ls.get l).compare? .equal (← ls.get r)))

/-- The value of a constant. -/
def Constant.datum : Constant → Datum
  | bool b => .bool b
  | int n => .int n
  | float negative x => .float (.finite negative x)
  | string s => .text s

mutual

/-- The value that a computation gives. -/
def Operation.run (ls : Locals) : Operation → Running Datum
  | .field s f => do fieldOf f.name (← ls.get s)
  | .optionalField s f eager => do eagerly eager (← fieldOf f.name (← ls.get s))
  | .entry s key eager => do
    eagerly eager (.ofOption ((← entriesOf (← ls.get s)).lookup key))
  | .unwrap s => do inside (← ls.get s)
  | .wrap s => return .present (← ls.get s)
  | .deref s | .copied s => ls.get s
  | .text s => do textOf (← ls.get s)
  | .mapText s _ => do mapInside textOf (← ls.get s)
  | .cast s t => do castTo t (← ls.get s)
  | .mapCast s _ t => do mapInside (castTo t) (← ls.get s)
  | .not s => do
    match ← ls.get s with
    | .bool b => return .bool !b
    | _ => throw .stuck
  | .compare op l r => do
    return .bool (← orStuck ((← ls.get l).compare? op (← ls.get r)))
  | .both l steps v => do
    match ← ls.get l with
    | .bool true => do v.run (← Step.runAll ls steps)
    | .bool false => return .bool false
    | _ => throw .stuck
  | .either l steps v => do
    match ← ls.get l with
    | .bool true => return .bool true
    | .bool false => do v.run (← Step.runAll ls steps)
    | _ => throw .stuck
  | .andThen s item steps v => do
    match ← ls.get s with
    | .absent => return .absent
    | .present d =>
      return .ofOption (← closed ((Step.runAll ((item, d) :: ls) steps).bind v.run))
    | _ => throw .stuck
  | .each s source item steps v => do
    let kept ← (← source.of (← ls.get s)).mapM fun d =>
      closed ((Step.runAll ((item, d) :: ls) steps).bind v.run)
    return .list (kept.filterMap id)
  | .values s => do return .list (← Source.values.of (← ls.get s))
  | .flatten s => do
    return .list (← (← itemsOf (← ls.get s)).mapM itemsOf).flatten
  | .charCount s => do
    match ← ls.get s with
    | .text t => return .int t.length
    | _ => throw .stuck
  | .length s => do return .int (← itemsOf (← ls.get s)).length
  | .list is => do return .list (← is.mapM ls.get)
  | .names ks => return .list (ks.map .text)
  | .keys s _ => do return .list ((← entriesOf (← ls.get s)).map fun e => .text e.1)
  | .containsText s t => do
    match ← ls.get s, ← ls.get t with
    | .text s, .text t => return .bool (hasPart t.toList s.toList)
    | _, _ => throw .stuck
  | .any s item steps v => do
    let found ← (← itemsOf (← ls.get s)).anyM fun d =>
      closedBool ((Step.runAll ((item, d) :: ls) steps).bind v.run)
    return .bool found

/-- The locals after a step. -/
def Step.run (ls : Locals) : Step → Running Locals
  | .bind name op => return (name, ← op.run ls) :: ls
  | .const name _ c => return (name, c.datum) :: ls
  | .guard c => do
    match ← ls.get c with
    | .bool true => return ls
    | .bool false => throw .nothing
    | _ => throw .stuck
  | .note _ => return ls

/-- The locals after steps in order. -/
def Step.runAll (ls : Locals) : List Step → Running Locals
  | [] => return ls
  | s :: ss => do Step.runAll (← s.run ls) ss

end

/-- What the function returns for arguments: an option of the value of its query. -/
def Function.run (f : Function) (args : List Datum) : Running (Option Datum) :=
  let ls : Locals := ((f.params.map (·.ident)).zip args).reverse
  closed ((Step.runAll ls f.steps).bind f.result.run)

end Signpost.Traversal
