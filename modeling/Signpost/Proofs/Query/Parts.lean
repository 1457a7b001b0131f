import Signpost.Query.Basic

/-!
# Parts of a query

The queries inside a query (`Expr.parts`), and those whose value is a list that something takes bare elements of:
`contains` searches them (`Expr.searched`), or the elements are asked for members (`Expr.entered`).  `Expr.nesting` is
how many queries are one inside the other, `Expr.height` is that without what only marks the end of a projection, and
`Expr.called` are the names of the functions in it.
-/

namespace Signpost.Query.Expr

mutual

/-- The query and all queries inside it. -/
def parts (e : Expr) : List Expr :=
  e :: match e with
  | .sub l r | .project l r | .projectValues l r | .compare _ l r | .and l r | .or l r | .pipe l r => l.parts ++ r.parts
  | .filter l r c => l.parts ++ r.parts ++ c.parts
  | .index l _ | .slice l _ _ _ | .flatten l | .not l | .reference l => l.parts
  | .list es | .call _ es => partsOf es
  | .hash entries => partsOfEntries entries
  | .field _ | .literal _ | .current => []

def partsOf (es : List Expr) : List Expr :=
  match es with
  | [] => []
  | e :: es => e.parts ++ partsOf es

def partsOfEntries (entries : List (String × Expr)) : List Expr :=
  match entries with
  | [] => []
  | (_, e) :: entries => e.parts ++ partsOfEntries entries

end

mutual

/-- Whether a member of the current value is asked for. -/
def opens : Expr → Bool
  | .field _ => true
  | .sub l _ | .pipe l _ | .project l _ | .filter l _ _ | .projectValues l _ | .flatten l | .not l => l.opens
  | .compare _ l r | .and l r | .or l r => l.opens || r.opens
  | .list es | .call _ es => opensAny es
  | _ => false

def opensAny : List Expr → Bool
  | [] => false
  | e :: es => e.opens || opensAny es

end

mutual

/-- The greatest number of queries that are one inside the other. -/
def nesting (e : Expr) : Nat :=
  1 + match e with
  | .sub l r | .project l r | .projectValues l r | .compare _ l r | .and l r | .or l r | .pipe l r =>
    max l.nesting r.nesting
  | .filter l r c => max (max l.nesting r.nesting) c.nesting
  | .index l _ | .slice l _ _ _ | .flatten l | .not l | .reference l => l.nesting
  | .list es | .call _ es => nestingOf es
  | .hash entries => nestingOfEntries entries
  | .field _ | .literal _ | .current => 0

def nestingOf (es : List Expr) : Nat :=
  match es with
  | [] => 0
  | e :: es => max e.nesting (nestingOf es)

def nestingOfEntries (entries : List (String × Expr)) : Nat :=
  match entries with
  | [] => 0
  | (_, e) :: entries => max e.nesting (nestingOfEntries entries)

end

mutual

/-- The greatest number of queries that are one inside the other, where the current value on the right of a projection
does not count: the projection applies nothing then. -/
def height (e : Expr) : Nat :=
  1 + match e with
  | .sub l r | .compare _ l r | .and l r | .or l r | .pipe l r => max l.height r.height
  | .project l r | .projectValues l r => max l.height (if r.isCurrent then 0 else r.height)
  | .filter l r c => max (max l.height (if r.isCurrent then 0 else r.height)) c.height
  | .index l _ | .slice l _ _ _ | .flatten l | .not l | .reference l => l.height
  | .list es | .call _ es => heightOf es
  | .hash entries => heightOfEntries entries
  | .field _ | .literal _ | .current => 0

def heightOf (es : List Expr) : Nat :=
  match es with
  | [] => 0
  | e :: es => max e.height (heightOf es)

def heightOfEntries (entries : List (String × Expr)) : Nat :=
  match entries with
  | [] => 0
  | (_, e) :: entries => max e.height (heightOfEntries entries)

end

/-- Only the inner projection applies nothing. -/
example : (Expr.project (.field "items") .current).height = 2 ∧
    (Expr.project (.field "items") (.project (.field "tags") .current)).height = 3 := by decide

mutual

theorem height_le_nesting : (e : Expr) → e.height ≤ e.nesting
  | .sub l r | .compare _ l r | .and l r | .or l r | .pipe l r => by
    have hl := height_le_nesting l
    have hr := height_le_nesting r
    rw [height, nesting]
    omega
  | .project l r | .projectValues l r => by
    have hl := height_le_nesting l
    have hr := height_le_nesting r
    rw [height, nesting]
    split <;> omega
  | .filter l r c => by
    have hl := height_le_nesting l
    have hr := height_le_nesting r
    have hc := height_le_nesting c
    rw [height, nesting]
    split <;> omega
  | .index l _ | .slice l _ _ _ | .flatten l | .not l | .reference l => by
    have hl := height_le_nesting l
    rw [height, nesting]
    omega
  | .list es | .call _ es => by
    have hes := heightOf_le_nestingOf es
    rw [height, nesting]
    omega
  | .hash entries => by
    have hentries := heightOfEntries_le_nestingOfEntries entries
    rw [height, nesting]
    omega
  | .field _ | .literal _ | .current => Nat.le_refl _

theorem heightOf_le_nestingOf : (es : List Expr) → heightOf es ≤ nestingOf es
  | [] => Nat.le_refl _
  | e :: es => by
    have he := height_le_nesting e
    have hes := heightOf_le_nestingOf es
    rw [heightOf, nestingOf]
    omega

theorem heightOfEntries_le_nestingOfEntries :
    (entries : List (String × Expr)) → heightOfEntries entries ≤ nestingOfEntries entries
  | [] => Nat.le_refl _
  | (_, e) :: entries => by
    have he := height_le_nesting e
    have hentries := heightOfEntries_le_nestingOfEntries entries
    rw [heightOfEntries, nestingOfEntries]
    omega

end

mutual

/-- The names of the functions that are called, in the order in which the calls are written. -/
def called (e : Expr) : List String :=
  match e with
  | .sub l r | .project l r | .projectValues l r | .compare _ l r | .and l r | .or l r | .pipe l r => l.called ++ r.called
  | .filter l r c => l.called ++ c.called ++ r.called
  | .index l _ | .slice l _ _ _ | .flatten l | .not l | .reference l => l.called
  | .list es => calledIn es
  | .call name es => name :: calledIn es
  | .hash entries => calledInEntries entries
  | .field _ | .literal _ | .current => []

def calledIn (es : List Expr) : List String :=
  match es with
  | [] => []
  | e :: es => e.called ++ calledIn es

def calledInEntries (entries : List (String × Expr)) : List String :=
  match entries with
  | [] => []
  | (_, e) :: entries => e.called ++ calledInEntries entries

end

mutual

/-- What is called is the function of a call inside the query. -/
theorem mem_called {name : String} : (e : Expr) → (name ∈ e.called ↔ ∃ args, .call name args ∈ e.parts)
  | .field _ | .literal _ | .current => by simp [called, parts]
  | .sub l r | .project l r | .projectValues l r | .compare _ l r | .and l r | .or l r | .pipe l r => by
    simp [called, parts, mem_called l, mem_called r, exists_or]
  | .filter l r c => by
    simp [called, parts, mem_called l, mem_called r, mem_called c, exists_or, or_comm]
  | .index l _ | .slice l _ _ _ | .flatten l | .not l | .reference l => by simp [called, parts, mem_called l]
  | .list es => by simp [called, parts, mem_calledIn es]
  | .call f es => by simp [called, parts, mem_calledIn es, exists_or]
  | .hash entries => by simp [called, parts, mem_calledInEntries entries]

theorem mem_calledIn {name : String} :
    (es : List Expr) → (name ∈ calledIn es ↔ ∃ args, .call name args ∈ partsOf es)
  | [] => by simp [calledIn, partsOf]
  | e :: es => by simp [calledIn, partsOf, mem_called e, mem_calledIn es, exists_or]

theorem mem_calledInEntries {name : String} : (entries : List (String × Expr)) →
    (name ∈ calledInEntries entries ↔ ∃ args, .call name args ∈ partsOfEntries entries)
  | [] => by simp [calledInEntries, partsOfEntries]
  | (_, e) :: entries => by
    simp [calledInEntries, partsOfEntries, mem_called e, mem_calledInEntries entries, exists_or]

end

/-- The list that the query itself searches with `contains`. -/
def searched : Expr → Option Expr
  | .call "contains" (e :: _) => some e
  | _ => none

/-- The list of which the query itself asks the elements for members. -/
def entered : Expr → Option Expr
  | .project l r => if r.opens then some l else none
  | .filter l r c => if r.opens || c.opens then some l else none
  | _ => none

end Signpost.Query.Expr
