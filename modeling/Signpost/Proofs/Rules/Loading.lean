import Mathlib
import Signpost.Rules.Document
import Signpost.Proofs.Except

/-!
# Loading expressions

The expression that a JSON value is loaded as says what the value says (`Expr.Mirrors`), but for one thing: of an object
that stands for a record, an entry `fn` is passed over, whatever is in it.  So nothing is lost exactly if no such object
has one (`Expr.mirrors_iff_wholly`).
-/

namespace Signpost.Rules.Expr

open Json (Value)

/-- What an object stands for. -/
inductive Role where
  | ref (name : String)
  | call (name : String)
  | record

/-- A string under `ref` makes a reference, and otherwise one under `fn` a call. -/
def role (entries : List (String × Value)) : Role :=
  match lookup? entries "ref", lookup? entries "fn" with
  | some (.string name), _ => .ref name
  | _, some (.string name) => .call name
  | _, _ => .record

/-- What the arguments of a call are loaded from. -/
def argv (entries : List (String × Value)) : Value := (lookup? entries "argv").getD (.array [])

/-- The expression says what the value says, in the same order. -/
inductive Mirrors : Value → Expr → Prop
  | string {s t} (h : Template.ofText s = .ok t) : Mirrors (.string s) (.string t)
  | bool {b} : Mirrors (.bool b) (.bool b)
  | int {i} (h : i < 0x8000000000000000) : Mirrors (.number (.int i)) (.int i)
  | array {items es} (h : List.Forall₂ Mirrors items es) : Mirrors (.array items) (.array es)
  | ref {entries name} (hrole : role entries = .ref name) : Mirrors (.object entries) (.ref name)
  | call {entries name items es} (hrole : role entries = .call name) (hargs : argv entries = .array items)
    (h : List.Forall₂ Mirrors items es) : Mirrors (.object entries) (.call name es)
  | record {entries fields} (hrole : role entries = .record) (hkeys : entries.map (·.1) = fields.map (·.1))
    (h : List.Forall₂ Mirrors (entries.map (·.2)) (fields.map (·.2))) : Mirrors (.object entries) (.record fields)

mutual

/-- The objects in a value that stand for records. -/
def records : Value → List (List (String × Value))
  | .array items => recordsIn items
  | .object entries =>
    match role entries with
    | .ref _ => []
    | .call _ => recordsInArguments entries
    | .record => entries :: recordsInFields entries
  | _ => []

def recordsIn : List Value → List (List (String × Value))
  | [] => []
  | v :: vs => records v ++ recordsIn vs

def recordsInArguments : List (String × Value) → List (List (String × Value))
  | [] => []
  | (k, v) :: es => if k = "argv" then records v else recordsInArguments es

def recordsInFields : List (String × Value) → List (List (String × Value))
  | [] => []
  | (_, v) :: es => records v ++ recordsInFields es

end

/-- Nothing of the value is passed over: no object in it that stands for a record has an entry `fn`. -/
def Wholly (v : Value) : Prop := ∀ entries ∈ records v, "fn" ∉ entries.map (·.1)

instance (v : Value) : Decidable (Wholly v) := inferInstanceAs (Decidable (∀ entries ∈ records v, _))

variable {path name key k : String} {v : Value} {items : List Value} {entries : List (String × Value)}
  {e : Expr} {es : List Expr} {fields : List (String × Expr)}

/-! ### What is loaded -/

theorem lookup?_cons : lookup? ((k, v) :: entries) key = if k = key then some v else lookup? entries key := by
  rw [lookup?, List.find?_cons]
  split <;> simp_all [lookup?]

theorem argv_cons : argv ((k, v) :: entries) = if k = "argv" then v else argv entries := by
  rw [argv, lookup?_cons]
  split <;> rfl

theorem ofItems_ok_iff :
    ofItems path items = .ok es ↔ List.Forall₂ (fun v e => ofJson path v = .ok e) items es := by
  induction items generalizing es with
  | nil => simp [ofItems, eq_comm]
  | cons v vs ih =>
    rw [List.forall₂_cons_left_iff]
    constructor
    · intro h
      obtain ⟨e, he, h⟩ := exists_of_bind_ok h
      obtain ⟨es, hes, h⟩ := exists_of_bind_ok h
      cases h
      exact ⟨e, es, he, ih.1 hes, rfl⟩
    · rintro ⟨e, es, he, hes, rfl⟩
      rw [ofItems, he, ok_bind, ih.2 hes]
      rfl

theorem ofArguments_ok_iff :
    ofArguments path name entries = .ok es ↔ ∃ items, argv entries = .array items ∧ ofItems path items = .ok es := by
  induction entries with
  | nil => simp [ofArguments, argv, lookup?, ofItems]
  | cons entry entries ih =>
    obtain ⟨k, v⟩ := entry
    rw [argv_cons]
    by_cases hk : k = "argv"
    · cases v <;> simp [ofArguments, hk]
    · cases v <;> simpa only [ofArguments, if_neg hk] using ih

/-- Without an entry `fn`, the fields are the entries. -/
theorem ofFields_ok_iff (hfn : "fn" ∉ entries.map (·.1)) : ofFields path entries = .ok fields ↔
    entries.map (·.1) = fields.map (·.1) ∧
      List.Forall₂ (fun v e => ofJson path v = .ok e) (entries.map (·.2)) (fields.map (·.2)) := by
  induction entries generalizing fields with
  | nil => cases fields <;> simp [ofFields]
  | cons entry entries ih =>
    obtain ⟨k, v⟩ := entry
    obtain ⟨hk, hfn⟩ := List.forall_mem_cons.1 fun k' hk' (hkfn : k' = "fn") => hfn (hkfn ▸ hk')
    rw [ofFields, if_neg hk]
    constructor
    · intro h
      obtain ⟨e, he, h⟩ := exists_of_bind_ok h
      obtain ⟨fs, hfs, h⟩ := exists_of_bind_ok h
      cases h
      obtain ⟨hkeys, h⟩ := (ih fun hmem => hfn _ hmem rfl).1 hfs
      exact ⟨congrArg (k :: ·) hkeys, .cons he h⟩
    · rintro ⟨hkeys, h⟩
      obtain _ | ⟨⟨k', e⟩, fs⟩ := fields
      · cases hkeys
      simp only [List.map_cons, List.cons.injEq] at hkeys
      obtain ⟨rfl, hkeys⟩ := hkeys
      obtain ⟨he, h⟩ := List.forall₂_cons.1 h
      have hrest := (ih fun hmem => hfn _ hmem rfl).2 ⟨hkeys, h⟩
      rw [he, ok_bind, hrest]
      rfl

/-- No field is named `fn`. -/
theorem not_mem_of_ofFields (h : ofFields path entries = .ok fields) : "fn" ∉ fields.map (·.1) := by
  induction entries generalizing fields with
  | nil =>
    cases h
    exact List.not_mem_nil
  | cons entry entries ih =>
    obtain ⟨k, v⟩ := entry
    rw [ofFields] at h
    split at h
    · exact ih h
    · obtain ⟨e, -, h⟩ := exists_of_bind_ok h
      obtain ⟨fs, hfs, h⟩ := exists_of_bind_ok h
      cases h
      simp only [List.map_cons, List.mem_cons, not_or]
      exact ⟨Ne.symm ‹_›, ih hfs⟩

theorem ofJson_object : ofJson path (.object entries) = match role entries with
    | .ref name => .ok (.ref name)
    | .call name => (ofArguments path name entries).map (.call name)
    | .record => (ofFields path entries).map .record := by
  rw [ofJson, role]
  split <;> simp_all

/-! ### What is read -/

theorem wholly_array_iff : Wholly (.array items) ↔ ∀ v ∈ items, Wholly v := by
  have h : recordsIn items = items.flatMap records := by
    induction items with
    | nil => rfl
    | cons v vs ih => rw [recordsIn, ih, List.flatMap_cons]
  rw [Wholly, records, h]
  exact List.forall_mem_flatMap

theorem wholly_ref (hrole : role entries = .ref name) : Wholly (.object entries) := by
  simp [Wholly, records, hrole]

theorem wholly_call_iff (hrole : role entries = .call name) : Wholly (.object entries) ↔ Wholly (argv entries) := by
  have h : recordsInArguments entries = records (argv entries) := by
    clear hrole
    induction entries with
    | nil => rfl
    | cons entry entries ih =>
      obtain ⟨k, v⟩ := entry
      rw [recordsInArguments, argv_cons]
      split_ifs
      · rfl
      · exact ih
  simp only [Wholly, records, hrole, h]

theorem wholly_record_iff (hrole : role entries = .record) :
    Wholly (.object entries) ↔ "fn" ∉ entries.map (·.1) ∧ ∀ v ∈ entries.map (·.2), Wholly v := by
  have h : recordsInFields entries = (entries.map (·.2)).flatMap records := by
    clear hrole
    induction entries with
    | nil => rfl
    | cons entry entries ih => rw [recordsInFields, ih, List.map_cons, List.flatMap_cons]
  simp only [Wholly, records, hrole, h, List.forall_mem_cons, List.forall_mem_flatMap]

/-! ### What is said -/

theorem mirrors_array_iff : Mirrors (.array items) (.array es) ↔ List.Forall₂ Mirrors items es :=
  ⟨fun (.array h) => h, .array⟩

theorem mirrors_call_iff (hrole : role entries = .call name) (hargs : argv entries = .array items) :
    Mirrors (.object entries) (.call name es) ↔ List.Forall₂ Mirrors items es := by
  refine ⟨fun h => ?_, .call hrole hargs⟩
  cases h with
  | call _ hargs' h =>
    cases hargs.symm.trans hargs'
    exact h

theorem mirrors_record_iff (hrole : role entries = .record) : Mirrors (.object entries) (.record fields) ↔
    entries.map (·.1) = fields.map (·.1) ∧ List.Forall₂ Mirrors (entries.map (·.2)) (fields.map (·.2)) := by
  refine ⟨fun h => ?_, fun ⟨hkeys, h⟩ => .record hrole hkeys h⟩
  cases h with
  | record _ hkeys h => exact ⟨hkeys, h⟩

private theorem sizeOf_lt_of_array (h : v ∈ items) : sizeOf v < sizeOf (Value.array items) := by
  have hlt := List.sizeOf_lt_of_mem h
  simp only [Value.array.sizeOf_spec]
  omega

private theorem sizeOf_lt_of_object (h : v ∈ entries.map (·.2)) : sizeOf v < sizeOf (Value.object entries) := by
  obtain ⟨⟨k, v⟩, hmem, rfl⟩ := List.mem_map.1 h
  have hlt := List.sizeOf_lt_of_mem hmem
  simp only [Value.object.sizeOf_spec, Prod.mk.sizeOf_spec] at hlt ⊢
  omega

private theorem sizeOf_lt_of_argv (hargs : argv entries = .array items) (h : v ∈ items) :
    sizeOf v < sizeOf (Value.object entries) := by
  refine Nat.lt_trans (sizeOf_lt_of_array h) (sizeOf_lt_of_object ?_)
  induction entries with
  | nil =>
    cases hargs
    cases h
  | cons entry entries ih =>
    obtain ⟨k, u⟩ := entry
    rw [argv_cons] at hargs
    split_ifs at hargs
    · exact hargs ▸ List.mem_cons_self
    · exact List.mem_cons_of_mem _ (ih hargs)

private theorem forall₂_mirrors_iff (h : List.Forall₂ (fun v e => ofJson path v = .ok e) items es)
    (ih : ∀ v ∈ items, ∀ e, ofJson path v = .ok e → (Mirrors v e ↔ Wholly v)) :
    List.Forall₂ Mirrors items es ↔ ∀ v ∈ items, Wholly v := by
  induction h with
  | nil => simp
  | cons he _ ih' =>
    obtain ⟨hv, hvs⟩ := List.forall_mem_cons.1 ih
    rw [List.forall₂_cons, List.forall_mem_cons, hv _ he, ih' hvs]

/-- What is loaded says what the value says exactly if no object that stands for a record has an entry `fn`. -/
theorem mirrors_iff_wholly (h : ofJson path v = .ok e) : Mirrors v e ↔ Wholly v := by
  induction v using (measure (sizeOf : Value → Nat)).wf.induction generalizing e with | _ v ih
  have ih : ∀ w, sizeOf w < sizeOf v → ∀ e, ofJson path w = .ok e → (Mirrors w e ↔ Wholly w) := ih
  cases v with
  | null => cases h
  | bool b =>
    cases h
    exact ⟨fun _ => List.forall_mem_nil _, fun _ => .bool⟩
  | string s =>
    rw [ofJson] at h
    split at h <;> cases h
    exact ⟨fun _ => List.forall_mem_nil _, fun _ => .string ‹_›⟩
  | number n =>
    cases n with
    | real => cases h
    | int i =>
      rw [ofJson] at h
      split at h <;> cases h
      exact ⟨fun _ => List.forall_mem_nil _, fun _ => .int ‹_›⟩
  | array items =>
    obtain ⟨es, hes, rfl⟩ := exists_of_map_ok h
    rw [mirrors_array_iff, wholly_array_iff]
    exact forall₂_mirrors_iff (ofItems_ok_iff.1 hes) fun v hv => ih v (sizeOf_lt_of_array hv)
  | object entries =>
    rw [ofJson_object] at h
    cases hrole : role entries with
    | ref name =>
      rw [hrole] at h
      cases h
      exact ⟨fun _ => wholly_ref hrole, fun _ => .ref hrole⟩
    | call name =>
      rw [hrole] at h
      obtain ⟨es, hes, rfl⟩ := exists_of_map_ok h
      obtain ⟨items, hargs, hes⟩ := ofArguments_ok_iff.1 hes
      rw [mirrors_call_iff hrole hargs, wholly_call_iff hrole, hargs, wholly_array_iff]
      exact forall₂_mirrors_iff (ofItems_ok_iff.1 hes) fun v hv => ih v (sizeOf_lt_of_argv hargs hv)
    | record =>
      rw [hrole] at h
      obtain ⟨fs, hfs, rfl⟩ := exists_of_map_ok h
      rw [mirrors_record_iff hrole, wholly_record_iff hrole]
      by_cases hfn : "fn" ∈ entries.map (·.1)
      · -- the field that it would make is missing
        exact iff_of_false (fun hm => not_mem_of_ofFields hfs (hm.1 ▸ hfn)) fun hw => hw.1 hfn
      · obtain ⟨hkeys, hvalues⟩ := (ofFields_ok_iff hfn).1 hfs
        refine and_congr (iff_of_true hkeys hfn) ?_
        exact forall₂_mirrors_iff hvalues fun v hv => ih v (sizeOf_lt_of_object hv)

theorem mirrors_iff_wholly_search :
    ofJson "p" (.object [("hits", .array [.object [("argv", .array [.bool true, .object [("ref", .string "A")]]),
        ("fn", .string "search")]]), ("max", .number (.int 3))]) =
      .ok (record [("hits", array [call "search" [bool true, ref "A"]]), ("max", int 3)]) ∧
    Mirrors (.object [("hits", .array [.object [("argv", .array [.bool true, .object [("ref", .string "A")]]),
        ("fn", .string "search")]]), ("max", .number (.int 3))])
      (record [("hits", array [call "search" [bool true, ref "A"]]), ("max", int 3)]) := by
  have h : ofJson "p" (.object [("hits", .array [.object [("argv", .array [.bool true,
      .object [("ref", .string "A")]]), ("fn", .string "search")]]), ("max", .number (.int 3))]) =
      .ok (record [("hits", array [call "search" [bool true, ref "A"]]), ("max", int 3)]) := by cbv
  exact ⟨h, (mirrors_iff_wholly h).2 (by decide)⟩

/-- An object that cannot be loaded as a whole is accepted without what is under `fn`. -/
example : ofJson "p" (.object [("fn", .null), ("max", .number (.int 3))]) = .ok (record [("max", int 3)]) := by cbv

end Signpost.Rules.Expr
