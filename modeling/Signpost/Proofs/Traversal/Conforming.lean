import Signpost.Traversal.Run

/-!
# Values of a schema

The values that a data model has for the shapes of a schema (`Conforms`), and what is reached from such a value by
members one after the other (`Datum.reach`): lists on the way are gone through in order, and what is absent is left out.
A structure has a field for each of its members that a field can be named after, and only members are options.
-/

namespace Signpost

/-! ### Parts of a schema -/

/-- Whole numbers. -/
def Shape.isWhole : Shape → Bool
  | byte | short | integer | long => true
  | _ => false

/-- Shapes that queries do not support. -/
def Shape.isForeign : Shape → Bool
  | union _ | bigInteger | bigDecimal | blob | timestamp | document => true
  | _ => false

/-- A member of a structure. -/
def Schema.member? (schema : Schema) (id : ShapeId) (name : String) : Option Member :=
  match schema.get? id with
  | some (.record members) => members.get? name
  | _ => none

/-- The shape of the elements of a list. -/
def Schema.items? (schema : Schema) (id : ShapeId) : Option ShapeId :=
  match schema.get? id with
  | some (.list e) | some (.set e) => some e
  | _ => none

end Signpost

namespace Signpost.Traversal

open Code (Ident)

/-! ### Ways through a value -/

namespace Datum

/-- The value, or what is inside it if it is an option. -/
def held? : Datum → Option Datum
  | absent => none
  | present d => some d
  | d => some d

/-- The field of a structure for a member. -/
def field? (name : String) : Datum → Option Datum
  | record fields => (Ident.ofName? name).bind fun i => fields.lookup i.name
  | _ => none

/-- A member of a structure, unless it is absent. -/
def member? (name : String) (d : Datum) : Option Datum := (d.field? name).bind held?

/-- The elements of a list. -/
def items : Datum → List Datum
  | list ds => ds
  | _ => []

/-- The elements of a list, or the value itself. -/
def spread : Datum → List Datum
  | list ds => ds
  | d => [d]

/-- What is reached from a list by members one after the other, each of the elements of the list that the one before
gives.  Lists that the last one gives are merged if asked for. -/
def reach (merged : Bool) : List String → Datum → List Datum
  | [], d => if merged then d.spread else [d]
  | name :: names, d => (d.items.filterMap (member? name)).flatMap (reach merged names)

end Datum

/-! ### Conforming values -/

mutual

/-- The values of the shape under an id. -/
inductive Conforms (schema : Schema) : ShapeId → Datum → Prop
  | mk {id : ShapeId} {shape : Shape} {d : Datum} (hid : schema.get? id = some shape)
    (hd : ShapeConforms schema shape d) : Conforms schema id d

/-- The values of a shape. -/
inductive ShapeConforms (schema : Schema) : Shape → Datum → Prop
  | record {members : Table String Member} {fields : List (String × Datum)}
    (hfields : ∀ name m i, members.get? name = some m → Ident.ofName? name = some i →
      ∃ v, fields.lookup i.name = some v)
    (hmembers : ∀ name m i v, members.get? name = some m → Ident.ofName? name = some i →
      fields.lookup i.name = some v → MemberConforms schema m v) :
    ShapeConforms schema (.record members) (.record fields)
  | list {e : ShapeId} {ds : List Datum} (h : ∀ d ∈ ds, Conforms schema e d) : ShapeConforms schema (.list e) (.list ds)
  | set {e : ShapeId} {ds : List Datum} (h : ∀ d ∈ ds, Conforms schema e d) : ShapeConforms schema (.set e) (.list ds)
  | map {e : ShapeId} {entries : List (String × Datum)} (h : ∀ entry ∈ entries, Conforms schema e entry.2) :
    ShapeConforms schema (.map e) (.map entries)
  | bool (b : Bool) : ShapeConforms schema .boolean (.bool b)
  | text (s : String) : ShapeConforms schema .string (.text s)
  | enum (values : List String) (s : String) : ShapeConforms schema (.enum values) (.text s)
  | int {shape : Shape} (h : shape.isWhole = true) (n : Int) : ShapeConforms schema shape (.int n)
  | float (x : Binary64) : ShapeConforms schema .float (.float x)
  | double (x : Binary64) : ShapeConforms schema .double (.float x)
  | foreign {shape : Shape} {d : Datum} (h : shape.isForeign = true) (hd : d.held? = some d) :
    ShapeConforms schema shape d

/-- The values of a member, which are options unless it is required. -/
inductive MemberConforms (schema : Schema) : Member → Datum → Prop
  | required {m : Member} {d : Datum} (h : m.required = true) (hd : Conforms schema m.target d) :
    MemberConforms schema m d
  | absent {m : Member} (h : m.required = false) : MemberConforms schema m .absent
  | present {m : Member} {d : Datum} (h : m.required = false) (hd : Conforms schema m.target d) :
    MemberConforms schema m (.present d)

end

variable {schema : Schema} {id e : ShapeId} {shape : Shape} {d v : Datum} {m : Member} {name : String} {i : Ident}

/-- Only structures have members. -/
theorem exists_of_member? (h : schema.member? id name = some m) :
    ∃ members, schema.get? id = some (.record members) ∧ members.get? name = some m := by
  rw [Schema.member?] at h
  split at h
  · exact ⟨_, ‹_›, h⟩
  · cases h

theorem list_or_set_of_items? (h : schema.items? id = some e) :
    schema.get? id = some (.list e) ∨ schema.get? id = some (.set e) := by
  rw [Schema.items?] at h
  split at h
  · cases h
    exact .inl ‹_›
  · cases h
    exact .inr ‹_›
  · cases h

namespace Conforms

/-- A structure conforms if its fields do, one by one. -/
theorem ofFields {members : Table String Member} {fields : List (String × Datum)}
    (hid : schema.get? id = some (.record members))
    (h : ∀ e ∈ members, ∃ i v, Ident.ofName? e.1 = some i ∧ fields.lookup i.name = some v ∧
      MemberConforms schema e.2 v) : Conforms schema id (.record fields) := by
  refine ⟨hid, .record (fun name m i hm hi => ?_) fun name m i v hm hi hv => ?_⟩
  · obtain ⟨i', v, hi', hv, -⟩ := h _ (Table.mem_of_get? hm)
    rw [hi] at hi'
    cases hi'
    exact ⟨v, hv⟩
  · obtain ⟨i', v', hi', hv', hconf⟩ := h _ (Table.mem_of_get? hm)
    rw [hi] at hi'
    cases hi'
    rw [hv] at hv'
    cases hv'
    exact hconf

theorem ofShape (h : Conforms schema id d) (hid : schema.get? id = some shape) : ShapeConforms schema shape d := by
  obtain ⟨hid', hd⟩ := h
  rw [hid] at hid'
  cases hid'
  exact hd

/-- Only members are options. -/
theorem held (h : Conforms schema id d) : d.held? = some d := by
  obtain ⟨-, hd⟩ := h
  cases hd with
  | foreign _ hd => exact hd
  | _ => rfl

/-- A structure has the fields of its members. -/
theorem field (h : Conforms schema id d) (hm : schema.member? id name = some m) (hi : Ident.ofName? name = some i) :
    ∃ v, fieldOf i.name d = .ok v ∧ d.field? name = some v ∧ MemberConforms schema m v := by
  obtain ⟨members, hid, hm⟩ := exists_of_member? hm
  cases h.ofShape hid with
  | record hfields hmembers =>
    obtain ⟨v, hv⟩ := hfields name m i hm hi
    refine ⟨v, ?_, ?_, hmembers name m i v hm hi hv⟩
    · rw [fieldOf, hv, orStuck]
    · rw [Datum.field?, hi, Option.bind_some, hv]
  | int hs | foreign hs => cases hs

/-- A list has elements of its shape. -/
theorem items (h : Conforms schema id d) (he : schema.items? id = some e) :
    d = .list d.items ∧ ∀ x ∈ d.items, Conforms schema e x := by
  rcases list_or_set_of_items? he with hid | hid
  · cases h.ofShape hid with
    | list hds => exact ⟨rfl, hds⟩
    | int hs | foreign hs => cases hs
  · cases h.ofShape hid with
    | set hds => exact ⟨rfl, hds⟩
    | int hs | foreign hs => cases hs

end Conforms

namespace MemberConforms

theorem held (h : MemberConforms schema m v) (hv : v.held? = some d) : Conforms schema m.target d := by
  cases h with
  | required _ hd =>
    rw [hd.held] at hv
    cases hv
    exact hd
  | absent => cases hv
  | present _ hd =>
    cases hv
    exact hd

/-- A member is missing only where it may be. -/
theorem held_eq_none_iff (h : MemberConforms schema m v) : v.held? = none ↔ m.required = false ∧ v = .absent := by
  cases h with
  | required hm hd => simp [hm, hd.held]
  | absent hm => simp [hm, Datum.held?]
  | present hm hd => simp [Datum.held?]

end MemberConforms

namespace Conforms

theorem member (h : Conforms schema id d) (hm : schema.member? id name = some m) (hi : Ident.ofName? name = some i)
    (hv : d.member? name = some v) : Conforms schema m.target v := by
  obtain ⟨w, -, hw, hconf⟩ := h.field hm hi
  rw [Datum.member?, hw] at hv
  exact hconf.held hv

theorem member?_eq_none_iff (h : Conforms schema id d) (hm : schema.member? id name = some m)
    (hi : Ident.ofName? name = some i) : d.member? name = none ↔ m.required = false ∧ d.field? name = some .absent := by
  obtain ⟨v, -, hv, hconf⟩ := h.field hm hi
  rw [Datum.member?, hv, Option.bind_some, hconf.held_eq_none_iff, Option.some.injEq]

end Conforms

end Signpost.Traversal
