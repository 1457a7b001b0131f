import Signpost.Proofs.Json.Decoding
import Signpost.Schema.Document

/-!
# Schemas written and read

The ids of a schema that is read are distinct, and so are the names of the members of each shape
(`Schema.ensures_decoder`).  Such a schema comes back from what is written of it (`Schema.reads_decoder`).
-/

namespace Signpost

open Json

variable {level : Nat}

/-! ### Documents as values -/

/-- The document of a member. -/
def Member.toValue (m : Member) : Value := .object [("target", .string m.target.text), ("required", .bool m.required)]

namespace Shape

/-- The entries of a shape's document behind the one for its kind. -/
def content : Shape → List (String × Value)
  | record ms | union ms => [("members", .object (ms.map fun e => (e.1, e.2.toValue)))]
  | map id => [("value", .string id.text)]
  | list id | set id => [("member", .string id.text)]
  | enum values => [("values", .ofStrings values)]
  | _ => []

/-- The document of a shape. -/
def toValue (s : Shape) : Value := .object (("type", .string s.kind) :: s.content)

end Shape

/-- The document of a schema. -/
def Schema.toValue (s : Schema) : Value := .object [("shapes", .object (s.shapes.map fun e => (e.1.text, e.2.toValue)))]

namespace Json

theorem write_string (s : String) : (Value.string s).write = Value.quote s := rfl

theorem write_object (es : List (String × Value)) :
    (Value.object es).write = writeObject (es.map fun e => (e.1, e.2.write)) := by
  rw [Value.write, Value.writeEntries_eq_map, writeObject, List.map_map]
  rfl

theorem write_array (vs : List Value) : (Value.array vs).write = writeList (vs.map Value.write) := by
  rw [Value.write, Value.writeItems_eq_map, writeList]

theorem write_ofStrings (ss : List String) : (Value.ofStrings ss).write = writeList (ss.map Value.quote) := by
  rw [Value.ofStrings, write_array, List.map_map]
  rfl

end Json

theorem Member.write_eq (m : Member) : m.write = m.toValue.write := by
  rw [toValue, write_object]
  rfl

theorem Shape.write_eq (s : Shape) : s.write = s.toValue.write := by
  rw [toValue, write_object]
  cases s with
  | record ms | union ms =>
    simp [write, content, write_object, write_string, Member.write_eq, Function.comp_def]
  | enum values => simp [write, content, write_string, write_ofStrings]
  | _ => rfl

theorem Schema.write_eq (s : Schema) : s.write = s.toValue.write := by
  simp [write, toValue, write_object, Shape.write_eq, Function.comp_def]

/-! ### What is read -/

namespace Shape

/-- No two members have one name. -/
def Keyed : Shape → Prop
  | record ms | union ms => ms.keys.Nodup
  | _ => True

theorem ensures_membersDecoder : membersDecoder.Ensures level fun ms => ms.keys.Nodup := by
  refine (Record.ensures_single Decoder.ensures_true.entries).andThen fun _ h => ?_
  exact (getD_of_forall (a := []) h ⟨List.nodup_nil, List.forall_mem_nil _⟩).1

theorem ensures_kinds : ∀ k ∈ kinds, k.2.Ensures level Keyed := by
  have hmap {α : Type} (d : Decoder α) {f : α → Shape} (hf : ∀ a, (f a).Keyed) :
      Decoder.Ensures (fun src o => (d src o).map f) level Keyed :=
    Decoder.ensures_true.map fun a _ => hf a
  have hbare {s : Shape} (hs : s.Keyed) : (bareDecoder s).Ensures level Keyed := by
    constructor
    intro src o s' _ h
    unfold bareDecoder at h
    split at h
    · cases h
    · cases h
      exact hs
  simp only [kinds, bare, List.forall_mem_cons, List.not_mem_nil, false_imp_iff, implies_true, and_true]
  exact ⟨ensures_membersDecoder.map fun _ h => h, ensures_membersDecoder.map fun _ h => h, hmap _ fun _ => trivial,
    hmap _ fun _ => trivial, hmap _ fun _ => trivial, hbare trivial, hbare trivial, hmap _ fun _ => trivial,
    hbare trivial, hbare trivial, hbare trivial, hbare trivial, hbare trivial, hbare trivial, hbare trivial,
    hbare trivial, hbare trivial, hbare trivial, hbare trivial⟩

end Shape

/-- No two shapes have one id, and no two members of a shape have one name. -/
structure Schema.Keyed (s : Schema) : Prop where
  shapes : (s.shapes.map (·.1.text)).Nodup
  members : ∀ e ∈ s.shapes, e.2.Keyed

theorem Schema.ensures_decoder : Schema.decoder.Ensures level Schema.Keyed := by
  have hshape : Shape.decoder.Ensures (level + 1 + 1) Shape.Keyed := .tagged Shape.ensures_kinds
  refine (Record.ensures_single hshape.entries).andThen fun _ h => ?_
  obtain ⟨hkeys, hmembers⟩ := getD_of_forall (a := []) h ⟨List.nodup_nil, List.forall_mem_nil _⟩
  refine ⟨?_, List.forall_mem_map.2 hmembers⟩
  rw [List.map_map]
  exact hkeys

/-! ### What is written -/

theorem Member.reads_decoder (hl : level < Outline.maxLevel) (m : Member) :
    Shape.memberDecoder.Reads level m.toValue m := by
  have hid : Shape.shapeId.Reads (level + 1) (.string m.target.text) m.target := Decoder.reads_string.map _
  have hfills : Record.Fills Shape.memberFields (level + 1) ⟨none, none⟩
      [("target", .string m.target.text), ("required", .bool m.required)] ⟨some m.target, some m.required⟩ :=
    .cons rfl rfl (Record.read_of hid _) (.cons rfl rfl (Record.read_of Decoder.reads_bool _) .nil)
  exact (Record.reads_decoder hl hfills rfl).andThen
    fun (m : Shape.MemberDraft) => Member.mk (m.target.getD default) (m.required.getD false)

namespace Shape

theorem fits_content (hl : level + 2 < Outline.maxLevel) (s : Shape) : ∀ e ∈ s.content, e.2.Fits (level + 1) := by
  have hmembers (ms : Table String Member) :
      (Value.object (ms.map fun e => (e.1, e.2.toValue))).Fits (level + 1) := by
    refine .object (by omega) (List.forall_mem_map.2 fun e _ => .object hl ?_)
    exact List.forall_mem_cons.2 ⟨.string, List.forall_mem_singleton.2 .bool⟩
  cases s with
  | record ms | union ms => exact List.forall_mem_singleton.2 (hmembers ms)
  | map id | list id | set id => exact List.forall_mem_singleton.2 .string
  | enum values => exact List.forall_mem_singleton.2 (Value.fits_ofStrings (by omega) values)
  | _ => exact List.forall_mem_nil _

private theorem reads_membersDecoder (hl : level + 2 < Outline.maxLevel) {ms : Table String Member}
    (hkeys : ms.keys.Nodup) :
    membersDecoder.Reads level (.object [("members", .object (ms.map fun e => (e.1, e.2.toValue)))]) ms :=
  have hms := Decoder.reads_entries (show level + 1 < Outline.maxLevel by omega) hkeys fun e _ => e.2.reads_decoder hl
  (Record.reads_single (by omega) hms).andThen (·.getD [])

/-- The kind of a shape has a decoder that reads the rest of its document. -/
theorem exists_kind (hl : level + 2 < Outline.maxLevel) {s : Shape} (hs : s.Keyed) :
    ∃ d, kinds.find? (·.1 = s.kind) = some (s.kind, d) ∧ d.Reads level (.object s.content) s := by
  have htarget (field type : String) (id : ShapeId) :
      (targetDecoder field type).Reads level (.object [(field, .string id.text)]) id :=
    (Record.reads_single (by omega) (Decoder.reads_string.map ShapeId.mk)).andThen (·.getD default)
  cases s with
  | record ms => exact ⟨_, rfl, (reads_membersDecoder hl hs).map _⟩
  | union ms => exact ⟨_, rfl, (reads_membersDecoder hl hs).map _⟩
  | map id => exact ⟨_, rfl, (htarget _ _ id).map _⟩
  | list id | set id => exact ⟨_, rfl, (htarget _ _ id).map _⟩
  | enum values =>
    have hvalues := Decoder.reads_strings (show level + 1 < Outline.maxLevel by omega) values
    exact ⟨_, rfl, ((Record.reads_single (by omega) hvalues).andThen (·.getD [])).map _⟩
  | _ => exact ⟨_, rfl, fun _ => rfl⟩

theorem reads_decoder (hl : level + 2 < Outline.maxLevel) {s : Shape} (hs : s.Keyed) :
    decoder.Reads level s.toValue s := by
  obtain ⟨d, hfind, hd⟩ := exists_kind hl hs
  refine Decoder.reads_tagged (by omega) hfind ?_ (fits_content hl s) hd
  cases s <;> simp [content]

end Shape

namespace Schema

theorem fits_toValue (s : Schema) : s.toValue.Fits 1 := by
  refine .object (by decide) (List.forall_mem_singleton.2 (.object (by decide) (List.forall_mem_map.2 fun e _ => ?_)))
  exact .object (by decide) (List.forall_mem_cons.2 ⟨.string, e.2.fits_content (by decide)⟩)

theorem reads_decoder {s : Schema} (hs : s.Keyed) : decoder.Reads 1 s.toValue s := by
  -- the text of an id is its key in the document
  let shapes : Table String Shape := s.shapes.map fun e => (e.1.text, e.2)
  have hkeys : shapes.keys.Nodup := by
    rw [Table.keys, List.map_map]
    exact hs.shapes
  have hshapes : (Decoder.entries Shape.decoder).Reads 2 (.object (shapes.map fun e => (e.1, e.2.toValue))) shapes :=
    Decoder.reads_entries (by decide) hkeys
      (List.forall_mem_map.2 fun e he => Shape.reads_decoder (by decide) (hs.members e he))
  have hback : (shapes.map fun e => (ShapeId.mk e.1, e.2)) = s.shapes := by
    rw [List.map_map]
    exact List.map_id _
  let build (shapes? : Option (Table String Shape)) : Schema := ⟨(shapes?.getD []).map fun e => (⟨e.1⟩, e.2)⟩
  have hschema : decoder.Reads 1 (.object [("shapes", .object (shapes.map fun e => (e.1, e.2.toValue)))])
      ⟨shapes.map fun e => (⟨e.1⟩, e.2)⟩ := (Record.reads_single (by decide) hshapes).andThen build
  rwa [hback, List.map_map] at hschema

/-- A schema that is read comes back from what is written of it. -/
theorem ofText_write {text : String} {s : Schema} (h : ofText text = .ok s) : ofText s.write = .ok s := by
  unfold ofText at h
  split at h
  · cases h
  · rename_i s' hs'
    split at h
    · cases h
    · rename_i hdangling
      cases h
      have hread : Json.decode decoder s.write = .ok s := by
        rw [write_eq]
        exact (reads_decoder (ensures_decoder.decode hs')).decode s.fits_toValue
      rw [ofText, hread]
      simp only [hdangling]

end Schema

end Signpost
