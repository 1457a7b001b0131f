import Mathlib.Data.String.Basic
import Signpost.Diagnosis

/-!
# Places in a text

A place in a text is given by the number of bytes in front of it.  The place behind some of the characters of a text
lies between two of them (`isValid_of_append`).
-/

namespace Signpost

/-- The diagnosis without its place. -/
def Diagnosis.unplaced (d : Diagnosis) : Diagnosis := { d with offset := none }

variable {us vs us' vs' : List Char}

theorem byteLength_eq (cs : List Char) : byteLength cs = String.utf8Len cs := by
  have hfold : ∀ n, cs.foldl (fun n c => n + c.utf8Size) n = n + String.utf8Len cs := by
    induction cs with
    | nil => exact fun _ => rfl
    | cons c cs ih =>
      intro n
      rw [List.foldl_cons, ih, String.utf8Len_cons, Nat.add_assoc, Nat.add_comm c.utf8Size]
  rw [byteLength, hfold, Nat.zero_add]

theorem byteLength_nil : byteLength [] = 0 := rfl

theorem byteLength_cons (c : Char) (cs : List Char) : byteLength (c :: cs) = c.utf8Size + byteLength cs := by
  rw [byteLength_eq, byteLength_eq, String.utf8Len_cons, Nat.add_comm]

theorem byteLength_append (us vs : List Char) : byteLength (us ++ vs) = byteLength us + byteLength vs := by
  rw [byteLength_eq, byteLength_eq, byteLength_eq, String.utf8Len_append]

theorem byteLength_reverse (cs : List Char) : byteLength cs.reverse = byteLength cs := by
  induction cs with
  | nil => rfl
  | cons c cs ih =>
    rw [List.reverse_cons, byteLength_append, ih, byteLength_cons, byteLength_cons, byteLength_nil]
    omega

theorem byteLength_pos (h : us ≠ []) : 0 < byteLength us := by
  rw [byteLength_eq, Nat.pos_iff_ne_zero]
  exact mt String.utf8Len_eq_zero.1 h

theorem byteLength_toList (s : String) : byteLength s.toList = s.utf8ByteSize := by
  rw [byteLength_eq, String.utf8Len_toList]

/-- A character of ASCII takes one byte. -/
theorem byteLength_of_ascii {cs : List Char} (h : ∀ c ∈ cs, c.toNat < 0x80) : byteLength cs = cs.length := by
  induction cs with
  | nil => rfl
  | cons c cs ih =>
    obtain ⟨hc, hcs⟩ := List.forall_mem_cons.1 h
    have hsize : c.utf8Size = 1 := Char.utf8Size_eq_one_iff.2 (UInt32.le_iff_toNat_le.2 (Nat.le_of_lt_succ hc))
    rw [byteLength_cons, hsize, ih hcs, List.length_cons, Nat.add_comm]

/-- Of two places in a text, the one with fewer bytes in front of it comes first. -/
theorem prefix_of_byteLength_le (h : us ++ vs = us' ++ vs') (hle : byteLength us ≤ byteLength us') : us <+: us' := by
  rcases List.prefix_or_prefix_of_prefix ⟨vs, h⟩ (List.prefix_append us' vs') with hus | ⟨ws, rfl⟩
  · exact hus
  · cases ws with
    | nil => simp
    | cons c ws =>
      have hpos := byteLength_pos (List.cons_ne_nil c ws)
      rw [byteLength_append] at hle
      omega

/-- The place behind some of the characters of a text is one of the text. -/
theorem isValid_of_append {s : String} (h : s.toList = us ++ vs) : String.Pos.Raw.IsValid s ⟨byteLength us⟩ := by
  refine String.Pos.Raw.isValid_iff_exists_append.2 ⟨String.ofList us, String.ofList vs, ?_, ?_⟩
  · rw [← String.toList_inj, h]
    simp
  · rw [String.rawEndPos_ofList, byteLength_eq]

end Signpost
