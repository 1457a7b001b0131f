import Signpost.Endpoint.Diagnostics
import Signpost.Endpoint.Substring
import Signpost.Proofs.Except
import Signpost.Proofs.Offsets

/-!
# Parts that are cut out

A part of a text of ASCII lies between two places, and to count them from the end is to cut the reversed text
(`slice_reverse`).  There is no part exactly if a fault holds (`cut_ok_iff`, `holds_of_cut`), which is then reported
(`captured_cut`).
-/

namespace Signpost.Substring

/-- The text from its end to its start. -/
def reversed (s : String) : String := String.ofList s.toList.reverse

/-- Whether a text is of ASCII. -/
def IsAscii (s : String) : Prop := ∀ c ∈ s.toList, c.toNat < 0x80

/-- What a fault says of a text and two places. -/
def Fault.Holds (s : String) (start stop : Nat) : Fault → Prop
  | order => stop ≤ start
  | beyondAscii => ¬ IsAscii s
  | length => s.utf8ByteSize < stop

/-- The part of a text between two places, and the diagnostics behind the cut. -/
def captured (d : Diagnostics) (s : String) (start stop : Nat) (reverse : Bool) : Option String × Diagnostics :=
  d.capture Fault.message (cut s start stop reverse)

variable {s t : String} {start stop : Nat} {reverse : Bool} {cs : List Char}

/-! ### Slices -/

theorem append_slice_append (hle : start ≤ stop) : cs.take start ++ slice start stop cs ++ cs.drop stop = cs := by
  have htake : (cs.take stop).take start = cs.take start := by rw [List.take_take, Nat.min_eq_left hle]
  rw [slice, ← htake, List.take_append_drop, List.take_append_drop]

/-- To count places from the end is to cut the reversed list. -/
theorem slice_reverse (hstop : stop ≤ cs.length) :
    slice (cs.length - stop) (cs.length - start) cs = (slice start stop cs.reverse).reverse := by
  have hlength : cs.length - start - (cs.length - stop) = cs.length - (cs.length - stop) - start := by omega
  rw [slice, slice, List.take_reverse, List.drop_reverse, List.reverse_reverse, List.drop_take, List.length_drop,
    hlength]

/-! ### Texts -/

theorem toList_reversed (s : String) : (reversed s).toList = s.toList.reverse := String.toList_ofList

theorem isAscii_reversed : IsAscii (reversed s) ↔ IsAscii s := by simp [IsAscii, toList_reversed]

theorem utf8ByteSize_reversed (s : String) : (reversed s).utf8ByteSize = s.utf8ByteSize := by
  rw [← byteLength_toList, ← byteLength_toList, toList_reversed, byteLength_reverse]

theorem utf8ByteSize_of_isAscii (h : IsAscii s) : s.utf8ByteSize = s.toList.length := by
  rw [← byteLength_toList, byteLength_of_ascii h]

/-! ### Cutting -/

/-- A part is cut out exactly if its places lie in a text of ASCII. -/
theorem cut_ok_iff : cut s start stop false = .ok t ↔
    (IsAscii s ∧ start < stop ∧ stop ≤ s.utf8ByteSize) ∧ t = String.ofList (slice start stop s.toList) := by
  have hascii : (!s.toList.all fun c => decide (c.toNat < 0x80)) = true ↔ ¬ IsAscii s := by simp [IsAscii]
  rw [cut]
  by_cases horder : stop ≤ start
  · rw [if_pos horder]
    exact ⟨fun h => (nomatch h), fun h => absurd h.1.2.1 (Nat.not_lt.2 horder)⟩
  rw [if_neg horder]
  by_cases ha : IsAscii s
  · have hsize := utf8ByteSize_of_isAscii ha
    rw [if_neg (mt hascii.1 (not_not_intro ha))]
    by_cases hlength : s.toList.length < stop
    · rw [if_pos hlength]
      exact ⟨fun h => (nomatch h), fun h => absurd h.1.2.2 (by omega)⟩
    · have hplaces : IsAscii s ∧ start < stop ∧ stop ≤ s.utf8ByteSize := ⟨ha, by omega, by omega⟩
      rw [if_neg hlength]
      simp [hplaces, eq_comm]
  · rw [if_pos (hascii.2 ha)]
    exact ⟨fun h => (nomatch h), fun h => absurd h.1.1 ha⟩

/-- To cut from the end is to cut the reversed text from its start, with the same fault if there is one. -/
theorem cut_reversed (s : String) (start stop : Nat) :
    cut s start stop true = (cut (reversed s) start stop false).map reversed := by
  rw [cut, cut, toList_reversed, List.all_reverse, List.length_reverse]
  split
  · rfl
  split
  · rfl
  split
  · rfl
  · rename_i hlength
    rw [if_pos rfl, if_neg Bool.false_ne_true, slice_reverse (Nat.not_lt.1 hlength), Except.map, reversed,
      String.toList_ofList]

/-- The fault that is found holds. -/
theorem holds_of_cut {f : Fault} (h : cut s start stop reverse = .error f) : f.Holds s start stop := by
  rw [cut] at h
  split at h
  · cases h
    assumption
  split at h
  · cases h
    rename_i hascii
    simpa [Fault.Holds, IsAscii] using hascii
  rename_i hascii
  split at h
  · cases h
    rename_i hlength
    have ha : IsAscii s := by simpa [IsAscii] using hascii
    rwa [Fault.Holds, utf8ByteSize_of_isAscii ha]
  · split at h <;> cases h

/-- A part of a text lies behind as many bytes as its first place says. -/
theorem exists_of_cut (h : cut s start stop false = .ok t) :
    ∃ before after, s = before ++ t ++ after ∧ before.utf8ByteSize = start ∧ t.utf8ByteSize = stop - start := by
  obtain ⟨⟨ha, horder, hstop⟩, rfl⟩ := cut_ok_iff.1 h
  rw [utf8ByteSize_of_isAscii ha] at hstop
  refine ⟨String.ofList (s.toList.take start), String.ofList (s.toList.drop stop), ?_, ?_, ?_⟩
  · rw [← String.ofList_append, ← String.ofList_append, append_slice_append (Nat.le_of_lt horder), String.ofList_toList]
  · rw [← byteLength_toList, String.toList_ofList, byteLength_of_ascii fun c hc => ha c (List.mem_of_mem_take hc),
      List.length_take, Nat.min_eq_left (by omega)]
  · rw [← byteLength_toList, String.toList_ofList, slice,
      byteLength_of_ascii fun c hc => ha c (List.mem_of_mem_take (List.mem_of_mem_drop hc)), List.length_drop,
      List.length_take, Nat.min_eq_left hstop]

/-- A part is cut out in either direction exactly if its places lie in a text of ASCII, and it has as many bytes as lie
between them. -/
theorem exists_cut_iff :
    (∃ t, cut s start stop reverse = .ok t) ↔ IsAscii s ∧ start < stop ∧ stop ≤ s.utf8ByteSize := by
  have hforward : ∀ s, (∃ t, cut s start stop false = .ok t) ↔ IsAscii s ∧ start < stop ∧ stop ≤ s.utf8ByteSize :=
    fun s => ⟨fun ⟨t, ht⟩ => (cut_ok_iff.1 ht).1, fun h => ⟨_, cut_ok_iff.2 ⟨h, rfl⟩⟩⟩
  cases reverse with
  | false => exact hforward s
  | true =>
    rw [cut_reversed, ← isAscii_reversed, ← utf8ByteSize_reversed, ← hforward]
    cases cut (reversed s) start stop false <;> simp [Except.map]

theorem utf8ByteSize_of_cut (h : cut s start stop reverse = .ok t) : t.utf8ByteSize = stop - start := by
  cases reverse with
  | false =>
    obtain ⟨-, -, -, -, ht⟩ := exists_of_cut h
    exact ht
  | true =>
    rw [cut_reversed] at h
    obtain ⟨t', ht', rfl⟩ := exists_of_map_ok h
    obtain ⟨-, -, -, -, ht⟩ := exists_of_cut ht'
    rw [utf8ByteSize_reversed, ht]

/-! ### Reports -/

theorem captured_of_ok (d : Diagnostics) (h : cut s start stop reverse = .ok t) :
    captured d s start stop reverse = (some t, d) := by
  rw [captured, h, Diagnostics.capture]

theorem captured_of_error {f : Fault} (d : Diagnostics) (h : cut s start stop reverse = .error f) :
    captured d s start stop reverse = (none, ⟨some f.message⟩) := by
  rw [captured, h, Diagnostics.capture, Diagnostics.report]

theorem isSome_captured_iff (d : Diagnostics) :
    (captured d s start stop reverse).1.isSome = true ↔ ∃ t, cut s start stop reverse = .ok t := by
  cases hcut : cut s start stop reverse with
  | error f => simp [captured_of_error d hcut]
  | ok t => simp [captured_of_ok d hcut]

theorem cut_of_captured {d : Diagnostics} (h : (captured d s start stop reverse).1 = some t) :
    cut s start stop reverse = .ok t := by
  cases hcut : cut s start stop reverse with
  | error f =>
    rw [captured_of_error d hcut] at h
    cases h
  | ok t' =>
    rw [captured_of_ok d hcut] at h
    cases h
    rfl

/-- There is a part exactly if the text is of ASCII and the places lie in it, the first before the second.  The part has
as many bytes as lie between the places.  Counted from the start, it is what the text has there, and counted from the
end, it is what the reversed text has there, reversed.  The diagnostics stay as they are if there is a part, and if not,
a fault that holds is reported in place of whatever was reported before. -/
theorem captured_cut (d : Diagnostics) (s : String) (start stop : Nat) (reverse : Bool) :
    ((captured d s start stop reverse).1.isSome = true ↔ IsAscii s ∧ start < stop ∧ stop ≤ s.utf8ByteSize) ∧
    (∀ t, (captured d s start stop reverse).1 = some t → t.utf8ByteSize = stop - start) ∧
    (∀ t, (captured d s start stop false).1 = some t →
      ∃ before after, s = before ++ t ++ after ∧ before.utf8ByteSize = start) ∧
    (captured d s start stop true).1 = (captured d (reversed s) start stop false).1.map reversed ∧
    ((captured d s start stop reverse).1.isSome = true → (captured d s start stop reverse).2 = d) ∧
    ((captured d s start stop reverse).1 = none →
      ∃ fault : Fault, fault.Holds s start stop ∧ (captured d s start stop reverse).2 = ⟨some fault.message⟩) := by
  refine ⟨(isSome_captured_iff d).trans exists_cut_iff, fun t h => utf8ByteSize_of_cut (cut_of_captured h),
    fun t h => ?_, ?_, ?_⟩
  · obtain ⟨before, after, hs, hbefore, -⟩ := exists_of_cut (cut_of_captured h)
    exact ⟨before, after, hs, hbefore⟩
  · have hreversed := cut_reversed s start stop
    cases hcut : cut (reversed s) start stop false with
    | error f =>
      rw [hcut] at hreversed
      rw [captured_of_error d hcut, captured_of_error d hreversed, Option.map_none]
    | ok t =>
      rw [hcut] at hreversed
      rw [captured_of_ok d hcut, captured_of_ok d hreversed, Option.map_some]
  · cases hcut : cut s start stop reverse with
    | error f =>
      rw [captured_of_error d hcut]
      exact ⟨fun h => (nomatch h), fun _ => ⟨f, holds_of_cut hcut, rfl⟩⟩
    | ok t =>
      rw [captured_of_ok d hcut]
      exact ⟨fun _ => rfl, fun h => (nomatch h)⟩

theorem captured_cut_to_end :
    (∃ before after, "abcdefg" = before ++ "bcdefg" ++ after ∧ before.utf8ByteSize = 1) ∧
      (captured ⟨some "unknown region"⟩ "abcdefg" 0 7 true).2 = ⟨some "unknown region"⟩ ∧
      ∃ fault : Fault, fault.Holds "abcdé" 0 2 ∧
        (captured ⟨some "unknown region"⟩ "abcdé" 0 2 true).2 = ⟨some fault.message⟩ := by
  obtain ⟨-, -, hforward, -⟩ := captured_cut .empty "abcdefg" 1 7 false
  obtain ⟨-, -, -, -, hkept, -⟩ := captured_cut ⟨some "unknown region"⟩ "abcdefg" 0 7 true
  obtain ⟨-, -, -, -, -, hreported⟩ := captured_cut ⟨some "unknown region"⟩ "abcdé" 0 2 true
  exact ⟨hforward "bcdefg" rfl, hkept rfl, hreported rfl⟩

end Signpost.Substring
