import Signpost.Proofs.Json.Escapes
import Signpost.Proofs.Json.Numerals

/-!
# JSON text that is written

What is written of a value without fractions is read in full: as the outline of the value (`Value.outline`), in which
the entries of objects stand in their order (`Value.result_write`).  A string is read back because every character in
it is one piece behind its escape (`Quoted.scan_flatMap`).
-/

namespace Signpost

theorem Hexadecimal.value?_small : ∀ n < 16, value? (small n) = some n := by
  decide

namespace Json

namespace Quoted

/-- A character that is no quote and no backslash stands for itself unless it is a control character. -/
theorem cut_cons {c : Char} (hquote : c ≠ '"') (hback : c ≠ '\\') (cs : List Char) :
    cut (c :: cs) = if c.toNat < 0x20 then ⟨[], .control, []⟩ else (cut cs).push (.char c) :=
  cut.eq_7 c cs hquote (fun _ _ _ _ _ h => absurd h hback) (fun _ h => absurd h hback) (fun _ _ h => absurd h hback)
    (fun h => absurd h hback)

/-- A character in the form it is written in is one piece, and joining pieces gives it back. -/
def IsPiece (c : Char) (cs : List Char) : Prop :=
  ∀ rest, ∃ p, cut (cs ++ rest) = (cut rest).push p ∧ ∀ stop ps, join stop (p :: ps) = (join stop ps).map (c :: ·)

theorem isPiece_unit {c : Char} (hc : c.toNat < 0xA0) :
    IsPiece c ['\\', 'u', '0', '0', Hexadecimal.small (c.toNat / 16), Hexadecimal.small (c.toNat % 16)] := by
  have hunit : unit? '0' '0' (Hexadecimal.small (c.toNat / 16)) (Hexadecimal.small (c.toNat % 16)) =
      some c.toNat := by
    have h0 : Hexadecimal.value? '0' = some 0 := by decide
    rw [unit?, h0, Hexadecimal.value?_small _ (by omega), Hexadecimal.value?_small _ (by omega)]
    simp only [Option.some.injEq]
    omega
  intro rest
  refine ⟨.unit c.toNat, ?_, fun stop ps => ?_⟩
  · simp [cut, hunit]
  · rw [join.eq_def]
    simp only [show ¬ (0xDC00 ≤ c.toNat ∧ c.toNat ≤ 0xDFFF) by omega,
      show ¬ (0xD800 ≤ c.toNat ∧ c.toNat ≤ 0xDBFF) by omega, if_false, Char.ofNat_toNat]

theorem isPiece_self {c : Char} (hquote : c ≠ '"') (hback : c ≠ '\\') (hc : ¬ c.toNat < 0x20) : IsPiece c [c] := by
  refine fun rest => ⟨.char c, ?_, fun stop ps => by rw [join]⟩
  rw [List.singleton_append, cut_cons hquote hback, if_neg hc]

/-- A string in quotes is read back. -/
theorem scan_flatMap {write : Char → List Char} (h : ∀ c, IsPiece c (write c)) (cs rest : List Char) :
    scan (cs.flatMap write ++ '"' :: rest) = (⟨.ok (String.ofList cs), none⟩, rest) := by
  have hcut : ∃ ps, cut (cs.flatMap write ++ '"' :: rest) = ⟨ps, .closed, rest⟩ ∧ join .closed ps = .ok cs := by
    induction cs with
    | nil => exact ⟨[], rfl, rfl⟩
    | cons c cs ih =>
      obtain ⟨ps, hcut, hjoin⟩ := ih
      obtain ⟨p, hp, hpjoin⟩ := h c (cs.flatMap write ++ '"' :: rest)
      refine ⟨p :: ps, ?_, ?_⟩
      · rw [List.flatMap_cons, List.append_assoc, hp, hcut]
        rfl
      · rw [hpjoin, hjoin]
        rfl
  obtain ⟨ps, hcut, hjoin⟩ := hcut
  rw [scan, hcut]
  simp [hjoin, Stop.fault?, Except.map]

theorem isPiece_writeChar (c : Char) : IsPiece c (Value.writeChar c) := by
  unfold Value.writeChar
  split
  case h_8 _ hquote hback hb hf hn hr ht =>
    split
    · exact isPiece_unit (by omega)
    · exact isPiece_self hquote hback ‹_›
  all_goals exact fun rest => ⟨.char _, rfl, fun stop ps => by rw [join]⟩

end Quoted

open Outline (isBlank)

/-- Text that does not start with a blank. -/
def Solid (cs : List Char) : Prop := ∃ c cs', cs = c :: cs' ∧ isBlank c = false

theorem Solid.append {cs : List Char} (h : Solid cs) (rest : List Char) : Solid (cs ++ rest) := by
  obtain ⟨c, cs, rfl, hc⟩ := h
  exact ⟨c, cs ++ rest, rfl, hc⟩

theorem Solid.skipBlanks {cs : List Char} (h : Solid cs) : Outline.skipBlanks cs = cs := by
  obtain ⟨c, cs, rfl, hc⟩ := h
  exact List.dropWhile_cons_of_neg (by simp [hc])

theorem ends_cons {c : Char} (hc : c ∈ [',', ']', '}']) (rest : List Char) : Ends (c :: rest) := by
  rintro _ ⟨⟩
  simp only [List.mem_cons, List.not_mem_nil, or_false] at hc
  rcases hc with rfl | rfl | rfl <;> decide

theorem ends_nil : Ends [] := fun _ h => absurd h (Option.not_mem_none _)

/-! ### Texts and their outlines -/

/-- The text does not start with a blank, and it is read as the outline, whatever follows that does not go on with a
number. -/
structure Outlined (rule : RealRule) (level : Nat) (cs : List Char) (o : Outline) : Prop where
  solid : Solid cs
  result : ∀ rest, Ends rest → (Outline.value rule level (cs ++ rest)).result = (o, some rest)

section

variable {rule : RealRule} {level : Nat} {cs : List Char} {o : Outline}

theorem outlined_null : Outlined rule level "null".toList .null where
  solid := ⟨'n', _, rfl, by decide⟩
  result rest _ := Outline.result_value.trans (Outline.result_word _ ['u', 'l', 'l'] rest)

theorem outlined_bool (b : Bool) : Outlined rule level (if b then "true" else "false").toList (.bool b) := by
  cases b
  · refine ⟨⟨'f', _, rfl, by decide⟩, fun rest _ => ?_⟩
    exact Outline.result_value.trans (Outline.result_word _ ['a', 'l', 's', 'e'] rest)
  · refine ⟨⟨'t', _, rfl, by decide⟩, fun rest _ => ?_⟩
    exact Outline.result_value.trans (Outline.result_word _ ['r', 'u', 'e'] rest)

theorem outlined_number {n : Number}
    (h : ∀ rest, Ends rest → Number.scan rule (cs ++ rest) = (⟨.ok n, none⟩, rest)) :
    Outlined rule level cs (.number ⟨.ok n, none⟩) := by
  have hnil := h [] ends_nil
  rw [List.append_nil] at hnil
  obtain ⟨c, cs, rfl, hc⟩ := Number.exists_cons_of_scan (congrArg (·.1.read) hnil)
  obtain ⟨hblank, hne⟩ := not_isBlank_of_number hc
  simp only [List.mem_cons, List.not_mem_nil, or_false, not_or] at hne
  refine ⟨⟨c, cs, rfl, hblank⟩, fun rest hrest => ?_⟩
  have hscan := h rest hrest
  rw [List.cons_append] at hscan ⊢
  rw [Outline.result_value, hscan]
  simp [hblank, hne, hc]

theorem outlined_string {write : Char → List Char} (h : ∀ c, Quoted.IsPiece c (write c)) (s : String) :
    Outlined rule level ('"' :: (s.toList.flatMap write ++ ['"'])) (.string ⟨.ok s, none⟩) := by
  refine ⟨⟨'"', _, rfl, by decide⟩, fun rest _ => ?_⟩
  have hscan := Quoted.scan_flatMap h s.toList rest
  rw [String.ofList_toList] at hscan
  rw [List.cons_append, List.append_assoc, List.singleton_append, Outline.result_value, hscan]
  rfl

/-- Nothing is left of the text. -/
theorem Outlined.ofText (h : Outlined rule 1 cs o) : Outline.ofText rule cs = (o, none) := by
  have hres := h.result [] ends_nil
  rw [List.append_nil] at hres
  obtain ⟨hvalue, hrest⟩ := Prod.mk.inj hres
  obtain ⟨⟨_, _⟩, hx, rfl⟩ := Option.map_eq_some_iff.1 hrest
  simp [Outline.ofText, hvalue, hx, Outline.skipBlanks]

theorem Outlined.ofText_value (h : Outlined rule 1 cs o) : Value.ofText rule cs = o.read := by
  rw [Value.ofText, h.ofText]
  cases hread : o.read <;> simp [hread]

theorem Outline.read_list_closed (os : List Outline) : (list level os .closed).read =
    if maxLevel ≤ level then .error .tooDeep else (readItems os).map .array := by
  rw [read]
  split
  · rfl
  · cases readItems os <;> rfl

theorem Outline.read_object_closed (es : List (Scanned String × Outline)) : (object level es .closed).read =
    if maxLevel ≤ level then .error .tooDeep else (readEntries es).map fun fs => .object (sortEntries fs) := by
  rw [read]
  split
  · rfl
  · cases readEntries es <;> rfl

/-- No value starts with a closing bracket. -/
theorem Outlined.exists_cons (h : Outlined rule level cs o) :
    ∃ c cs', cs = c :: cs' ∧ isBlank c = false ∧ c ≠ ']' := by
  obtain ⟨c, cs, rfl, hc⟩ := h.solid
  refine ⟨c, cs, rfl, hc, ?_⟩
  rintro rfl
  have hres := h.result [] ends_nil
  rw [List.cons_append, Outline.result_value] at hres
  cases hres

private theorem result_items_comma {c : Char} {cs rest : List Char} (hblank : isBlank c = false) (hclose : c ≠ ']') :
    (Outline.items rule level false (',' :: (c :: cs ++ rest))).result =
      (Outline.item rule level (c :: cs ++ rest)).result := by
  have hskip : Outline.skipBlanks (c :: cs ++ rest) = c :: cs ++ rest :=
    List.dropWhile_cons_of_neg (by simp [hblank])
  rw [Outline.result_items, hskip]
  simp [isBlank, hclose]

private theorem result_entries_comma (cs : List Char) :
    (Outline.entries rule level false (',' :: '"' :: cs)).result = (Outline.entry rule level cs).result := by
  have hskip : Outline.skipBlanks ('"' :: cs) = '"' :: cs := rfl
  rw [Outline.result_entries, hskip]
  simp [isBlank]

variable {α : Type} {text : α → List Char} {outline : α → Outline} {as : List α}

private theorem exists_cons_intercalate (hne : as ≠ [])
    (h : ∀ a ∈ as, Outlined rule (level + 1) (text a) (outline a)) :
    ∃ c cs, [','].intercalate (as.map text) = c :: cs ∧ isBlank c = false ∧ c ≠ ']' := by
  obtain ⟨a, as, rfl⟩ := List.exists_cons_of_ne_nil hne
  obtain ⟨c, cs, hcs, hc⟩ := (h a List.mem_cons_self).exists_cons
  cases as with
  | nil => exact ⟨c, cs, by rw [List.map_singleton, List.intercalate_singleton, hcs], hc⟩
  | cons a' as =>
    refine ⟨c, cs ++ ',' :: [','].intercalate ((a' :: as).map text), ?_, hc⟩
    simp [List.intercalate_cons_cons, hcs]

private theorem result_item_intercalate (hne : as ≠ [])
    (h : ∀ a ∈ as, Outlined rule (level + 1) (text a) (outline a)) (rest : List Char) :
    (Outline.item rule level ([','].intercalate (as.map text) ++ ']' :: rest)).result =
      ((as.map outline, .closed), some rest) := by
  induction as with
  | nil => exact absurd rfl hne
  | cons a as ih =>
    have ha := h a List.mem_cons_self
    cases as with
    | nil =>
      have hvalue := ha.result (']' :: rest) (ends_cons (by decide) rest)
      rw [Outline.result_item, List.map_singleton, List.intercalate_singleton, hvalue]
      simp [Outline.result_items, isBlank]
    | cons a' as =>
      have h' : ∀ b ∈ a' :: as, Outlined rule (level + 1) (text b) (outline b) :=
        fun b hb => h b (List.mem_cons_of_mem a hb)
      have hitems := ih (List.cons_ne_nil _ _) h'
      obtain ⟨c, cs, hcs, hblank, hclose⟩ := exists_cons_intercalate (List.cons_ne_nil a' as) h'
      rw [hcs] at hitems
      have hvalue := ha.result (',' :: (c :: cs ++ ']' :: rest)) (ends_cons (by decide) _)
      have htext : [','].intercalate ((a :: a' :: as).map text) ++ ']' :: rest =
          text a ++ ',' :: (c :: cs ++ ']' :: rest) := by
        rw [← hcs]
        simp [List.intercalate_cons_cons]
      rw [Outline.result_item, htext, hvalue]
      simp only [result_items_comma hblank hclose, hitems, List.map_cons]

/-- Items with commas between them, in brackets. -/
theorem outlined_list (h : ∀ a ∈ as, Outlined rule (level + 1) (text a) (outline a)) :
    Outlined rule level ('[' :: ([','].intercalate (as.map text) ++ [']']))
      (.list level (as.map outline) .closed) := by
  refine ⟨⟨'[', _, rfl, by decide⟩, fun rest _ => ?_⟩
  have hitems : (Outline.items rule level true ([','].intercalate (as.map text) ++ ']' :: rest)).result =
      ((as.map outline, .closed), some rest) := by
    by_cases hne : as = []
    · rw [hne]
      exact Outline.result_items
    · have hitem := result_item_intercalate hne h rest
      obtain ⟨c, cs, hcs, hblank, hclose⟩ := exists_cons_intercalate hne h
      rw [hcs] at hitem ⊢
      rw [List.cons_append, Outline.result_items, if_neg (by simp [hblank]), if_neg hclose, if_pos rfl]
      exact hitem
  rw [List.cons_append, List.append_assoc, List.singleton_append, Outline.result_value, hitems]
  rfl

section

variable {write : Char → List Char} (hwrite : ∀ c, Quoted.IsPiece c (write c)) {key : α → String}

include hwrite

private theorem result_entry_text (a : α) (h : Outlined rule (level + 1) (text a) (outline a)) {tail : List Char}
    (htail : Ends tail) :
    (Outline.entry rule level ((key a).toList.flatMap write ++ '"' :: ':' :: (text a ++ tail))).result =
      (((⟨.ok (key a), none⟩, outline a) :: (Outline.entries rule level false tail).result.1.1,
        (Outline.entries rule level false tail).result.1.2), (Outline.entries rule level false tail).result.2) := by
  have hkey := Quoted.scan_flatMap hwrite (key a).toList (':' :: (text a ++ tail))
  have hcolon : Outline.skipBlanks (':' :: (text a ++ tail)) = ':' :: (text a ++ tail) := rfl
  rw [String.ofList_toList] at hkey
  rw [Outline.result_entry, hkey]
  simp [hcolon, h.result tail htail]

private theorem exists_result_entry (key : α → String) (hne : as ≠ [])
    (h : ∀ a ∈ as, Outlined rule (level + 1) (text a) (outline a)) (rest : List Char) :
    ∃ cs, [','].intercalate (as.map fun a => '"' :: ((key a).toList.flatMap write ++ '"' :: ':' :: text a)) ++
        '}' :: rest = '"' :: cs ∧
      (Outline.entry rule level cs).result =
        ((as.map fun a => (⟨.ok (key a), none⟩, outline a), .closed), some rest) := by
  induction as with
  | nil => exact absurd rfl hne
  | cons a as ih =>
    have ha := h a List.mem_cons_self
    cases as with
    | nil =>
      refine ⟨(key a).toList.flatMap write ++ '"' :: ':' :: (text a ++ '}' :: rest), by simp, ?_⟩
      rw [result_entry_text hwrite a ha (ends_cons (by decide) rest)]
      simp [Outline.result_entries, isBlank]
    | cons a' as =>
      obtain ⟨cs, hcs, hentry⟩ := ih (List.cons_ne_nil _ _) fun b hb => h b (List.mem_cons_of_mem a hb)
      refine ⟨(key a).toList.flatMap write ++ '"' :: ':' :: (text a ++ ',' :: '"' :: cs), ?_, ?_⟩
      · simp [List.intercalate_cons_cons, ← hcs]
      · rw [result_entry_text hwrite a ha (ends_cons (by decide) _), result_entries_comma, hentry]
        rfl

/-- Entries with commas between them, in braces. -/
theorem outlined_object (h : ∀ a ∈ as, Outlined rule (level + 1) (text a) (outline a)) :
    Outlined rule level
      ('{' :: ([','].intercalate (as.map fun a => '"' :: ((key a).toList.flatMap write ++ '"' :: ':' :: text a)) ++
        ['}']))
      (.object level (as.map fun a => (⟨.ok (key a), none⟩, outline a)) .closed) := by
  refine ⟨⟨'{', _, rfl, by decide⟩, fun rest _ => ?_⟩
  have hentries : (Outline.entries rule level true
      ([','].intercalate (as.map fun a => '"' :: ((key a).toList.flatMap write ++ '"' :: ':' :: text a)) ++
        '}' :: rest)).result = ((as.map fun a => (⟨.ok (key a), none⟩, outline a), .closed), some rest) := by
    by_cases hne : as = []
    · rw [hne]
      exact Outline.result_entries
    · obtain ⟨cs, hcs, hentry⟩ := exists_result_entry hwrite key hne h rest
      rw [hcs]
      exact Outline.result_entries.trans hentry
  rw [List.cons_append, List.append_assoc, List.singleton_append, Outline.result_value, hentries]
  rfl

end

end

/-! ### Values written -/

namespace Value

mutual

/-- The outline of the text that is written of a value. -/
def outline (level : Nat) : Value → Outline
  | null => .null
  | bool b => .bool b
  | number n => .number ⟨.ok n, none⟩
  | string s => .string ⟨.ok s, none⟩
  | array vs => .list level (itemOutlines (level + 1) vs) .closed
  | object es => .object level (entryOutlines (level + 1) es) .closed

def itemOutlines (level : Nat) : List Value → List Outline
  | [] => []
  | v :: vs => outline level v :: itemOutlines level vs

def entryOutlines (level : Nat) : List (String × Value) → List (Scanned String × Outline)
  | [] => []
  | (k, v) :: es => (⟨.ok k, none⟩, outline level v) :: entryOutlines level es

end

/-- What can be written and read at a level: its numbers are whole with 64 bits, and its lists and objects are not too
deep. -/
inductive Fits : Nat → Value → Prop
  | null {level} : Fits level null
  | bool {level b} : Fits level (bool b)
  | int {level n} (h : -0x8000000000000000 ≤ n ∧ n < 0x10000000000000000) : Fits level (number (.int n))
  | string {level s} : Fits level (string s)
  | array {level vs} (hl : level < Outline.maxLevel) (h : ∀ v ∈ vs, Fits (level + 1) v) : Fits level (array vs)
  | object {level es} (hl : level < Outline.maxLevel) (h : ∀ e ∈ es, Fits (level + 1) e.2) : Fits level (object es)

variable {rule : RealRule} {level : Nat} {v : Value} {vs : List Value} {es : List (String × Value)}

@[simp] theorem itemOutlines_eq_map (vs : List Value) : itemOutlines level vs = vs.map (outline level) := by
  induction vs with
  | nil => rfl
  | cons v vs ih => rw [itemOutlines, ih, List.map_cons]

@[simp] theorem entryOutlines_eq_map (es : List (String × Value)) :
    entryOutlines level es = es.map fun e => (⟨.ok e.1, none⟩, e.2.outline level) := by
  induction es with
  | nil => rfl
  | cons e es ih => rw [entryOutlines, ih, List.map_cons]

@[simp] theorem writeItems_eq_map (vs : List Value) : writeItems vs = vs.map write := by
  induction vs with
  | nil => rfl
  | cons v vs ih => rw [writeItems, ih, List.map_cons]

@[simp] theorem writeEntries_eq_map (es : List (String × Value)) :
    writeEntries es = es.map fun e => quote e.1 ++ ":" ++ e.2.write := by
  induction es with
  | nil => rfl
  | cons e es ih => rw [writeEntries, ih, List.map_cons]

/-- The text of items with commas between them. -/
private def itemsText (vs : List Value) : List Char := [','].intercalate (vs.map fun v => v.write.toList)

/-- The text of an entry behind the opening quote of its key. -/
private def entryText (e : String × Value) : List Char :=
  e.1.toList.flatMap writeChar ++ '"' :: ':' :: e.2.write.toList

/-- The text of entries with commas between them. -/
private def entriesText (es : List (String × Value)) : List Char :=
  [','].intercalate (es.map fun e => '"' :: entryText e)

private theorem toList_write_array (vs : List Value) : (array vs).write.toList = '[' :: (itemsText vs ++ [']']) := by
  simp [write, itemsText, String.toList_intercalate, Function.comp_def]

private theorem toList_write_object (es : List (String × Value)) :
    (object es).write.toList = '{' :: (entriesText es ++ ['}']) := by
  simp [write, entriesText, entryText, String.toList_intercalate, Function.comp_def, quote]

/-- The text of a value is read as its outline, whatever follows that does not go on with a number. -/
def Rereads (rule : RealRule) (level : Nat) (v : Value) : Prop :=
  ∀ rest, Ends rest → (Outline.value rule level (v.write.toList ++ rest)).result = (v.outline level, some rest)

private theorem outlined_write (h : Fits level v) : Outlined rule level v.write.toList (v.outline level) := by
  induction h with
  | null => exact outlined_null
  | bool => exact outlined_bool _
  | int h => exact outlined_number fun rest hrest => Number.scan_toString rule h hrest
  | @string level s =>
    rw [write, quote, String.toList_ofList]
    exact outlined_string Quoted.isPiece_writeChar s
  | @array level vs _ _ ih =>
    rw [toList_write_array, outline, itemOutlines_eq_map]
    exact outlined_list ih
  | @object level es _ _ ih =>
    rw [toList_write_object, outline, entryOutlines_eq_map]
    exact outlined_object Quoted.isPiece_writeChar ih

/-- What is written is read back. -/
theorem result_write (h : Fits level v) : Rereads rule level v := (outlined_write h).result

/-- Nothing is left of the text. -/
theorem ofText_write (h : Fits 1 v) : Outline.ofText rule v.write.toList = (v.outline 1, none) :=
  (outlined_write h).ofText

end Value

end Json

end Signpost
