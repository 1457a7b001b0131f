import Mathlib.Tactic.Common
import Signpost.Proofs.Json.Sorting
import Signpost.Proofs.Json.Syntax
import Signpost.Proofs.Json.Writing
import Signpost.Query.Literal
import Signpost.Unicode.CharSet

/-!
# Literals as JSON text

What is written of a literal is JSON (`isText_write`), and what is decoded of it is the literal with its entries sorted,
unless its lists and objects are too deep (`decoded_render`): strings because every character is one piece behind its
escape (`scan_quote`), numbers because the layout of a floating one is never that of a whole one.

The literals that JSON text can stand for (`Literal.Fits`) have ascending keys and a limited depth.  Every literal that is
read is of this kind (`fits_ofJson`), and what is written of such a literal is read back as it is (`said_of_fits`).
-/

namespace Signpost

/-- No character of ASCII that is seen is blank. -/
theorem Unicode.not_blank {c : Char} (hlow : 0x20 < c.toNat) (hhigh : c.toNat < 0x7F) : blank.contains c = false := by
  have htake : blank.boundaries.toList.takeWhile (· ≤ c.toNat) = [0x9, 0xE, 0x20, 0x21] := by
    rw [blank]
    simp only [List.takeWhile_cons, decide_eq_true_eq]
    rw [if_pos (by omega), if_pos (by omega), if_pos (by omega), if_pos (by omega), if_neg (by omega)]
  rw [CharSet.contains, ← Array.length_toList, Array.toList_takeWhile, htake]
  rfl

namespace Json.Quoted

open Query (Literal)

theorem isPiece_quoteChar (c : Char) : IsPiece c (Literal.quoteChar c) := by
  unfold Literal.quoteChar
  split
  case h_6 _ hquote hback hn ht hr =>
    split
    · exact isPiece_unit (by omega)
    · exact isPiece_self hquote hback (by omega)
  all_goals exact fun rest => ⟨.char _, rfl, fun stop ps => by rw [join]⟩

/-- A string in quotes is read back. -/
theorem scan_quote (cs rest : List Char) :
    scan (cs.flatMap Literal.quoteChar ++ '"' :: rest) = (⟨.ok (String.ofList cs), none⟩, rest) :=
  scan_flatMap isPiece_quoteChar cs rest

end Json.Quoted

namespace Query.Literal

open Json (Says Ends Ascending Fault Outlined IsText IsCharacter lastEntries)
open Json.Outline (isBlank maxLevel readItems readEntries)

/-! ### What literals hold -/

/-- Whole numbers fit into 64 bits with a sign, and other numbers are finite. -/
inductive IsFinite : Literal → Prop
  | null : IsFinite null
  | bool {b} : IsFinite (bool b)
  | int {n} (h : -0x8000000000000000 ≤ n ∧ n < 0x8000000000000000) : IsFinite (int n)
  | float {negative x} : IsFinite (float (.finite negative x))
  | string {s} : IsFinite (string s)
  | array {ls} (h : ∀ l ∈ ls, IsFinite l) : IsFinite (array ls)
  | object {es} (h : ∀ e ∈ es, IsFinite e.2) : IsFinite (object es)

mutual

/-- How many lists and objects stand inside of each other. -/
def depth : Literal → Nat
  | array items => depthOf items + 1
  | object entries => depthOfEntries entries + 1
  | _ => 0

def depthOf : List Literal → Nat
  | [] => 0
  | l :: ls => max (depth l) (depthOf ls)

def depthOfEntries : List (String × Literal) → Nat
  | [] => 0
  | (_, l) :: es => max (depth l) (depthOfEntries es)

end

mutual

/-- The literal with the entries of every object sorted by their keys, of those with one key the last. -/
def sorted : Literal → Literal
  | array items => array (sortedItems items)
  | object entries => object ((lastEntries (sortedEntries entries)).insertionSort fun d e => d.1 ≤ e.1)
  | l => l

def sortedItems : List Literal → List Literal
  | [] => []
  | l :: ls => sorted l :: sortedItems ls

def sortedEntries : List (String × Literal) → List (String × Literal)
  | [] => []
  | (k, l) :: es => (k, sorted l) :: sortedEntries es

end

section

variable {l : Literal} {ls : List Literal} {es : List (String × Literal)} {level : Nat}

theorem depthOf_le_iff {n : Nat} : depthOf ls ≤ n ↔ ∀ l ∈ ls, l.depth ≤ n := by
  induction ls with
  | nil => simp [depthOf]
  | cons l ls ih => rw [depthOf, max_le_iff, ih, List.forall_mem_cons]

theorem depthOfEntries_le_iff {n : Nat} : depthOfEntries es ≤ n ↔ ∀ e ∈ es, e.2.depth ≤ n := by
  induction es with
  | nil => simp [depthOfEntries]
  | cons e es ih => rw [depthOfEntries, max_le_iff, ih, List.forall_mem_cons]

@[simp] theorem sortedItems_eq_map (ls : List Literal) : sortedItems ls = ls.map sorted := by
  induction ls with
  | nil => rfl
  | cons l ls ih => rw [sortedItems, ih, List.map_cons]

@[simp] theorem sortedEntries_eq_map (es : List (String × Literal)) :
    sortedEntries es = es.map fun e => (e.1, e.2.sorted) := by
  induction es with
  | nil => rfl
  | cons e es ih => rw [sortedEntries, ih, List.map_cons]

theorem sorted_object (es : List (String × Literal)) :
    (object es).sorted = object (Json.sortEntries (es.map fun e => (e.1, e.2.sorted))) := by
  rw [sorted, sortedEntries_eq_map, Json.sortEntries_eq]

/-! ### What is written is JSON -/

theorem writeItems_eq_intercalate (ls : List Literal) : writeItems ls = [','].intercalate (ls.map write) := by
  induction ls with
  | nil => rfl
  | cons l ls ih =>
    cases ls with
    | nil => simp [writeItems]
    | cons l' ls =>
      rw [writeItems.eq_3 l (l' :: ls) (fun h => nomatch h), ih]
      simp [List.intercalate_cons_cons]

theorem writeEntries_eq_intercalate (es : List (String × Literal)) :
    writeEntries es = [','].intercalate (es.map fun e => quote e.1 ++ ':' :: e.2.write) := by
  induction es with
  | nil => rfl
  | cons e es ih =>
    cases es with
    | nil => simp [writeEntries]
    | cons e' es =>
      rw [writeEntries.eq_3 e.1 e.2 (e' :: es) (fun h => nomatch h), ih]
      simp [List.intercalate_cons_cons]

private theorem isCharacter_quoteChar (c : Char) : IsCharacter (quoteChar c) := by
  unfold quoteChar
  split
  case h_6 _ hquote hback hn ht hr =>
    split
    · exact Json.isCharacter_unit (by omega)
    · exact .plain (by omega) hquote hback
  all_goals exact .letter (by decide)

theorem isText_write (h : l.IsFinite) : IsText l.write := by
  induction h with
  | null => exact .null
  | @bool b =>
    cases b
    · exact .false
    · exact .true
  | @int n => exact .number (Json.isNumber_toString n)
  | float => exact .number (Json.isNumber_write _ _ _)
  | @string s => exact .string (Json.isString_flatMap isCharacter_quoteChar s.toList)
  | @array ls _ ih =>
    rw [write, writeItems_eq_intercalate]
    exact .array (List.forall_mem_map.2 ih)
  | @object es _ ih =>
    have hkeys : ∀ e ∈ es.map fun e => (quote e.1, e.2.write), Json.IsKey e.1 :=
      List.forall_mem_map.2 fun e _ => (Json.isString_flatMap isCharacter_quoteChar e.1.toList).isKey
    have hvalues : ∀ e ∈ es.map fun e => (quote e.1, e.2.write), IsText e.2 := List.forall_mem_map.2 ih
    have hobject := IsText.object hkeys hvalues
    rw [List.map_map] at hobject
    rw [write, writeEntries_eq_intercalate]
    exact hobject

/-! ### What is written is read -/

mutual

/-- The outline of the text that is written of a literal. -/
def outline (level : Nat) : Literal → Json.Outline
  | null => .null
  | bool b => .bool b
  | int n => .number ⟨.ok (.int n), none⟩
  | float x => .number ⟨.ok (.real x), none⟩
  | string s => .string ⟨.ok s, none⟩
  | array items => .list level (itemOutlines (level + 1) items) .closed
  | object entries => .object level (entryOutlines (level + 1) entries) .closed

def itemOutlines (level : Nat) : List Literal → List Json.Outline
  | [] => []
  | l :: ls => outline level l :: itemOutlines level ls

def entryOutlines (level : Nat) : List (String × Literal) → List (Json.Scanned String × Json.Outline)
  | [] => []
  | (k, l) :: es => (⟨.ok k, none⟩, outline level l) :: entryOutlines level es

end

@[simp] theorem itemOutlines_eq_map (ls : List Literal) : itemOutlines level ls = ls.map (outline level) := by
  induction ls with
  | nil => rfl
  | cons l ls ih => rw [itemOutlines, ih, List.map_cons]

@[simp] theorem entryOutlines_eq_map (es : List (String × Literal)) :
    entryOutlines level es = es.map fun e => (⟨.ok e.1, none⟩, e.2.outline level) := by
  induction es with
  | nil => rfl
  | cons e es ih => rw [entryOutlines, ih, List.map_cons]

theorem outlined_write (h : l.IsFinite) (level : Nat) : Outlined .nearest level l.write (l.outline level) := by
  induction h generalizing level with
  | null => exact Json.outlined_null
  | bool => exact Json.outlined_bool _
  | @int n h => exact Json.outlined_number fun rest hrest => Json.Number.scan_toString .nearest (by omega) hrest
  | float => exact Json.outlined_number fun rest hrest => Json.Number.scan_write _ _ _ hrest
  | @string s => exact Json.outlined_string Json.Quoted.isPiece_quoteChar s
  | @array ls _ ih =>
    rw [write, writeItems_eq_intercalate, outline, itemOutlines_eq_map]
    exact Json.outlined_list fun l hl => ih l hl (level + 1)
  | @object es _ ih =>
    have hentry : ∀ e : String × Literal, quote e.1 ++ ':' :: e.2.write =
        '"' :: (e.1.toList.flatMap quoteChar ++ '"' :: ':' :: e.2.write) := by
      intro e
      simp [quote]
    rw [write, writeEntries_eq_intercalate, outline, entryOutlines_eq_map]
    simp only [hentry]
    exact Json.outlined_object Json.Quoted.isPiece_quoteChar fun e he => ih e he (level + 1)

@[simp] theorem ofItems_eq_map (vs : List Json.Value) : ofItems vs = vs.map ofJson := by
  induction vs with
  | nil => rfl
  | cons v vs ih => rw [ofItems, ih, List.map_cons]

@[simp] theorem ofEntries_eq_map (es : List (String × Json.Value)) :
    ofEntries es = es.map fun e => (e.1, ofJson e.2) := by
  induction es with
  | nil => rfl
  | cons e es ih => rw [ofEntries, ih, List.map_cons]

/-- Reading of something of this depth, with so many levels left: the result is as it should be, or else there are not
enough levels. -/
def ReadsUpTo {α : Type} (levels depth : Nat) (x : Except Fault α) (p : α → Prop) : Prop :=
  (depth ≤ levels ∧ ∃ a, x = .ok a ∧ p a) ∨ (levels < depth ∧ x = .error .tooDeep)

section

variable {α β : Type} {levels d d' : Nat} {x : Except Fault α} {p : α → Prop} {q : β → Prop}

theorem ReadsUpTo.ok {a : α} (h : p a) : ReadsUpTo levels 0 (.ok a) p := .inl ⟨Nat.zero_le _, a, rfl, h⟩

theorem ReadsUpTo.bind (h : ReadsUpTo levels d x p) {f : α → Except Fault β}
    (hf : ∀ a, p a → ReadsUpTo levels d' (f a) q) : ReadsUpTo levels (max d d') (x >>= f) q := by
  obtain ⟨hd, a, rfl, ha⟩ | ⟨hd, rfl⟩ := h
  · obtain ⟨hd', b, hb, hq⟩ | ⟨hd', hb⟩ := hf a ha
    · exact .inl ⟨max_le hd hd', b, hb, hq⟩
    · exact .inr ⟨lt_max_of_lt_right hd', hb⟩
  · exact .inr ⟨lt_max_of_lt_left hd, rfl⟩

/-- A list or an object takes one level. -/
theorem ReadsUpTo.inside {f : α → β} (h : ReadsUpTo (maxLevel - (level + 1)) d x p) (hf : ∀ a, p a → q (f a)) :
    ReadsUpTo (maxLevel - level) (d + 1) (if maxLevel ≤ level then .error .tooDeep else x.map f) q := by
  by_cases hl : maxLevel ≤ level
  · rw [if_pos hl]
    exact .inr ⟨by omega, rfl⟩
  · rw [if_neg hl]
    obtain ⟨hd, a, rfl, ha⟩ | ⟨hd, rfl⟩ := h
    · exact .inl ⟨by omega, f a, rfl, hf a ha⟩
    · exact .inr ⟨by omega, rfl⟩

end

private theorem readsUpTo_items {levels : Nat}
    (h : ∀ l ∈ ls, ReadsUpTo levels l.depth (l.outline level).read fun v => ofJson v = l.sorted) :
    ReadsUpTo levels (depthOf ls) (readItems (itemOutlines level ls)) fun vs => ofItems vs = sortedItems ls := by
  induction ls with
  | nil => exact .ok rfl
  | cons l ls ih =>
    have hl := h l List.mem_cons_self
    have hls := ih fun l' hl' => h l' (List.mem_cons_of_mem l hl')
    rw [itemOutlines, readItems, depthOf, ← Nat.max_zero (depthOf ls)]
    refine hl.bind fun v hv => hls.bind fun vs hvs => .ok ?_
    rw [ofItems, sortedItems, hv, hvs]

private theorem readsUpTo_entries {levels : Nat}
    (h : ∀ e ∈ es, ReadsUpTo levels e.2.depth (e.2.outline level).read fun v => ofJson v = e.2.sorted) :
    ReadsUpTo levels (depthOfEntries es) (readEntries (entryOutlines level es)) fun vs =>
      ofEntries vs = sortedEntries es := by
  induction es with
  | nil => exact .ok rfl
  | cons e es ih =>
    have he := h e List.mem_cons_self
    have hes := ih fun e' he' => h e' (List.mem_cons_of_mem e he')
    rw [entryOutlines, readEntries, depthOfEntries, ← Nat.max_zero (depthOfEntries es)]
    refine he.bind fun v hv => hes.bind fun vs hvs => .ok ?_
    rw [ofEntries, sortedEntries, hv, hvs]

/-- What is read of the outline of a literal is the literal with its entries sorted, if there are enough levels. -/
theorem readsUpTo_outline (h : l.IsFinite) (level : Nat) :
    ReadsUpTo (maxLevel - level) l.depth (l.outline level).read fun v => ofJson v = l.sorted := by
  induction h generalizing level with
  | null | bool | string | float => exact .ok rfl
  | int h => exact .ok (if_pos h.2)
  | @array ls _ ih =>
    have hitems := readsUpTo_items fun l hl => ih l hl (level + 1)
    rw [outline, Json.Outline.read_list_closed]
    refine hitems.inside fun vs hvs => ?_
    rw [ofJson, sorted, hvs]
  | @object es _ ih =>
    have hentries := readsUpTo_entries fun e he => ih e he (level + 1)
    rw [outline, Json.Outline.read_object_closed]
    refine hentries.inside fun vs hvs => ?_
    rw [ofJson, sorted_object, ← sortedEntries_eq_map, ← hvs, ofEntries_eq_map, ofEntries_eq_map,
      Json.map_sortEntries]

end

/-! ### Literals that text can stand for -/

/-- What JSON text can stand for at a level: whole numbers fit into 64 bits with a sign, other numbers are finite, keys
ascend, and lists and objects are not too deep. -/
inductive Fits : Nat → Literal → Prop
  | null {level} : Fits level null
  | bool {level b} : Fits level (bool b)
  | int {level n} (h : -0x8000000000000000 ≤ n ∧ n < 0x8000000000000000) : Fits level (int n)
  | float {level negative x} : Fits level (float (.finite negative x))
  | string {level s} : Fits level (string s)
  | array {level ls} (hl : level < maxLevel) (h : ∀ l ∈ ls, Fits (level + 1) l) : Fits level (array ls)
  | object {level es} (hl : level < maxLevel) (hs : Ascending es) (h : ∀ e ∈ es, Fits (level + 1) e.2) :
    Fits level (object es)

theorem ascending_ofEntries {es : List (String × Json.Value)} : Ascending (ofEntries es) ↔ Ascending es := by
  rw [ofEntries_eq_map, Ascending, List.pairwise_map]
  exact Iff.rfl

/-- Whole numbers that do not fit into 64 bits with a sign are finite as floating ones. -/
private theorem fits_ofNumber_int {level : Nat} {n : Int} (h : -0x8000000000000000 ≤ n ∧ n < 0x10000000000000000) :
    Fits level (ofNumber (.int n)) := by
  rw [ofNumber]
  split
  · rename_i hlt
    exact .int ⟨h.1, hlt⟩
  · obtain ⟨x, hx⟩ := Binary64.exists_ofDecimal_eq_finite (n := n.toNat) (by omega) (by omega) false
    rw [hx]
    exact .float

theorem fits_ofNumber {rule : Json.RealRule} {level : Nat} {t : Json.NumberText} {n : Json.Number}
    (h : Json.Number.ofText rule t = .ok n) : Fits level (ofNumber n) := by
  unfold Json.Number.ofText at h
  dsimp only at h
  -- the bound of a whole number depends on its sign
  split at h <;> split at h
  · cases h
    exact fits_ofNumber_int (by omega)
  · split at h
    · cases h
      exact .float
    · cases h
  · cases h
    exact fits_ofNumber_int (by omega)
  · split at h
    · cases h
      exact .float
    · cases h

/-- What the part of a text stands for fits its level. -/
private def FitsPart : Json.Part → Prop
  | .value level v => Fits level (ofJson v)
  | .items level _ vs | .item level vs => ∀ v ∈ vs, Fits (level + 1) (ofJson v)
  | .entries level _ es | .entry level es => ∀ e ∈ es, Fits (level + 1) (ofJson e.2)

private theorem fitsPart_of_says {rule : Json.RealRule} {part : Json.Part} {cs rest : List Char}
    (h : Says rule part cs rest) : FitsPart part := by
  induction h with
  | blank _ _ ih | blankItems _ _ ih | firstItem _ _ ih | nextItem _ ih | blankEntries _ _ ih | firstEntry _ ih
  | nextEntry _ _ ih => exact ih
  | null => exact .null
  | true | false => exact .bool
  | number _ hscan =>
    obtain ⟨t, -, ht⟩ := exists_of_bind_ok (congrArg (·.1.read) hscan)
    exact fits_ofNumber ht
  | string => exact .string
  | array hl _ ih =>
    refine .array hl ?_
    rw [ofItems_eq_map]
    exact List.forall_mem_map.2 ih
  | object hl _ ih =>
    refine .object hl (ascending_ofEntries.2 (Json.ascending_sortEntries _)) ?_
    rw [ofEntries_eq_map]
    exact List.forall_mem_map.2 fun e he => ih e (Json.mem_of_mem_sortEntries he)
  | noItems | noEntries => exact fun _ h => nomatch h
  | item _ _ ihv ihvs => exact List.forall_mem_cons.2 ⟨ihv, ihvs⟩
  | entry _ _ _ _ ihv ihes => exact List.forall_mem_cons.2 ⟨ihv, ihes⟩

/-- The literal of a value that a text says fits the level. -/
theorem fits_ofJson {rule : Json.RealRule} {level : Nat} {v : Json.Value} {cs rest : List Char}
    (h : Says rule (.value level v) cs rest) : Fits level (ofJson v) :=
  fitsPart_of_says h

/-! ### What text stands for is written and read -/

variable {l : Literal} {level : Nat}

theorem Fits.isFinite (h : Fits level l) : l.IsFinite := by
  induction h with
  | null => exact .null
  | bool => exact .bool
  | int h => exact .int h
  | float => exact .float
  | string => exact .string
  | array _ _ ih => exact .array ih
  | object _ _ _ ih => exact .object ih

theorem Fits.depth_le (h : Fits level l) : l.depth ≤ maxLevel - level := by
  induction h with
  | null | bool | int | float | string => exact Nat.zero_le _
  | array hl _ ih =>
    have hitems := depthOf_le_iff.2 ih
    rw [depth]
    omega
  | object hl _ _ ih =>
    have hentries := depthOfEntries_le_iff.2 ih
    rw [depth]
    omega

theorem Fits.sorted_eq (h : Fits level l) : l.sorted = l := by
  induction h with
  | null | bool | int | float | string => rfl
  | @array level ls _ _ ih =>
    have hitems : ls.map sorted = ls := (List.map_congr_left ih).trans (List.map_id ls)
    rw [sorted, sortedItems_eq_map, hitems]
  | @object level es _ hs _ ih =>
    have hentries : es.map (fun e => (e.1, e.2.sorted)) = es := by
      refine (List.map_congr_left fun e he => ?_).trans (List.map_id es)
      rw [ih e he]
      rfl
    rw [sorted_object, hentries, hs.sortEntries]

/-- The text of the literal says a value that stands for it, whatever follows that does not go on with a number. -/
def Said (level : Nat) (l : Literal) : Prop :=
  ∀ rest, Ends rest → ∃ v, ofJson v = l ∧ Says .nearest (.value level v) (l.write ++ rest) rest

/-- What a text can stand for is read back from the text that is written of it. -/
theorem said_of_fits (h : Fits level l) : Said level l := by
  intro rest hrest
  have hresult := (outlined_write h.isFinite level).result rest hrest
  obtain ⟨-, v, hv, hsorted⟩ | ⟨hdeep, -⟩ := readsUpTo_outline h.isFinite level
  · obtain ⟨rest', hrest', hsays⟩ := Json.says_of_read hresult hv
    obtain rfl := Option.some.inj hrest'
    exact ⟨v, hsorted.trans h.sorted_eq, hsays⟩
  · exact absurd h.depth_le (Nat.not_le.2 hdeep)

theorem even_write {l : Literal} (h : Fits level l) : Json.Even l.write := by
  obtain ⟨v, -, hsays⟩ := said_of_fits h [] fun _ h => nomatch h
  obtain ⟨used, hused, heven⟩ := Json.even_of_says hsays
  rw [List.append_nil, List.append_nil] at hused
  exact hused ▸ heven

/-! ### The ends of what is written -/

/-- A character of ASCII that is seen, and no backslash: it is not dropped at the end of a text and takes no other
along. -/
def IsEdge (c : Char) : Prop := 0x20 < c.toNat ∧ c.toNat < 0x7F ∧ c ≠ '\\'

instance (c : Char) : Decidable (IsEdge c) := inferInstanceAs (Decidable (_ ∧ _))

theorem IsEdge.not_blank {c : Char} (h : IsEdge c) : Unicode.blank.contains c = false := Unicode.not_blank h.1 h.2.1

theorem IsEdge.isBlank {c : Char} (h : IsEdge c) : isBlank c = false := by
  have hne : ∀ d : Char, d.toNat ≤ 0x20 → c ≠ d := by
    rintro d hd rfl
    exact absurd h.1 (Nat.not_lt.2 hd)
  simp [Json.Outline.isBlank, hne]

theorem isEdge_of_isNumeric {c : Char} (h : Json.IsNumeric c) : IsEdge c := by
  rcases h with h | h
  · have hlow : 48 ≤ c.toNat := (Char.isDigit_iff_toNat.1 h).1
    have hhigh : c.toNat ≤ 57 := (Char.isDigit_iff_toNat.1 h).2
    exact ⟨by omega, by omega, Json.IsNumeric.ne_backslash (.inl h)⟩
  · simp only [List.mem_cons, List.not_mem_nil, or_false] at h
    rcases h with rfl | rfl | rfl | rfl | rfl <;> decide

/-- Text that starts and ends with such characters. -/
structure HasEdges (cs : List Char) : Prop where
  first : ∃ c ds, cs = c :: ds ∧ IsEdge c
  last : ∃ c ds, cs = ds ++ [c] ∧ IsEdge c

private theorem hasEdges_of_scan {cs : List Char} {n : Json.Number}
    (h : Json.Number.scan .nearest (cs ++ []) = (⟨.ok n, none⟩, [])) : HasEdges cs := by
  rw [List.append_nil] at h
  obtain ⟨used, hused, hnumeric⟩ := Json.takes_scan .nearest cs
  rw [h, List.append_nil] at hused
  subst hused
  obtain ⟨c, ds, rfl, -⟩ := Json.Number.exists_cons_of_scan (congrArg (·.1.read) h)
  refine ⟨⟨c, ds, rfl, isEdge_of_isNumeric (hnumeric c List.mem_cons_self)⟩, ?_⟩
  exact ⟨_, _, (List.dropLast_append_getLast (List.cons_ne_nil c ds)).symm,
    isEdge_of_isNumeric (hnumeric _ (List.getLast_mem _))⟩

theorem hasEdges_write {level : Nat} {l : Literal} (h : Fits level l) (hs : ∀ s, l ≠ string s) : HasEdges l.write := by
  have hends : Ends [] := fun _ h => nomatch h
  cases h with
  | null => exact ⟨⟨'n', _, rfl, by decide⟩, ⟨'l', ['n', 'u', 'l'], rfl, by decide⟩⟩
  | @bool _ b =>
    cases b
    · exact ⟨⟨'f', _, rfl, by decide⟩, ⟨'e', ['f', 'a', 'l', 's'], rfl, by decide⟩⟩
    · exact ⟨⟨'t', _, rfl, by decide⟩, ⟨'e', ['t', 'r', 'u'], rfl, by decide⟩⟩
  | @int _ n h => exact hasEdges_of_scan (Json.Number.scan_toString .nearest (by omega) hends)
  | @float _ negative x => exact hasEdges_of_scan (Json.Number.scan_write _ negative x hends)
  | @string _ s => exact absurd rfl (hs s)
  | @array _ ls =>
    exact ⟨⟨'[', _, rfl, by decide⟩, ⟨']', '[' :: writeItems ls, rfl, by decide⟩⟩
  | @object _ es =>
    exact ⟨⟨'{', _, rfl, by decide⟩, ⟨'}', '{' :: writeEntries es, rfl, by decide⟩⟩

/-! ### Decoding -/

private theorem map_ofText_write (h : l.IsFinite) :
    (Json.Value.ofText .nearest l.write).map ofJson =
      if l.depth < maxLevel then .ok l.sorted else .error .tooDeep := by
  have hlimit : maxLevel = 128 := rfl
  rw [(outlined_write h 1).ofText_value]
  obtain ⟨hd, v, hv, hsorted⟩ | ⟨hd, hv⟩ := readsUpTo_outline h 1
  · rw [hv, if_pos (by omega), ← hsorted]
    rfl
  · rw [hv, if_neg (by omega)]
    rfl

/-- What is written of a literal is JSON, and what is decoded of it is the literal with the entries of every object sorted
by their keys, of those with one key the last; but lists and objects that are too deep are not decoded. -/
theorem decoded_render (h : l.IsFinite) :
    IsText l.render.toList ∧
      (Json.Value.ofText .nearest l.render.toList).map ofJson =
        if l.depth < maxLevel then .ok l.sorted else .error .tooDeep := by
  rw [render, String.toList_ofList]
  exact ⟨isText_write h, map_ofText_write h⟩

/-- An object with a key that comes twice, numbers that are whole and numbers that are not, and a control character. -/
def unsorted : Literal :=
  object
    [("b", array [int (-0x8000000000000000), float (.finite true .zero)]),
      ("a", string "\x7f\"\n"),
      ("b", object [("z", int 2), ("y", float (.finite false ⟨5000000000000000, 1, by decide⟩))])]

theorem decoded_render_unsorted :
    unsorted.IsFinite ∧ IsText unsorted.render.toList ∧
      (Json.Value.ofText .nearest unsorted.render.toList).map ofJson =
        .ok (object
          [("a", string "\x7f\"\n"),
            ("b", object [("y", float (.finite false ⟨5000000000000000, 1, by decide⟩)), ("z", int 2)])]) := by
  have harray : (array [int (-0x8000000000000000), float (.finite true .zero)]).IsFinite :=
    .array (List.forall_mem_cons.2 ⟨.int (by decide), List.forall_mem_singleton.2 .float⟩)
  have hobject : (object [("z", int 2), ("y", float (.finite false ⟨5000000000000000, 1, by decide⟩))]).IsFinite :=
    .object (List.forall_mem_cons.2 ⟨.int (by decide), List.forall_mem_singleton.2 .float⟩)
  have hfinite : unsorted.IsFinite :=
    .object (List.forall_mem_cons.2 ⟨harray, List.forall_mem_cons.2 ⟨.string, List.forall_mem_singleton.2 hobject⟩⟩)
  obtain ⟨htext, hdecoded⟩ := decoded_render hfinite
  rw [if_pos (by decide)] at hdecoded
  refine ⟨hfinite, htext, hdecoded.trans ?_⟩
  rfl

example : unsorted.render =
    "\x7b\"b\":[-9223372036854775808,-0.0],\"a\":\"\\u007f\\\"\\n\",\"b\":\x7b\"z\":2,\"y\":1e16\x7d\x7d" := by
  decide

/-- Lists inside of each other. -/
def nested : Nat → Literal
  | 0 => array []
  | n + 1 => array [nested n]

theorem depth_nested (n : Nat) : (nested n).depth = n + 1 := by
  induction n with
  | zero => rfl
  | succ n ih => simp [nested, depth, depthOf, ih]

theorem isFinite_nested (n : Nat) : (nested n).IsFinite := by
  induction n with
  | zero => exact .array (List.forall_mem_nil _)
  | succ n ih => exact .array (List.forall_mem_singleton.2 ih)

/-- The text of many lists inside of each other is JSON and is not decoded. -/
theorem not_decoded_nested :
    (nested 127).IsFinite ∧ IsText (nested 127).render.toList ∧
      (Json.Value.ofText .nearest (nested 127).render.toList).map ofJson = .error .tooDeep := by
  have hfinite := isFinite_nested 127
  have hdeep : ¬ (nested 127).depth < maxLevel := by
    rw [depth_nested]
    decide
  rw [render, String.toList_ofList, map_ofText_write hfinite, if_neg hdeep]
  exact ⟨hfinite, isText_write hfinite, rfl⟩

end Query.Literal

end Signpost
