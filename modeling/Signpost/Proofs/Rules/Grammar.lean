import Mathlib
import Signpost.Proofs.Except
import Signpost.Proofs.Offsets
import Signpost.Rules.Template

/-!
# The grammar of templates

Which texts spell a character or a hole of a template (`Item.Spelled`), and which spell a list of them (`Spelled`).  A
text is a template exactly if it spells a list of items, and the template is the items with their neighbouring
characters merged (`Merged`).  Any other text has a longest beginning that spells items, and the brace behind it is
where the mistake lies (`ofText_grammar`).
-/

namespace Signpost.Rules.Template

/-! ### The grammar -/

/-- A letter or an underscore. -/
def IsNameStart (c : Char) : Prop := ('A' ≤ c ∧ c ≤ 'Z') ∨ ('a' ≤ c ∧ c ≤ 'z') ∨ c = '_'

/-- The text is a name: a letter or an underscore, and then letters, digits and underscores. -/
def IsReference (cs : List Char) : Prop :=
  ∃ c ds, cs = c :: ds ∧ IsNameStart c ∧ ∀ d ∈ ds, IsNameStart d ∨ ('0' ≤ d ∧ d ≤ '9')

/-- The text spells the character or the hole. -/
inductive Item.Spelled : Item → List Char → Prop
  | opening : Spelled (.char '{') ['{', '{']
  | closing : Spelled (.char '}') ['}', '}']
  | char {c} (hopen : c ≠ '{') (hclose : c ≠ '}') : Spelled (.char c) [c]
  | name {cs} (h : IsReference cs) : Spelled (.hole (.ref (String.ofList cs))) ('{' :: (cs ++ ['}']))
  | path {cs path} (h : IsReference cs) (hne : path ≠ []) (hpath : '}' ∉ path) :
    Spelled (.hole (.call "getAttr" [.ref (String.ofList cs), .string [.text (String.ofList path)]]))
      ('{' :: (cs ++ '#' :: path ++ ['}']))

/-- The text spells the items, one after the other. -/
inductive Spelled : List Item → List Char → Prop
  | nil : Spelled [] []
  | cons {i is cs ds} (h : i.Spelled cs) (hs : Spelled is ds) : Spelled (i :: is) (cs ++ ds)

/-- The characters of a text, or the hole. -/
def itemsOf : Part → List Item
  | .text s => s.toList.map .char
  | .hole e => [.hole e]

/-- The template has the items in their order, no empty text, and no text beside a text. -/
structure Merged (is : List Item) (t : Template) : Prop where
  items : t.flatMap itemsOf = is
  ne_empty : ∀ s, Part.text s ∈ t → s ≠ ""
  apart : t.IsChain fun p q => ∀ s s', ¬ (p = .text s ∧ q = .text s')

variable {n : Nat} {i : Item} {is : List Item} {t : Template} {e : Expr} {cs ds inner path : List Char}

/-! ### Holes -/

theorem isName_iff : isName cs = true ↔ IsReference cs := by
  have hstart : ∀ c : Char, (c.isAlpha || c == '_') = true ↔ IsNameStart c := fun c => by
    simp [IsNameStart, Char.isAlpha, Char.isUpper, Char.isLower, Char.le_def, UInt32.le_iff_toNat_le, or_assoc]
  have hpart : ∀ c : Char, (c.isAlphanum || c == '_') = true ↔ IsNameStart c ∨ ('0' ≤ c ∧ c ≤ '9') := fun c => by
    rw [← hstart, Char.isAlphanum]
    simp [Char.isDigit, Char.le_def, UInt32.le_iff_toNat_le, or_right_comm]
  cases cs with
  | nil => simp [isName, IsReference]
  | cons c cs => simp [isName, IsReference, -Bool.or_eq_true, hstart, hpart]

theorem not_mem_of_isName (h : isName cs = true) : ∀ c ∈ cs, c ≠ '{' ∧ c ≠ '}' ∧ c ≠ '#' := by
  have hplain : ∀ c : Char, (c.isAlphanum || c == '_') = true → c ≠ '{' ∧ c ≠ '}' ∧ c ≠ '#' := by
    intro c hc
    refine ⟨?_, ?_, ?_⟩ <;> rintro rfl <;> exact absurd hc (by decide)
  cases cs with
  | nil => cases h
  | cons c cs =>
    rw [isName, Bool.and_eq_true] at h
    refine List.forall_mem_cons.2 ⟨hplain c ?_, fun d hd => hplain d (List.all_eq_true.1 h.2 d hd)⟩
    rw [Char.isAlphanum]
    rcases Bool.or_eq_true .. ▸ h.1 with h | h <;> simp [h]

private theorem takeWhile_name (h : isName cs = true) (rest : List Char) :
    (cs ++ rest).takeWhile (· ≠ '#') = cs ++ rest.takeWhile (· ≠ '#') ∧
      (cs ++ rest).dropWhile (· ≠ '#') = rest.dropWhile (· ≠ '#') := by
  have hcs : ∀ c ∈ cs, decide (c ≠ '#') = true := fun c hc => decide_eq_true (not_mem_of_isName h c hc).2.2
  exact ⟨List.takeWhile_append_of_pos hcs, List.dropWhile_append_of_pos hcs⟩

theorem plain_ofList (h : cs ≠ []) : plain (String.ofList cs) = [.text (String.ofList cs)] := by
  rw [plain, if_neg]
  rw [String.isEmpty_iff, ← String.toList_inj, String.toList_ofList]
  exact h

theorem holeOf?_name (h : isName cs = true) : holeOf? cs = some (.ref (String.ofList cs)) := by
  obtain ⟨htake, hdrop⟩ := takeWhile_name h []
  rw [List.append_nil] at htake hdrop
  rw [holeOf?, htake, hdrop]
  simp [h]

theorem holeOf?_path (h : isName cs = true) (hne : path ≠ []) :
    holeOf? (cs ++ '#' :: path) =
      some (.call "getAttr" [.ref (String.ofList cs), .string (plain (String.ofList path))]) := by
  obtain ⟨htake, hdrop⟩ := takeWhile_name h ('#' :: path)
  obtain ⟨c, path, rfl⟩ := List.exists_cons_of_ne_nil hne
  rw [holeOf?, htake, hdrop]
  simp [h]

/-- What is read of the inside of a hole is spelled by it. -/
theorem spelled_of_holeOf? (hinner : '}' ∉ inner) (h : holeOf? inner = some e) :
    (Item.hole e).Spelled ('{' :: (inner ++ ['}'])) := by
  have hsplit := List.takeWhile_append_dropWhile (p := (· ≠ '#')) (l := inner)
  rw [holeOf?] at h
  split at h
  · rename_i hname
    rw [isName_iff] at hname
    split at h
    · rename_i hdrop
      cases h
      rw [hdrop, List.append_nil] at hsplit
      rw [hsplit] at hname ⊢
      exact .name hname
    · cases h
    · rename_i c path hne hdrop
      have hhash : c = '#' := by
        have hhead := List.head?_dropWhile_not (· ≠ '#') inner
        rw [hdrop] at hhead
        simpa using hhead
      cases h
      have hpath : path ≠ [] := fun h => hne (by rw [h])
      rw [hdrop, hhash] at hsplit
      rw [plain_ofList hpath]
      generalize inner.takeWhile (· ≠ '#') = cs at hname hsplit
      subst hsplit
      refine .path hname hpath fun hmem => hinner ?_
      exact List.mem_append_right cs (List.mem_cons_of_mem '#' hmem)
  · cases h

/-- A hole that is spelled has an inside, which is read as the hole. -/
theorem exists_inner (h : (Item.hole e).Spelled cs) :
    ∃ inner, cs = '{' :: (inner ++ ['}']) ∧ '}' ∉ inner ∧ inner.head? ≠ some '{' ∧ holeOf? inner = some e := by
  have hhead : ∀ {cs : List Char} (rest : List Char), isName cs = true → (cs ++ rest).head? ≠ some '{' := by
    intro cs rest h hhead
    cases cs with
    | nil => cases h
    | cons c cs =>
      cases hhead
      exact (not_mem_of_isName h '{' List.mem_cons_self).1 rfl
  cases h with
  | @name cs hname =>
    rw [← isName_iff] at hname
    refine ⟨cs, rfl, fun h => (not_mem_of_isName hname _ h).2.1 rfl, ?_, holeOf?_name hname⟩
    exact List.append_nil cs ▸ hhead [] hname
  | @path cs path hname hne hpath =>
    rw [← isName_iff] at hname
    refine ⟨cs ++ '#' :: path, rfl, ?_, hhead _ hname, ?_⟩
    · rw [List.mem_append, List.mem_cons]
      rintro (h | h | h)
      · exact (not_mem_of_isName hname _ h).2.1 rfl
      · exact absurd h (by decide)
      · exact hpath h
    · rw [holeOf?_path hname hne, plain_ofList hne]

/-! ### Reading items -/

private theorem scan_hole (n : Nat) (hinner : '}' ∉ inner) (hhead : inner.head? ≠ some '{')
    (he : holeOf? inner = some e) (rest : List Char) :
    scan n ('{' :: (inner ++ '}' :: rest)) = (scan (n + 2 + byteLength inner) rest).map (.hole e :: ·) := by
  have hclose : ∀ c ∈ inner, decide (c ≠ '}') = true := fun c hc => decide_eq_true fun h => hinner (h ▸ hc)
  have htake : (inner ++ '}' :: rest).takeWhile (· ≠ '}') = inner := by
    rw [List.takeWhile_append_of_pos hclose]
    simp
  have hdrop : (inner ++ '}' :: rest).dropWhile (· ≠ '}') = '}' :: rest := by
    rw [List.dropWhile_append_of_pos hclose]
    simp
  rw [scan.eq_5]
  · split
    · rename_i h
      rw [hdrop] at h
      cases h
    · rename_i h
      rw [hdrop] at h
      cases h
      dsimp only
      rw [htake, he]
  · intro rest' h
    cases inner with
    | nil => cases h
    | cons c inner => exact hhead (congrArg some (List.cons.inj h).1)

private theorem byteLength_hole (inner : List Char) : byteLength ('{' :: (inner ++ ['}'])) = 2 + byteLength inner := by
  rw [byteLength_cons, byteLength_append]
  show 1 + (byteLength inner + 1) = _
  omega

/-- An item in front of a text is read first. -/
theorem scan_item (h : i.Spelled cs) (n : Nat) (rest : List Char) :
    scan n (cs ++ rest) = (scan (n + byteLength cs) rest).map (i :: ·) := by
  cases i with
  | char c =>
    cases h with
    | opening => exact scan.eq_2 n rest
    | closing => exact scan.eq_3 n rest
    | char hopen hclose =>
      rw [byteLength_cons, byteLength_nil, Nat.add_zero]
      exact scan.eq_6 n c rest (fun _ h => absurd h hopen) (fun _ h => absurd h hclose) hclose hopen
  | hole e =>
    obtain ⟨inner, rfl, hinner, hhead, he⟩ := exists_inner h
    rw [byteLength_hole, ← Nat.add_assoc, List.cons_append, List.append_assoc]
    exact scan_hole n hinner hhead he rest

/-- Items in front of a text are read first. -/
theorem scan_append (h : Spelled is cs) (n : Nat) (rest : List Char) :
    scan n (cs ++ rest) = (scan (n + byteLength cs) rest).map (is ++ ·) := by
  induction h generalizing n with
  | nil =>
    show scan n rest = (scan n rest).map id
    cases scan n rest <;> rfl
  | @cons i is cs ds h _ ih =>
    rw [List.append_assoc, scan_item h, ih, byteLength_append, Nat.add_assoc]
    cases scan (n + (byteLength cs + byteLength ds)) rest <;> rfl

theorem scan_of_spelled (h : Spelled is cs) (n : Nat) : scan n cs = .ok is := by
  have hscan := scan_append h n []
  rw [List.append_nil, scan.eq_1] at hscan
  rw [hscan]
  exact congrArg Except.ok (List.append_nil is)

/-- The inside of a hole that is closed, and what follows the hole. -/
private theorem closed_of_dropWhile {c : Char} {rest after : List Char}
    (h : rest.dropWhile (· ≠ '}') = c :: after) :
    '{' :: rest = '{' :: (rest.takeWhile (· ≠ '}') ++ ['}']) ++ after ∧ '}' ∉ rest.takeWhile (· ≠ '}') := by
  have hsplit := List.takeWhile_append_dropWhile (p := (· ≠ '}')) (l := rest)
  have hhead := List.head?_dropWhile_not (· ≠ '}') rest
  rw [h] at hhead hsplit
  obtain rfl : c = '}' := by simpa using hhead
  refine ⟨?_, fun hmem => ?_⟩
  · rw [List.cons_append, List.append_assoc, List.singleton_append, hsplit]
  · simpa using List.all_eq_true.1 (List.all_takeWhile (l := rest)) _ hmem

theorem spelled_of_scan (h : scan n cs = .ok is) : Spelled is cs := by
  fun_induction scan n cs generalizing is with
  | case1 =>
    cases h
    exact .nil
  | case2 _ rest ih =>
    obtain ⟨is, his, rfl⟩ := exists_of_map_ok h
    exact .cons .opening (ih his)
  | case3 _ rest ih =>
    obtain ⟨is, his, rfl⟩ := exists_of_map_ok h
    exact .cons .closing (ih his)
  | case7 n rest _ _ _ after hafter inner e he =>
    rename_i ih
    obtain ⟨is, his, rfl⟩ := exists_of_map_ok h
    obtain ⟨hrest, hinner⟩ := closed_of_dropWhile hafter
    rw [hrest]
    exact .cons (spelled_of_holeOf? hinner he) (ih his)
  | case8 _ c rest hopen hclose hclose' hopen' ih =>
    obtain ⟨is, his, rfl⟩ := exists_of_map_ok h
    exact .cons (.char hopen' hclose') (ih his)
  | _ => cases h

/-! ### Mistakes -/

/-- The byte of the brace at which the mistake lies. -/
def Error.offset : Error → Nat
  | unclosed offset | unmatched offset | badHole _ offset => offset

theorem Error.offset_diagnosis (x : Error) (text : String) : (x.diagnosis text).offset = some x.offset := by
  cases x <;> rfl

theorem Item.Spelled.byteLength_pos (h : i.Spelled cs) : 0 < byteLength cs := by
  refine Signpost.byteLength_pos ?_
  cases h <;> exact List.cons_ne_nil _ _

variable {x : Error}

/-- The mistake lies at a brace behind some items. -/
private def LiesBehind (x : Error) (n : Nat) (cs : List Char) : Prop :=
  ∃ is us c vs, cs = us ++ c :: vs ∧ Spelled is us ∧ (c = '{' ∨ c = '}') ∧ x.offset = n + byteLength us

private theorem LiesBehind.here {c : Char} (hc : c = '{' ∨ c = '}') (hx : x.offset = n) : LiesBehind x n (c :: cs) :=
  ⟨[], [], c, cs, rfl, .nil, hc, hx⟩

private theorem LiesBehind.item (hi : i.Spelled cs) (h : LiesBehind x (n + byteLength cs) ds) :
    LiesBehind x n (cs ++ ds) := by
  obtain ⟨is, us, c, vs, rfl, hs, hc, hx⟩ := h
  refine ⟨i :: is, cs ++ us, c, vs, (List.append_assoc _ _ _).symm, .cons hi hs, hc, ?_⟩
  rw [hx, byteLength_append, Nat.add_assoc]

private theorem liesBehind_of_scan (h : scan n cs = .error x) : LiesBehind x n cs := by
  fun_induction scan n cs with
  | case1 => cases h
  | case2 _ _ ih => exact .item .opening (ih (error_of_map_error h))
  | case3 _ _ ih => exact .item .closing (ih (error_of_map_error h))
  | case4 =>
    cases h
    exact .here (.inr rfl) rfl
  | case5 | case6 =>
    cases h
    exact .here (.inl rfl) rfl
  | case7 n rest _ _ _ after hafter inner e he =>
    rename_i ih
    obtain ⟨hrest, hinner⟩ := closed_of_dropWhile hafter
    rw [hrest]
    refine .item (spelled_of_holeOf? hinner he) ?_
    rw [byteLength_hole, ← Nat.add_assoc]
    exact ih (error_of_map_error h)
  | case8 n c rest _ _ hclose hopen ih =>
    refine .item (.char hopen hclose) ?_
    rw [byteLength_cons, byteLength_nil, Nat.add_zero]
    exact ih (error_of_map_error h)

/-- A mistake lies at a brace behind all the items at the front of the text: none is at the front of what is left. -/
theorem exists_of_scan_error (h : scan n cs = .error x) : ∃ is us c vs, cs = us ++ c :: vs ∧ Spelled is us ∧
    (c = '{' ∨ c = '}') ∧ (∀ i w, Item.Spelled i w → ¬ w <+: c :: vs) ∧ x.offset = n + byteLength us := by
  obtain ⟨is, us, c, vs, rfl, hs, hc, hx⟩ := liesBehind_of_scan h
  refine ⟨is, us, c, vs, rfl, hs, hc, ?_, hx⟩
  rintro i w hi ⟨rest, hrest⟩
  rw [scan_append hs, ← hrest, scan_item hi] at h
  obtain ⟨_, ws, _, _, -, -, -, hlater⟩ := liesBehind_of_scan (error_of_map_error (error_of_map_error h))
  have hpos : 0 < byteLength w := hi.byteLength_pos
  omega

/-- Nothing can be read where no item is at the front. -/
theorem scan_of_stuck {c : Char} (h : ∀ i w, Item.Spelled i w → ¬ w <+: c :: cs) (n : Nat) :
    ∃ x, scan n (c :: cs) = .error x ∧ x.offset = n := by
  -- items that are read would have one of them at the front of the text
  have front : ∀ {is : List Item} {us vs : List Char}, Spelled is us → c :: cs = us ++ vs → us = [] := by
    intro is us vs hs heq
    cases hs with
    | nil => rfl
    | @cons i is w us hi hs =>
      refine absurd ?_ (h i w hi)
      rw [heq, List.append_assoc]
      exact List.prefix_append _ _
  cases hscan : scan n (c :: cs) with
  | ok is =>
    have hnil : c :: cs = [] := front (spelled_of_scan hscan) (List.append_nil _).symm
    cases hnil
  | error x =>
    obtain ⟨is, us, d, vs, heq, hs, -, -, hx⟩ := exists_of_scan_error hscan
    obtain rfl := front hs heq
    exact ⟨x, rfl, hx⟩

/-! ### Merging characters -/

/-- Some characters and no text behind them. -/
private theorem join_chars {c : Char} (cs : List Char) (hps : ∀ s ps, join is ≠ .text s :: ps) :
    join ((c :: cs).map .char ++ is) = .text (String.ofList (c :: cs)) :: join is := by
  induction cs generalizing c with
  | nil =>
    rw [List.map_singleton, List.singleton_append, join]
    split
    · rename_i s ps hjoin
      exact absurd hjoin (hps s ps)
    · rfl
  | cons d ds ih =>
    rw [List.map_cons, List.cons_append, join, ih]
    dsimp only
    rw [String.toList_ofList]

theorem Merged.join_eq (h : Merged is t) : join is = t := by
  obtain ⟨rfl, hne, hchain⟩ := h
  induction t with
  | nil => rfl
  | cons p ps ih =>
    have hps := ih (fun s hs => hne s (List.mem_cons_of_mem _ hs)) hchain.tail
    rw [List.flatMap_cons]
    cases p with
    | hole e => rw [itemsOf, List.singleton_append, join, hps]
    | text s =>
      have hs : s.toList ≠ [] := fun h => hne s List.mem_cons_self (String.toList_eq_nil_iff.1 h)
      obtain ⟨c, cs, hcs⟩ := List.exists_cons_of_ne_nil hs
      rw [itemsOf, hcs, join_chars, hps, ← hcs, String.ofList_toList]
      rintro s' ps' hjoin
      rw [hps] at hjoin
      subst hjoin
      exact (List.isChain_cons_cons.1 hchain).1 s s' ⟨rfl, rfl⟩

private theorem Merged.hole (h : Merged is t) : Merged (.hole e :: is) (.hole e :: t) where
  items := by rw [List.flatMap_cons, h.items, itemsOf, List.singleton_append]
  ne_empty s hs := h.ne_empty s ((List.mem_cons.1 hs).resolve_left Part.noConfusion)
  apart := h.apart.cons fun _ _ _ _ h => nomatch h.1

private theorem Merged.first {c : Char} (h : Merged is t) (ht : ∀ s ps, t ≠ .text s :: ps) :
    Merged (.char c :: is) (.text (String.ofList [c]) :: t) where
  items := by
    rw [List.flatMap_cons, h.items, itemsOf, String.toList_ofList]
    rfl
  ne_empty s hs := by
    rcases List.mem_cons.1 hs with hs | hs
    · cases hs
      exact fun h => absurd (String.ofList_eq_empty_iff.1 h) (List.cons_ne_nil _ _)
    · exact h.ne_empty s hs
  apart := h.apart.cons fun q hq s s' hs => by
    obtain ⟨ps, rfl⟩ := List.head?_eq_some_iff.1 hq
    exact ht s' ps (by rw [hs.2])

private theorem Merged.more {c : Char} {s : String} {ps : Template} (h : Merged is (.text s :: ps)) :
    Merged (.char c :: is) (.text (String.ofList (c :: s.toList)) :: ps) where
  items := by
    rw [List.flatMap_cons, itemsOf, String.toList_ofList, ← h.items, List.flatMap_cons, itemsOf]
    rfl
  ne_empty s' hs := by
    rcases List.mem_cons.1 hs with hs | hs
    · cases hs
      exact fun h => absurd (String.ofList_eq_empty_iff.1 h) (List.cons_ne_nil _ _)
    · exact h.ne_empty s' (List.mem_cons_of_mem _ hs)
  apart := h.apart.tail.cons fun q hq _ s' hs => (List.isChain_cons.1 h.apart).1 q hq s s' ⟨rfl, hs.2⟩

theorem merged_join (is : List Item) : Merged is (join is) := by
  induction is with
  | nil => exact ⟨rfl, fun _ h => (nomatch h), List.IsChain.nil⟩
  | cons i is ih =>
    cases i with
    | hole e => exact ih.hole
    | char c =>
      rw [join]
      split
      · rename_i s ps hjoin
        rw [hjoin] at ih
        exact ih.more
      · rename_i hps
        exact ih.first hps

theorem ofText_ok_iff {text : String} : ofText text = .ok t ↔ ∃ is, Spelled is text.toList ∧ Merged is t := by
  constructor
  · intro h
    obtain ⟨is, his, rfl⟩ := exists_of_map_ok h
    exact ⟨is, spelled_of_scan his, merged_join is⟩
  · rintro ⟨is, hs, ht⟩
    rw [ofText, scan_of_spelled hs, ← ht.join_eq]
    rfl

theorem exists_of_ofText_error {text : String} (h : ofText text = .error x) : ∃ is us c vs,
    text.toList = us ++ c :: vs ∧ Spelled is us ∧ (c = '{' ∨ c = '}') ∧
      (∀ i w, Item.Spelled i w → ¬ w <+: c :: vs) ∧ (x.diagnosis text).offset = some (byteLength us) := by
  obtain ⟨is, us, c, vs, heq, hs, hc, hstuck, hx⟩ := exists_of_scan_error (error_of_map_error h)
  refine ⟨is, us, c, vs, heq, hs, hc, hstuck, ?_⟩
  rw [x.offset_diagnosis, hx, Nat.zero_add]

/-- A text is a template exactly if it spells characters and holes, and the template is these, with the characters
between holes merged into one text that is not empty.  A text that is no template spells some characters and holes up to
a brace at which neither a character nor a hole is spelled, and the mistake is at this brace. -/
theorem ofText_grammar (text : String) :
    ((∃ t, ofText text = .ok t) ↔ ∃ is, Spelled is text.toList) ∧
      (∀ t, ofText text = .ok t ↔ ∃ is, Spelled is text.toList ∧ Merged is t) ∧
      ∀ n, (∃ x, ofText text = .error x ∧ (x.diagnosis text).offset = some n) ↔
        ∃ is us c vs, text.toList = us ++ c :: vs ∧ Spelled is us ∧ (c = '{' ∨ c = '}') ∧
          (∀ i w, Item.Spelled i w → ¬ w <+: c :: vs) ∧ n = byteLength us := by
  refine ⟨?_, fun t => ofText_ok_iff, fun n => ⟨?_, ?_⟩⟩
  · constructor
    · rintro ⟨t, h⟩
      obtain ⟨is, hs, -⟩ := ofText_ok_iff.1 h
      exact ⟨is, hs⟩
    · rintro ⟨is, hs⟩
      exact ⟨join is, ofText_ok_iff.2 ⟨is, hs, merged_join is⟩⟩
  · rintro ⟨x, h, hn⟩
    obtain ⟨is, us, c, vs, heq, hs, hc, hstuck, hx⟩ := exists_of_ofText_error h
    exact ⟨is, us, c, vs, heq, hs, hc, hstuck, Option.some.inj (hn.symm.trans hx)⟩
  · rintro ⟨is, us, c, vs, heq, hs, -, hstuck, rfl⟩
    obtain ⟨x, hscan, hx⟩ := scan_of_stuck hstuck (0 + byteLength us)
    refine ⟨x, ?_, ?_⟩
    · rw [ofText, heq, scan_append hs, hscan]
      rfl
    · rw [x.offset_diagnosis, hx, Nat.zero_add]

end Signpost.Rules.Template
