import Signpost.Proofs.Rules.Grammar

/-!
# Templates that are read, written and read again

A template that is read is written as text that can be read again (`ofText_render_eq`).  Its texts come back, because
every brace in them is doubled, and so do the names in its holes.  The path in a hole is written with its braces
doubled as well, but a hole is read as it stands: the template comes back exactly if no path of it has an opening brace
(`ofText_render_eq_self_iff`).
-/

namespace Signpost.Rules.Template

open Rules.Expr (writeText writeTemplate)

/-- A character of text as it is written. -/
def writeChar (c : Char) : List Char :=
  if c = '{' then ['{', '{'] else if c = '}' then ['}', '}'] else [c]

/-- A character or a hole as it is written. -/
def Item.write : Item → List Char
  | char c => writeChar c
  | hole e => writeTemplate [.hole e]

/-- What is read of a hole that is written: the text of its path, in which braces are doubled, as it stands. -/
def reread : Expr → Expr
  | .call name [.ref target, .string path] =>
    .call name [.ref target, .string (plain (String.ofList (writeTemplate path)))]
  | e => e

def Item.reread : Item → Item
  | char c => char c
  | hole e => hole (Template.reread e)

/-- What is read of a part that is written. -/
def rereadPart : Part → Part
  | .text s => .text s
  | .hole e => .hole (reread e)

/-- What the holes of templates that are read hold. -/
inductive InHole : Expr → Prop
  | name {cs : List Char} (h : isName cs = true) : InHole (.ref (String.ofList cs))
  | path {cs path : List Char} (h : isName cs = true) (hne : path ≠ []) (hpath : '}' ∉ path) :
    InHole (.call "getAttr" [.ref (String.ofList cs), .string (plain (String.ofList path))])

/-! ### Written texts -/

theorem writeText_eq (s : String) : writeText s = s.toList.flatMap writeChar := rfl

private theorem length_writeChar (c : Char) : (writeChar c).length = if c = '{' ∨ c = '}' then 2 else 1 := by
  unfold writeChar
  split <;> split <;> simp_all

private theorem length_le_written (cs : List Char) : cs.length ≤ (cs.flatMap writeChar).length := by
  induction cs with
  | nil => exact Nat.le_refl _
  | cons c cs ih =>
    rw [List.flatMap_cons, List.length_append, List.length_cons, length_writeChar]
    split <;> omega

theorem written_ne_nil {cs : List Char} (h : cs ≠ []) : cs.flatMap writeChar ≠ [] := by
  have hlength := length_le_written cs
  intro hnil
  rw [hnil, List.length_nil] at hlength
  exact h (List.eq_nil_of_length_eq_zero (Nat.le_zero.1 hlength))

/-- A text without closing braces is written as it is exactly if it has no opening brace either. -/
theorem written_eq_self_iff {cs : List Char} (h : '}' ∉ cs) : cs.flatMap writeChar = cs ↔ '{' ∉ cs := by
  induction cs with
  | nil => simp
  | cons c cs ih =>
    obtain ⟨hc, hcs⟩ := not_or.1 (mt List.mem_cons.2 h)
    rw [List.flatMap_cons, List.mem_cons, not_or]
    by_cases hopen : c = '{'
    · refine ⟨fun heq => ?_, fun h => absurd hopen.symm h.1⟩
      -- two characters stand for one, and no character is left out
      have hlength := congrArg List.length heq
      have hle := length_le_written cs
      rw [List.length_append, length_writeChar, if_pos (.inl hopen), List.length_cons] at hlength
      omega
    · rw [writeChar, if_neg hopen, if_neg fun h => hc h.symm, List.singleton_append, List.cons.injEq]
      simp only [true_and, ih hcs]
      exact ⟨fun h => ⟨fun h => hopen h.symm, h⟩, fun h => h.2⟩

private theorem not_mem_written {cs : List Char} (h : '}' ∉ cs) : '}' ∉ cs.flatMap writeChar := by
  rintro hmem
  obtain ⟨c, hc, hmem⟩ := List.mem_flatMap.1 hmem
  have hne : c ≠ '}' := fun heq => h (heq ▸ hc)
  rw [writeChar, if_neg hne] at hmem
  split at hmem
  · simp at hmem
  · exact hne (List.mem_singleton.1 hmem).symm

theorem writeTemplate_plain (s : String) : writeTemplate (plain s) = writeText s := by
  unfold plain
  split
  · rename_i h
    rw [String.isEmpty_iff.1 h]
    rfl
  · rw [writeTemplate, writeTemplate, List.append_nil]

/-! ### Reading what is written -/

theorem spelled_writeChar (c : Char) : (Item.char c).Spelled (writeChar c) := by
  unfold writeChar
  split
  · rename_i hc
    exact hc ▸ .opening
  · rename_i hopen
    split
    · rename_i hc
      exact hc ▸ .closing
    · rename_i hclose
      exact .char hopen hclose

/-- A hole that is written spells the hole that is read of it. -/
theorem spelled_write_hole {e : Expr} (h : InHole e) : (Item.hole (reread e)).Spelled (writeTemplate [.hole e]) := by
  cases h with
  | @name cs hname =>
    rw [writeTemplate, Expr.write, String.toList_ofList]
    · exact .name (isName_iff.1 hname)
    · intro _ _ _ h
      cases h
  | @path cs path hname hne hpath =>
    rw [reread, writeTemplate_plain, writeText_eq, String.toList_ofList, plain_ofList (written_ne_nil hne),
      writeTemplate, if_pos rfl, writeTemplate, writeTemplate_plain, writeText_eq, String.toList_ofList,
      String.toList_ofList]
    simpa using Item.Spelled.path (isName_iff.1 hname) (written_ne_nil hne) (not_mem_written hpath)

theorem spelled_write {is : List Item} (h : ∀ e, .hole e ∈ is → InHole e) :
    Spelled (is.map Item.reread) (is.flatMap Item.write) := by
  induction is with
  | nil => exact .nil
  | cons i is ih =>
    rw [List.flatMap_cons, List.map_cons]
    refine .cons ?_ (ih fun e he => h e (List.mem_cons_of_mem _ he))
    cases i with
    | char c => exact spelled_writeChar c
    | hole e => exact spelled_write_hole (h e List.mem_cons_self)

theorem inHole_of_spelled {is : List Item} {cs : List Char} (h : Spelled is cs) : ∀ e, .hole e ∈ is → InHole e := by
  induction h with
  | nil => exact fun _ h => nomatch h
  | cons hi _ ih =>
    intro e he
    rcases List.mem_cons.1 he with rfl | he
    · cases hi with
      | name hname => exact .name (isName_iff.2 hname)
      | path hname hne hpath =>
        rw [← plain_ofList hne]
        exact .path (isName_iff.2 hname) hne hpath
    · exact ih e he

/-! ### Joined characters -/

theorem writeTemplate_hole (e : Expr) (ps : Template) :
    writeTemplate (.hole e :: ps) = writeTemplate [.hole e] ++ writeTemplate ps := by
  by_cases h : ∃ name target path, e = .call name [.ref target, .string path]
  · obtain ⟨name, target, path, rfl⟩ := h
    rw [writeTemplate, writeTemplate, writeTemplate.eq_1, List.append_nil]
  · have hne : ∀ name target path, e = .call name [.ref target, .string path] → False :=
      fun name target path heq => h ⟨name, target, path, heq⟩
    rw [writeTemplate, writeTemplate, writeTemplate.eq_1]
    · simp
    · exact hne
    · exact hne

theorem write_join (is : List Item) : writeTemplate (join is) = is.flatMap Item.write := by
  induction is with
  | nil => rfl
  | cons i is ih =>
    rw [List.flatMap_cons, ← ih]
    cases i with
    | hole e => rw [join, writeTemplate_hole, Item.write]
    | char c =>
      rw [join]
      split
      · rename_i s ps hjoin
        rw [hjoin, writeTemplate, writeTemplate, writeText_eq, String.toList_ofList, List.flatMap_cons,
          List.append_assoc]
        rfl
      · rw [writeTemplate, writeText_eq, String.toList_ofList, List.flatMap_singleton]
        rfl

theorem join_reread (is : List Item) : join (is.map Item.reread) = (join is).map rereadPart := by
  induction is with
  | nil => rfl
  | cons i is ih =>
    rw [List.map_cons]
    cases i with
    | hole e =>
      rw [Item.reread, join, join, ih]
      rfl
    | char c =>
      rw [Item.reread, join, join, ih]
      cases join is with
      | nil => rfl
      | cons p ps => cases p <;> rfl

theorem hole_mem_join {is : List Item} {e : Expr} (h : Part.hole e ∈ join is) : .hole e ∈ is := by
  induction is with
  | nil => cases h
  | cons i is ih =>
    refine List.mem_cons.2 ?_
    cases i with
    | hole e' =>
      rw [join, List.mem_cons, Part.hole.injEq] at h
      exact h.imp (congrArg Item.hole) ih
    | char c =>
      refine .inr (ih ?_)
      rw [join] at h
      split at h
      · rename_i s ps hjoin
        rw [hjoin]
        exact List.mem_cons_of_mem _ ((List.mem_cons.1 h).resolve_left (by simp))
      · exact (List.mem_cons.1 h).resolve_left (by simp)

/-! ### Reading again -/

theorem inHole_of_ofText {text : String} {t : Template} (h : ofText text = .ok t) : ∀ e, .hole e ∈ t → InHole e := by
  obtain ⟨is, his, rfl⟩ := exists_of_map_ok h
  exact fun e he => inHole_of_spelled (spelled_of_scan his) e (hole_mem_join he)

/-- What is read of a template that has been read and written. -/
theorem ofText_render_eq {text : String} {t : Template} (h : ofText text = .ok t) :
    ofText t.render = .ok (t.map rereadPart) := by
  obtain ⟨is, his, rfl⟩ := exists_of_map_ok h
  have hspelled := spelled_write (inHole_of_spelled (spelled_of_scan his))
  rw [ofText, render, String.toList_ofList, write_join, scan_of_spelled hspelled, ← join_reread]
  rfl

private theorem merged_plain (s : String) : Merged (s.toList.map .char) (plain s) := by
  rw [plain]
  split
  · rename_i hs
    obtain rfl := String.isEmpty_iff.1 hs
    exact merged_join []
  · rename_i hs
    rw [String.isEmpty_iff] at hs
    refine ⟨by simp [itemsOf], fun s' hs' => ?_, List.isChain_singleton _⟩
    cases List.mem_singleton.1 hs'
    exact hs

/-- A text without braces is read as it stands. -/
theorem ofText_plain {s : String} (hopen : '{' ∉ s.toList) (hclose : '}' ∉ s.toList) : ofText s = .ok (plain s) := by
  have hspelled : Spelled ((s.toList.map Item.char).map Item.reread) ((s.toList.map Item.char).flatMap Item.write) :=
    spelled_write fun e he => absurd he (by simp)
  have hwritten : (s.toList.map Item.char).flatMap Item.write = s.toList := by
    rw [List.flatMap_map]
    exact (written_eq_self_iff hclose).2 hopen
  rw [hwritten, List.map_map] at hspelled
  exact ofText_ok_iff.2 ⟨_, hspelled, merged_plain s⟩

/-- What a hole holds comes back exactly if it has no path with an opening brace. -/
theorem reread_eq_self_iff {e : Expr} (h : InHole e) : reread e = e ↔
    ∀ target path, e = .call "getAttr" [.ref target, .string [.text path]] → '{' ∉ path.toList := by
  cases h with
  | name => exact ⟨fun _ _ _ h => (by cases h), fun _ => rfl⟩
  | @path cs path hname hne hpath =>
    rw [reread, writeTemplate_plain, writeText_eq, String.toList_ofList, plain_ofList hne,
      plain_ofList (written_ne_nil hne)]
    constructor
    · intro heq _ _ h
      cases h
      rw [String.toList_ofList]
      refine (written_eq_self_iff hpath).1 (String.ofList_injective ?_)
      simpa using heq
    · intro h
      have hopen := h _ _ rfl
      rw [String.toList_ofList] at hopen
      rw [(written_eq_self_iff hpath).2 hopen]

/-- A template that is read comes back from its own text exactly if no path in it has an opening brace. -/
theorem ofText_render_eq_self_iff {text : String} {t : Template} (h : ofText text = .ok t) :
    ofText t.render = .ok t ↔
      ∀ target path, .hole (.call "getAttr" [.ref target, .string [.text path]]) ∈ t → '{' ∉ path.toList := by
  have hself : t.map rereadPart = t ↔ ∀ p ∈ t, rereadPart p = p := by
    rw [← List.map_inj_left, List.map_id']
  rw [ofText_render_eq h, Except.ok.injEq, hself]
  constructor
  · intro hparts target path hmem
    have hhole := Part.hole.inj (hparts _ hmem)
    exact (reread_eq_self_iff (inHole_of_ofText h _ hmem)).1 hhole target path rfl
  · intro hpaths p hp
    cases p with
    | text s => rfl
    | hole e =>
      refine congrArg Part.hole ((reread_eq_self_iff (inHole_of_ofText h e hp)).2 ?_)
      rintro target path rfl
      exact hpaths target path hp

theorem ofText_render_eq_self_iff_suffix :
    (∃ t, ofText "\x7b\x7b\x7bRegion\x7d.\x7bPartition#dnsSuffix\x7d\x7d\x7d" = .ok t ∧ ofText t.render = .ok t) ∧
      ∃ t, ofText "\x7bPartition#dns\x7bSuffix\x7d" = .ok t ∧ ofText t.render ≠ .ok t := by
  have hplain : ofText "\x7b\x7b\x7bRegion\x7d.\x7bPartition#dnsSuffix\x7d\x7d\x7d" =
      .ok [.text "\x7b", .hole (.ref "Region"), .text ".",
        .hole (.call "getAttr" [.ref "Partition", .string [.text "dnsSuffix"]]), .text "\x7d"] := by
    cbv
  have hbrace : ofText "\x7bPartition#dns\x7bSuffix\x7d" =
      .ok [.hole (.call "getAttr" [.ref "Partition", .string [.text "dns\x7bSuffix"]])] := by
    cbv
  refine ⟨⟨_, hplain, (ofText_render_eq_self_iff hplain).2 ?_⟩, _, hbrace, fun h => ?_⟩
  · intro target path hmem
    obtain ⟨-, rfl⟩ : "Partition" = target ∧ "dnsSuffix" = path := by simpa [eq_comm] using hmem
    decide
  · have hpath := (ofText_render_eq_self_iff hbrace).1 h "Partition" "dns\x7bSuffix" List.mem_cons_self
    exact hpath (by decide)

end Signpost.Rules.Template
