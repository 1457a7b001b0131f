import Mathlib.Tactic.Common
import Signpost.Json.Value
import Signpost.Proofs.Except

/-!
# The grammar of JSON text

Which text says which value, said without a reader.  `Says rule part cs rest` means that `cs` starts with text that says
the part, and that `rest` follows it.  The reader, which goes over a text into an outline and then reads the outline,
accepts exactly the texts of the grammar (`ofText_ok_iff`): what the grammar derives is read (`readsAs_of_says`), and
what is read has a derivation (`says_of_read`).
-/

namespace Signpost.Json

/-- What text can say. -/
inductive Part where
  /-- A value at a level. -/
  | value (level : Nat) (v : Value)
  /-- The items of a list up to its bracket, behind the opening bracket or behind an item. -/
  | items (level : Nat) (first : Bool) (vs : List Value)
  /-- An item and those after it. -/
  | item (level : Nat) (vs : List Value)
  /-- The entries of an object up to its brace, behind the opening brace or behind an entry. -/
  | entries (level : Nat) (first : Bool) (es : List (String × Value))
  /-- An entry behind the opening quote of its key, and those after it. -/
  | entry (level : Nat) (es : List (String × Value))

open Outline (isBlank skipBlanks maxLevel)

/-- The text says the part, up to the rest. -/
inductive Says (rule : RealRule) : Part → List Char → List Char → Prop
  | blank {level v c cs rest} (hc : isBlank c = true) (h : Says rule (.value level v) cs rest) :
    Says rule (.value level v) (c :: cs) rest
  | null {level rest} : Says rule (.value level .null) ('n' :: 'u' :: 'l' :: 'l' :: rest) rest
  | true {level rest} : Says rule (.value level (.bool true)) ('t' :: 'r' :: 'u' :: 'e' :: rest) rest
  | false {level rest} : Says rule (.value level (.bool false)) ('f' :: 'a' :: 'l' :: 's' :: 'e' :: rest) rest
  | number {level n c cs rest} (hc : c = '-' ∨ c.isDigit = true)
    (h : Number.scan rule (c :: cs) = (⟨.ok n, none⟩, rest)) : Says rule (.value level (.number n)) (c :: cs) rest
  | string {level s cs rest} (h : Quoted.scan cs = (⟨.ok s, none⟩, rest)) :
    Says rule (.value level (.string s)) ('"' :: cs) rest
  | array {level vs cs rest} (hl : level < maxLevel) (h : Says rule (.items level true vs) cs rest) :
    Says rule (.value level (.array vs)) ('[' :: cs) rest
  | object {level es cs rest} (hl : level < maxLevel) (h : Says rule (.entries level true es) cs rest) :
    Says rule (.value level (.object (sortEntries es))) ('{' :: cs) rest
  | blankItems {level first vs c cs rest} (hc : isBlank c = true) (h : Says rule (.items level first vs) cs rest) :
    Says rule (.items level first vs) (c :: cs) rest
  | noItems {level first rest} : Says rule (.items level first []) (']' :: rest) rest
  | firstItem {level vs c cs rest} (hc : isBlank c = false) (h : Says rule (.item level vs) (c :: cs) rest) :
    Says rule (.items level true vs) (c :: cs) rest
  | nextItem {level vs cs rest} (h : Says rule (.item level vs) (skipBlanks cs) rest) :
    Says rule (.items level false vs) (',' :: cs) rest
  | item {level v vs cs mid rest} (hv : Says rule (.value (level + 1) v) cs mid)
    (hvs : Says rule (.items level false vs) mid rest) : Says rule (.item level (v :: vs)) cs rest
  | blankEntries {level first es c cs rest} (hc : isBlank c = true)
    (h : Says rule (.entries level first es) cs rest) : Says rule (.entries level first es) (c :: cs) rest
  | noEntries {level first rest} : Says rule (.entries level first []) ('}' :: rest) rest
  | firstEntry {level es cs rest} (h : Says rule (.entry level es) cs rest) :
    Says rule (.entries level true es) ('"' :: cs) rest
  | nextEntry {level es cs cs' rest} (hc : skipBlanks cs = '"' :: cs') (h : Says rule (.entry level es) cs' rest) :
    Says rule (.entries level false es) (',' :: cs) rest
  | entry {level k v es cs mid vs mid' rest} (hk : Quoted.scan cs = (⟨.ok k, none⟩, mid))
    (hc : skipBlanks mid = ':' :: vs) (hv : Says rule (.value (level + 1) v) vs mid')
    (hes : Says rule (.entries level false es) mid' rest) : Says rule (.entry level ((k, v) :: es)) cs rest

/-! ### Steps of the reader -/

namespace Outline

variable {α : Type} {m n : Nat} {rule : RealRule} {level : Nat} {c : Char} {cs : List Char}

/-- What a step reads, and the text after it if it can be read on. -/
def Step.result (s : Step α n) : α × Option (List Char) := (s.value, s.rest.map (·.1))

@[simp] theorem Step.result_weaken (h : m ≤ n) (s : Step α m) : (s.weaken h).result = s.result := by
  simp [result, weaken, Option.map_map, Function.comp_def]

private theorem result_map (a : α) (x : Option { cs : List Char // cs.length < m })
    (f : { cs : List Char // cs.length < m } → { cs : List Char // cs.length < n }) (hf : ∀ r, (f r).1 = r.1) :
    (⟨a, x.map f⟩ : Step α n).result = (a, x.map (·.1)) := by
  simp [Step.result, Option.map_map, Function.comp_def, hf]

theorem result_word (o : Outline) (es rest : List Char) : (word o (es ++ rest) es).result = (o, some rest) := by
  induction es with
  | nil =>
    rw [List.nil_append, word]
    rfl
  | cons e es ih =>
    rw [List.cons_append, word, if_pos rfl, Step.result_weaken]
    exact ih

private theorem result_scalar (make : Scanned α → Outline) (s : Scanned α × List Char) (h : s.2.length < n) :
    (scalar make s h).result = (make s.1, if s.1.skip.isSome then none else some s.2) := by
  unfold scalar Step.result
  split <;> rfl

/-- The first step of reading a value. -/
theorem result_value : (value rule level (c :: cs)).result =
    if isBlank c then (value rule level cs).result
    else if c = 'n' then (word .null cs ['u', 'l', 'l']).result
    else if c = 't' then (word (.bool true) cs ['r', 'u', 'e']).result
    else if c = 'f' then (word (.bool false) cs ['a', 'l', 's', 'e']).result
    else if c = '"' then
      (.string (Quoted.scan cs).1, if (Quoted.scan cs).1.skip.isSome then none else some (Quoted.scan cs).2)
    else if c = '-' ∨ c.isDigit then
      (.number (Number.scan rule (c :: cs)).1,
        if (Number.scan rule (c :: cs)).1.skip.isSome then none else some (Number.scan rule (c :: cs)).2)
    else if c = '[' then
      (.list level (items rule level true cs).result.1.1 (items rule level true cs).result.1.2,
        (items rule level true cs).result.2)
    else if c = '{' then
      (.object level (entries rule level true cs).result.1.1 (entries rule level true cs).result.1.2,
        (entries rule level true cs).result.2)
    else (.broken .noValue, none) := by
  rw [value.eq_def]
  dsimp only
  split
  · exact Step.result_weaken _ _
  · split
    · rfl
    · split
      · rfl
      · split
        · rfl
        · split
          · exact result_scalar _ _ _
          · split
            · exact result_scalar _ _ _
            · split
              · exact result_map _ _ _ fun _ => rfl
              · split
                · exact result_map _ _ _ fun _ => rfl
                · rfl

/-- The first step of reading the items of a list. -/
theorem result_items {first : Bool} : (items rule level first (c :: cs)).result =
    if isBlank c then (items rule level first cs).result
    else if c = ']' then (([], .closed), some cs)
    else if first then (item rule level (c :: cs)).result
    else if c = ',' then
      match skipBlanks cs with
      | [] => (([], .cut true), none)
      | d :: rest => if d = ']' then (([], .danglingComma), none) else (item rule level (d :: rest)).result
    else (([], .noComma), none) := by
  rw [items.eq_def]
  dsimp only
  split
  · exact Step.result_weaken _ _
  · split
    · rfl
    · split
      · exact Step.result_weaken _ _
      · split
        · split
          · rename_i h
            conv_rhs => rw [h]
            rfl
          · rename_i h
            conv_rhs => rw [h]
            dsimp only
            split
            · rfl
            · exact Step.result_weaken _ _
        · rfl

theorem result_item : (item rule level cs).result =
    match (value rule (level + 1) cs).result with
    | (o, none) => (([o], .unknown), none)
    | (o, some rest) =>
      ((o :: (items rule level false rest).result.1.1, (items rule level false rest).result.1.2),
        (items rule level false rest).result.2) := by
  rw [item.eq_def]
  dsimp only
  split
  · rename_i h
    simp only [Step.result, h]
    rfl
  · rename_i h
    simp only [Step.result, h]
    exact result_map _ _ _ fun _ => rfl

/-- The first step of reading the entries of an object. -/
theorem result_entries {first : Bool} : (entries rule level first (c :: cs)).result =
    if isBlank c then (entries rule level first cs).result
    else if c = '}' then (([], .closed), some cs)
    else if first then if c = '"' then (entry rule level cs).result else (([], .noKey (c :: cs)), none)
    else if c = ',' then
      match skipBlanks cs with
      | [] => (([], .cut true), none)
      | d :: rest =>
        if d = '"' then (entry rule level rest).result
        else if d = '}' then (([], .danglingComma), none)
        else (([], .noKey (d :: rest)), none)
    else (([], .noComma), none) := by
  rw [entries.eq_def]
  dsimp only
  split
  · exact Step.result_weaken _ _
  · split
    · rfl
    · split
      · split
        · exact Step.result_weaken _ _
        · rfl
      · split
        · split
          · rename_i h
            conv_rhs => rw [h]
            rfl
          · rename_i h
            conv_rhs => rw [h]
            dsimp only
            split
            · exact Step.result_weaken _ _
            · split <;> rfl
        · rfl

theorem result_entry : (entry rule level cs).result =
    if (Quoted.scan cs).1.skip.isSome then (([], .badKey (Quoted.scan cs).1), none)
    else
      match skipBlanks (Quoted.scan cs).2 with
      | [] => (([((Quoted.scan cs).1, .broken .endInObject)], .unknown), none)
      | c :: rest =>
        if c = ':' then
          match (value rule (level + 1) rest).result with
          | (o, none) => (([((Quoted.scan cs).1, o)], .unknown), none)
          | (o, some rest) =>
            ((((Quoted.scan cs).1, o) :: (entries rule level false rest).result.1.1,
              (entries rule level false rest).result.1.2), (entries rule level false rest).result.2)
        else (([((Quoted.scan cs).1, .broken .noColon)], .unknown), none) := by
  rw [entry.eq_def]
  dsimp only
  split
  · rfl
  · split
    · rename_i h
      conv_rhs => rw [h]
      rfl
    · rename_i h
      conv_rhs => rw [h]
      dsimp only
      split
      · split
        · rename_i h'
          simp only [Step.result, h']
          rfl
        · rename_i h'
          simp only [Step.result, h']
          exact result_map _ _ _ fun _ => rfl
      · rfl

/-! ### Values that are read -/

variable {level : Nat} {os : List Outline} {es : List (Scanned String × Outline)} {ending : Ending} {v : Value}

theorem exists_of_read_list (h : (list level os ending).read = .ok v) :
    level < maxLevel ∧ ending.list? = none ∧ ∃ vs, readItems os = .ok vs ∧ v = .array vs := by
  rw [read] at h
  split at h
  · cases h
  · rename_i hlevel
    obtain ⟨vs, hvs, h⟩ := exists_of_bind_ok h
    split at h
    · cases h
    · rename_i hending
      cases h
      exact ⟨Nat.not_le.1 hlevel, hending, vs, hvs, rfl⟩

theorem exists_of_read_object (h : (object level es ending).read = .ok v) :
    level < maxLevel ∧ ending.object? = none ∧ ∃ fs, readEntries es = .ok fs ∧ v = .object (sortEntries fs) := by
  rw [read] at h
  split at h
  · cases h
  · rename_i hlevel
    obtain ⟨fs, hfs, h⟩ := exists_of_bind_ok h
    split at h
    · cases h
    · rename_i hending
      cases h
      exact ⟨Nat.not_le.1 hlevel, hending, fs, hfs, rfl⟩

theorem exists_of_readItems_cons {o : Outline} {vs : List Value} (h : readItems (o :: os) = .ok vs) :
    ∃ w ws, o.read = .ok w ∧ readItems os = .ok ws ∧ vs = w :: ws := by
  obtain ⟨w, hw, h⟩ := exists_of_bind_ok h
  obtain ⟨ws, hws, h⟩ := exists_of_bind_ok h
  exact ⟨w, ws, hw, hws, (Except.ok.inj h).symm⟩

theorem exists_of_readEntries_cons {k : Scanned String} {o : Outline} {fs : List (String × Value)}
    (h : readEntries ((k, o) :: es) = .ok fs) :
    ∃ key w gs, k.read = .ok key ∧ o.read = .ok w ∧ readEntries es = .ok gs ∧ fs = (key, w) :: gs := by
  obtain ⟨key, hkey, h⟩ := exists_of_bind_ok h
  obtain ⟨w, hw, h⟩ := exists_of_bind_ok h
  obtain ⟨gs, hgs, h⟩ := exists_of_bind_ok h
  exact ⟨key, w, gs, hkey, hw, hgs, (Except.ok.inj h).symm⟩

end Outline

open Outline (value items item entries entry readItems readEntries)

/-! ### What the grammar derives is read -/

/-- The part is what is read of the text, and the rest is left. -/
def ReadsAs (rule : RealRule) : Part → List Char → List Char → Prop
  | .value level v, cs, rest => ∃ o, (value rule level cs).result = (o, some rest) ∧ o.read = .ok v
  | .items level first vs, cs, rest => ∃ os ending,
    (items rule level first cs).result = ((os, ending), some rest) ∧ readItems os = .ok vs ∧ ending.list? = none
  | .item level vs, cs, rest => ∃ os ending,
    (item rule level cs).result = ((os, ending), some rest) ∧ readItems os = .ok vs ∧ ending.list? = none
  | .entries level first es, cs, rest => ∃ os ending,
    (entries rule level first cs).result = ((os, ending), some rest) ∧ readEntries os = .ok es ∧ ending.object? = none
  | .entry level es, cs, rest => ∃ os ending,
    (entry rule level cs).result = ((os, ending), some rest) ∧ readEntries os = .ok es ∧ ending.object? = none

variable {rule : RealRule} {part : Part} {cs rest : List Char}

theorem not_isBlank_of_number {c : Char} (hc : c = '-' ∨ c.isDigit = true) :
    isBlank c = false ∧ c ∉ ['n', 't', 'f', '"'] := by
  rcases hc with rfl | hc
  · decide
  · have hne : ∀ d : Char, d.isDigit = false → c ≠ d := by
      rintro d hd rfl
      rw [hc] at hd
      cases hd
    simp [isBlank, hne]

/-- An item does not start with a bracket, and not at the end of the text. -/
private theorem exists_cons_of_item {level : Nat} {vs : List Value} (h : ReadsAs rule (.item level vs) cs rest) :
    ∃ c cs', cs = c :: cs' ∧ c ≠ ']' := by
  obtain ⟨os, ending, hres, -⟩ := h
  rw [Outline.result_item] at hres
  cases cs with
  | nil =>
    rw [value.eq_def] at hres
    cases hres
  | cons c cs =>
    refine ⟨c, cs, rfl, ?_⟩
    rintro rfl
    rw [Outline.result_value] at hres
    cases hres

theorem readsAs_of_says (h : Says rule part cs rest) : ReadsAs rule part cs rest := by
  induction h with
  | blank hc _ ih =>
    obtain ⟨o, hres, ho⟩ := ih
    exact ⟨o, by rw [Outline.result_value, if_pos hc, hres], ho⟩
  | @null level rest => exact ⟨.null, Outline.result_value.trans (Outline.result_word _ ['u', 'l', 'l'] rest), rfl⟩
  | @true level rest => exact ⟨.bool true, Outline.result_value.trans (Outline.result_word _ ['r', 'u', 'e'] rest), rfl⟩
  | @false level rest =>
    exact ⟨.bool false, Outline.result_value.trans (Outline.result_word _ ['a', 'l', 's', 'e'] rest), rfl⟩
  | @number level n c cs rest hc hn =>
    obtain ⟨hblank, hne⟩ := not_isBlank_of_number hc
    simp only [List.mem_cons, List.not_mem_nil, or_false, not_or] at hne
    refine ⟨.number ⟨.ok n, none⟩, ?_, rfl⟩
    rw [Outline.result_value, hn]
    simp [hblank, hne, hc]
  | @string level s cs rest hs =>
    refine ⟨.string ⟨.ok s, none⟩, ?_, rfl⟩
    rw [Outline.result_value, hs]
    rfl
  | @array level vs cs rest hl _ ih =>
    obtain ⟨os, ending, hres, hos, hending⟩ := ih
    refine ⟨.list level os ending, ?_, ?_⟩
    · rw [Outline.result_value, hres]
      rfl
    · rw [Outline.read, if_neg (Nat.not_le.2 hl), hos]
      simp [hending, Except.bind, bind]
  | @object level es cs rest hl _ ih =>
    obtain ⟨os, ending, hres, hos, hending⟩ := ih
    refine ⟨.object level os ending, ?_, ?_⟩
    · rw [Outline.result_value, hres]
      rfl
    · rw [Outline.read, if_neg (Nat.not_le.2 hl), hos]
      simp [hending, Except.bind, bind]
  | blankItems hc _ ih =>
    obtain ⟨os, ending, hres, hos⟩ := ih
    exact ⟨os, ending, by rw [Outline.result_items, if_pos hc, hres], hos⟩
  | noItems => exact ⟨[], .closed, Outline.result_items, rfl, rfl⟩
  | @firstItem level vs c cs rest hc h ih =>
    obtain ⟨_, _, hcons, hne⟩ := exists_cons_of_item ih
    obtain ⟨rfl, rfl⟩ := List.cons.inj hcons
    obtain ⟨os, ending, hres, hos⟩ := ih
    refine ⟨os, ending, ?_, hos⟩
    rw [Outline.result_items, if_neg (by simp [hc]), if_neg hne, if_pos rfl, hres]
  | nextItem _ ih =>
    obtain ⟨d, ds, hcons, hne⟩ := exists_cons_of_item ih
    obtain ⟨os, ending, hres, hos⟩ := ih
    refine ⟨os, ending, ?_, hos⟩
    rw [Outline.result_items, hcons]
    rw [hcons] at hres
    simp [isBlank, hne, hres]
  | item _ _ ihv ihvs =>
    obtain ⟨o, hres, ho⟩ := ihv
    obtain ⟨os, ending, hres', hos, hending⟩ := ihvs
    refine ⟨o :: os, ending, ?_, ?_, hending⟩
    · rw [Outline.result_item, hres]
      simp only [hres']
    · rw [readItems, ho, hos]
      rfl
  | blankEntries hc _ ih =>
    obtain ⟨os, ending, hres, hos⟩ := ih
    exact ⟨os, ending, by rw [Outline.result_entries, if_pos hc, hres], hos⟩
  | noEntries => exact ⟨[], .closed, Outline.result_entries, rfl, rfl⟩
  | firstEntry _ ih =>
    obtain ⟨os, ending, hres, hos⟩ := ih
    refine ⟨os, ending, ?_, hos⟩
    rw [Outline.result_entries, hres]
    rfl
  | nextEntry hc _ ih =>
    obtain ⟨os, ending, hres, hos⟩ := ih
    refine ⟨os, ending, ?_, hos⟩
    rw [Outline.result_entries, hc]
    simp [isBlank, hres]
  | @entry level k v es cs mid vs mid' rest hk hc _ _ ihv ihes =>
    obtain ⟨o, hres, ho⟩ := ihv
    obtain ⟨os, ending, hres', hos, hending⟩ := ihes
    refine ⟨(⟨.ok k, none⟩, o) :: os, ending, ?_, ?_, hending⟩
    · rw [Outline.result_entry, hk, hc]
      simp [hres, hres']
    · rw [readEntries, ho, hos]
      rfl

/-! ### What is read has a derivation -/

private theorem exists_of_word {o : Outline} {v : Value} {es : List Char} {x : Option (List Char)} {o' : Outline}
    (h : (Outline.word o cs es).result = (o', x)) (hv : o'.read = .ok v) :
    o' = o ∧ ∃ rest, x = some rest ∧ cs = es ++ rest := by
  induction es generalizing cs with
  | nil =>
    rw [Outline.word] at h
    obtain ⟨rfl, rfl⟩ := Prod.mk.inj h
    exact ⟨rfl, cs, rfl, rfl⟩
  | cons e es ih =>
    cases cs with
    | nil =>
      rw [Outline.word] at h
      obtain ⟨rfl, -⟩ := Prod.mk.inj h
      cases hv
    | cons c cs =>
      rw [Outline.word] at h
      split at h
      · rename_i hc
        rw [Outline.Step.result_weaken] at h
        obtain ⟨ho, rest, hx, hrest⟩ := ih h
        exact ⟨ho, rest, hx, by rw [hrest, hc]; rfl⟩
      · obtain ⟨rfl, -⟩ := Prod.mk.inj h
        cases hv

/-- Pieces are joined only of a string that is closed. -/
private theorem fault_of_join {stop : Quoted.Stop} {ps : List Quoted.Piece} {s : List Char}
    (h : Quoted.join stop ps = .ok s) : stop.fault? = none := by
  fun_induction Quoted.join stop ps generalizing s with
  | case1 h' => exact h'
  | case3 _ _ ih =>
    obtain ⟨_, h, -⟩ := exists_of_map_ok h
    exact ih h
  | case5 =>
    rename_i ih
    obtain ⟨_, h, -⟩ := exists_of_map_ok h
    exact ih h
  | case9 =>
    rename_i ih
    obtain ⟨_, h, -⟩ := exists_of_map_ok h
    exact ih h
  | _ => cases h

private theorem scan_of_read {s : String} (h : (Quoted.scan cs).1.read = .ok s) :
    Quoted.scan cs = (⟨.ok s, none⟩, (Quoted.scan cs).2) := by
  have hskip : (Quoted.scan cs).1.skip = none := by
    obtain ⟨_, hj, -⟩ := exists_of_map_ok h
    exact fault_of_join hj
  rw [← h, ← hskip]

private theorem skip_of_scanPower {t t' : NumberText} (h : (NumberText.scanPower t cs).1.read = .ok t') :
    (NumberText.scanPower t cs).1.skip = none := by
  revert h
  unfold NumberText.scanPower
  split
  · split
    · dsimp only
      split
      · intro h
        cases ‹List Char› <;> cases h
      · exact fun _ => rfl
    · exact fun _ => rfl
  · exact fun _ => rfl

private theorem skip_of_scanFraction {t t' : NumberText} (h : (NumberText.scanFraction t cs).1.read = .ok t') :
    (NumberText.scanFraction t cs).1.skip = none := by
  revert h
  unfold NumberText.scanFraction
  split
  · split
    · intro h
      cases ‹List Char› <;> cases h
    · exact skip_of_scanPower
  · exact skip_of_scanPower

private theorem skip_of_scanUnsigned {negative : Bool} {t : NumberText}
    (h : (NumberText.scanUnsigned negative cs).1.read = .ok t) :
    (NumberText.scanUnsigned negative cs).1.skip = none := by
  revert h
  unfold NumberText.scanUnsigned
  split
  · intro h
    cases ‹List Char› <;> cases h
  · intro h
    cases h
  · exact skip_of_scanFraction

private theorem number_of_read {n : Number} (h : (Number.scan rule cs).1.read = .ok n) :
    Number.scan rule cs = (⟨.ok n, none⟩, (Number.scan rule cs).2) := by
  have hskip : (Number.scan rule cs).1.skip = none := by
    obtain ⟨t, ht, -⟩ := exists_of_bind_ok h
    revert ht
    unfold Number.scan NumberText.scan
    split
    · exact skip_of_scanUnsigned
    · exact skip_of_scanUnsigned
  rw [← h, ← hskip]

/-- What is read of a text of fewer than `n` characters has a derivation. -/
private structure Sound (rule : RealRule) (n : Nat) : Prop where
  value : ∀ {level cs o x v}, cs.length < n → (value rule level cs).result = (o, x) → o.read = .ok v →
    ∃ rest, x = some rest ∧ Says rule (.value level v) cs rest
  items : ∀ {level first cs os ending x vs}, cs.length < n → (items rule level first cs).result = ((os, ending), x) →
    readItems os = .ok vs → ending.list? = none → ∃ rest, x = some rest ∧ Says rule (.items level first vs) cs rest
  entries : ∀ {level first cs os ending x es}, cs.length < n →
    (entries rule level first cs).result = ((os, ending), x) → readEntries os = .ok es → ending.object? = none →
    ∃ rest, x = some rest ∧ Says rule (.entries level first es) cs rest

theorem length_of_result {α : Type} {n : Nat} {s : Outline.Step α n} {a : α}
    (h : s.result = (a, some rest)) : rest.length < n := by
  obtain ⟨r, -, rfl⟩ := Option.map_eq_some_iff.1 (Prod.mk.inj h).2
  exact r.2

section

variable {n level : Nat}

/-- A word that is read is all there. -/
private theorem says_of_word {o o' : Outline} {v w : Value} {es : List Char} {x : Option (List Char)} {c : Char}
    (hw : ∀ rest, Says rule (.value level w) (c :: (es ++ rest)) rest) (ho : o.read = .ok w)
    (h : (Outline.word o cs es).result = (o', x)) (hv : o'.read = .ok v) :
    ∃ rest, x = some rest ∧ Says rule (.value level v) (c :: cs) rest := by
  obtain ⟨rfl, rest, hx, rfl⟩ := exists_of_word h hv
  obtain rfl : w = v := Except.ok.inj (ho.symm.trans hv)
  exact ⟨rest, hx, hw rest⟩

private theorem says_of_list (ih : Sound rule n) {os : List Outline} {ending : Ending} {x : Option (List Char)}
    {v : Value} (hlen : cs.length < n) (h : (items rule level true cs).result = ((os, ending), x))
    (hv : (Outline.list level os ending).read = .ok v) :
    ∃ rest, x = some rest ∧ Says rule (.value level v) ('[' :: cs) rest := by
  obtain ⟨hlevel, hending, vs, hvs, rfl⟩ := Outline.exists_of_read_list hv
  obtain ⟨rest, hx, hsays⟩ := ih.items hlen h hvs hending
  exact ⟨rest, hx, .array hlevel hsays⟩

private theorem says_of_object (ih : Sound rule n) {os : List (Scanned String × Outline)} {ending : Ending}
    {x : Option (List Char)} {v : Value} (hlen : cs.length < n)
    (h : (entries rule level true cs).result = ((os, ending), x))
    (hv : (Outline.object level os ending).read = .ok v) :
    ∃ rest, x = some rest ∧ Says rule (.value level v) ('{' :: cs) rest := by
  obtain ⟨hlevel, hending, es, hes, rfl⟩ := Outline.exists_of_read_object hv
  obtain ⟨rest, hx, hsays⟩ := ih.entries hlen h hes hending
  exact ⟨rest, hx, .object hlevel hsays⟩

private theorem sound_value (ih : Sound rule n) {o : Outline} {x : Option (List Char)} {v : Value}
    (hlen : cs.length < n + 1) (h : (value rule level cs).result = (o, x)) (hv : o.read = .ok v) :
    ∃ rest, x = some rest ∧ Says rule (.value level v) cs rest := by
  cases cs with
  | nil =>
    rw [value.eq_def] at h
    obtain ⟨rfl, -⟩ := Prod.mk.inj h
    cases hv
  | cons c cs =>
    have hlen : cs.length < n := Nat.lt_of_succ_lt_succ hlen
    rw [Outline.result_value] at h
    by_cases hblank : isBlank c = true
    · rw [if_pos hblank] at h
      obtain ⟨rest, hx, hsays⟩ := ih.value hlen h hv
      exact ⟨rest, hx, .blank hblank hsays⟩
    rw [if_neg hblank] at h
    by_cases hn : c = 'n'
    · rw [if_pos hn] at h
      exact says_of_word (fun _ => hn ▸ .null) rfl h hv
    rw [if_neg hn] at h
    by_cases ht : c = 't'
    · rw [if_pos ht] at h
      exact says_of_word (fun _ => ht ▸ .true) rfl h hv
    rw [if_neg ht] at h
    by_cases hf : c = 'f'
    · rw [if_pos hf] at h
      exact says_of_word (fun _ => hf ▸ .false) rfl h hv
    rw [if_neg hf] at h
    by_cases hq : c = '"'
    · rw [if_pos hq] at h
      obtain ⟨rfl, hx⟩ := Prod.mk.inj h
      obtain ⟨s, hs, rfl⟩ := exists_of_map_ok hv
      have hscan := scan_of_read hs
      rw [hscan] at hx
      exact ⟨_, hx.symm, hq ▸ .string hscan⟩
    rw [if_neg hq] at h
    by_cases hd : c = '-' ∨ c.isDigit = true
    · rw [if_pos hd] at h
      obtain ⟨rfl, hx⟩ := Prod.mk.inj h
      obtain ⟨m, hm, rfl⟩ := exists_of_map_ok hv
      have hscan := number_of_read hm
      rw [hscan] at hx
      exact ⟨_, hx.symm, .number hd hscan⟩
    rw [if_neg hd] at h
    by_cases hl : c = '['
    · rw [if_pos hl] at h
      obtain ⟨rfl, rfl⟩ := Prod.mk.inj h
      exact hl ▸ says_of_list ih hlen rfl hv
    rw [if_neg hl] at h
    by_cases ho : c = '{'
    · rw [if_pos ho] at h
      obtain ⟨rfl, rfl⟩ := Prod.mk.inj h
      exact ho ▸ says_of_object ih hlen rfl hv
    rw [if_neg ho] at h
    obtain ⟨rfl, -⟩ := Prod.mk.inj h
    cases hv

private theorem sound_item (ih : Sound rule n) {os : List Outline} {ending : Ending} {x : Option (List Char)}
    {vs : List Value} (hlen : cs.length < n + 1) (h : (item rule level cs).result = ((os, ending), x))
    (hvs : readItems os = .ok vs) (hending : ending.list? = none) :
    ∃ rest, x = some rest ∧ Says rule (.item level vs) cs rest := by
  rw [Outline.result_item] at h
  rcases hres : (value rule (level + 1) cs).result with ⟨o, mid?⟩
  rw [hres] at h
  cases mid? with
  | none =>
    -- a value after which reading stops is not read
    obtain ⟨rfl, -⟩ := Prod.mk.inj (Prod.mk.inj h).1
    obtain ⟨v, hv, -⟩ := exists_of_bind_ok hvs
    obtain ⟨rest, hrest, -⟩ := sound_value ih hlen hres hv
    cases hrest
  | some mid =>
    obtain ⟨hos, hx⟩ := Prod.mk.inj h
    obtain ⟨rfl, rfl⟩ := Prod.mk.inj hos
    obtain ⟨v, vs', hv, hvs', rfl⟩ := Outline.exists_of_readItems_cons hvs
    obtain ⟨rest, hrest, hsays⟩ := sound_value ih hlen hres hv
    obtain rfl := Option.some.inj hrest
    have hmid := length_of_result hres
    obtain ⟨rest, hx', hsays'⟩ := ih.items (by omega) rfl hvs' hending
    exact ⟨rest, hx.symm.trans hx', .item hsays hsays'⟩

private theorem sound_items (ih : Sound rule n) {first : Bool} {os : List Outline} {ending : Ending}
    {x : Option (List Char)} {vs : List Value} (hlen : cs.length < n + 1)
    (h : (items rule level first cs).result = ((os, ending), x)) (hvs : readItems os = .ok vs)
    (hending : ending.list? = none) : ∃ rest, x = some rest ∧ Says rule (.items level first vs) cs rest := by
  cases cs with
  | nil =>
    rw [items.eq_def] at h
    obtain ⟨rfl, rfl⟩ := Prod.mk.inj (Prod.mk.inj h).1
    cases hending
  | cons c cs =>
    rw [Outline.result_items] at h
    by_cases hblank : isBlank c = true
    · rw [if_pos hblank] at h
      obtain ⟨rest, hx, hsays⟩ := ih.items (Nat.lt_of_succ_lt_succ hlen) h hvs hending
      exact ⟨rest, hx, .blankItems hblank hsays⟩
    rw [if_neg hblank] at h
    by_cases hclose : c = ']'
    · rw [if_pos hclose] at h
      obtain ⟨hos, hx⟩ := Prod.mk.inj h
      obtain ⟨rfl, -⟩ := Prod.mk.inj hos
      cases hvs
      exact ⟨cs, hx.symm, hclose ▸ .noItems⟩
    rw [if_neg hclose] at h
    by_cases hfirst : first = true
    · rw [if_pos hfirst] at h
      obtain ⟨rest, hx, hsays⟩ := sound_item ih hlen h hvs hending
      exact ⟨rest, hx, hfirst ▸ .firstItem (by simpa using hblank) hsays⟩
    rw [if_neg hfirst] at h
    by_cases hcomma : c = ','
    · rw [if_pos hcomma] at h
      split at h
      · obtain ⟨rfl, rfl⟩ := Prod.mk.inj (Prod.mk.inj h).1
        cases hending
      · rename_i d ds hskip
        split at h
        · obtain ⟨rfl, rfl⟩ := Prod.mk.inj (Prod.mk.inj h).1
          cases hending
        · have hle := Outline.length_skipBlanks_le cs
          rw [← hskip] at h
          obtain ⟨rest, hx, hsays⟩ := sound_item ih (by simp at hlen; omega) h hvs hending
          rw [Bool.not_eq_true] at hfirst
          exact ⟨rest, hx, hcomma ▸ hfirst ▸ .nextItem hsays⟩
    rw [if_neg hcomma] at h
    obtain ⟨rfl, rfl⟩ := Prod.mk.inj (Prod.mk.inj h).1
    cases hending

private theorem object?_badKey {k : Scanned String} (hk : k.skip.isSome = true) : (Ending.badKey k).object? ≠ none := by
  rw [Ending.object?]
  split
  · exact Option.some_ne_none _
  · exact Option.isSome_iff_ne_none.1 hk

private theorem sound_entry (ih : Sound rule n) {os : List (Scanned String × Outline)} {ending : Ending}
    {x : Option (List Char)} {es : List (String × Value)} (hlen : cs.length < n + 1)
    (h : (entry rule level cs).result = ((os, ending), x)) (hes : readEntries os = .ok es)
    (hending : ending.object? = none) : ∃ rest, x = some rest ∧ Says rule (.entry level es) cs rest := by
  rw [Outline.result_entry] at h
  split at h
  · rename_i hskip
    obtain ⟨rfl, rfl⟩ := Prod.mk.inj (Prod.mk.inj h).1
    exact absurd hending (object?_badKey hskip)
  have hkey := Quoted.length_rest_cut_le cs
  split at h
  · obtain ⟨rfl, -⟩ := Prod.mk.inj (Prod.mk.inj h).1
    obtain ⟨_, -, hes⟩ := exists_of_bind_ok hes
    cases hes
  · rename_i c vs hskip
    have hlenvs := Outline.length_skipBlanks_le (Quoted.scan cs).2
    rw [hskip, List.length_cons] at hlenvs
    replace hlenvs : vs.length < n := by
      have : (Quoted.scan cs).2.length ≤ cs.length := hkey
      omega
    split at h
    · rename_i hcolon
      rcases hres : (value rule (level + 1) vs).result with ⟨o, mid?⟩
      rw [hres] at h
      cases mid? with
      | none =>
        obtain ⟨rfl, -⟩ := Prod.mk.inj (Prod.mk.inj h).1
        obtain ⟨_, -, hes⟩ := exists_of_bind_ok hes
        obtain ⟨v, hv, -⟩ := exists_of_bind_ok hes
        obtain ⟨rest, hrest, -⟩ := ih.value hlenvs hres hv
        cases hrest
      | some mid =>
        obtain ⟨hos, hx⟩ := Prod.mk.inj h
        obtain ⟨rfl, rfl⟩ := Prod.mk.inj hos
        obtain ⟨k, v, es', hk, hv, hes', rfl⟩ := Outline.exists_of_readEntries_cons hes
        obtain ⟨rest, hrest, hsays⟩ := ih.value hlenvs hres hv
        obtain rfl := Option.some.inj hrest
        have hmid := length_of_result hres
        obtain ⟨rest, hx', hsays'⟩ := ih.entries (by omega) rfl hes' hending
        exact ⟨rest, hx.symm.trans hx', .entry (scan_of_read hk) (hcolon ▸ hskip) hsays hsays'⟩
    · obtain ⟨rfl, -⟩ := Prod.mk.inj (Prod.mk.inj h).1
      obtain ⟨_, -, hes⟩ := exists_of_bind_ok hes
      cases hes

private theorem sound_entries (ih : Sound rule n) {first : Bool} {os : List (Scanned String × Outline)}
    {ending : Ending} {x : Option (List Char)} {es : List (String × Value)} (hlen : cs.length < n + 1)
    (h : (entries rule level first cs).result = ((os, ending), x)) (hes : readEntries os = .ok es)
    (hending : ending.object? = none) : ∃ rest, x = some rest ∧ Says rule (.entries level first es) cs rest := by
  cases cs with
  | nil =>
    rw [entries.eq_def] at h
    obtain ⟨rfl, rfl⟩ := Prod.mk.inj (Prod.mk.inj h).1
    cases hending
  | cons c cs =>
    have hlen : cs.length < n := Nat.lt_of_succ_lt_succ hlen
    rw [Outline.result_entries] at h
    by_cases hblank : isBlank c = true
    · rw [if_pos hblank] at h
      obtain ⟨rest, hx, hsays⟩ := ih.entries hlen h hes hending
      exact ⟨rest, hx, .blankEntries hblank hsays⟩
    rw [if_neg hblank] at h
    by_cases hclose : c = '}'
    · rw [if_pos hclose] at h
      obtain ⟨hos, hx⟩ := Prod.mk.inj h
      obtain ⟨rfl, -⟩ := Prod.mk.inj hos
      cases hes
      exact ⟨cs, hx.symm, hclose ▸ .noEntries⟩
    rw [if_neg hclose] at h
    by_cases hfirst : first = true
    · rw [if_pos hfirst] at h
      split at h
      · rename_i hquote
        obtain ⟨rest, hx, hsays⟩ := sound_entry ih (Nat.lt_succ_of_lt hlen) h hes hending
        exact ⟨rest, hx, hfirst ▸ hquote ▸ .firstEntry hsays⟩
      · obtain ⟨rfl, rfl⟩ := Prod.mk.inj (Prod.mk.inj h).1
        cases hending
    rw [if_neg hfirst] at h
    rw [Bool.not_eq_true] at hfirst
    by_cases hcomma : c = ','
    · rw [if_pos hcomma] at h
      split at h
      · obtain ⟨rfl, rfl⟩ := Prod.mk.inj (Prod.mk.inj h).1
        cases hending
      · rename_i d ds hskip
        have hle := Outline.length_skipBlanks_le cs
        rw [hskip, List.length_cons] at hle
        split at h
        · rename_i hquote
          obtain ⟨rest, hx, hsays⟩ := sound_entry ih (by omega) h hes hending
          exact ⟨rest, hx, hcomma ▸ hfirst ▸ .nextEntry (hquote ▸ hskip) hsays⟩
        · split at h <;>
          · obtain ⟨rfl, rfl⟩ := Prod.mk.inj (Prod.mk.inj h).1
            cases hending
    rw [if_neg hcomma] at h
    obtain ⟨rfl, rfl⟩ := Prod.mk.inj (Prod.mk.inj h).1
    cases hending

private theorem sound (rule : RealRule) (n : Nat) : Sound rule n := by
  induction n with
  | zero => constructor <;> exact fun hlen => absurd hlen (Nat.not_lt_zero _)
  | succ n ih => exact ⟨sound_value ih, sound_items ih, sound_entries ih⟩

end

theorem says_of_read {level : Nat} {o : Outline} {x : Option (List Char)} {v : Value}
    (h : (value rule level cs).result = (o, x)) (hv : o.read = .ok v) :
    ∃ rest, x = some rest ∧ Says rule (.value level v) cs rest :=
  (sound rule _).value (Nat.lt_succ_self _) h hv

/-- A text is read as a value exactly if the grammar derives that it says the value and only blanks follow. -/
theorem Value.ofText_ok_iff {v : Value} :
    Value.ofText rule cs = .ok v ↔ ∃ rest, Says rule (.value 1 v) cs rest ∧ skipBlanks rest = [] := by
  rcases hres : (value rule 1 cs).result with ⟨o, rest?⟩
  have hof : Outline.ofText rule cs =
      (o, rest?.bind fun rest => if (skipBlanks rest).isEmpty then none else some .trailingText) := by
    obtain ⟨rfl, rfl⟩ := Prod.mk.inj hres
    unfold Outline.ofText
    dsimp only
    split <;> simp_all
  constructor
  · intro h
    rw [Value.ofText, hof] at h
    have hv : o.read = .ok v := by
      revert h
      dsimp only
      split
      · intro h
        cases h
      · exact id
    obtain ⟨rest, rfl, hsays⟩ := says_of_read hres hv
    refine ⟨rest, hsays, ?_⟩
    by_contra hrest
    simp [hv, hrest] at h
  · rintro ⟨rest, hsays, hrest⟩
    obtain ⟨o', hres', hv⟩ := readsAs_of_says hsays
    obtain ⟨rfl, rfl⟩ := Prod.mk.inj (hres.symm.trans hres')
    simp [Value.ofText, hof, hv, hrest]

end Signpost.Json
