import Mathlib.Data.List.TakeWhile
import Signpost.Proofs.Resolver.Compiling

/-!
# Paths of attributes

What `getAttr` reads (`getAttr_ok_iff`): names of attributes with points between them, each an attribute of the record
that the ones before lead to (`Ty.LeadsTo`), and possibly the number of an element of an array of strings at the end.
Such a path is an `AttributePath`; `WellFormed.induction` takes it apart at its first point, as the parts are read.

Two forms of such paths are not documented: a point before the bracket of the number, and a plus sign before its digits.
The others are those whose text has no bracket behind a point and no plus sign behind a bracket
(`AttributePath.isRegular_iff`).
-/

namespace Signpost.Resolver

open Code (Ident)
open Rules (Call)

/-! ### Parts of paths -/

/-- A name of an attribute that a path can have. -/
structure IsName (cs : List Char) : Prop where
  ne_nil : cs ≠ []
  point : '.' ∉ cs
  bracket : '[' ∉ cs

theorem IsName.head?_append_ne {cs : List Char} (h : IsName cs) (rest : List Char) : (cs ++ rest).head? ≠ some '[' := by
  obtain ⟨c, cs', rfl⟩ := List.exists_cons_of_ne_nil h.ne_nil
  intro hhead
  exact List.ne_of_not_mem_cons h.bracket (Option.some.inj hhead).symm

/-- The number of an element. -/
structure Element where
  /-- Whether a plus sign stands in front of the digits. -/
  isSigned : Bool
  digits : List Char

namespace Element

/-- The number as it is written. -/
def written (e : Element) : List Char := if e.isSigned then '+' :: e.digits else e.digits

/-- The number in its brackets. -/
def text (e : Element) : List Char := '[' :: (e.written ++ [']'])

def number (e : Element) : Nat := Nat.ofDigitChars 10 e.digits 0

/-- The digits are those of a number of 64 bits. -/
structure IsNumber (e : Element) : Prop where
  ne_nil : e.digits ≠ []
  isDigit : ∀ d ∈ e.digits, d.isDigit = true
  small : e.number < 0x10000000000000000

theorem IsNumber.notMem_digits {e : Element} (h : e.IsNumber) {c : Char} (hc : c.isDigit = false) : c ∉ e.digits := by
  intro hmem
  rw [h.isDigit c hmem] at hc
  cases hc

theorem IsNumber.notMem_text {e : Element} (h : e.IsNumber) : '.' ∉ e.text := by
  have hdigits := h.notMem_digits (c := '.') rfl
  cases hsigned : e.isSigned <;> simp [text, written, hsigned, hdigits]

end Element

theorem segments_eq (cs : List Char) : segments cs = cs.splitOn '.' := by
  induction cs with
  | nil => rfl
  | cons c cs ih =>
    rw [segments, ih, List.splitOn_cons_eq_if_modifyHead]
    obtain ⟨s, ss, hs⟩ := List.exists_cons_of_ne_nil (List.splitOn_ne_nil '.' cs)
    by_cases hc : c = '.' <;> simp [hs, hc]

theorem notMem_of_mem_segments {cs s : List Char} (h : s ∈ segments cs) : '.' ∉ s := by
  induction cs generalizing s with
  | nil =>
    rw [List.mem_singleton.1 h]
    exact List.not_mem_nil
  | cons c cs ih =>
    rw [segments] at h
    split at h
    · rename_i t ts hcs
      rw [hcs] at ih
      split at h
      · obtain rfl | h := List.mem_cons.1 h
        · exact List.not_mem_nil
        · exact ih h
      · rename_i hc
        obtain rfl | h := List.mem_cons.1 h
        · simpa [Ne.symm hc] using ih List.mem_cons_self
        · exact ih (List.mem_cons_of_mem _ h)
    · rename_i hcs
      exact absurd (segments_eq cs ▸ hcs) (List.splitOn_ne_nil '.' cs)

/-- What digits without a sign are read as. -/
private def ofDigits? (ds : List Char) : Option Nat :=
  if ds.isEmpty || !ds.all Char.isDigit || 0x10000000000000000 ≤ Nat.ofDigitChars 10 ds 0 then none
  else some (Nat.ofDigitChars 10 ds 0)

private theorem ofDigits?_eq_some_iff {e : Element} {i : Nat} :
    ofDigits? e.digits = some i ↔ e.IsNumber ∧ e.number = i := by
  rw [ofDigits?]
  constructor
  · intro h
    split at h
    · cases h
    · rename_i hdigits
      simp only [Bool.or_eq_true, Bool.not_eq_true', decide_eq_true_eq, not_or, Bool.not_eq_true, Bool.not_eq_false,
        List.isEmpty_eq_false_iff, List.all_eq_true, Nat.not_le] at hdigits
      exact ⟨⟨hdigits.1.1, hdigits.1.2, hdigits.2⟩, Option.some.inj h⟩
  · rintro ⟨h, rfl⟩
    rw [if_neg, Element.number]
    simpa [h.ne_nil] using ⟨h.isDigit, h.small⟩

private theorem index?_of_head {cs : List Char} (h : cs.head? ≠ some '+') : Segment.index? cs = ofDigits? cs := by
  rw [Segment.index?]
  · rfl
  · rintro ds rfl
    exact h rfl

theorem index?_eq_some_iff {cs : List Char} {i : Nat} :
    Segment.index? cs = some i ↔ ∃ e : Element, e.IsNumber ∧ e.written = cs ∧ e.number = i := by
  constructor
  · intro h
    by_cases hhead : cs.head? = some '+'
    · obtain ⟨ds, rfl⟩ := List.head?_eq_some_iff.1 hhead
      obtain ⟨hnumber, hi⟩ := (ofDigits?_eq_some_iff (e := ⟨true, ds⟩)).1 h
      exact ⟨_, hnumber, rfl, hi⟩
    · rw [index?_of_head hhead] at h
      obtain ⟨hnumber, hi⟩ := (ofDigits?_eq_some_iff (e := ⟨false, cs⟩)).1 h
      exact ⟨_, hnumber, rfl, hi⟩
  · rintro ⟨e, he, rfl, rfl⟩
    have hdigits := ofDigits?_eq_some_iff.2 ⟨he, rfl⟩
    obtain ⟨isSigned, ds⟩ := e
    cases isSigned with
    | true => exact hdigits
    | false =>
      have hhead : ds.head? ≠ some '+' := fun h =>
        he.notMem_digits (c := '+') rfl (List.mem_of_mem_head? h)
      exact (index?_of_head hhead).trans hdigits

theorem bracketed?_eq_some_iff {cs : List Char} {i : Nat} :
    Segment.bracketed? cs = some i ↔ ∃ e : Element, e.IsNumber ∧ cs = e.written ++ [']'] ∧ e.number = i := by
  rw [Segment.bracketed?]
  constructor
  · intro h
    split at h
    · rename_i ds hcs
      obtain ⟨e, he, hwritten, hi⟩ := index?_eq_some_iff.1 h
      exact ⟨e, he, by rw [hwritten, ← List.reverse_cons, ← hcs, List.reverse_reverse], hi⟩
    · cases h
  · rintro ⟨e, he, rfl, rfl⟩
    rw [List.reverse_append]
    exact index?_eq_some_iff.2 ⟨e, he, (List.reverse_reverse _).symm, rfl⟩

/-! ### Segments -/

theorem ofChars?_of_notMem {cs : List Char} (h : '[' ∉ cs) :
    Segment.ofChars? cs = if cs.isEmpty then none else some ⟨cs, none⟩ := by
  have hall : ∀ c ∈ cs, (c != '[') = true := fun c hc => bne_iff_ne.2 (ne_of_mem_of_not_mem hc h)
  rw [Segment.ofChars?, List.dropWhile_eq_nil_iff.2 hall, List.takeWhile_eq_self_iff.2 hall]

theorem ofChars?_append {name rest : List Char} (h : '[' ∉ name) :
    Segment.ofChars? (name ++ '[' :: rest) = (Segment.bracketed? rest).map fun i => ⟨name, some i⟩ := by
  have hall : ∀ c ∈ name, (c != '[') = true := fun c hc => bne_iff_ne.2 (ne_of_mem_of_not_mem hc h)
  have hbracket : ('[' != '[') = false := rfl
  rw [Segment.ofChars?, List.dropWhile_append_of_pos hall, List.takeWhile_append_of_pos hall,
    List.dropWhile_cons_of_neg (by simp), List.takeWhile_cons_of_neg (by simp), List.append_nil]

/-- A part of a path is a name, or a name or nothing with the number of an element behind it. -/
theorem ofChars?_eq_some_iff {cs : List Char} {segment : Segment} :
    Segment.ofChars? cs = some segment ↔
      (segment = ⟨cs, none⟩ ∧ cs ≠ [] ∧ '[' ∉ cs) ∨
      ∃ e : Element, e.IsNumber ∧ '[' ∉ segment.name ∧ cs = segment.name ++ e.text ∧ segment.index = some e.number := by
  constructor
  · intro h
    by_cases hmem : '[' ∈ cs
    · obtain ⟨name, rest, rfl, hname⟩ := List.eq_append_cons_of_mem hmem
      rw [ofChars?_append hname] at h
      obtain ⟨i, hi, rfl⟩ := Option.map_eq_some_iff.1 h
      obtain ⟨e, he, rfl, rfl⟩ := bracketed?_eq_some_iff.1 hi
      exact .inr ⟨e, he, hname, rfl, rfl⟩
    · rw [ofChars?_of_notMem hmem] at h
      split at h
      · cases h
      · rename_i hne
        exact .inl ⟨(Option.some.inj h).symm, by simpa using hne, hmem⟩
  · rintro (⟨rfl, hne, hmem⟩ | ⟨e, he, hname, rfl, hindex⟩)
    · rw [ofChars?_of_notMem hmem, if_neg (by simpa using hne)]
    · obtain ⟨name, index⟩ := segment
      cases hindex
      rw [Element.text, ofChars?_append hname, bracketed?_eq_some_iff.2 ⟨e, he, rfl, rfl⟩, Option.map_some]

/-! ### Attributes of attributes -/

/-- The attributes of these names, each of the value of the one before, beginning at a type: the methods that read them,
in order, and the type of the last.  The names of the methods are identifiers. -/
inductive Ty.LeadsTo : Ty → List (List Char) → List Ident → Ty → Prop
  | here (ty : Ty) : LeadsTo ty [] [] ty
  | read {record accessor : String} {attributes : Attributes} {name : List Char} {i : Ident} {ty ty' : Ty}
      {names : List (List Char)} {accessors : List Ident}
      (h : attributes.get? (String.ofList name) = some (accessor, ty)) (hi : Ident.ofText? accessor = some i)
      (hrest : LeadsTo ty names accessors ty') :
      LeadsTo (.record record attributes) (name :: names) (i :: accessors) ty'

theorem Ty.leadsTo_cons_iff {ty ty' : Ty} {name : List Char} {names : List (List Char)} {accessors : List Ident} :
    ty.LeadsTo (name :: names) accessors ty' ↔ ∃ i is tyName, accessors = i :: is ∧ ty.LeadsTo [name] [i] tyName ∧
      tyName.LeadsTo names is ty' := by
  constructor
  · rintro (_ | ⟨h, hi, hrest⟩)
    exact ⟨_, _, _, rfl, .read h hi (.here _), hrest⟩
  · rintro ⟨i, is, tyName, rfl, _ | ⟨h, hi, ⟨⟩⟩, hrest⟩
    exact .read h hi hrest

variable {call : Call} {c c' : Compiled} {r r' : Registry} {name : List Char} {i : Nat}

theorem readName_ok_iff : readName call name c r = .ok (c', r') ↔ r' = r ∧ ∃ accessor ty,
    c.ty.LeadsTo [name] [accessor] ty ∧ c' = .plain (.read c.value accessor) ty := by
  constructor
  · intro h
    cases hty : c.ty with
    | record record attributes =>
      cases hget : attributes.get? (String.ofList name) with
      | none =>
        simp only [readName, hty, hget] at h
        exact absurd h not_fail_ok
      | some found =>
        obtain ⟨text, ty⟩ := found
        cases hi : Ident.ofText? text with
        | none =>
          simp only [readName, hty, hget, hi] at h
          exact absurd h not_fail_ok
        | some accessor =>
          simp only [readName, hty, hget, hi] at h
          obtain ⟨rfl, rfl⟩ := pure_ok_iff.1 h
          exact ⟨rfl, accessor, ty, .read hget hi (.here ty), rfl⟩
    | _ =>
      simp only [readName, hty] at h
      exact absurd h not_fail_ok
  · rintro ⟨rfl, accessor, ty, hleads, rfl⟩
    generalize hty : c.ty = found at hleads
    cases hleads with
    | read hget hi hrest =>
      cases hrest
      simp only [readName, hty, hget, hi]
      rfl

theorem readIndex_ok_iff : readIndex call i c r = .ok (c', r') ↔
    r' = r ∧ c.ty = .stringArray ∧ c' = .plain (.item c.value i) (.option .string) := by
  rw [readIndex]
  split
  · rename_i h
    rw [pure_ok_iff]
    exact ⟨fun hok => ⟨hok.2.symm, h, hok.1.symm⟩, fun hc => ⟨hc.2.2.symm, hc.1.symm⟩⟩
  · rename_i h
    exact ⟨fun hok => absurd hok not_fail_ok, fun hc => absurd hc.2.1 h⟩

/-! ### Paths -/

/-- What a path consists of. -/
structure AttributePath where
  names : List (List Char)
  /-- Whether a point stands between the last name and the number of an element. -/
  isApart : Bool
  element : Option Element

namespace AttributePath

/-- The path as it is written. -/
def text (p : AttributePath) : List Char :=
  ['.'].intercalate p.names ++ p.element.elim [] fun e => if p.isApart then '.' :: e.text else e.text

/-- The text is read as this path. -/
structure WellFormed (p : AttributePath) : Prop where
  names : ∀ name ∈ p.names, IsName name
  element : ∀ e, p.element = some e → e.IsNumber
  some_part : p.names = [] → p.element ≠ none
  between : p.isApart = true → p.names ≠ [] ∧ p.element ≠ none

/-- The code behind a value that calls these methods one on the other's result, and then takes the element. -/
def tokens (p : AttributePath) (accessors : List Ident) : List Code.Token :=
  (accessors.flatMap fun i => [.leaf ".", Code.ident i, Code.parens []]) ++
    p.element.elim [] fun e => Code.code ". get" ++ Code.parens (Code.integer e.number "") ::
      Code.code ". map" ++ [Code.parens (Code.code ":: std :: string :: String :: as_str")]

/-- What the path leads to from a value: the attributes are read one after the other, and the element at the end. -/
def Reads (p : AttributePath) (c c' : Compiled) : Prop :=
  ∃ accessors ty, c.ty.LeadsTo p.names accessors ty ∧
    match p.element with
    | none => c' = .plain (accessors.foldl .read c.value) ty
    | some e => ty = .stringArray ∧ c' = .plain (.item (accessors.foldl .read c.value) e.number) (.option .string)

/-- The path behind a name. -/
def behind (p : AttributePath) (name : List Char) : AttributePath :=
  ⟨name :: p.names, p.isApart || p.names.isEmpty, p.element⟩

variable {p : AttributePath}

theorem wellFormed_name (hname : IsName name) : WellFormed ⟨[name], false, none⟩ where
  names := List.forall_mem_singleton.2 hname
  element := fun _ h => (nomatch h)
  some_part := fun h => absurd h (List.cons_ne_nil _ _)
  between := fun h => (nomatch h)

theorem wellFormed_element {e : Element} (he : e.IsNumber) : WellFormed ⟨[], false, some e⟩ where
  names := List.forall_mem_nil _
  element := fun _ h => Option.some.inj h ▸ he
  some_part := fun _ => Option.some_ne_none e
  between := fun h => (nomatch h)

theorem wellFormed_indexed {e : Element} (hname : IsName name) (he : e.IsNumber) :
    WellFormed ⟨[name], false, some e⟩ where
  names := List.forall_mem_singleton.2 hname
  element := fun _ h => Option.some.inj h ▸ he
  some_part := fun _ => Option.some_ne_none e
  between := fun h => (nomatch h)

theorem WellFormed.behind (h : p.WellFormed) (hname : IsName name) : (p.behind name).WellFormed where
  names := List.forall_mem_cons.2 ⟨hname, h.names⟩
  element := h.element
  some_part := fun hnil => absurd hnil (List.cons_ne_nil _ _)
  between := by
    intro hapart
    refine ⟨List.cons_ne_nil _ _, ?_⟩
    obtain hapart | hnil := Bool.or_eq_true_iff.1 hapart
    · exact (h.between hapart).2
    · exact h.some_part (List.isEmpty_iff.1 hnil)

/-- A path is a name, the number of an element, both, or a path behind a name. -/
theorem WellFormed.induction {motive : (p : AttributePath) → p.WellFormed → Prop}
    (name : ∀ n (hn : IsName n), motive _ (wellFormed_name hn))
    (element : ∀ e (he : Element.IsNumber e), motive _ (wellFormed_element he))
    (indexed : ∀ n e (hn : IsName n) (he : Element.IsNumber e), motive _ (wellFormed_indexed hn he))
    (behind : ∀ n p (hn : IsName n) (hp : WellFormed p), motive p hp → motive (p.behind n) (hp.behind hn))
    (h : p.WellFormed) : motive p h := by
  obtain ⟨names, isApart, last⟩ := p
  induction names with
  | nil =>
    obtain ⟨e, rfl⟩ := Option.ne_none_iff_exists'.1 (h.some_part rfl)
    obtain rfl : isApart = false := Bool.eq_false_iff.2 fun hapart => (h.between hapart).1 rfl
    exact element e (h.element e rfl)
  | cons n ns ih =>
    have hn := h.names n List.mem_cons_self
    cases ns with
    | cons m ms =>
      have hrest : WellFormed ⟨m :: ms, isApart, last⟩ :=
        ⟨fun k hk => h.names k (List.mem_cons_of_mem _ hk), h.element, fun hnil => absurd hnil (List.cons_ne_nil _ _),
          fun hapart => ⟨List.cons_ne_nil _ _, (h.between hapart).2⟩⟩
      have hbehind := behind n _ hn hrest (ih hrest)
      simpa only [AttributePath.behind, List.isEmpty_cons, Bool.or_false] using hbehind
    | nil =>
      cases last with
      | none =>
        obtain rfl : isApart = false := Bool.eq_false_iff.2 fun hapart => (h.between hapart).2 rfl
        exact name n hn
      | some e =>
        have he := h.element e rfl
        cases isApart with
        | false => exact indexed n e hn he
        | true => exact behind n _ hn (wellFormed_element he) (element e he)

theorem text_behind (h : p.WellFormed) : (p.behind name).text = name ++ '.' :: p.text := by
  obtain ⟨names, isApart, element⟩ := p
  cases names with
  | nil =>
    obtain ⟨e, rfl⟩ := Option.ne_none_iff_exists'.1 (h.some_part rfl)
    obtain rfl : isApart = false := Bool.eq_false_iff.2 fun hapart => (h.between hapart).1 rfl
    simp [text, behind]
  | cons n ns => simp [text, behind]

theorem reads_cons_iff {names : List (List Char)} {isApart : Bool} {element : Option Element} (isApart' : Bool) :
    Reads ⟨name :: names, isApart, element⟩ c c' ↔ ∃ accessor ty, c.ty.LeadsTo [name] [accessor] ty ∧
      Reads ⟨names, isApart', element⟩ (.plain (.read c.value accessor) ty) c' := by
  constructor
  · rintro ⟨accessors, ty, hleads, hc'⟩
    obtain ⟨i, is, tyName, rfl, hname, hrest⟩ := Ty.leadsTo_cons_iff.1 hleads
    exact ⟨i, tyName, hname, is, ty, hrest, hc'⟩
  · rintro ⟨i, tyName, hname, is, ty, hrest, hc'⟩
    exact ⟨i :: is, ty, Ty.leadsTo_cons_iff.2 ⟨i, is, tyName, rfl, hname, hrest⟩, hc'⟩

theorem reads_name_iff : Reads ⟨[name], false, none⟩ c c' ↔ ∃ accessor ty,
    c.ty.LeadsTo [name] [accessor] ty ∧ c' = .plain (.read c.value accessor) ty := by
  constructor
  · intro h
    obtain ⟨accessor, ty, hleads, accessors, ty', hrest, rfl⟩ := (reads_cons_iff false).1 h
    cases hrest
    exact ⟨accessor, ty, hleads, rfl⟩
  · rintro ⟨accessor, ty, hleads, rfl⟩
    exact ⟨[accessor], ty, hleads, rfl⟩

theorem reads_element_iff {e : Element} : Reads ⟨[], false, some e⟩ c c' ↔
    c.ty = .stringArray ∧ c' = .plain (.item c.value e.number) (.option .string) := by
  constructor
  · rintro ⟨accessors, ty, hleads, hty, rfl⟩
    generalize hfound : c.ty = found at hleads
    cases hleads
    exact ⟨hty, rfl⟩
  · intro hc'
    exact ⟨[], c.ty, .here _, hc'⟩

end AttributePath

/-! ### What paths are read -/

variable {s : List Char} {ss : List (List Char)} {e : Element}

theorem readPath_of_name (hs : IsName s) :
    readPath call (s :: ss) c = (readName call s c >>= fun c => readPath call ss c) := by
  simp only [readPath, ofChars?_eq_some_iff.2 (.inl ⟨rfl, hs.ne_nil, hs.bracket⟩)]
  exact if_neg (by simpa using hs.ne_nil)

private theorem ofChars?_element (hname : '[' ∉ name) (he : e.IsNumber) :
    Segment.ofChars? (name ++ e.text) = some ⟨name, some e.number⟩ :=
  ofChars?_eq_some_iff.2 (.inr ⟨e, he, hname, rfl, rfl⟩)

theorem readPath_of_element (he : e.IsNumber) : readPath call [e.text] c = readIndex call e.number c := by
  have hs := ofChars?_element (List.not_mem_nil (a := '[')) he
  rw [List.nil_append] at hs
  simp only [readPath, hs]
  rfl

theorem readPath_of_indexed (hname : IsName name) (he : e.IsNumber) :
    readPath call [name ++ e.text] c = (readName call name c >>= fun c => readIndex call e.number c) := by
  simp only [readPath, ofChars?_element hname.bracket he]
  exact if_neg (by simpa using hname.ne_nil)

/-- An element is the end of a path. -/
theorem readPath_past_element_ne_ok {t : List Char} (hname : '[' ∉ name) (he : e.IsNumber) :
    readPath call ((name ++ e.text) :: t :: ss) c r ≠ .ok (c', r') := by
  intro h
  simp only [readPath, ofChars?_element hname he, List.isEmpty_cons] at h
  split at h
  all_goals
    obtain ⟨c₁, r₁, -, h⟩ := bind_ok_iff.1 h
    exact absurd h not_fail_ok

/-- A part that is read is a name, or a name or nothing with the number of an element behind it. -/
theorem part_of_readPath (hpoint : '.' ∉ s) (h : readPath call (s :: ss) c r = .ok (c', r')) :
    IsName s ∨ ∃ name e, '[' ∉ name ∧ Element.IsNumber e ∧ s = name ++ e.text := by
  cases hs : Segment.ofChars? s with
  | none =>
    simp only [readPath, hs] at h
    exact absurd h not_fail_ok
  | some segment =>
    obtain ⟨-, hne, hbracket⟩ | ⟨e, he, hbracket, hs, -⟩ := ofChars?_eq_some_iff.1 hs
    · exact .inl ⟨hne, hpoint, hbracket⟩
    · exact .inr ⟨_, e, hbracket, he, hs⟩

/-- What is read along a list of parts is read along a path. -/
theorem exists_of_readPath (hpoint : ∀ t ∈ s :: ss, '.' ∉ t) (h : readPath call (s :: ss) c r = .ok (c', r')) :
    r' = r ∧ ∃ p : AttributePath, p.WellFormed ∧ p.text = ['.'].intercalate (s :: ss) ∧ p.Reads c c' := by
  induction ss generalizing s c with
  | nil =>
    have hpoint := hpoint s List.mem_cons_self
    obtain hs | ⟨name, e, hbracket, he, rfl⟩ := part_of_readPath hpoint h
    · rw [readPath_of_name hs] at h
      obtain ⟨c₁, r₁, hname, hend⟩ := bind_ok_iff.1 h
      obtain ⟨rfl, hread⟩ := readName_ok_iff.1 hname
      obtain ⟨rfl, rfl⟩ := pure_ok_iff.1 hend
      exact ⟨rfl, _, AttributePath.wellFormed_name hs, by simp [AttributePath.text],
        AttributePath.reads_name_iff.2 hread⟩
    · by_cases hne : name = []
      · rw [hne, List.nil_append, readPath_of_element he] at h
        obtain ⟨rfl, hread⟩ := readIndex_ok_iff.1 h
        exact ⟨rfl, _, AttributePath.wellFormed_element he, by simp [AttributePath.text, hne],
          AttributePath.reads_element_iff.2 hread⟩
      · have hname : IsName name := ⟨hne, fun hmem => hpoint (List.mem_append_left _ hmem), hbracket⟩
        rw [readPath_of_indexed hname he] at h
        obtain ⟨c₁, r₁, hname', hindex⟩ := bind_ok_iff.1 h
        obtain ⟨rfl, accessor, ty, hleads, rfl⟩ := readName_ok_iff.1 hname'
        obtain ⟨rfl, hread⟩ := readIndex_ok_iff.1 hindex
        exact ⟨rfl, _, AttributePath.wellFormed_indexed hname he, by simp [AttributePath.text],
          (AttributePath.reads_cons_iff false).2 ⟨accessor, ty, hleads, AttributePath.reads_element_iff.2 hread⟩⟩
  | cons t ss ih =>
    obtain hs | ⟨name, e, hbracket, he, rfl⟩ := part_of_readPath (hpoint s List.mem_cons_self) h
    · rw [readPath_of_name hs] at h
      obtain ⟨c₁, r₁, hname, hrest⟩ := bind_ok_iff.1 h
      obtain ⟨rfl, accessor, ty, hleads, rfl⟩ := readName_ok_iff.1 hname
      obtain ⟨rfl, p, hp, htext, hreads⟩ := ih (fun u hu => hpoint u (List.mem_cons_of_mem _ hu)) hrest
      refine ⟨rfl, p.behind s, hp.behind hs, ?_, (AttributePath.reads_cons_iff _).2 ⟨accessor, ty, hleads, hreads⟩⟩
      rw [AttributePath.text_behind hp, htext, List.intercalate_cons_cons, List.append_assoc, List.singleton_append]
    · exact absurd h (readPath_past_element_ne_ok hbracket he)

/-- Paths are read. -/
theorem readPath_of_reads {p : AttributePath} (h : p.WellFormed) (hreads : p.Reads c c') :
    readPath call (p.text.splitOn '.') c r = .ok (c', r) := by
  induction h using AttributePath.WellFormed.induction generalizing c with
  | name n hn =>
    have htext : (AttributePath.mk [n] false none).text.splitOn '.' = [n] := by
      simpa [AttributePath.text] using List.splitOn_eq_singleton hn.point
    rw [htext, readPath_of_name hn]
    exact bind_ok_iff.2 ⟨c', r, readName_ok_iff.2 ⟨rfl, AttributePath.reads_name_iff.1 hreads⟩, rfl⟩
  | element e he =>
    have htext : (AttributePath.mk [] false (some e)).text.splitOn '.' = [e.text] := by
      simpa [AttributePath.text] using List.splitOn_eq_singleton he.notMem_text
    rw [htext, readPath_of_element he]
    exact readIndex_ok_iff.2 ⟨rfl, AttributePath.reads_element_iff.1 hreads⟩
  | indexed n e hn he =>
    have hpoint : '.' ∉ n ++ e.text := by simpa using ⟨hn.point, he.notMem_text⟩
    have htext : (AttributePath.mk [n] false (some e)).text.splitOn '.' = [n ++ e.text] := by
      simpa [AttributePath.text] using List.splitOn_eq_singleton hpoint
    obtain ⟨accessor, ty, hleads, hreads⟩ := (AttributePath.reads_cons_iff false).1 hreads
    rw [htext, readPath_of_indexed hn he]
    exact bind_ok_iff.2 ⟨_, r, readName_ok_iff.2 ⟨rfl, accessor, ty, hleads, rfl⟩,
      readIndex_ok_iff.2 ⟨rfl, AttributePath.reads_element_iff.1 hreads⟩⟩
  | behind n p hn hp ih =>
    obtain ⟨accessor, ty, hleads, hreads⟩ := (AttributePath.reads_cons_iff p.isApart).1 hreads
    rw [AttributePath.text_behind hp, List.splitOn_append_cons_self_of_not_mem hn.point, readPath_of_name hn]
    exact bind_ok_iff.2 ⟨_, r, readName_ok_iff.2 ⟨rfl, accessor, ty, hleads, rfl⟩, ih hreads⟩

/-- What `getAttr` reads, and along which paths. -/
theorem getAttr_ok_iff {path : List Char} : getAttr call path c r = .ok (c', r') ↔
    r' = r ∧ ∃ p : AttributePath, p.WellFormed ∧ p.text = path ∧ p.Reads c c' := by
  rw [getAttr]
  constructor
  · intro h
    obtain ⟨s, ss, hparts⟩ := List.exists_cons_of_ne_nil (segments_eq path ▸ List.splitOn_ne_nil '.' path)
    rw [hparts] at h
    obtain ⟨rfl, p, hp, htext, hreads⟩ := exists_of_readPath (fun t ht => notMem_of_mem_segments (hparts ▸ ht)) h
    refine ⟨rfl, p, hp, ?_, hreads⟩
    rw [htext, ← hparts, segments_eq, List.intercalate_splitOn]
  · rintro ⟨rfl, p, hp, rfl, hreads⟩
    rw [segments_eq]
    exact readPath_of_reads hp hreads

theorem ensures_getAttr (call : Call) (path : List Char) (c : Compiled) : Ensures (getAttr call path c) fun c' =>
    ∃ p : AttributePath, p.WellFormed ∧ p.text = path ∧ p.Reads c c' := by
  constructor
  · exact fun h => (getAttr_ok_iff.1 h).2
  · intro r r' c' h
    rw [(getAttr_ok_iff.1 h).1]
  · intro r r' c' h s _
    exact ⟨s, getAttr_ok_iff.2 ⟨rfl, (getAttr_ok_iff.1 h).2⟩⟩

/-! ### Paths as they are documented -/

/-- Two neighbours in a list whose front does not contain the first of them. -/
theorem pair_infix_iff {α : Type} {a b x : α} {xs ys : List α} (h : a ∉ xs) :
    [a, b] <:+: xs ++ x :: ys ↔ (a = x ∧ ys.head? = some b) ∨ [a, b] <:+: ys := by
  induction xs with
  | nil => rw [List.nil_append, List.infix_cons_iff, List.cons_prefix_cons, List.singleton_prefix_iff_head?_eq_some]
  | cons z zs ih =>
    rw [List.cons_append, List.infix_cons_iff, List.cons_prefix_cons, ih (List.not_mem_of_not_mem_cons h)]
    exact or_iff_right fun hprefix => List.ne_of_not_mem_cons h hprefix.1

theorem signed_infix_iff (hname : '[' ∉ name) (he : e.IsNumber) :
    ['[', '+'] <:+: name ++ e.text ↔ e.isSigned = true := by
  have hdigits := he.notMem_digits (c := '[') rfl
  have hrest : ¬ ['[', '+'] <:+: e.written ++ [']'] := by
    intro h
    have hmem := h.subset List.mem_cons_self
    cases hsigned : e.isSigned <;> simp [Element.written, hsigned, hdigits] at hmem
  rw [Element.text, pair_infix_iff hname, or_iff_left hrest, and_iff_right rfl]
  cases hsigned : e.isSigned with
  | true => simp [Element.written, hsigned]
  | false =>
    obtain ⟨d, ds, hds⟩ := List.exists_cons_of_ne_nil he.ne_nil
    have hsign := he.notMem_digits (c := '+') rfl
    rw [hds] at hsign
    simpa [Element.written, hsigned, hds] using (List.ne_of_not_mem_cons hsign).symm

namespace AttributePath

/-- The element, if there is one, stands directly behind the last name, and its number is nothing but digits. -/
structure IsRegular (p : AttributePath) : Prop where
  isApart : p.isApart = false
  isSigned : ∀ e, p.element = some e → e.isSigned = false

theorem isRegular_behind_iff {p : AttributePath} {name : List Char} :
    (p.behind name).IsRegular ↔ p.names ≠ [] ∧ p.IsRegular := by
  constructor
  · rintro ⟨hapart, hsigned⟩
    obtain ⟨hapart, hnames⟩ := Bool.or_eq_false_iff.1 hapart
    exact ⟨List.isEmpty_eq_false_iff.1 hnames, hapart, hsigned⟩
  · rintro ⟨hnames, hapart, hsigned⟩
    exact ⟨Bool.or_eq_false_iff.2 ⟨hapart, List.isEmpty_eq_false_iff.2 hnames⟩, hsigned⟩

theorem head?_text_iff {p : AttributePath} (h : p.WellFormed) : p.text.head? = some '[' ↔ p.names = [] := by
  induction h using WellFormed.induction with
  | element e he => exact iff_of_true rfl rfl
  | name n hn =>
    have hhead := hn.head?_append_ne []
    exact iff_of_false (by simpa [text] using hhead) (List.cons_ne_nil _ _)
  | indexed n e hn he =>
    have hhead := hn.head?_append_ne e.text
    exact iff_of_false (by simpa [text] using hhead) (List.cons_ne_nil _ _)
  | behind n p hn hp =>
    rw [text_behind hp]
    exact iff_of_false (hn.head?_append_ne _) (List.cons_ne_nil _ _)

private theorem isRegular_last_iff {names : List (List Char)} :
    IsRegular ⟨names, false, some e⟩ ↔ e.isSigned = false := by
  constructor
  · exact fun h => h.isSigned e rfl
  · exact fun h => ⟨rfl, fun e' he' => Option.some.inj he' ▸ h⟩

/-- A path is as documented unless a bracket stands behind a point in it, or a plus sign behind a bracket. -/
theorem isRegular_iff {p : AttributePath} (h : p.WellFormed) :
    p.IsRegular ↔ ¬ ['.', '['] <:+: p.text ∧ ¬ ['[', '+'] <:+: p.text := by
  induction h using WellFormed.induction with
  | name n hn =>
    refine iff_of_true ⟨rfl, fun e he => (nomatch he)⟩ ⟨fun h => hn.point ?_, fun h => hn.bracket ?_⟩
    · simpa [text] using h.subset List.mem_cons_self
    · simpa [text] using h.subset List.mem_cons_self
  | element e he =>
    have htext : text ⟨[], false, some e⟩ = [] ++ e.text := rfl
    have hpoint : ¬ ['.', '['] <:+: [] ++ e.text := fun h => he.notMem_text (h.subset List.mem_cons_self)
    rw [htext, signed_infix_iff List.not_mem_nil he, and_iff_right hpoint, isRegular_last_iff, Bool.not_eq_true]
  | indexed n e hn he =>
    have htext : text ⟨[n], false, some e⟩ = n ++ e.text := by simp [text]
    have hpoint : ¬ ['.', '['] <:+: n ++ e.text := by
      intro h
      obtain hmem | hmem := List.mem_append.1 (h.subset List.mem_cons_self)
      · exact hn.point hmem
      · exact he.notMem_text hmem
    rw [htext, signed_infix_iff hn.bracket he, and_iff_right hpoint, isRegular_last_iff, Bool.not_eq_true]
  | behind n p hn hp ih =>
    rw [isRegular_behind_iff, ih, text_behind hp, pair_infix_iff hn.point, pair_infix_iff hn.bracket, head?_text_iff hp]
    simp [and_assoc]

end AttributePath

theorem tokens_foldl_read (names : Names) (accessors : List Ident) (v : Value) :
    (accessors.foldl .read v).tokens names =
      v.tokens names ++ accessors.flatMap fun i => [.leaf ".", Code.ident i, Code.parens []] := by
  induction accessors generalizing v with
  | nil => exact (List.append_nil _).symm
  | cons i is ih => rw [List.foldl_cons, ih, Value.tokens, List.flatMap_cons, List.append_assoc]

theorem AttributePath.Reads.exists_tokens_eq {p : AttributePath} (h : p.Reads c c') : ∃ accessors ty,
    c.ty.LeadsTo p.names accessors ty ∧
      ∀ names, c'.value.tokens names = c.value.tokens names ++ p.tokens accessors := by
  obtain ⟨accessors, ty, hleads, hc'⟩ := h
  refine ⟨accessors, ty, hleads, fun names => ?_⟩
  obtain ⟨path, isApart, element⟩ := p
  cases element with
  | none =>
    rw [hc', tokens, Option.elim_none, List.append_nil]
    exact tokens_foldl_read names accessors c.value
  | some e =>
    rw [hc'.2, Compiled.plain, Value.tokens, tokens_foldl_read, tokens, Option.elim_some]
    simp only [List.append_assoc]

/-- `getAttr` accepts the documented paths, and no others in which no bracket stands behind a point and no plus sign
behind a bracket: names of attributes with points between them, each an attribute of what the ones before lead to, and
directly behind the last name, or alone, the number of an element of what is then an array of strings.  The emitted
code calls the methods of the attributes in this order, and takes the element at the end. -/
theorem getAttr_isRegular_iff (call : Call) (path : List Char) (c c' : Compiled) (r r' : Registry) :
    (getAttr call path c r = .ok (c', r') ∧ ¬ ['.', '['] <:+: path ∧ ¬ ['[', '+'] <:+: path ↔
      r' = r ∧ ∃ p : AttributePath, p.WellFormed ∧ p.IsRegular ∧ p.text = path ∧ p.Reads c c') ∧
    ∀ p : AttributePath, p.Reads c c' → ∃ accessors ty, c.ty.LeadsTo p.names accessors ty ∧
      ∀ names, c'.value.tokens names = c.value.tokens names ++ p.tokens accessors := by
  refine ⟨?_, fun p hreads => hreads.exists_tokens_eq⟩
  rw [getAttr_ok_iff]
  constructor
  · rintro ⟨⟨rfl, p, hp, rfl, hreads⟩, hdocumented⟩
    exact ⟨rfl, p, hp, (AttributePath.isRegular_iff hp).2 hdocumented, rfl, hreads⟩
  · rintro ⟨rfl, p, hp, hregular, rfl, hreads⟩
    exact ⟨⟨rfl, p, hp, rfl, hreads⟩, (AttributePath.isRegular_iff hp).1 hregular⟩

/-- A plus sign in front of the digits is not documented. -/
example (call : Call) (v : Value) (r : Registry) : getAttr call ['[', '+', '1', ']'] (.plain v .stringArray) r =
    .ok (.plain (.item v 1) (.option .string), r) := rfl

end Signpost.Resolver
