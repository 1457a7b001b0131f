import Signpost.Proofs.Traversal.Scoping
import Signpost.Proofs.Traversal.Yielding

/-!
# Names that are drawn

Locals are numbered, so that no name is drawn twice (`localName_inj`).  `Fresh` says of names that they were drawn while
the number went from one to another; names that are drawn later are different (`Fresh.append`), and the order in which
names are bound does not matter (`Fresh.perm`).
-/

namespace Signpost.Traversal

open Code (Ident)

/-- The stems of the names that are drawn. -/
def stems : List String :=
  ["fld", "elem", "sub", "some", "cmp", "not", "and", "or", "LIT", "msl", "prj", "flt", "obj", "flat", "len", "keys",
    "k", "contains", "v", "str", "deref", "num", "opt"]

/-- Whether an identifier has the form of a name that is drawn. -/
def IsLocal (i : Ident) : Prop := ∃ stem ∈ stems, ∃ n, i = localName stem n

theorem toList_localName (stem : String) (n : Nat) :
    (localName stem n).name.toList = '_' :: (stem.toList ++ '_' :: Nat.toDigits 10 n) := by
  simp [localName, String.toList_append]

/-- Names with different numbers are different, whatever their stems are. -/
theorem localName_inj {stem stem' : String} {n n' : Nat} (hs : stem ∈ stems) (hs' : stem' ∈ stems)
    (h : localName stem n = localName stem' n') : n = n' := by
  have hall : (stems.all fun stem => stem.toList.all (· != '_')) = true := by decide
  have hplain : ∀ stem ∈ stems, ∀ c ∈ stem.toList, (c != '_') = true :=
    fun stem hstem => List.all_eq_true.1 (List.all_eq_true.1 hall stem hstem)
  have hlist := (toList_localName stem n).symm.trans ((congrArg (·.name.toList) h).trans (toList_localName stem' n'))
  have hrest := congrArg (List.dropWhile (· != '_')) (List.cons.inj hlist).2
  rw [List.dropWhile_append_of_pos (hplain stem hs), List.dropWhile_append_of_pos (hplain stem' hs')] at hrest
  have hdigits : Nat.toDigits 10 n = Nat.toDigits 10 n' := by simpa using hrest
  rw [← Nat.ofDigitChars_ten_toDigits (n := n), hdigits, Nat.ofDigitChars_ten_toDigits]

/-- The names are different, and were drawn after the first number and up to the second. -/
structure Fresh (lo hi : Namer) (names : List Ident) : Prop where
  le : lo.taken ≤ hi.taken
  nodup : names.Nodup
  drawn : ∀ i ∈ names, ∃ stem ∈ stems, ∃ k, lo.taken < k ∧ k ≤ hi.taken ∧ i = localName stem k

namespace Fresh

variable {lo mid hi : Namer} {names names' : List Ident}

theorem nil : Fresh lo lo [] := ⟨Nat.le_refl _, List.nodup_nil, fun _ hi => absurd hi List.not_mem_nil⟩

theorem perm (h : Fresh lo hi names) (hp : names.Perm names') : Fresh lo hi names' :=
  ⟨h.le, hp.nodup_iff.1 h.nodup, fun i hi => h.drawn i (hp.mem_iff.2 hi)⟩

theorem swap {rest : List Ident} (h : Fresh lo hi (rest ++ names ++ names')) :
    Fresh lo hi (rest ++ names' ++ names) := by
  rw [List.append_assoc] at h ⊢
  exact h.perm (List.perm_append_comm.append_left rest)

theorem append (h : Fresh lo mid names) (h' : Fresh mid hi names') : Fresh lo hi (names ++ names') := by
  refine ⟨Nat.le_trans h.le h'.le, List.nodup_append.2 ⟨h.nodup, h'.nodup, ?_⟩, ?_⟩
  · rintro i hi _ hi' rfl
    -- one number would be at most and more than what was drawn between
    obtain ⟨stem, hs, k, -, hk, rfl⟩ := h.drawn i hi
    obtain ⟨stem', hs', k', hk', -, heq⟩ := h'.drawn _ hi'
    have := localName_inj hs hs' heq
    omega
  · intro i hi
    rcases List.mem_append.1 hi with hi | hi
    · obtain ⟨stem, hs, k, hlo, hk, rfl⟩ := h.drawn i hi
      exact ⟨stem, hs, k, hlo, Nat.le_trans hk h'.le, rfl⟩
    · obtain ⟨stem, hs, k, hlo, hk, rfl⟩ := h'.drawn i hi
      exact ⟨stem, hs, k, Nat.lt_of_le_of_lt h.le hlo, hk, rfl⟩

/-- One more name. -/
theorem snoc {stem : String} (h : Fresh lo hi names) (hs : stem ∈ stems) :
    Fresh lo ⟨hi.taken + 1⟩ (names ++ [localName stem (hi.taken + 1)]) :=
  h.append ⟨Nat.le_succ _, List.pairwise_singleton _ _, fun _ hi =>
    ⟨stem, hs, _, Nat.lt_succ_self _, Nat.le_refl _, List.mem_singleton.1 hi⟩⟩

/-- The name of a step with a closure, whose parameter is drawn first, then what the closure binds. -/
theorem closure {stem : String} (h : Fresh lo mid names) (hs : stem ∈ stems)
    (hinner : Fresh ⟨mid.taken + 1⟩ hi names') :
    Fresh lo ⟨hi.taken + 1⟩
      (names ++ localName stem (hi.taken + 1) :: localName "elem" (mid.taken + 1) :: names') := by
  have helem : "elem" ∈ stems := by decide
  refine (((h.snoc helem).append hinner).snoc hs).perm ?_
  refine List.perm_iff_count.2 fun i => ?_
  simp only [List.count_append, List.count_cons, List.count_nil]
  omega

end Fresh

end Signpost.Traversal
