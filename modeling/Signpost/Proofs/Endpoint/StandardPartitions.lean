import Mathlib.Data.List.DropRight
import Mathlib.Data.List.Find
import Mathlib.Data.List.Nodup
import Mathlib.Data.List.Pairwise
import Signpost.Endpoint.Diagnostics
import Signpost.Endpoint.StandardPartitions
import Signpost.Proofs.Pattern.Matching

/-!
# The standard partitions are told apart

A pattern of the standard table matches an area, a name and a number with hyphens between them (`isMatch_regionIn_iff`),
and neither names nor numbers have hyphens.  So the area of a region is what stands before its last two hyphens, however
many there are in the area itself (`area_eq_of_isMatch`).  As no two partitions share an area, and no partition lists a
region of another one, every region belongs to at most one of them, and the order of the table does not matter
(`standard_unambiguous`).
-/

namespace Signpost

/-- The region is one that the partition lists, or one that its pattern matches. -/
def PartitionEntry.Claims (e : PartitionEntry) (region : String) : Prop :=
  (e.regions.get? region).isSome = true ∨ e.pattern.isMatch region = true

namespace PartitionTable

open Pattern (Takes Accepts)

variable {areas : List String} {region : String}

/-! ### Regions -/

/-- One or more characters of a class. -/
def IsSomeOf (k : NamedClass) (cs : List Char) : Prop := cs ≠ [] ∧ ∀ c ∈ cs, k.contains c = true

theorem takes_exactly (c : Char) : (exactly c).Takes (· = [c]) := by
  refine (Takes.one _).congr fun ws => ?_
  have hsingle (d : Char) : (CharClass.single c).contains d = true ↔ d = c := by
    rw [CharClass.single, CharClass.contains, Bool.and_eq_true, decide_eq_true_eq, decide_eq_true_eq]
    exact ⟨fun h => Char.le_antisymm h.2 h.1, fun h => h ▸ ⟨Char.le_refl _, Char.le_refl _⟩⟩
  simp only [hsingle, exists_eq_left]

theorem takes_literal (s : String) : (literal s).Takes (· = s.toList) := by
  rw [literal]
  induction s.toList with
  | nil => exact .empty
  | cons c cs ih =>
    refine ((takes_exactly c).seq ih).congr fun ws => ?_
    simp only [exists_eq_left, exists_and_left, List.singleton_append]

theorem takes_oneOf (ss : List String) : (oneOf ss).Takes fun ws => ∃ s ∈ ss, ws = s.toList := by
  fun_induction oneOf ss with
  | case1 => exact (Takes.one _).congr fun ws => by simp [CharClass.contains]
  | case2 s => exact (takes_literal s).congr fun ws => by simp
  | case3 s ss _ ih => exact ((takes_literal s).alt ih).congr fun ws => by simp

theorem takes_someOf (k : NamedClass) : (someOf k).Takes (IsSomeOf k) := by
  refine ((Takes.one _).times 1 none).congr fun ws => ?_
  constructor
  · rintro ⟨wss, hlength, -, hwss, rfl⟩
    refine ⟨?_, fun c hc => ?_⟩
    · cases wss with
      | nil => cases hlength
      | cons w wss =>
        obtain ⟨c, -, rfl⟩ := hwss w List.mem_cons_self
        exact List.cons_ne_nil _ _
    · obtain ⟨w, hw, hc⟩ := List.mem_flatten.1 hc
      obtain ⟨d, hd, rfl⟩ := hwss w hw
      exact List.mem_singleton.1 hc ▸ hd
  · rintro ⟨hne, hall⟩
    refine ⟨ws.map ([·]), ?_, fun m hm => (nomatch hm), ?_, (List.flatMap_singleton' ws).symm⟩
    · rw [List.length_map]
      exact List.length_pos_iff.2 hne
    · intro w hw
      obtain ⟨c, hc, rfl⟩ := List.mem_map.1 hw
      exact ⟨c, hall c hc, rfl⟩

/-- A region is an area, a name and a number with hyphens between them. -/
theorem isMatch_regionIn_iff : (regionIn areas).isMatch region = true ↔
    ∃ a ∈ areas, ∃ name number, IsSomeOf .word name ∧ IsSomeOf .digit number ∧
      region.toList = a.toList ++ '-' :: (name ++ '-' :: number) := by
  have hbody := Accepts.seq (takes_oneOf areas) <| .seq (takes_exactly '-') <| .seq (takes_someOf .word) <|
    .seq (takes_exactly '-') <| .seq (takes_someOf .digit) .textEnd
  refine (hbody.isMatch_iff region).trans ?_
  constructor
  · rintro ⟨_, _, ⟨a, ha, rfl⟩, ⟨_, _, rfl, ⟨name, _, hname, ⟨_, _, rfl, ⟨number, _, hnumber, rfl, rfl⟩, rfl⟩, rfl⟩, rfl⟩,
      hregion⟩
    refine ⟨a, ha, name, number, hname, hnumber, ?_⟩
    rw [hregion, List.append_nil]
    rfl
  · rintro ⟨a, ha, name, number, hname, hnumber, hregion⟩
    exact ⟨_, _, ⟨a, ha, rfl⟩, ⟨_, _, rfl, ⟨name, _, hname, ⟨_, _, rfl, ⟨number, _, hnumber, rfl, rfl⟩, rfl⟩, rfl⟩, rfl⟩,
      by rw [hregion, List.append_nil]; rfl⟩

/-! ### Areas -/

/-- What stands before the last hyphen. -/
def beforeHyphen (cs : List Char) : List Char := (cs.rdropWhile (· ≠ '-')).dropLast

/-- The area of a region: what stands before its last two hyphens. -/
def area (region : String) : String := String.ofList (beforeHyphen (beforeHyphen region.toList))

theorem beforeHyphen_append {us vs : List Char} (h : '-' ∉ vs) : beforeHyphen (us ++ '-' :: vs) = us := by
  have hdrop : (us ++ '-' :: vs).rdropWhile (· ≠ '-') = us ++ ['-'] := by
    induction vs using List.reverseRecOn with
    | nil => exact List.rdropWhile_concat_neg _ _ _ (by decide)
    | append_singleton vs v ih =>
      obtain ⟨hvs, hv⟩ := not_or.1 (mt List.mem_append.2 h)
      have hne : v ≠ '-' := fun heq => hv (heq ▸ List.mem_singleton_self _)
      rw [← List.cons_append, ← List.append_assoc, List.rdropWhile_concat_pos _ _ _ (by simp [hne]), ih hvs]
  rw [beforeHyphen, hdrop, List.dropLast_concat]

private theorem hyphen_notMem {k : NamedClass} {cs : List Char} (h : IsSomeOf k cs) (hk : k.contains '-' = false) :
    '-' ∉ cs := by
  intro hmem
  rw [h.2 _ hmem] at hk
  cases hk

/-- Names and numbers have no hyphens, so that the area is told from the region. -/
theorem area_mem_of_isMatch (h : (regionIn areas).isMatch region = true) : area region ∈ areas := by
  obtain ⟨a, ha, name, number, hname, hnumber, hregion⟩ := isMatch_regionIn_iff.1 h
  have hword : '-' ∉ name := hyphen_notMem hname (by decide +kernel)
  have hdigit : '-' ∉ number := hyphen_notMem hnumber (by decide +kernel)
  have hassoc : a.toList ++ '-' :: (name ++ '-' :: number) = (a.toList ++ '-' :: name) ++ '-' :: number := by simp
  rwa [area, hregion, hassoc, beforeHyphen_append hdigit, beforeHyphen_append hword, String.ofList_toList]

/-! ### At most one partition -/

/-- Partitions do not claim the same regions if they list different ones, have different areas, and list no region of an
area of the other one. -/
theorem not_claims_of_apart {e f : PartitionEntry} {as bs : List String} (he : e.pattern = regionIn as)
    (hf : f.pattern = regionIn bs)
    (hapart : (∀ r ∈ e.regions.keys, r ∉ f.regions.keys ∧ area r ∉ bs) ∧ (∀ r ∈ f.regions.keys, area r ∉ as) ∧
      ∀ a ∈ as, a ∉ bs) (region : String) : ¬ (e.Claims region ∧ f.Claims region) := by
  have hlisted {g : PartitionEntry} (h : (g.regions.get? region).isSome = true) : region ∈ g.regions.keys := by
    obtain ⟨c, hc⟩ := Option.isSome_iff_exists.1 h
    exact List.mem_map.2 ⟨_, Table.mem_of_get? hc, rfl⟩
  obtain ⟨hleft, hright, hareas⟩ := hapart
  rintro ⟨h | h, h' | h'⟩
  · exact (hleft _ (hlisted h)).1 (hlisted h')
  · exact (hleft _ (hlisted h)).2 (area_mem_of_isMatch (hf ▸ h'))
  · exact hright _ (hlisted h') (area_mem_of_isMatch (he ▸ h))
  · exact hareas _ (area_mem_of_isMatch (he ▸ h)) (area_mem_of_isMatch (hf ▸ h'))

/-- No region is claimed by both partitions. -/
abbrev Apart (e f : PartitionEntry) : Prop := ∀ region, ¬ (e.Claims region ∧ f.Claims region)

theorem pairwise_apart_standard : standard.Pairwise Apart := by
  simp only [standard, List.pairwise_cons, List.forall_mem_cons, List.not_mem_nil, false_imp_iff, implies_true,
    List.Pairwise.nil, and_true]
  refine ⟨⟨?_, ?_, ?_⟩, ⟨?_, ?_⟩, ?_⟩
  all_goals exact not_claims_of_apart rfl rfl (by decide)

theorem eq_of_claims {e f : PartitionEntry} (he : e ∈ standard) (hf : f ∈ standard) (h : e.Claims region)
    (h' : f.Claims region) : e = f := by
  have hsymm : Std.Symm Apart := ⟨fun e f hef region hclaims => hef region hclaims.symm⟩
  by_contra hne
  exact pairwise_apart_standard.forall he hf hne region ⟨h, h'⟩

/-! ### Tables in any order -/

private theorem findSome?_eq_bind_find? {α β : Type} (f : α → Option β) (as : List α) :
    as.findSome? f = (as.find? fun a => (f a).isSome).bind f := by
  induction as with
  | nil => rfl
  | cons a as ih =>
    rw [List.findSome?_cons, List.find?_cons]
    cases h : f a with
    | none => exact ih
    | some b => exact h.symm

/-- What is asked for is the same in every order, as one partition at most is found. -/
theorem resolve_eq_of_perm {t : PartitionTable} (h : t.Perm standard) (region : String) :
    t.resolve region = standard.resolve region := by
  have hfind {p : PartitionEntry → Bool} (hp : ∀ e ∈ standard, ∀ f ∈ standard, p e = true → p f = true → e = f) :
      t.find? p = standard.find? p :=
    (List.find?_eq_find?_of_perm h.symm fun e he f hf => hp e he.1 f hf.1 he.2 hf.2).symm
  have hlisted : t.listed? region = standard.listed? region := by
    rw [listed?, listed?, findSome?_eq_bind_find?, findSome?_eq_bind_find?, hfind]
    intro e he f hf hse hsf
    rw [Option.isSome_map] at hse hsf
    exact eq_of_claims he hf (.inl hse) (.inl hsf)
  have hmatched : t.matched? region = standard.matched? region := by
    rw [matched?, matched?, hfind]
    exact fun e he f hf hme hmf => eq_of_claims he hf (.inr hme) (.inr hmf)
  have hfallback : t.fallback? = standard.fallback? := by
    rw [fallback?, fallback?, hfind]
    have hids : (standard.map (·.id)).Nodup := by decide
    intro e he f hf hide hidf
    exact List.inj_on_of_nodup_map hids he hf ((of_decide_eq_true hide).trans (of_decide_eq_true hidf).symm)
  rw [resolve, resolve, hlisted, hmatched, hfallback]

/-- The standard table has a partition for regions that belong to no other. -/
theorem exists_resolve_standard (region : String) : ∃ p, standard.resolve region = .ok p := by
  have hfallback : standard.fallback? = some commercial.outputs := by decide
  rw [resolve, hfallback]
  cases standard.listed? region with
  | some p => exact ⟨p, rfl⟩
  | none =>
    cases standard.matched? region with
    | some p => exact ⟨p, rfl⟩
    | none => exact ⟨_, rfl⟩

/-- The standard table is unambiguous: no region that is listed by a partition, or matched by its pattern, is listed by
another one or matched by its pattern.  So every region has one partition, whatever the order of the table, and nothing
is reported. -/
theorem standard_unambiguous : standard.Pairwise Apart ∧
    ∀ region, ∃ p, ∀ t : PartitionTable, t.Perm standard → ∀ d : Diagnostics,
      d.capture Unknown.message (t.resolve region) = (some p, d) := by
  refine ⟨pairwise_apart_standard, fun region => ?_⟩
  obtain ⟨p, hp⟩ := exists_resolve_standard region
  refine ⟨p, fun t ht d => ?_⟩
  rw [resolve_eq_of_perm ht, hp, Diagnostics.capture]

/-- A region that no partition lists, with the table the other way round: its area is `us-gov`, not `us`. -/
theorem standard_unambiguous_reversed : standard.reverse.Perm standard ∧
    Diagnostics.empty.capture Unknown.message (PartitionTable.resolve standard.reverse "us-gov-north-9") =
      (some government.outputs, Diagnostics.empty) := by
  obtain ⟨p, hp⟩ := standard_unambiguous.2 "us-gov-north-9"
  have hgovernment : standard.resolve "us-gov-north-9" = .ok government.outputs := by decide +kernel
  have hstandard := hp standard (.refl _) .empty
  rw [hgovernment, Diagnostics.capture] at hstandard
  exact ⟨standard.reverse_perm, (hp _ standard.reverse_perm .empty).trans hstandard.symm⟩

end PartitionTable

end Signpost
