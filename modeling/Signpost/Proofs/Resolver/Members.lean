import Mathlib.Data.List.Nodup
import Mathlib.Data.List.Perm.Basic
import Signpost.Proofs.Naming.SnakeCase
import Signpost.Proofs.Resolver.Conditions
import Signpost.Resolver.Items
import Signpost.Samples.Rulesets

/-!
# Names of fields and methods

The structure of parameters and its builder have a field for each parameter, the former a method that reads it, and the
latter two that set it.  They have different names exactly if the parameters have different names in snake case, none is
named like a fixed method, and none like the setter of another one (`nodup_members_iff`).
-/

namespace Signpost

open Code (Ident Item)
open Naming (snakeCase)

namespace Code.Item

/-- The names of the fields if the item is the structure of this name. -/
def fieldNames (owner : Ident) : Item → List String
  | record r => if r.name = owner then r.fields.map (·.1.name) else []
  | _ => []

/-- The names of the methods that the item adds to the structure of this name. -/
def methodNames (owner : Ident) : Item → List String
  | implementation none target ms => if target = owner then ms.map (·.name.name) else []
  | _ => []

end Code.Item

namespace Resolver

open Rules (Parameter Ruleset)

variable {ps : List NamedParameter} {c : CompiledRules} {runtime : Code.Path}

/-! ### Members -/

theorem fieldNames_items : ∀ owner ∈ [paramsName, builderName],
    (c.items runtime ps).flatMap (Item.fieldNames owner) = ps.map (·.ident.name) := by
  have hnames : paramsName ≠ builderName ∧ resolverName ≠ paramsName ∧ resolverName ≠ builderName := by decide
  refine List.forall_mem_cons.2 ⟨?_, List.forall_mem_singleton.2 ?_⟩ <;>
    simp [CompiledRules.items, parameterItems, Item.fieldNames, hnames, hnames.1.symm]

theorem methodNames_params :
    (c.items runtime ps).flatMap (Item.methodNames paramsName) = "builder" :: ps.map (·.ident.name) := by
  have hnames : builderName ≠ paramsName ∧ resolverName ≠ paramsName := by decide
  simp only [CompiledRules.items, parameterItems, List.append_assoc, List.cons_append, List.nil_append, hnames,
    List.flatMap_cons, List.flatMap_nil, Item.methodNames, ↓reduceIte, List.map_cons, List.map_map, List.append_nil,
    List.cons.injEq, List.map_inj_left, Function.comp_apply]
  exact ⟨rfl, fun p hp => rfl⟩

theorem methodNames_builder : (c.items runtime ps).flatMap (Item.methodNames builderName) =
    "build" :: ps.flatMap fun p => [p.ident.name, "set_" ++ p.ident.name] := by
  have hnames : paramsName ≠ builderName ∧ resolverName ≠ builderName := by decide
  simp only [CompiledRules.items, parameterItems, List.append_assoc, List.cons_append, List.nil_append, hnames,
    List.flatMap_cons, List.flatMap_nil, Item.methodNames, ↓reduceIte, List.map_cons, List.map_flatMap, List.append_nil,
    List.cons.injEq]
  exact ⟨rfl, rfl⟩

/-! ### Names -/

private theorem toList_set (s : String) : ("set_" ++ s).toList = 's' :: 'e' :: 't' :: '_' :: s.toList := by
  rw [String.toList_append]
  rfl

/-- No keyword that cannot be raw starts like a setter, with an underscore behind it or not. -/
private theorem ne_set {s t : String} (hs : s ∈ ["self", "Self", "crate", "super"]) :
    s ≠ "set_" ++ t ∧ s ++ "_" ≠ "set_" ++ t := by
  have hstart : ∀ s ∈ ["self", "Self", "crate", "super"], s.toList.take 3 ≠ ['s', 'e', 't'] ∧
      (s ++ "_").toList.take 3 ≠ ['s', 'e', 't'] := by decide
  refine ⟨fun h => (hstart s hs).1 ?_, fun h => (hstart s hs).2 ?_⟩
  · rw [h, toList_set]
    rfl
  · rw [h, toList_set]
    rfl

private theorem fieldName_of_set {n s : String} (h : snakeCase n = "set_" ++ s) : Ident.fieldName n = snakeCase n := by
  have hlist := (congrArg String.toList h).trans (toList_set s)
  obtain ⟨-, hs⟩ | ⟨c, cs, -, hc, hs⟩ | ⟨c, cs, hf, -, hs⟩ := Ident.toList_fieldName n
  · rw [hs] at hlist
    cases hlist
  · rw [hs] at hlist
    cases hlist
    cases hc
  · exact String.toList_inj.1 (hf.trans hs.symm)

/-- An identifier that starts like a setter is the name in snake case. -/
private theorem name_eq_set_iff_snakeCase {n s : String} {j : Ident} (hn : Ident.ofName? n = some j) :
    j.name = "set_" ++ s ↔ snakeCase n = "set_" ++ s := by
  constructor
  · intro h
    obtain ⟨t, ht, hj, -⟩ | ⟨-, hj⟩ := Ident.fieldName_of_ofName? hn
    · exact absurd (hj.symm.trans h) (ne_set ht).2
    · have hlist := (congrArg String.toList (hj.trans h)).trans (toList_set s)
      obtain ⟨hf, -⟩ | ⟨c, cs, hf, -, -⟩ | ⟨c, cs, hf, -, hs⟩ := Ident.toList_fieldName n
      · cases hf.symm.trans hlist
      · cases hf.symm.trans hlist
      · rw [← hj.trans h]
        exact String.toList_inj.1 (hs.trans hf.symm)
  · intro hset
    have hfield := fieldName_of_set hset
    obtain ⟨t, ht, -, hf⟩ | ⟨-, hj⟩ := Ident.fieldName_of_ofName? hn
    · exact absurd (hf.symm.trans (hfield.trans hset)) (ne_set ht).1
    · exact hj.symm.trans (hfield.trans hset)

/-- Behind `set_`, a name in snake case has an identifier without an added underscore: with one, there would be two in a
row or one at the end. -/
private theorem name_eq_snakeCase_of_set {m n : String} {i : Ident} (hm : Ident.ofName? m = some i)
    (h : snakeCase n = "set_" ++ i.name) : i.name = snakeCase m := by
  have hends := (Naming.ends_snakeCase_ne n).2
  have hlist := (congrArg String.toList h).trans (toList_set i.name)
  obtain ⟨s, -, hi, -⟩ | ⟨-, hi⟩ := Ident.fieldName_of_ofName? hm
  · rw [hi, String.toList_append] at hlist
    rw [hlist] at hends
    exact absurd (by simp [List.getLast?_cons]) hends
  · rw [← hi] at hlist ⊢
    obtain ⟨hf, -⟩ | ⟨c, cs, hf, -, -⟩ | ⟨c, cs, hf, -, hs⟩ := Ident.toList_fieldName m
    · rw [hlist, hf] at hends
      exact absurd rfl hends
    · have hchain := Naming.isChain_snakeCase n
      rw [hlist, hf] at hchain
      simp at hchain
    · exact String.toList_inj.1 (hf.trans hs.symm)

/-- A name makes the identifier of a setter exactly if it is in snake case that of the setter, and the identifier of the
parameter has no underscore added. -/
theorem name_eq_set_iff {m n : String} {i j : Ident} (hm : Ident.ofName? m = some i) (hn : Ident.ofName? n = some j) :
    j.name = "set_" ++ i.name ↔ snakeCase n = "set_" ++ snakeCase m ∧ i.name = snakeCase m := by
  rw [name_eq_set_iff_snakeCase hn]
  constructor
  · intro h
    have hi := name_eq_snakeCase_of_set hm h
    exact ⟨hi ▸ h, hi⟩
  · rintro ⟨h, hi⟩
    rw [h, hi]

/-! ### Parameters -/

/-- Every parameter of a ruleset that is compiled has an identifier. -/
theorem exists_ident_of_compileRules {registry : Registry} {maxDepth : Nat} {r : Ruleset}
    (h : compileRules registry maxDepth r = .ok c) : ∀ p ∈ r.parameters, ∃ i, Ident.ofName? p.name = some i := by
  obtain ⟨scope, -, -, hnamed, hnames, -⟩ := compileRules_ok h
  intro p hp
  have hname : p.name ∈ scope.names := by
    rw [hnames, List.mem_reverse]
    exact List.mem_map_of_mem hp
  obtain ⟨x, hx, hname⟩ := List.mem_map.1 hname
  exact ⟨x.2.ident, hname ▸ hnamed x hx⟩

private theorem ofName?_of_mem {params : List Parameter} :
    ∀ p ∈ params.filterMap NamedParameter.of?, Ident.ofName? p.parameter.name = some p.ident := by
  intro p hp
  obtain ⟨q, -, hq⟩ := List.mem_filterMap.1 hp
  obtain ⟨i, hi, rfl⟩ := Option.map_eq_some_iff.1 hq
  exact hi

private theorem map_parameter_filterMap {params : List Parameter}
    (h : ∀ p ∈ params, ∃ i, Ident.ofName? p.name = some i) :
    (params.filterMap NamedParameter.of?).map (·.parameter) = params := by
  induction params with
  | nil => rfl
  | cons p params ih =>
    obtain ⟨⟨i, hi⟩, hrest⟩ := List.forall_mem_cons.1 h
    have hp : NamedParameter.of? p = some ⟨i, p⟩ := by rw [NamedParameter.of?, hi, Option.map_some]
    rw [List.filterMap_cons_some hp, List.map_cons, ih hrest]

theorem nodup_idents_iff (h : ∀ p ∈ ps, Ident.ofName? p.parameter.name = some p.ident) :
    (ps.map (·.ident.name)).Nodup ↔ (ps.map fun p => snakeCase p.parameter.name).Nodup := by
  rw [List.Nodup, List.pairwise_map, List.pairwise_map]
  exact List.Pairwise.iff_of_mem fun hp hq => not_congr (Ident.name_eq_name_iff (h _ hp) (h _ hq))

/-- The methods of the builder have different names if the parameters do, and none is named like the fixed method or a
setter. -/
theorem nodup_setters_iff {fixed : String} (hfixed : ∀ s, fixed ≠ "set_" ++ s) :
    (fixed :: ps.flatMap fun p => [p.ident.name, "set_" ++ p.ident.name]).Nodup ↔
      (ps.map (·.ident.name)).Nodup ∧ (∀ p ∈ ps, p.ident.name ≠ fixed) ∧
        ∀ p ∈ ps, ∀ q ∈ ps, q.ident.name ≠ "set_" ++ p.ident.name := by
  have hperm := (List.map_append_flatMap_perm ps (·.ident.name) fun p => ["set_" ++ p.ident.name]).cons fixed
  have hsetters : (ps.map fun p => "set_" ++ p.ident.name).Nodup ↔ (ps.map (·.ident.name)).Nodup := by
    have hmap := List.nodup_map_iff (l := ps.map (·.ident.name)) fun _ _ h => (String.append_right_inj "set_").1 h
    rwa [List.map_map] at hmap
  rw [← hperm.nodup_iff, ← List.map_eq_flatMap, List.nodup_cons, List.nodup_append, hsetters]
  constructor
  · rintro ⟨hmem, hnodup, -, hne⟩
    refine ⟨hnodup, fun p hp heq => hmem ?_, fun p hp q hq => ?_⟩
    · exact List.mem_append_left _ (heq ▸ List.mem_map_of_mem hp)
    · exact hne _ (List.mem_map_of_mem hq) _ (List.mem_map_of_mem hp)
  · rintro ⟨hnodup, hplain, hne⟩
    refine ⟨fun hmem => ?_, hnodup, hnodup, List.forall_mem_map.2 fun q hq => List.forall_mem_map.2 fun p hp => ?_⟩
    · rcases List.mem_append.1 hmem with hmem | hmem
      · obtain ⟨p, hp, heq⟩ := List.mem_map.1 hmem
        exact hplain p hp heq
      · obtain ⟨p, -, heq⟩ := List.mem_map.1 hmem
        exact hfixed _ heq.symm
    · exact hne p hp q hq

private theorem build_ne_set (s : String) : "build" ≠ "set_" ++ s := by
  intro h
  cases (congrArg String.toList h).trans (toList_set s)

/-- The members have different names if the identifiers are different, and none is that of a fixed method or a setter. -/
theorem nodup_items_iff : (∀ owner ∈ [paramsName, builderName],
    ((c.items runtime ps).flatMap (Item.fieldNames owner)).Nodup ∧
      ((c.items runtime ps).flatMap (Item.methodNames owner)).Nodup) ↔
    (ps.map (·.ident.name)).Nodup ∧ (∀ p ∈ ps, p.ident.name ≠ "builder" ∧ p.ident.name ≠ "build") ∧
      ∀ p ∈ ps, ∀ q ∈ ps, q.ident.name ≠ "set_" ++ p.ident.name := by
  rw [List.forall_mem_cons, List.forall_mem_singleton, fieldNames_items _ List.mem_cons_self,
    fieldNames_items _ (List.mem_cons_of_mem _ List.mem_cons_self), methodNames_params, methodNames_builder,
    nodup_setters_iff build_ne_set, List.nodup_cons]
  constructor
  · rintro ⟨⟨hnodup, hbuilder, -⟩, -, -, hbuild, hset⟩
    exact ⟨hnodup, fun p hp => ⟨fun heq => hbuilder (heq ▸ List.mem_map_of_mem hp), hbuild p hp⟩, hset⟩
  · rintro ⟨hnodup, hplain, hset⟩
    refine ⟨⟨hnodup, fun hmem => ?_, hnodup⟩, hnodup, hnodup, fun p hp => (hplain p hp).2, hset⟩
    obtain ⟨p, hp, heq⟩ := List.mem_map.1 hmem
    exact (hplain p hp).1 heq

private theorem ident_ne_fixed_iff {p : NamedParameter} (h : Ident.ofName? p.parameter.name = some p.ident) :
    p.ident.name ≠ "builder" ∧ p.ident.name ≠ "build" ↔
      snakeCase p.parameter.name ≠ "builder" ∧ snakeCase p.parameter.name ≠ "build" := by
  have hwords : ∀ w ∈ ["builder", "build"],
      w ≠ "" ∧ w.toList.all Char.isLower = true ∧ Code.isKeyword w = false := by decide
  have hiff : ∀ w ∈ ["builder", "build"], p.ident.name = w ↔ snakeCase p.parameter.name = w := by
    intro w hw
    obtain ⟨hne, hletters, hkeyword⟩ := hwords w hw
    exact Ident.name_eq_letters_iff h hne (List.all_eq_true.1 hletters) hkeyword
  rw [Ne, Ne, hiff "builder" (by simp), hiff "build" (by simp)]

private theorem ident_ne_set_iff {p q : NamedParameter} (hp : Ident.ofName? p.parameter.name = some p.ident)
    (hq : Ident.ofName? q.parameter.name = some q.ident) : q.ident.name ≠ "set_" ++ p.ident.name ↔
      (snakeCase q.parameter.name = "set_" ++ snakeCase p.parameter.name →
        (snakeCase p.parameter.name).toList.head?.any Char.isDigit = true ∨
          snakeCase p.parameter.name ∈ ["self", "Self", "crate", "super"]) := by
  rw [Ne, name_eq_set_iff hp hq, not_and]
  refine forall_congr' fun hset => ?_
  -- nothing behind the underscore would leave it at the end
  have hne : snakeCase p.parameter.name ≠ "" := by
    intro hnil
    rw [hnil] at hset
    refine (Naming.ends_snakeCase_ne q.parameter.name).2 ?_
    rw [hset]
    rfl
  rw [Ident.name_eq_snakeCase_iff hp hne, not_not]

/-- The fields and the methods of the structure of parameters and of its builder have different names exactly if the
parameters have different names in snake case, none is named like a fixed method, and none like the setter of another
one, unless the identifier of the latter has an underscore added to it. -/
theorem nodup_members_iff {s : Settings} {r : Ruleset} {items : List Item} (h : resolverItems s r = .ok items) :
    (∀ owner ∈ [paramsName, builderName], (items.flatMap (Item.fieldNames owner)).Nodup ∧
        (items.flatMap (Item.methodNames owner)).Nodup) ↔
      (r.parameters.map fun p => snakeCase p.name).Nodup ∧
        (∀ p ∈ r.parameters, snakeCase p.name ≠ "builder" ∧ snakeCase p.name ≠ "build") ∧
        ∀ p ∈ r.parameters, ∀ q ∈ r.parameters, snakeCase q.name = "set_" ++ snakeCase p.name →
          (snakeCase p.name).toList.head?.any Char.isDigit = true ∨
            snakeCase p.name ∈ ["self", "Self", "crate", "super"] := by
  obtain ⟨c, hc, hitems⟩ := exists_of_bind_ok h
  cases hitems
  have hparams := map_parameter_filterMap (exists_ident_of_compileRules hc)
  have hnamed : ∀ p ∈ r.parameters.filterMap NamedParameter.of?, Ident.ofName? p.parameter.name = some p.ident :=
    ofName?_of_mem
  rw [nodup_items_iff]
  generalize r.parameters.filterMap NamedParameter.of? = ps at hparams hnamed
  rw [← hparams, List.map_map, List.forall_mem_map, nodup_idents_iff hnamed]
  refine and_congr Iff.rfl (and_congr (forall₂_congr fun p hp => ident_ne_fixed_iff (hnamed p hp)) ?_)
  rw [List.forall_mem_map]
  refine forall₂_congr fun p hp => ?_
  rw [List.forall_mem_map]
  exact forall₂_congr fun q hq => ident_ne_set_iff (hnamed p hp) (hnamed q hq)

open Samples (basic stringParameter)

theorem nodup_members_iff_build : ∃ items,
    resolverItems .standard { basic with parameters := [stringParameter "build" "What is built."] } = .ok items ∧
      ¬ ∀ owner ∈ [paramsName, builderName], (items.flatMap (Item.fieldNames owner)).Nodup ∧
        (items.flatMap (Item.methodNames owner)).Nodup := by
  have hok : (resolverItems .standard
      { basic with parameters := [stringParameter "build" "What is built."] }).isOk = true := by decide +kernel
  obtain ⟨items, h⟩ := exists_of_isOk hok
  have hletters : "build".toList.all Char.isLower = true := by decide
  refine ⟨items, h, fun hnodup => ?_⟩
  have hplain := ((nodup_members_iff h).1 hnodup).2.1 _ List.mem_cons_self
  exact hplain.2 (Naming.snakeCase_letters (by decide) (List.all_eq_true.1 hletters))

/-- The setter of one parameter may be the method of another one. -/
example : (resolverItems .standard { basic with parameters :=
    [stringParameter "Region" "A region.", stringParameter "SetRegion" "Whether it is set."] }).toOption.map
      (·.flatMap (Item.methodNames builderName)) =
    some ["build", "region", "set_region", "set_region", "set_set_region"] := by decide +kernel

end Resolver

end Signpost
