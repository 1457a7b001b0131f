import Signpost.Proofs.Resolver.Lookups

/-!
# Functions that are used

A registry has a history: functions are registered, functions are looked up, and use is forgotten.  Whatever it is,
each function is under its id (`Registry.keyed_after`), a compiled ruleset uses the functions that it calls, in the
order of the first call (`used_compileRules`), and changes that do not concern these make no difference
(`compileRules_after`).
-/

namespace Signpost.Resolver

open Rules (Ruleset)

namespace Registry

/-- What is done with a registry. -/
inductive Change where
  | register (f : Function)
  | lookUp (id : String)
  | reset

def change (r : Registry) : Change → Registry
  | .register f => r.register f
  | .lookUp id => ((r.lookUp id).map (·.2)).getD r
  | .reset => r.reset

/-- The registry after a history. -/
def after (r : Registry) (changes : List Change) : Registry := changes.foldl change r

theorem standard_eq_after : standard = empty.after (Library.functions.map .register) := rfl

theorem functions_change (r : Registry) (c : Change) : (r.change c).functions = match c with
    | .register f => r.functions.put f.id f
    | _ => r.functions := by
  cases c with
  | register f => rfl
  | reset => rfl
  | lookUp id =>
    rw [change, lookUp_eq]
    cases r.functions.get? id with
    | none => rfl
    | some f => exact functions_use r [id]

/-! ### Functions under their ids -/

/-- A function that is found has the id by which it is found. -/
def Keyed (r : Registry) : Prop := ∀ name f, r.functions.get? name = some f → f.id = name

theorem Keyed.change {r : Registry} (h : r.Keyed) (c : Change) : (r.change c).Keyed := by
  intro name f hf
  rw [functions_change] at hf
  cases c with
  | register g =>
    rw [Table.get?_put] at hf
    split at hf
    · cases hf
      assumption
    · exact h name f hf
  | lookUp id => exact h name f hf
  | reset => exact h name f hf

theorem Keyed.after {r : Registry} (h : r.Keyed) (changes : List Change) : (r.after changes).Keyed := by
  induction changes generalizing r with
  | nil => exact h
  | cons c cs ih => exact ih (h.change c)

theorem keyed_after (changes : List Change) : (empty.after changes).Keyed :=
  Keyed.after (fun _ _ h => by cases h) changes

/-- The functions of names that are all registered have these names for ids. -/
theorem Keyed.map_id {r : Registry} (h : r.Keyed) {names : List String}
    (hnames : ∀ name ∈ names, (r.functions.get? name).isSome = true) :
    (names.filterMap r.functions.get?).map (·.id) = names := by
  induction names with
  | nil => rfl
  | cons name names ih =>
    obtain ⟨hname, hnames⟩ := List.forall_mem_cons.1 hnames
    obtain ⟨f, hf⟩ := Option.isSome_iff_exists.1 hname
    rw [List.filterMap_cons_some hf, List.map_cons, ih hnames, h name f hf]

/-! ### Changes that make no difference -/

/-- The change is a registration of one of these functions. -/
def Change.concerns (names : List String) : Change → Bool
  | .register f => names.contains f.id
  | _ => false

theorem AgreeOn.refl (names : List String) (r : Registry) : AgreeOn names r r := fun _ _ => rfl

theorem AgreeOn.trans {names : List String} {r s t : Registry} (h : AgreeOn names r s) (h' : AgreeOn names s t) :
    AgreeOn names r t := fun name hname => (h' name hname).trans (h name hname)

theorem AgreeOn.symm {names : List String} {r s : Registry} (h : AgreeOn names r s) : AgreeOn names s r :=
  fun name hname => (h name hname).symm

theorem AgreeOn.change {names : List String} {r s : Registry} (h : AgreeOn names r s) (c : Change) :
    AgreeOn names (r.change c) (s.change c) := by
  intro name hname
  rw [functions_change, functions_change]
  cases c with
  | register f => rw [Table.get?_put, Table.get?_put, h name hname]
  | lookUp id => exact h name hname
  | reset => exact h name hname

theorem agreeOn_change {names : List String} {c : Change} (h : c.concerns names = false) (r : Registry) :
    AgreeOn names r (r.change c) := by
  intro name hname
  rw [functions_change]
  cases c with
  | register f =>
    have hne : f.id ≠ name := by
      rintro rfl
      simp [Change.concerns, hname] at h
    rw [Table.get?_put, if_neg hne]
  | lookUp id => rfl
  | reset => rfl

/-- Of a history only what concerns the names makes a difference for them. -/
theorem AgreeOn.after_filter {names : List String} {r s : Registry} (h : AgreeOn names r s) (changes : List Change) :
    AgreeOn names (r.after (changes.filter (·.concerns names))) (s.after changes) := by
  induction changes generalizing r s with
  | nil => exact h
  | cons c cs ih =>
    by_cases hc : c.concerns names = true
    · rw [List.filter_cons_of_pos hc]
      exact ih (h.change c)
    · rw [List.filter_cons_of_neg hc]
      exact ih (h.trans (agreeOn_change (by simpa using hc) s))

end Registry

variable {registry : Registry} {maxDepth : Nat} {ruleset : Ruleset} {c : CompiledRules}

/-! ### What is used -/

theorem usedFunctions_use (r : Registry) (names : List String) :
    (r.reset.use names).usedFunctions = names.eraseDups.filterMap r.functions.get? := by
  rw [Registry.usedFunctions, Registry.functions_use, Registry.used_use]
  simp [Registry.reset]

theorem compileRules_used (h : compileRules registry maxDepth ruleset = .ok c) :
    c.used = (lookUps ruleset.parts).eraseDups.filterMap registry.functions.get? ∧
      ∀ name ∈ lookUps ruleset.parts, (registry.functions.get? name).isSome = true := by
  rw [compileRules_eq] at h
  split at h
  · cases h
  · obtain ⟨⟨⟨locals, body⟩, r'⟩, hrun, rfl⟩ := exists_of_map_ok h
    have hlooks := looksUp_parametersAndRules maxDepth ruleset
    refine ⟨?_, fun name hname => hlooks.finds hrun name hname⟩
    obtain rfl := hlooks.marks hrun
    exact usedFunctions_use registry _

/-- A compiled ruleset uses the functions that it calls and that are not built in: each of them once, in the order in
which they are called first.  Its state is that of these functions, in their order. -/
theorem used_compileRules {changes : List Registry.Change}
    (h : compileRules (Registry.empty.after changes) maxDepth ruleset = .ok c) :
    c.used.map (·.id) = (lookUps ruleset.parts).eraseDups ∧
      c.states = (lookUps ruleset.parts).eraseDups.filterMap fun name =>
        ((Registry.empty.after changes).functions.get? name).bind (·.state) := by
  obtain ⟨hused, hfound⟩ := compileRules_used h
  constructor
  · rw [hused]
    exact (Registry.keyed_after changes).map_id fun name hname => hfound name (List.mem_eraseDups.1 hname)
  · rw [CompiledRules.states, hused, List.filterMap_filterMap]

/-- A label is checked, and behind it a partition is looked for in a tree. -/
def callingRules : Ruleset where
  version := "1.0"
  parameters := []
  rules :=
    [.mk none [⟨⟨"isValidHostLabel", [.call "uriEncode" [.string [.text "a b"]], .bool false]⟩, none⟩]
        (.error (.string [.text "no label ", .hole (.call "uriEncode" [.string [.text "c"]])])),
      .mk none [] (.tree
        [.mk none [⟨⟨"isSet", [.call "aws.partition" [.string [.text "us"]]]⟩, none⟩]
            (.endpoint ⟨.string [.text "https://us"], [], [("encoded", .call "uriEncode" [.string [.text "d"]])]⟩),
          .mk none [] (.error (.string [.text "no partition"]))])]

theorem used_callingRules : ∃ c, compileRules .standard 64 callingRules = .ok c ∧
    c.used.map (·.id) = ["isValidHostLabel", "uriEncode", "aws.partition"] ∧
      c.states.map (·.field) = [Library.partitionField] := by
  rw [Registry.standard_eq_after]
  have hok : (compileRules (Registry.empty.after (Library.functions.map .register)) 64 callingRules).isOk = true := by
    decide +kernel
  obtain ⟨c, hc⟩ := exists_of_isOk hok
  obtain ⟨hused, hstates⟩ := used_compileRules hc
  refine ⟨c, hc, hused.trans (by decide +kernel), ?_⟩
  rw [hstates]
  decide +kernel

/-! ### What makes no difference -/

/-- Compiling depends on nothing but the functions that are called. -/
theorem compileRules_congr {s : Registry} (h : registry.AgreeOn (lookUps ruleset.parts) s) :
    compileRules s maxDepth ruleset = compileRules registry maxDepth ruleset := by
  have hlooks := looksUp_parametersAndRules maxDepth ruleset
  have hreset : registry.reset.AgreeOn (lookUps ruleset.parts) s.reset := h
  rw [compileRules_eq, compileRules_eq]
  split
  · rfl
  · cases hrun : parametersAndRules maxDepth ruleset registry.reset with
    | error f => rw [hlooks.error_of_agrees hreset hrun]
    | ok x =>
      obtain ⟨⟨locals, body⟩, r'⟩ := x
      obtain rfl := hlooks.marks hrun
      rw [hlooks.ok_of_agrees hreset hrun]
      have hused : (s.reset.use (lookUps ruleset.parts)).usedFunctions =
          (registry.reset.use (lookUps ruleset.parts)).usedFunctions := by
        rw [usedFunctions_use, usedFunctions_use]
        exact List.filterMap_congr fun name hname => h name (List.mem_eraseDups.1 hname)
      simp only [Except.map, hused]

/-- Changes of a registry that do not concern functions that are called make no difference, be it for the result or for
the failure: neither functions registered besides, whenever they are, nor functions looked up beforehand. -/
theorem compileRules_after (registry : Registry) {changes changes' : List Registry.Change} (maxDepth : Nat)
    (ruleset : Ruleset) (h : changes'.filter (·.concerns (lookUps ruleset.parts)) =
      changes.filter (·.concerns (lookUps ruleset.parts))) :
    compileRules (registry.after changes') maxDepth ruleset =
      compileRules (registry.after changes) maxDepth ruleset := by
  have hagree := (Registry.AgreeOn.refl (lookUps ruleset.parts) registry).after_filter changes
  have hagree' := (Registry.AgreeOn.refl (lookUps ruleset.parts) registry).after_filter changes'
  rw [h] at hagree'
  exact compileRules_congr (hagree.symm.trans hagree')

/-- Other functions are registered, one before the standard ones and one with the name of an intrinsic behind them, and
functions have been looked up. -/
theorem compileRules_callingRules_after :
    (compileRules .standard 64 callingRules).isOk = true ∧
      compileRules (Registry.empty.after
          (.register { Library.uriEncode with id := "encode" } :: .lookUp "encode" ::
            (Library.functions.map .register ++
              [.register { Library.uriEncode with id := "isSet" }, .lookUp "aws.partition", .lookUp "substring"])))
          64 callingRules =
        compileRules (Registry.empty.after (Library.functions.map .register)) 64 callingRules :=
  ⟨by decide +kernel, compileRules_after .empty 64 callingRules rfl⟩

end Signpost.Resolver
