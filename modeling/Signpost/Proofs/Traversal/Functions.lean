import Mathlib.Data.List.Nodup
import Signpost.Proofs.Except
import Signpost.Proofs.Naming.SnakeCase
import Signpost.Proofs.Traversal.Coherence
import Signpost.Samples.Inventory
import Signpost.Traversal.Function

/-!
# What functions are made of

The parameters of a function are values of the shapes of its roots (`exists_ofShape_of_function`), and the rest of it is
read off the query as compiled on them (`exists_run_of_function`).  They are named like the roots, in snake case, and
the root whose members are in scope is named `root`: two of them have one name exactly if the names of their roots are
the same in snake case (`Settings.nodup_params_iff`).
-/

namespace Signpost.Traversal

open Code (Ident)
open Query (Expr)

/-- The identifier that a root is passed under: that of its name, which is `root` if its members are in scope. -/
def Root.ident? (root : Root) : Option Ident := Ident.ofName? (root.name.getD "root")

variable {schema : Schema} {earlier scope : Scope} {root : Root} {roots : List Root} {b : Binding}

private theorem ofShape_of_checked {name : Option String} {ident : Ident} {id : ShapeId}
    (h : (do let b ← Binding.ofShape schema name ident id; let _ ← nameable b.ty; return b) = .ok b) :
    ident = b.ident ∧ Binding.ofShape schema name ident id = .ok b := by
  obtain ⟨b', hb, h⟩ := exists_of_bind_ok h
  obtain ⟨_, -, h⟩ := exists_of_bind_ok h
  cases h
  obtain ⟨_, -, hb'⟩ := exists_of_bind_ok hb
  cases hb'
  exact ⟨rfl, hb⟩

/-- A parameter is a value of the shape of its root under the identifier of the root. -/
theorem ofShape_of_parameter (h : parameter schema earlier root = .ok b) :
    root.ident? = some b.ident ∧ Binding.ofShape schema root.name b.ident root.shape = .ok b := by
  rw [parameter] at h
  split at h
  · rename_i hname
    split at h
    · cases h
    · obtain ⟨hident, hb⟩ := ofShape_of_checked h
      have hletters : "root".toList.all Char.isLower = true := by decide
      rw [Root.ident?, hname, ← hident]
      exact ⟨Ident.ofName?_letters (by decide) (List.all_eq_true.1 hletters) (by decide), hname ▸ hb⟩
  · rename_i name hname
    split at h
    · rename_i hofName
      obtain ⟨hident, hb⟩ := ofShape_of_checked h
      rw [Root.ident?, hname, ← hident]
      exact ⟨hofName, hname ▸ hb⟩
    · cases h

/-- The value of a shape is a parameter, and its members are in scope, if those of no other one are. -/
theorem parameter_of_ofShape {id : ShapeId} (hearlier : earlier.current? = none)
    (hb : Binding.ofShape schema none ⟨"root", false⟩ id = .ok b) (hty : b.ty.isNameable = true) :
    parameter schema earlier ⟨none, id⟩ = .ok b := by
  simp only [parameter, hearlier, Option.isSome_none, Bool.false_eq_true, if_false]
  change (do let b ← Binding.ofShape schema none ⟨"root", false⟩ id; let _ ← nameable b.ty; return b) = .ok b
  rw [hb, ok_bind, nameable, if_pos hty]
  rfl

/-- What every single parameter has, all of them have. -/
theorem forall_of_parametersFrom {P : Binding → Prop}
    (hstep : ∀ earlier root b, parameter schema earlier root = .ok b → P b) (hearlier : ∀ b ∈ earlier, P b)
    (h : parametersFrom schema earlier roots = .ok scope) : ∀ b ∈ scope, P b := by
  induction roots generalizing earlier with
  | nil =>
    cases h
    exact hearlier
  | cons r rs ih =>
    rw [parametersFrom] at h
    obtain ⟨b, hb, h⟩ := exists_of_bind_ok h
    exact ih (List.forall_mem_append.2 ⟨hearlier, List.forall_mem_singleton.2 (hstep _ _ _ hb)⟩) h

private theorem eq_of_nameable {t u : Ty} (h : nameable t = .ok u) : u = t := by
  rw [nameable] at h
  split at h
  · cases h
    rfl
  · cases h

variable {s : Settings} {name : String} {e : Expr} {f : Function}

namespace Settings

/-- A function is the query as compiled on its parameters, with an option as the result. -/
theorem exists_run_of_function (h : s.function name e roots = .ok f) :
    parametersFrom s.schema [] roots = .ok f.params ∧ ∃ c, s.run f.params e = .ok c ∧ f.query = e ∧
      f.returns = (if c.ty.isOption then c.ty else .option c.ty) ∧ f.steps = c.steps ∧ f.result = c.asOption := by
  rw [function] at h
  obtain ⟨ident, -, h⟩ := exists_of_bind_ok h
  obtain ⟨params, hparams, h⟩ := exists_of_bind_ok h
  obtain ⟨c, hc, h⟩ := exists_of_bind_ok h
  obtain ⟨t, ht, h⟩ := exists_of_bind_ok h
  cases h
  exact ⟨ok_of_mapError_ok hparams, c, hc, rfl, eq_of_nameable (ok_of_mapError_ok ht), rfl, rfl⟩

/-- A query that is compiled on the parameters is made a function if its name and its type can be written down. -/
theorem exists_function_of_run {ident : Ident} {c : Computed} (hname : Ident.named? name = some ident)
    (hparams : parametersFrom s.schema [] roots = .ok scope) (hc : s.run scope e = .ok c)
    (hreturns : (if c.ty.isOption then c.ty else Ty.option c.ty).isNameable = true) :
    ∃ f, s.function name e roots = .ok f := by
  refine ⟨⟨ident, e, scope, if c.ty.isOption then c.ty else .option c.ty, c.steps, c.asOption⟩, ?_⟩
  rw [function, hname, hparams]
  dsimp only [Except.mapError, ok_bind]
  rw [hc]
  dsimp only [ok_bind]
  rw [nameable, if_pos hreturns]
  rfl

theorem exists_ofShape_of_function (h : s.function name e roots = .ok f) :
    ∀ b ∈ f.params, ∃ name ident id, Binding.ofShape s.schema name ident id = .ok b := by
  refine forall_of_parametersFrom (fun earlier root b hb => ?_) (fun b hb => absurd hb List.not_mem_nil)
    (exists_run_of_function h).1
  exact ⟨root.name, b.ident, root.shape, (ofShape_of_parameter hb).2⟩

end Settings

/-! ### Names of parameters -/

namespace Root

/-- The name of a root in snake case. -/
def snakeName (root : Root) : String := Naming.snakeCase (root.name.getD "root")

theorem ident?_eq_iff {r r' : Root} (h : r.ident?.isSome) : r.ident? = r'.ident? ↔ r.snakeName = r'.snakeName := by
  obtain ⟨i, hi⟩ := Option.isSome_iff_exists.1 h
  constructor
  · intro heq
    exact Code.Ident.snakeCase_eq_of_ofName? hi (heq.symm.trans hi)
  · intro heq
    rw [ident?, ident?, Code.Ident.ofName?, Code.Ident.ofName?, Code.Ident.fieldName_eq_iff.2 heq]

end Root

theorem map_ident_of_parametersFrom (h : parametersFrom schema earlier roots = .ok scope) :
    scope.map (some ·.ident) = earlier.map (some ·.ident) ++ roots.map Root.ident? := by
  induction roots generalizing earlier with
  | nil =>
    cases h
    exact (List.append_nil _).symm
  | cons r rs ih =>
    rw [parametersFrom] at h
    obtain ⟨b, hb, h⟩ := exists_of_bind_ok h
    simp [ih h, (ofShape_of_parameter hb).1]

/-- The parameters of a function have different names exactly if the roots have, in snake case. -/
theorem Settings.nodup_params_iff (h : s.function name e roots = .ok f) :
    (f.params.map (·.ident)).Nodup ↔ (roots.map Root.snakeName).Nodup := by
  have hidents := map_ident_of_parametersFrom (exists_run_of_function h).1
  have hsome : ∀ r ∈ roots, r.ident?.isSome := by
    intro r hr
    have hmem : r.ident? ∈ f.params.map (some ·.ident) := hidents ▸ List.mem_map_of_mem hr
    obtain ⟨b, -, hb⟩ := List.mem_map.1 hmem
    rw [← hb]
    rfl
  calc (f.params.map (·.ident)).Nodup
    _ ↔ (f.params.map (some ·.ident)).Nodup := by
      rw [← List.nodup_map_iff fun _ _ => Option.some.inj, List.map_map]
      rfl
    _ ↔ (roots.map Root.ident?).Nodup := by
      rw [hidents]
      rfl
    _ ↔ (roots.map Root.snakeName).Nodup := by
      rw [List.Nodup, List.Nodup, List.pairwise_map, List.pairwise_map]
      exact List.Pairwise.iff_of_mem fun hr _ => not_congr (Root.ident?_eq_iff (hsome _ hr))

open Samples (allMembers inventory output)

theorem parametersFrom_output : parametersFrom inventory [] [⟨none, ⟨"Output"⟩⟩] = .ok [output] := by
  rw [parametersFrom, parameter_of_ofShape rfl ofShape_output (by decide +kernel)]
  rfl

/-- The members of all groups are lists of items, which the members borrow from. -/
theorem exists_run_allMembers : ∃ c, (Settings.ofSchema inventory).run [output] allMembers = .ok c ∧
    c.shape = .array none (.array (some ⟨"Items"⟩) (.object (some ⟨"Item"⟩))) ∧
    c.ty = .vec (.ref (.vec (.model "Item"))) := by
  have hok : ((Settings.ofSchema inventory).run [output] allMembers).toOption.map (fun c => (c.shape, c.ty)) =
      some (.array none (.array (some ⟨"Items"⟩) (.object (some ⟨"Item"⟩))), .vec (.ref (.vec (.model "Item")))) := by
    decide +kernel
  obtain ⟨c, hc, hvalue⟩ := Option.map_eq_some_iff.1 hok
  exact ⟨c, eq_ok_of_toOption hc, Prod.mk.inj hvalue⟩

theorem nodup_params_iff_size :
    ∃ f, (Settings.ofSchema inventory).function "tags" .current [⟨none, ⟨"Tags"⟩⟩, ⟨some "size", ⟨"Long"⟩⟩] = .ok f ∧
      (f.params.map (·.ident)).Nodup := by
  have hok : ((Settings.ofSchema inventory).function "tags" .current
      [⟨none, ⟨"Tags"⟩⟩, ⟨some "size", ⟨"Long"⟩⟩]).isOk = true := by decide +kernel
  obtain ⟨f, hf⟩ := exists_of_isOk hok
  have hsnake : ∀ name ∈ ["root", "size"], Naming.snakeCase name = name := by
    have hnames : ∀ name ∈ ["root", "size"], name ≠ "" ∧ name.toList.all Char.isLower = true := by decide
    exact fun name h => Naming.snakeCase_letters (hnames name h).1 (List.all_eq_true.1 (hnames name h).2)
  exact ⟨f, hf, (Settings.nodup_params_iff hf).2 (by simp [Root.snakeName, hsnake])⟩

/-- A root of the name `root` is not told apart from the one whose members are in scope. -/
example : ((Settings.ofSchema inventory).function "tags" .current
    [⟨none, ⟨"Tags"⟩⟩, ⟨some "root", ⟨"Long"⟩⟩]).toOption.map (·.params.map (·.ident)) =
      some [⟨"root", false⟩, ⟨"root", false⟩] := by decide +kernel

end Signpost.Traversal
