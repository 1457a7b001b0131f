import Signpost.Proofs.Traversal.Defects
import Signpost.Proofs.Traversal.Functions
import Signpost.Proofs.Traversal.Nesting
import Signpost.Proofs.Traversal.Reaching

/-!
# Flattening

To flatten a list always works, if there is room for one more query around the one that gives the list, and takes away
one level if the elements are lists (`shape_of_run_flatten`).  Lists with options of lists as elements are left as they
are, although their shape is that of a list of lists (`flatten_exceptions`).
-/

namespace Signpost.Traversal

open Query (Expr)

variable {schema : Schema} {left : Computed} {m nested : ValueShape} {t u : Ty} {n : Namer} {mayBeAbsent : Bool}

/-! ### One level -/

/-- A list can be iterated over. -/
theorem Ty.Held.exists_item (h : t.Held) (hu : t.bare = .vec u) : ∃ v, t.item? = some v := by
  cases h with
  | list h => exact ⟨_, rfl⟩
  | options h => exact ⟨_, rfl⟩
  | data h =>
    obtain rfl := (bare_of_isData h).symm.trans hu
    exact ⟨_, rfl⟩
  | _ => cases hu

private theorem exists_item_of_coherent (h : t.Held) (hc : Coherent schema m t) (hm : m.member? = some nested) :
    ∃ v, t.item? = some v := by
  cases m with
  | array i k =>
    obtain ⟨u, hu, -⟩ := hc
    exact h.exists_item hu
  | _ => cases hm

/-- Flattening never fails on a list.  It merges lists that are there, and leaves lists of anything else alone. -/
theorem yields_flattened_list (h : left.ty.Held) (hc : left.IsCoherent schema) (hm : left.shape.member? = some m) :
    Yields (flattened left) n
      (fun _ d => (∀ nested, m.member? = some nested → left.ty.listsOptions = false → d.shape = .arrayOf nested) ∧
        (m.member? = none → d.shape = left.shape ∧ d.ty = left.ty))
      fun _ => False := by
  obtain ⟨item, hitem⟩ := exists_item_of_coherent h hc hm
  have helements : elements left = pure (m, item) := by rw [elements, hm, hitem]
  rw [flattened, helements]
  refine .pure_bind ?_
  dsimp only
  split
  · rename_i nested _ hnested _
    refine .fresh (.pure ⟨fun k hk _ => ?_, fun hno => ?_⟩)
    · rw [hnested] at hk
      rw [Option.some.inj hk]
    · rw [hnested] at hno
      cases hno
  · rename_i hno
    refine .pure ⟨fun k hk hlists => ?_, fun _ => ⟨rfl, rfl⟩⟩
    -- the elements are lists that are there, so that they could have been iterated over
    have hkept := h.item hitem
    rw [hlists] at hkept
    obtain ⟨v, hv⟩ := exists_item_of_coherent hkept.toHeld (hc.item hm hitem) hk
    exact absurd hv (hno k v hk)

/-! ### Queries -/

namespace Settings

variable {s : Settings} {scope : Scope} {inner : Expr} {c : Computed} {i : Option ShapeId}

/-- Flattening a list gives a list again: of the elements of the elements, if the elements are lists and are there, and
of what it was of, if they are no lists. -/
theorem shape_of_run_flatten (hscope : ∀ b ∈ scope, b.IsSound s.schema) (hdepth : inner.nesting < s.maxDepth)
    (hc : s.run scope inner = .ok c) (hshape : c.shape = .array i m) :
    ∃ d, s.run scope (.flatten inner) = .ok d ∧
      (∀ nested, m.member? = some nested → c.ty.listsOptions = false → d.shape = .arrayOf nested) ∧
      (m.member? = none → d.shape = c.shape ∧ d.ty = c.ty) := by
  obtain ⟨hheld, hcoherent⟩ := held_of_run hscope hc
  obtain ⟨n, hrun⟩ := exists_of_runWith_ok hc
  have hflat := yields_flattened_list (n := n) hheld hcoherent (congrArg ValueShape.member? hshape)
  rcases hd : (flattened c).run n with ⟨_ | d, n'⟩
  · rw [Yields, hd] at hflat
    exact hflat.elim
  rw [Yields, hd] at hflat
  -- the list is compiled one level deeper than before, which makes no difference
  have hsame : s.SameAt (fun _ _ => return) 1 0 inner := sameAt inner (by omega) (by omega)
  have hflatten : (s.compileWith (fun _ _ => return) scope 0 false (.flatten inner)).run ⟨0⟩ =
      (.ok (s.remark (.flatten inner) d), n') := by
    rw [compileWith, if_neg (by omega)]
    dsimp only
    rw [hsame, run_bind, hrun]
    dsimp only
    rw [run_bind, hd]
    rfl
  refine ⟨s.remark (.flatten inner) d, ?_, ?_⟩
  · rw [run, runWith, hflatten]
  · rw [shape_remark, ty_remark]
    exact hflat

end Settings

open Samples (allMembers inventory output)

/-- The tags of all items, in lists of one, which items may not have. -/
def itemTags : Expr := .flatten (.project (.flatten (.field "items")) (.list [.field "tags"]))

theorem shape_of_run_flatten_allMembers :
    (∀ b ∈ [output], b.IsSound inventory) ∧ allMembers.nesting < (Settings.ofSchema inventory).maxDepth ∧
    ∃ c, (Settings.ofSchema inventory).run [output] allMembers = .ok c ∧
      c.shape = .array none (.array (some ⟨"Items"⟩) (.object (some ⟨"Item"⟩))) ∧
      ∃ d, (Settings.ofSchema inventory).run [output] (.flatten allMembers) = .ok d ∧
        d.shape = .arrayOf (.object (some ⟨"Item"⟩)) := by
  have hsound := Binding.forall_isSound_of_ofShape forall_ofShape_output
  obtain ⟨c, hc, hshape, hty⟩ := exists_run_allMembers
  obtain ⟨d, hd, hmerged, -⟩ := Settings.shape_of_run_flatten hsound (by decide) hc hshape
  refine ⟨hsound, by decide, c, hc, hshape, d, hd, hmerged _ rfl ?_⟩
  rw [hty]
  rfl

/-- The shape of the value of a query, if it has one. -/
def shapeOf? (s : Settings) (scope : Scope) (e : Expr) : Option ValueShape := (s.run scope e).toOption.map (·.shape)

/-- A value that is said to be a list but has the type of a truth value. -/
def mislabeled : Binding := ⟨none, ⟨"root", false⟩, .array none (.string none), .bool⟩

/-- A list that stands as deep as is allowed cannot be flattened; lists in options are not merged, although the shape is
that of a list of lists; what is no list by its type cannot be iterated over. -/
theorem flatten_exceptions :
    let items : ValueShape := .array (some ⟨"Items"⟩) (.object (some ⟨"Item"⟩))
    let tagLists : ValueShape := .array none (.array (some ⟨"Tags"⟩) (.string (some ⟨"String"⟩)))
    (shapeOf? ⟨inventory, 1, false⟩ [output] (.field "items") = some items ∧
      shapeOf? ⟨inventory, 1, false⟩ [output] (.flatten (.field "items")) = none) ∧
    (shapeOf? (.ofSchema inventory) [output] itemTags = some tagLists ∧
      shapeOf? (.ofSchema inventory) [output] (.flatten itemTags) = some tagLists) ∧
    shapeOf? (.ofSchema inventory) [mislabeled] .current = some (.array none (.string none)) ∧
      shapeOf? (.ofSchema inventory) [mislabeled] (.flatten .current) = none := by
  decide +kernel

end Signpost.Traversal
