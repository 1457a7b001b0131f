import Signpost.Proofs.Except
import Signpost.Proofs.Traversal.Conforming
import Signpost.Proofs.Traversal.Yielding

/-!
# What emitted steps reach

What the steps of a value leave in its local when they run (`Computed.result`), for the operations that go through
lists of structures: taking a member, merging lists, and projecting.  On conforming values they never get stuck; where
options are retained, a member that is absent is left in its option, and a projection leaves it out.
-/

namespace Signpost.Traversal

open Code (Ident)

/-! ### Running steps -/

variable {ls ls' : Locals} {ss ts : List Step} {i : Ident} {d v : Datum}

theorem Locals.get_cons_self : Locals.get ((i, d) :: ls) i = .ok d := by
  rw [get, List.lookup_cons_self, orStuck]

theorem Locals.get_ne_nothing : ls.get i ≠ .error .nothing := by
  rw [get]
  cases ls.lookup i with
  | none | some =>
    intro h
    cases h

theorem Step.runAll_append : Step.runAll ls (ss ++ ts) = (Step.runAll ls ss).bind fun ls => Step.runAll ls ts := by
  induction ss generalizing ls with
  | nil => rfl
  | cons s ss ih =>
    rw [List.cons_append, Step.runAll, Step.runAll]
    cases s.run ls with
    | error e => rfl
    | ok ls' => exact ih

/-- A step leaves the value of its computation in its local. -/
theorem Step.get_of_runAll_bind {op : Operation} :
    ((Step.runAll ls [.bind i op]).bind fun ls => ls.get i) = op.run ls := by
  rw [Step.runAll, Step.run]
  cases op.run ls with
  | error e => rfl
  | ok d => exact Locals.get_cons_self

namespace Computed

/-- What the steps leave in the local. -/
def result (ls : Locals) (c : Computed) : Running Datum := (Step.runAll ls c.steps).bind fun ls => ls.get c.name

variable {c c' : Computed} {o : Option Datum} {f : Datum → Datum} {op : Operation}

/-- One step more goes on from what the others leave, or is not reached. -/
theorem result_append (h : c.result ls = inside (.ofOption o)) (hsteps : c'.steps = c.steps ++ [.bind c'.name op])
    (hop : ∀ v, o = some v → ∀ ls', ls'.get c.name = .ok v → op.run ls' = .ok (f v)) :
    c'.result ls = inside (.ofOption (o.map f)) := by
  rw [result] at h
  rw [result, hsteps, Step.runAll_append]
  cases hrun : Step.runAll ls c.steps with
  | error e =>
    rw [hrun] at h
    cases o with
    | none =>
      cases h
      rfl
    | some v => cases h
  | ok ls' =>
    rw [hrun] at h
    cases o with
    | none => exact absurd h Locals.get_ne_nothing
    | some v =>
      exact Step.get_of_runAll_bind.trans (hop v rfl ls' h)

/-- A remark is a step that does nothing. -/
theorem result_remark {s : Settings} {e : Query.Expr} : (s.remark e c).result ls = c.result ls := by
  rw [Settings.remark]
  split
  · show (Step.runAll ls (c.steps ++ [.note _])).bind _ = _
    rw [Step.runAll_append, result]
    cases Step.runAll ls c.steps <;> rfl
  · rfl

/-- What a closure keeps that ends in the value: the value, or what is inside it if it is an option. -/
theorem closed_asOption : closed ((Step.runAll ls c.steps).bind c.asOption.run) =
    closed (if c.ty.isOption then c.result ls else (c.result ls).map .present) := by
  rw [asOption, result]
  split <;> cases Step.runAll ls c.steps <;> rfl

end Computed

theorem Settings.shape_remark {s : Settings} {e : Query.Expr} {c : Computed} : (s.remark e c).shape = c.shape := by
  rw [remark]
  split <;> rfl

theorem Settings.ty_remark {s : Settings} {e : Query.Expr} {c : Computed} : (s.remark e c).ty = c.ty := by
  rw [remark]
  split <;> rfl

/-! ### Operations on lists -/

theorem mapM_eq_ok {α β ε : Type} {f : α → Except ε β} {g : α → β} {as : List α} (h : ∀ a ∈ as, f a = .ok (g a)) :
    as.mapM f = .ok (as.map g) := by
  induction as with
  | nil => rfl
  | cons a as ih =>
    rw [List.forall_mem_cons] at h
    rw [List.mapM_cons, h.1, ih h.2]
    rfl

theorem run_flatten {ds : List Datum} (h : ls.get i = .ok (.list ds)) (hds : ∀ d ∈ ds, d = .list d.items) :
    Operation.run ls (.flatten i) = .ok (.list (ds.flatMap Datum.items)) := by
  have hitems : ds.mapM itemsOf = .ok (ds.map Datum.items) := mapM_eq_ok fun d hd => by rw [hds d hd]; rfl
  rw [Operation.run, h]
  show (do return Datum.list (← ds.mapM itemsOf).flatten) = _
  rw [hitems, List.flatMap_def]
  rfl

theorem run_each {item : Ident} {body : List Step} {tail : Tail} {ds : List Datum} {f : Datum → Option Datum}
    (h : ls.get i = .ok (.list ds))
    (hbody : ∀ d ∈ ds, closed ((Step.runAll ((item, d) :: ls) body).bind tail.run) = .ok (f d)) :
    Operation.run ls (.each i .elements item body tail) = .ok (.list (ds.filterMap f)) := by
  rw [Operation.run, h]
  show (ds.mapM _ >>= fun kept => return Datum.list (kept.filterMap id) : Running Datum) = _
  rw [mapM_eq_ok hbody, ok_bind, List.filterMap_map]
  rfl

/-! ### Members -/

variable {schema : Schema} {id e : ShapeId} {m : Member} {name : String} {shape : ValueShape} {ty : Ty} {retain : Bool}
  {scope : Scope} {b : Binding} {n : Namer} {F : Cause → Prop}

theorem exists_ref_of_referenceTo (h : referenceTo schema id = .ok (shape, ty)) : ∃ t, ty = .ref t := by
  obtain ⟨_, -, h⟩ := exists_of_bind_ok h
  obtain ⟨t, -, h⟩ := exists_of_bind_ok h
  cases h
  exact ⟨t, rfl⟩

/-- The value is a member of values of a shape that a local holds, in an option if it may be absent and options are
retained. -/
structure Computed.IsMember (schema : Schema) (src : Ident) (id : ShapeId) (name : String) (m : Member) (retain : Bool)
    (c : Computed) : Prop where
  reference : ∃ t, referenceTo schema m.target = .ok (c.shape, t) ∧
    c.ty = if !m.required && retain then .option t else t
  result : ∀ ls d, Conforms schema id d → ls.get src = .ok d →
    ∃ v, d.field? name = some v ∧ MemberConforms schema m v ∧ c.result ls = eagerly (!m.required && !retain) v

theorem access_eq_ok {src : Ident} (hm : schema.member? id name = some m) (hi : Ident.ofName? name = some i) :
    access schema id src name retain = .ok ⟨m.target,
      if m.required then .field src i else .optionalField src i (!retain), !m.required⟩ := by
  obtain ⟨members, hid, hm⟩ := exists_of_member? hm
  rw [access, hid]
  dsimp only
  rw [hm]
  dsimp only
  rw [hi]

theorem isMember_member {c : Computed} (hc : c.steps = []) (hshape : c.shape = .object (some id))
    (hm : schema.member? id name = some m) (hi : Ident.ofName? name = some i)
    (href : referenceTo schema m.target = .ok (shape, ty)) :
    Yields (c.member schema retain name) n (fun _ => Computed.IsMember schema c.name id name m retain) F := by
  rw [Computed.member, hshape]
  dsimp only
  rw [access_eq_ok hm hi]
  refine .pure_bind ?_
  dsimp only
  rw [href]
  refine .pure_bind (.fresh (.pure ⟨⟨ty, href, rfl⟩, fun ls d hd hls => ?_⟩))
  obtain ⟨v, hfield, hv, hconf⟩ := hd.field hm hi
  refine ⟨v, hv, hconf, ?_⟩
  rw [Computed.result, Computed.bind, hc]
  refine Step.get_of_runAll_bind.trans ?_
  -- the field is there, so that only an option can make the step return
  cases m.required <;> simp [Operation.run, hls, hfield, ok_bind, eagerly]

namespace Computed.IsMember

variable {c : Computed} {src : Ident} {s : Settings} {query : Query.Expr}

theorem remark (h : c.IsMember schema src id name m retain) :
    (s.remark query c).IsMember schema src id name m retain := by
  refine ⟨?_, fun ls d hd hls => ?_⟩
  · rw [Settings.shape_remark, Settings.ty_remark]
    exact h.reference
  · rw [result_remark]
    exact h.result ls d hd hls

theorem reference_unwrapOption (h : c.IsMember schema src id name m retain) :
    referenceTo schema m.target = .ok (c.shape, c.ty.unwrapOption) := by
  obtain ⟨t, href, hty⟩ := h.reference
  obtain ⟨t', rfl⟩ := exists_ref_of_referenceTo href
  rw [href, hty]
  split <;> rfl

/-- Where options are not retained, the steps return if the member is absent. -/
theorem result_eq (h : c.IsMember schema src id name m false) (hd : Conforms schema id d) (hls : ls.get src = .ok d) :
    c.result ls = inside (.ofOption (d.member? name)) := by
  obtain ⟨v, hv, hconf, hresult⟩ := h.result ls d hd hls
  rw [hresult, Datum.member?, hv, Option.bind_some]
  cases hconf with
  | required hm hv => rw [hm, hv.held, Datum.ofOption]; rfl
  | absent hm | present hm _ => rw [hm]; rfl

/-- Where they are, a closure keeps the member unless it is absent. -/
theorem closed_eq (h : c.IsMember schema src id name m true) (hd : Conforms schema id d) (hls : ls.get src = .ok d) :
    closed ((Step.runAll ls c.steps).bind c.asOption.run) = .ok (d.member? name) := by
  obtain ⟨v, hv, hconf, hresult⟩ := h.result ls d hd hls
  obtain ⟨t, href, hty⟩ := h.reference
  rw [closed_asOption, hresult, Datum.member?, hv, Option.bind_some, hty]
  cases hconf with
  | required hm hv =>
    rw [hm, hv.held]
    obtain ⟨t', rfl⟩ := exists_ref_of_referenceTo href
    rfl
  | absent hm | present hm _ => rw [hm]; rfl

end Computed.IsMember

theorem isMember_field (hb : scope.current? = some b) (hn : scope.named? name = none)
    (hshape : b.shape = .object (some id)) (hm : schema.member? id name = some m) (hi : Ident.ofName? name = some i)
    (href : referenceTo schema m.target = .ok (shape, ty)) :
    Yields (scope.field schema retain name) n (fun _ => Computed.IsMember schema b.ident id name m retain) F := by
  rw [Scope.field]
  refine .ite (fun hempty => ?_) fun _ => ?_
  · rw [List.isEmpty_iff.1 hempty] at hb
    cases hb
  · rw [hb, hn]
    exact isMember_member rfl hshape hm hi href

end Signpost.Traversal
