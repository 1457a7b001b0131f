import Signpost.Proofs.Naming.SnakeCase
import Signpost.Proofs.Query.Parts
import Signpost.Proofs.Traversal.Streaming
import Signpost.Samples.Inventory

/-!
# Chains of projections

A chain `a[].b[].c` projects over the lists that members lead to, one after the other.  However many of the members may
be absent, its steps reach the last member of all the structures on the way, in order (`exists_run_chain`): they return
only if the first member is absent, and whatever is absent further on is left out.
-/

namespace Signpost

open Code (Ident)
open Query (Expr)

/-- The expression followed by `[].` and a member for each of the names, and by `[]` in the end if what the last one
gives is merged. -/
def Query.Expr.chain (merged : Bool) (e : Expr) : List String → Expr
  | [] => if merged then .project (.flatten e) .current else e
  | name :: names => chain merged (.project (.flatten e) (.field name)) names

namespace Traversal

/-- Members one after the other, from a structure on: all but the last lead to lists of structures, and the last one to
anything that queries support. -/
inductive Leads (schema : Schema) : ShapeId → List String → Prop
  | last {id : ShapeId} {name : String} {m : Member} {i : Ident} {x : ValueShape × Ty}
    (hm : schema.member? id name = some m) (hi : Ident.ofName? name = some i)
    (hx : referenceTo schema m.target = .ok x) : Leads schema id [name]
  | step {id e : ShapeId} {name : String} {names : List String} {m : Member} {i : Ident}
    (hm : schema.member? id name = some m) (hi : Ident.ofName? name = some i)
    (he : schema.items? m.target = some e) (h : Leads schema e names) : Leads schema id (name :: names)

variable {schema : Schema} {id e target : ShapeId} {shape : ValueShape} {ty : Ty} {name : String} {names : List String}
  {m : Member} {i src : Ident} {c : Computed} {o : Datum → Option (List Datum)}

theorem Leads.exists_record (h : Leads schema id names) : ∃ members, schema.get? id = some (.record members) := by
  cases h with
  | last hm | step hm =>
    obtain ⟨members, hid, -⟩ := exists_of_member? hm
    exact ⟨members, hid⟩

/-- The first member is taken of all elements before the others are. -/
theorem map_reach_cons {merged : Bool} {lists : Option (List Datum)} :
    lists.map (·.flatMap (Datum.reach merged (name :: names))) =
      ((lists.map (·.flatMap Datum.items)).map (·.filterMap (Datum.member? name))).map
        (·.flatMap (Datum.reach merged names)) := by
  cases lists with
  | none => rfl
  | some vs =>
    show some (vs.flatMap fun v => (v.items.filterMap (Datum.member? name)).flatMap (Datum.reach merged names)) =
      some (((vs.flatMap Datum.items).filterMap (Datum.member? name)).flatMap (Datum.reach merged names))
    rw [List.filterMap_flatMap, List.flatMap_assoc]

/-! ### Compiling chains -/

/-- Wherever it is not nested too deeply, the query is compiled, to a value with the property. -/
def Settings.Compiles (s : Settings) (scope : Scope) (e : Expr) (P : Computed → Prop) : Prop :=
  ∀ depth n, depth + e.nesting ≤ s.maxDepth → Yields (s.compile scope depth false e) n (fun _ => P) fun _ => False

namespace Settings

variable {s : Settings} {scope : Scope} {b : Binding} {expr : Expr} {P Q : Computed → Prop}

theorem isMember_compile {depth : Nat} {retain : Bool} {n : Namer} {F : Cause → Prop} (hdepth : depth < s.maxDepth)
    (hb : scope.current? = some b) (hn : scope.named? name = none) (hshape : b.shape = .object (some id))
    (hm : s.schema.member? id name = some m) (hi : Ident.ofName? name = some i)
    (href : referenceTo s.schema m.target = .ok (shape, ty)) :
    Yields (s.compile scope depth retain (.field name)) n
      (fun _ => Computed.IsMember s.schema b.ident id name m retain) F := by
  rw [compile, compileWith]
  refine .ite (fun h => absurd h (Nat.not_le.2 hdepth)) fun _ => ?_
  exact (isMember_field hb hn hshape hm hi href).bind fun n c hc => .pure_bind (.pure hc.remark)

namespace Compiles

theorem flatten (h : s.Compiles scope expr P) (hflat : ∀ n c, P c → Yields (flattened c) n (fun _ => Q) fun _ => False)
    (hQ : ∀ c, Q c → Q (s.remark (.flatten expr) c)) : s.Compiles scope (.flatten expr) Q := by
  intro depth n hdepth
  simp only [Expr.nesting] at hdepth
  rw [compile, compileWith]
  refine .ite (fun h => absurd h (by omega)) fun _ => ?_
  refine (h (depth + 1) n (by omega)).bind fun n c hc => ?_
  exact (hflat n c hc).bind fun n c' hc' => .pure_bind (.pure (hQ c' hc'))

/-- A projection onto a member of the structures in lists gives the list of its values. -/
theorem project (h : s.Compiles scope expr (Computed.Streams s.schema src id target o))
    (ho : Targets s.schema id target o) (he : s.schema.items? target = some e)
    (hm : s.schema.member? e name = some m) (hi : Ident.ofName? name = some i)
    (href : referenceTo s.schema m.target = .ok (shape, ty)) :
    s.Compiles scope (.project (.flatten expr) (.field name)) (Computed.Lists s.schema src id m.target
      fun d => ((o d).map (·.flatMap Datum.items)).map (·.filterMap (Datum.member? name))) := by
  obtain ⟨members, hrecord, -⟩ := exists_of_member? hm
  have hflat := h.flatten (fun n c hc => hc.flattened ho he hrecord) fun c hc => hc.remark
  intro depth n hdepth
  simp only [Expr.nesting] at hdepth
  rw [compile, compileWith]
  refine .ite (fun h => absurd h (by omega)) fun _ => ?_
  refine (hflat (depth + 1) n (by simp only [Expr.nesting]; omega)).bind fun n c hc => ?_
  have hproject : Yields (projection (some fun b => s.compile [b] (depth + 1) true (.field name)) c) n
      (fun _ => Computed.Lists s.schema src id m.target
        fun d => ((o d).map (·.flatMap Datum.items)).map (·.filterMap (Datum.member? name))) fun _ => False := by
    refine hc.projection (ho.items he) fun b n hname hshape => ?_
    obtain ⟨_, ident, bshape, bty⟩ := b
    cases hname
    exact isMember_compile (by omega) rfl rfl hshape hm hi href
  exact hproject.bind fun n c' hc' => .pure_bind (.pure hc'.remark)

/-- Merging the lists that are listed gives the list of all their elements. -/
theorem merge (h : s.Compiles scope expr (Computed.Lists s.schema src id target o))
    (ho : Targets s.schema id target o) :
    s.Compiles scope (.project (.flatten expr) .current)
      (Computed.Reaches s.schema src id fun d => ((o d).map (·.flatMap Datum.spread)).map .list) := by
  have hflat := h.flatten (fun n c hc => hc.flattened ho) fun c ⟨shape, ty, hc⟩ => ⟨shape, ty, hc.remark⟩
  intro depth n hdepth
  simp only [Expr.nesting] at hdepth
  rw [compile, compileWith]
  refine .ite (fun h => absurd h (by omega)) fun _ => ?_
  refine (hflat (depth + 1) n (by simp only [Expr.nesting]; omega)).bind fun n c hc => ?_
  obtain ⟨shape, ty, hc⟩ := hc
  have hproject : Yields (projection none c) n (fun _ c' => c' = c) fun _ => False := by
    rw [projection]
    exact hc.elements.bind fun n x hx => .pure rfl
  refine hproject.bind fun n c' hc' => .pure_bind (.pure ?_)
  rw [hc']
  exact hc.reaches.remark

/-- The values at the end of a chain are reached from where it starts. -/
theorem chain (merged : Bool) (h : s.Compiles scope expr (Computed.Streams s.schema src id target o))
    (ho : Targets s.schema id target o) (he : s.schema.items? target = some e) (hnames : Leads s.schema e names) :
    s.Compiles scope (expr.chain merged names)
      (Computed.Reaches s.schema src id fun d => ((o d).map (·.flatMap (Datum.reach merged names))).map .list) := by
  induction hnames generalizing expr target o with
  | last hm hi hx =>
    have hlast := h.project ho he hm hi hx
    simp only [map_reach_cons]
    cases merged with
    | true => exact hlast.merge ((ho.items he).members hm hi)
    | false =>
      intro depth n hdepth
      refine (hlast depth n hdepth).mono fun _ c hc => ?_
      obtain ⟨x, -, hc⟩ := hc
      have hnil : (fun vs : List Datum => vs.flatMap (Datum.reach false [])) = fun vs => vs :=
        funext List.flatMap_singleton'
      refine hc.reaches.congr fun d _ => ?_
      rw [hnil, Option.map_id']
  | step hm hi hel hrest ih =>
    obtain ⟨members, hrecord⟩ := hrest.exists_record
    have hlists := h.project ho he hm hi (referenceTo_of_record hel hrecord)
    simp only [map_reach_cons]
    exact ih (fun depth n hdepth => (hlists depth n hdepth).mono fun _ c hc => .many hc)
      ((ho.items he).members hm hi) hel

/-- A chain starts from a member of the value in scope. -/
theorem first (hb : scope.current? = some b) (hn : scope.named? name = none) (hshape : b.shape = .object (some id))
    (hm : s.schema.member? id name = some m) (hi : Ident.ofName? name = some i)
    (href : referenceTo s.schema m.target = .ok (shape, ty)) :
    s.Compiles scope (.field name)
      (Computed.Streams s.schema b.ident id m.target fun d => (d.member? name).map fun v => [v]) := by
  intro depth n hdepth
  simp only [Expr.nesting] at hdepth
  refine (isMember_compile (by omega) hb hn hshape hm hi href).mono fun _ c hc => ?_
  obtain ⟨t, href, hty⟩ := hc.reference
  rw [Bool.and_false, if_neg Bool.false_ne_true] at hty
  refine .one (fun _ => rfl) ?_ fun ls d hd hls => hc.result_eq hd hls
  rw [hty]
  exact href

theorem exists_run (h : s.Compiles scope expr P) (hdepth : expr.nesting ≤ s.maxDepth) :
    ∃ c, s.run scope expr = .ok c ∧ P c := by
  have hyields := h 0 ⟨0⟩ (by omega)
  cases hrun : s.run scope expr with
  | error f =>
    obtain ⟨n, hn⟩ := exists_of_runWith_error hrun
    rw [Yields, compile, hn] at hyields
    exact hyields.elim
  | ok c =>
    obtain ⟨n, hn⟩ := exists_of_runWith_ok hrun
    rw [Yields, compile, hn] at hyields
    exact ⟨c, rfl, hyields⟩

end Compiles

/-- The steps of a chain of at least one projection return nothing only if the first member is absent, which it must be
allowed to be.  Otherwise they give the list of the values of the last member, in order, for all the structures that the
members before lead to; a member that is absent on the way adds nothing to it. -/
theorem exists_run_chain (s : Settings) {scope : Scope} {root : Binding} {ident : Ident} (merged : Bool)
    (hroot : Binding.ofShape s.schema none ident id = .ok root) (hscope : scope.current? = some root)
    (hname : scope.named? name = none) (hnames : Leads s.schema id (name :: names)) (hne : names ≠ [])
    (hdepth : (Expr.chain merged (.field name) names).nesting ≤ s.maxDepth) :
    ∃ c, s.run scope (.chain merged (.field name) names) = .ok c ∧
      ∀ ls d, Conforms s.schema id d → ls.get ident = .ok d →
        (d.member? name = none ↔
          ∃ m, s.schema.member? id name = some m ∧ m.required = false ∧ d.field? name = some .absent) ∧
        c.result ls = (d.member? name).elim (.error .nothing) fun v => .ok (.list (v.reach merged names)) := by
  obtain ⟨⟨shape, ty⟩, href, hroot⟩ := exists_of_bind_ok hroot
  cases hroot
  obtain ⟨members, hrecord⟩ := hnames.exists_record
  cases hnames with
  | last => exact absurd rfl hne
  | @step _ e _ _ m i hm hi he hrest =>
    obtain ⟨members', hrecord'⟩ := hrest.exists_record
    have hfirst := Compiles.first hscope hname (object_of_referenceTo hrecord href) hm hi
      (referenceTo_of_record he hrecord')
    have htargets : Targets s.schema id m.target fun d => (d.member? name).map fun v => [v] := by
      intro d vs hd hvs v hv
      obtain ⟨w, hw, rfl⟩ := Option.map_eq_some_iff.1 hvs
      rw [List.mem_singleton.1 hv]
      exact hd.member hm hi hw
    obtain ⟨c, hc, hreaches⟩ := (hfirst.chain merged htargets he hrest).exists_run hdepth
    refine ⟨c, hc, fun ls d hd hls => ⟨?_, ?_⟩⟩
    · rw [hd.member?_eq_none_iff hm hi]
      constructor
      · exact fun h => ⟨m, hm, h⟩
      · rintro ⟨m', hm', h⟩
        rw [hm] at hm'
        cases hm'
        exact h
    · rw [hreaches ls d hd hls]
      dsimp only
      cases d.member? name with
      | none => rfl
      | some v =>
        show Except.ok (Datum.list ([v].flatMap (Datum.reach merged names))) = _
        rw [List.flatMap_singleton]
        rfl

end Settings

open Samples (inventory output)

example : Samples.queries.lookup "item_names" = some (.chain false (.field "items") ["name"]) := rfl

example : Samples.queries.lookup "member_names" = some (.chain false (.field "groups") ["members", "name"]) := rfl

example : Samples.queries.lookup "member_tags" = some (.chain true (.field "groups") ["members", "tags"]) := rfl

/-- An item that is active and has these tags. -/
def tagged (tags : Datum) : Datum :=
  .record [("name", .absent), ("state", .text "Active"), ("weight", .float (.ofInt 1)), ("tags", tags)]

/-- An output with a group that has no members and one with three members, of which the second has no tags. -/
def grouped : Datum :=
  .record [("foo", .record [("bar", .absent), ("size", .int 1)]), ("items", .list []), ("tags", .absent),
    ("groups", .present (.list [.record [("members", .absent)], .record [("members", .present (.list
      [tagged (.present (.list [.text "x", .text "y"])), tagged .absent, tagged (.present (.list [.text "z"]))]))]])),
    ("labels", .absent), ("status", .absent)]

/-- The names of the members that such an output has. -/
def sampleNames : List String :=
  ["foo", "items", "tags", "groups", "labels", "status", "bar", "size", "members", "name", "state", "weight"]

private theorem ofName?_sample {name : String} (h : name ∈ sampleNames) : Ident.ofName? name = some ⟨name, false⟩ := by
  have hnames : ∀ name ∈ sampleNames, name ≠ "" ∧ name.toList.all Char.isLower = true ∧
      Code.isKeyword name = false := by decide +kernel
  obtain ⟨hne, hletters, hkeyword⟩ := hnames name h
  exact Ident.ofName?_letters hne (List.all_eq_true.1 hletters) hkeyword

private theorem conforms_tagged {tags : Datum} (h : MemberConforms inventory ⟨⟨"Tags"⟩, false⟩ tags) :
    Conforms inventory ⟨"Item"⟩ (tagged tags) := by
  refine .ofFields rfl ?_
  simp only [List.forall_mem_cons]
  refine ⟨⟨⟨"name", false⟩, _, ofName?_sample (by decide), rfl, .absent rfl⟩,
    ⟨⟨"state", false⟩, _, ofName?_sample (by decide), rfl, ?_⟩,
    ⟨⟨"weight", false⟩, _, ofName?_sample (by decide), rfl, ?_⟩,
    ⟨⟨"tags", false⟩, _, ofName?_sample (by decide), rfl, h⟩, List.forall_mem_nil _⟩
  · exact .required rfl ⟨rfl, .enum _ _⟩
  · exact .required rfl ⟨rfl, .double _⟩

private theorem conforms_grouped : Conforms inventory ⟨"Output"⟩ grouped := by
  have htags : ∀ texts : List String,
      MemberConforms inventory ⟨⟨"Tags"⟩, false⟩ (.present (.list (texts.map .text))) := by
    refine fun texts => .present rfl ⟨rfl, .list fun d hd => ?_⟩
    obtain ⟨s, -, rfl⟩ := List.mem_map.1 hd
    exact ⟨rfl, .text s⟩
  have hfoo : Conforms inventory ⟨"Foo"⟩ (.record [("bar", .absent), ("size", .int 1)]) := by
    refine .ofFields rfl ?_
    simp only [List.forall_mem_cons]
    exact ⟨⟨⟨"bar", false⟩, _, ofName?_sample (by decide), rfl, .absent rfl⟩,
      ⟨⟨"size", false⟩, _, ofName?_sample (by decide), rfl, .required rfl ⟨rfl, .int rfl _⟩⟩, List.forall_mem_nil _⟩
  have hgroup : ∀ members, MemberConforms inventory ⟨⟨"Items"⟩, false⟩ members →
      Conforms inventory ⟨"Group"⟩ (.record [("members", members)]) := by
    refine fun members h => .ofFields rfl (List.forall_mem_singleton.2 ?_)
    exact ⟨⟨"members", false⟩, _, ofName?_sample (by decide), rfl, h⟩
  refine .ofFields rfl ?_
  simp only [List.forall_mem_cons]
  refine ⟨⟨⟨"foo", false⟩, _, ofName?_sample (by decide), rfl, .required rfl hfoo⟩,
    ⟨⟨"items", false⟩, _, ofName?_sample (by decide), rfl, .required rfl ⟨rfl, .list (List.forall_mem_nil _)⟩⟩,
    ⟨⟨"tags", false⟩, _, ofName?_sample (by decide), rfl, .absent rfl⟩,
    ⟨⟨"groups", false⟩, _, ofName?_sample (by decide), rfl, .present rfl ⟨rfl, .list ?_⟩⟩,
    ⟨⟨"labels", false⟩, _, ofName?_sample (by decide), rfl, .absent rfl⟩,
    ⟨⟨"status", false⟩, _, ofName?_sample (by decide), rfl, .absent rfl⟩, List.forall_mem_nil _⟩
  simp only [List.forall_mem_cons]
  refine ⟨hgroup _ (.absent rfl), hgroup _ (.present rfl ⟨rfl, .list ?_⟩), List.forall_mem_nil _⟩
  simp only [List.forall_mem_cons]
  exact ⟨conforms_tagged (htags ["x", "y"]), conforms_tagged (.absent rfl), conforms_tagged (htags ["z"]),
    List.forall_mem_nil _⟩

theorem exists_run_chain_grouped :
    Binding.ofShape inventory none ⟨"root", false⟩ ⟨"Output"⟩ = .ok output ∧ Scope.current? [output] = some output ∧
    Scope.named? [output] "groups" = none ∧ Leads inventory ⟨"Output"⟩ ["groups", "members", "tags"] ∧
    ["members", "tags"] ≠ [] ∧ (Expr.chain true (.field "groups") ["members", "tags"]).nesting ≤ 64 ∧
    Conforms inventory ⟨"Output"⟩ grouped ∧
    ∃ c, (Settings.ofSchema inventory).run [output] (.chain true (.field "groups") ["members", "tags"]) = .ok c ∧
      c.result [(⟨"root", false⟩, grouped)] = .ok (.list [.text "x", .text "y", .text "z"]) := by
  have hgroups : Ident.ofName? "groups" = some ⟨"groups", false⟩ := ofName?_sample (by decide)
  have hmembers : Ident.ofName? "members" = some ⟨"members", false⟩ := ofName?_sample (by decide)
  have htags : Ident.ofName? "tags" = some ⟨"tags", false⟩ := ofName?_sample (by decide)
  have hleads : Leads inventory ⟨"Output"⟩ ["groups", "members", "tags"] :=
    .step rfl hgroups rfl (.step rfl hmembers rfl (.last rfl htags (eq_ok_of_toOption rfl)))
  have hdepth : (Expr.chain true (.field "groups") ["members", "tags"]).nesting ≤ 64 := by decide
  have hscope : Scope.current? [output] = some output := rfl
  have hname : Scope.named? [output] "groups" = none := rfl
  obtain ⟨c, hc, hrun⟩ := Settings.exists_run_chain (.ofSchema inventory) true ofShape_output hscope hname hleads
    (List.cons_ne_nil _ _) hdepth
  refine ⟨ofShape_output, hscope, hname, hleads, List.cons_ne_nil _ _, hdepth, conforms_grouped, c, hc, ?_⟩
  rw [(hrun [(⟨"root", false⟩, grouped)] grouped conforms_grouped rfl).2]
  simp [grouped, tagged, Datum.member?, Datum.field?, Datum.held?, Datum.reach, Datum.items, Datum.spread, hgroups,
    hmembers, htags, List.lookup_cons]

/-- A schema with a member that no field can be named after. -/
def fractions : Schema where
  shapes := [(⟨"Root"⟩, .record [Samples.always "a" "Items"]), (⟨"Items"⟩, .list ⟨"Item"⟩),
    (⟨"Item"⟩, .record [Samples.maybe "b" "String", Samples.maybe "½" "String"]), (⟨"String"⟩, .string)]

/-- That a chain goes through lists of structures to a member of a shape that queries support is not enough: a name in
scope is meant before a member of the same name, and there are members that no field can be named after. -/
theorem chain_exceptions :
    ∃ root item, Binding.ofShape fractions none ⟨"root", false⟩ ⟨"Root"⟩ = .ok root ∧
      Binding.ofShape fractions (some "a") ⟨"item", false⟩ ⟨"Item"⟩ = .ok item ∧
      fractions.member? ⟨"Root"⟩ "a" = some ⟨⟨"Items"⟩, true⟩ ∧ fractions.items? ⟨"Items"⟩ = some ⟨"Item"⟩ ∧
      (∀ name ∈ ["b", "½"], fractions.member? ⟨"Item"⟩ name = some ⟨⟨"String"⟩, false⟩ ∧
        (Expr.chain false (.field "a") [name]).nesting ≤ 64) ∧
      (referenceTo fractions ⟨"String"⟩).isOk = true ∧
      ((Settings.ofSchema fractions).run [root] (.chain false (.field "a") ["b"])).isOk = true ∧
      ((Settings.ofSchema fractions).run [root, item] (.chain false (.field "a") ["b"])).isOk = false ∧
      ((Settings.ofSchema fractions).run [root] (.chain false (.field "a") ["½"])).isOk = false := by
  refine ⟨⟨none, ⟨"root", false⟩, .object (some ⟨"Root"⟩), .ref (.model "Root")⟩,
    ⟨some "a", ⟨"item", false⟩, .object (some ⟨"Item"⟩), .ref (.model "Item")⟩, eq_ok_of_toOption ?_,
    eq_ok_of_toOption ?_, rfl, rfl, by decide, rfl, ?_⟩
  all_goals decide +kernel

end Traversal

end Signpost
