import Mathlib.Data.List.Basic
import Signpost.Proofs.Traversal.Coherence
import Signpost.Proofs.Traversal.Reaching

/-!
# Streams of values

Steps that reach values of a shape (`Computed.Streams`): a single list, or a list of lists.  Merging makes one list of
the structures in them (`yields_flattened`), and a projection onto a member makes of these a list of its values
(`yields_projection`), which is what the next projection starts from.
-/

namespace Signpost.Traversal

open Code (Ident)

variable {schema : Schema} {id e target : ShapeId} {shape : ValueShape} {ty : Ty} {name : String} {m : Member}
  {i src : Ident} {c : Computed} {o : Datum → Option (List Datum)} {n : Namer} {F : Cause → Prop}

/-! ### Lists of the schema -/

/-- What queries know of a list: that it is one, and a reference to it. -/
theorem exists_of_referenceTo (he : schema.items? id = some e) (h : referenceTo schema id = .ok (shape, ty)) :
    ∃ nested item, shape = .array (some id) nested ∧ ty = .ref (.vec item) := by
  obtain ⟨_, hshape, h⟩ := exists_of_bind_ok h
  obtain ⟨_, hty, h⟩ := exists_of_bind_ok h
  cases h
  rw [classify, classifyWithin] at hshape
  rw [typeOf, typeWithin] at hty
  rcases list_or_set_of_items? he with hid | hid
  all_goals
    rw [lookUp_ok_iff.2 hid, ok_bind] at hshape hty
    obtain ⟨nested, -, hshape⟩ := exists_of_bind_ok hshape
    obtain ⟨item, -, hty⟩ := exists_of_bind_ok hty
    cases hshape
    cases hty
    exact ⟨nested, item, rfl, rfl⟩

theorem object_of_referenceTo {members : Table String Member} (hrecord : schema.get? id = some (.record members))
    (h : referenceTo schema id = .ok (shape, ty)) : shape = .object (some id) := by
  obtain ⟨_, hshape, h⟩ := exists_of_bind_ok h
  obtain ⟨_, -, h⟩ := exists_of_bind_ok h
  cases h
  rw [classify, classifyWithin, lookUp_ok_iff.2 hrecord] at hshape
  cases hshape
  rfl

/-- Lists of structures are supported. -/
theorem referenceTo_of_record {members : Table String Member} (he : schema.items? id = some e)
    (hrecord : schema.get? e = some (.record members)) :
    referenceTo schema id = .ok (.array (some id) (.object (some e)), .ref (.vec (.model e.typeName))) := by
  -- two shapes fit into one another even in a schema with just one
  obtain ⟨k, hk⟩ : ∃ k, schema.shapes.length = k + 1 := by
    cases hshapes : schema.shapes with
    | nil =>
      rw [Schema.get?, hshapes] at hrecord
      cases hrecord
    | cons s ss => exact ⟨ss.length, rfl⟩
  have hclassify : classify schema id = .ok (.array (some id) (.object (some e))) := by
    rw [classify, hk, classifyWithin]
    rcases list_or_set_of_items? he with hid | hid
    all_goals
      rw [lookUp_ok_iff.2 hid, ok_bind]
      dsimp only
      rw [classifyWithin, lookUp_ok_iff.2 hrecord]
      rfl
  have htype : typeOf schema id = .ok (.vec (.model e.typeName)) := by
    rw [typeOf, hk, typeWithin]
    rcases list_or_set_of_items? he with hid | hid
    all_goals
      rw [lookUp_ok_iff.2 hid, ok_bind]
      dsimp only
      rw [typeWithin, lookUp_ok_iff.2 hrecord]
      rfl
  rw [referenceTo, hclassify, htype]
  rfl

/-- What is no list is not taken for one, and its values have no elements. -/
theorem spread_of_referenceTo (he : schema.items? id = none) (h : referenceTo schema id = .ok (shape, ty)) :
    shape.member? = none ∧ ∀ d, Conforms schema id d → d.spread = [d] := by
  obtain ⟨_, hshape, h⟩ := exists_of_bind_ok h
  obtain ⟨_, -, h⟩ := exists_of_bind_ok h
  cases h
  rw [classify, classifyWithin] at hshape
  obtain ⟨s, hs, hshape⟩ := exists_of_bind_ok hshape
  rw [lookUp_ok_iff] at hs
  rw [Schema.items?, hs] at he
  cases s with
  | list | set => cases he
  | union | bigInteger | bigDecimal | blob | timestamp | document => cases hshape
  | _ =>
    cases hshape
    refine ⟨rfl, fun d hd => ?_⟩
    cases hd.ofShape hs with
    | foreign hs => cases hs
    | _ => rfl

/-! ### Streams of values -/

/-- Where the local holds a value of the shape, the steps give what the function makes of it, or return if that is
nothing. -/
def Computed.Reaches (schema : Schema) (src : Ident) (id : ShapeId) (f : Datum → Option Datum) (c : Computed) : Prop :=
  ∀ ls d, Conforms schema id d → ls.get src = .ok d → c.result ls = inside (.ofOption (f d))

/-- What the function makes of values of the shape are values of the target. -/
def Targets (schema : Schema) (id target : ShapeId) (o : Datum → Option (List Datum)) : Prop :=
  ∀ d vs, Conforms schema id d → o d = some vs → ∀ v ∈ vs, Conforms schema target v

/-- The steps give a list, with elements of this category and type. -/
structure Computed.Ranges (schema : Schema) (src : Ident) (id : ShapeId) (member : ValueShape) (item : Ty)
    (o : Datum → Option (List Datum)) (c : Computed) : Prop where
  member : c.shape.member? = some member
  item : c.ty.item? = some item
  reaches : c.Reaches schema src id fun d => (o d).map .list

/-- The steps give a list of references to values of the target. -/
def Computed.Lists (schema : Schema) (src : Ident) (id target : ShapeId) (o : Datum → Option (List Datum))
    (c : Computed) : Prop :=
  ∃ x, referenceTo schema target = .ok x ∧ c.Ranges schema src id x.1 x.2 o

/-- The steps give references to values of the target: a single one, or a list of them. -/
inductive Computed.Streams (schema : Schema) (src : Ident) (id target : ShapeId) (o : Datum → Option (List Datum))
    (c : Computed) : Prop
  | one {f : Datum → Option Datum} (ho : ∀ d, o d = (f d).map fun v => [v])
    (href : referenceTo schema target = .ok (c.shape, c.ty)) (h : c.Reaches schema src id f)
  | many (h : c.Lists schema src id target o)

variable {c' : Computed} {f g : Datum → Option Datum} {s : Settings} {query : Query.Expr}

namespace Computed

theorem Reaches.congr (h : c.Reaches schema src id f) (hfg : ∀ d, Conforms schema id d → f d = g d) :
    c.Reaches schema src id g := by
  intro ls d hd hls
  rw [h ls d hd hls, hfg d hd]

theorem Reaches.remark (h : c.Reaches schema src id f) : (s.remark query c).Reaches schema src id f := by
  intro ls d hd hls
  rw [result_remark, h ls d hd hls]

/-- A step more makes another list of each list. -/
theorem Reaches.append {k : List Datum → List Datum} {op : Operation}
    (h : c.Reaches schema src id fun d => (o d).map .list) (hsteps : c'.steps = c.steps ++ [.bind c'.name op])
    (hop : ∀ d vs, Conforms schema id d → o d = some vs →
      ∀ ls, ls.get c.name = .ok (.list vs) → op.run ls = .ok (.list (k vs))) :
    c'.Reaches schema src id fun d => ((o d).map k).map .list := by
  intro ls d hd hls
  have hstep : ∀ v, (o d).map Datum.list = some v → ∀ ls', ls'.get c.name = .ok v →
      op.run ls' = .ok (.list (k v.items)) := by
    intro v hv ls' hls'
    obtain ⟨vs, hvs, rfl⟩ := Option.map_eq_some_iff.1 hv
    exact hop d vs hd hvs ls' hls'
  have hresult := result_append (h ls d hd hls) hsteps hstep
  show c'.result ls = inside (.ofOption (((o d).map k).map .list))
  rw [Option.map_map] at hresult ⊢
  exact hresult

variable {member : ValueShape} {item : Ty} {o' : Datum → Option (List Datum)}

theorem Ranges.congr (h : c.Ranges schema src id member item o) (ho : ∀ d, Conforms schema id d → o d = o' d) :
    c.Ranges schema src id member item o' :=
  ⟨h.member, h.item, h.reaches.congr fun d hd => congrArg (Option.map Datum.list) (ho d hd)⟩

theorem Ranges.remark (h : c.Ranges schema src id member item o) :
    (s.remark query c).Ranges schema src id member item o :=
  ⟨by rw [Settings.shape_remark, h.member], by rw [Settings.ty_remark, h.item], h.reaches.remark⟩

theorem Lists.remark (h : c.Lists schema src id target o) : (s.remark query c).Lists schema src id target o := by
  obtain ⟨x, href, h⟩ := h
  exact ⟨x, href, h.remark⟩

theorem Ranges.elements (h : c.Ranges schema src id member item o) :
    Yields (elements c) n (fun _ x => x = (member, item)) F := by
  rw [Traversal.elements, h.member, h.item]
  exact .pure rfl

end Computed

/-! ### Merging and projecting -/

/-- Lists in a list are merged. -/
theorem ranges_flattened {k : Option ShapeId} {nested : ValueShape} {item : Ty}
    (h : c.Ranges schema src id (.array k nested) (.ref (.vec item)) o)
    (ho : ∀ d vs, Conforms schema id d → o d = some vs → ∀ v ∈ vs, v = .list v.items) :
    Yields (flattened c) n
      (fun _ => Computed.Ranges schema src id nested (.ref item) fun d => (o d).map (·.flatMap Datum.items)) F := by
  rw [flattened]
  refine h.elements.bind fun n x hx => ?_
  subst hx
  refine .fresh (.pure ⟨rfl, rfl, h.reaches.append rfl fun d vs hd hvs ls hls => ?_⟩)
  exact run_flatten hls (ho d vs hd hvs)

/-- A list of anything else stays as it is. -/
theorem flattened_of_member?_eq_none (h : c.Ranges schema src id shape ty o) (hnone : shape.member? = none) :
    Yields (flattened c) n (fun _ c' => c' = c) F := by
  rw [flattened]
  refine h.elements.bind fun n x hx => ?_
  subst hx
  dsimp only
  rw [hnone]
  exact .pure rfl

/-- Lists of structures become one list of structures. -/
theorem Computed.Streams.flattened {members : Table String Member} (hc : c.Streams schema src id target o)
    (ho : Targets schema id target o) (he : schema.items? target = some e)
    (hrecord : schema.get? e = some (.record members)) :
    Yields (flattened c) n (fun _ => Computed.Ranges schema src id (.object (some e)) (.ref (.model e.typeName))
      fun d => (o d).map (·.flatMap Datum.items)) F := by
  have hlists : ∀ d vs, Conforms schema id d → o d = some vs → ∀ v ∈ vs, v = .list v.items :=
    fun d vs hd hvs v hv => ((ho d vs hd hvs v hv).items he).1
  have hrecords := referenceTo_of_record he hrecord
  cases hc with
  | @one f hf href h =>
    rw [hrecords, Except.ok.injEq, Prod.mk.injEq] at href
    obtain ⟨hshape, hty⟩ := href
    have hranges : c.Ranges schema src id (.object (some e)) (.ref (.model e.typeName))
        fun d => (o d).map (·.flatMap Datum.items) := by
      refine ⟨by rw [← hshape]; rfl, by rw [← hty]; rfl, h.congr fun d hd => ?_⟩
      rw [hf d]
      cases hv : f d with
      | none => rfl
      | some v =>
        have hlist := hlists d [v] hd (by rw [hf d, hv]; rfl) v List.mem_cons_self
        show some v = some (.list ([v].flatMap Datum.items))
        rw [List.flatMap_singleton, ← hlist]
    refine (flattened_of_member?_eq_none hranges rfl).mono fun _ c' hc' => ?_
    rw [hc']
    exact hranges
  | many h =>
    obtain ⟨x, href, h⟩ := h
    rw [hrecords] at href
    cases href
    exact ranges_flattened h hlists

/-- What the elements are spread to, whether they are lists or not. -/
theorem Computed.Lists.flattened (h : c.Lists schema src id target o) (ho : Targets schema id target o) :
    Yields (flattened c) n
      (fun _ c' => ∃ shape ty, c'.Ranges schema src id shape ty fun d => (o d).map (·.flatMap Datum.spread)) F := by
  obtain ⟨⟨shape, ty⟩, href, h⟩ := h
  cases he : schema.items? target with
  | none =>
    obtain ⟨hnone, hspread⟩ := spread_of_referenceTo he href
    refine (flattened_of_member?_eq_none h hnone).mono fun _ c' hc' => ⟨shape, ty, ?_⟩
    rw [hc']
    refine h.congr fun d hd => ?_
    cases hvs : o d with
    | none => rfl
    | some vs =>
      show some vs = some (vs.flatMap Datum.spread)
      rw [List.flatMap_congr fun v hv => hspread v (ho d vs hd hvs v hv), List.flatMap_singleton']
  | some e =>
    obtain ⟨nested, item, rfl, rfl⟩ := exists_of_referenceTo he href
    have hlists : ∀ d vs, Conforms schema id d → o d = some vs → ∀ v ∈ vs, v = .list v.items :=
      fun d vs hd hvs v hv => ((ho d vs hd hvs v hv).items he).1
    refine (ranges_flattened h hlists).mono fun _ c' hc' => ⟨nested, .ref item, hc'.congr fun d hd => ?_⟩
    refine Option.map_congr fun vs hvs => List.flatMap_congr fun v hv => ?_
    rw [hlists d vs hd hvs v hv]
    rfl

/-- A projection leaves out the elements that do not have the member. -/
theorem Computed.Ranges.projection {body : Body} {item : Ty} (h : c.Ranges schema src id (.object (some e)) item o)
    (ho : Targets schema id e o)
    (hbody : ∀ b n, b.name = none → b.shape = .object (some e) →
      Yields (body b) n (fun _ => Computed.IsMember schema b.ident e name m true) F) :
    Yields (projection (some body) c) n
      (fun _ => Computed.Lists schema src id m.target fun d => (o d).map (·.filterMap (Datum.member? name))) F := by
  rw [Traversal.projection]
  refine h.elements.bind fun n x hx => ?_
  subst hx
  refine .fresh ((hbody ⟨none, _, _, item⟩ _ rfl rfl).bind fun n r hr => .fresh (.pure ?_))
  refine ⟨_, hr.reference_unwrapOption, rfl, rfl, h.reaches.append rfl fun d vs hd hvs ls hls => ?_⟩
  exact run_each hls fun x hx => hr.closed_eq (ho d vs hd hvs x hx) Locals.get_cons_self

/-! ### Values on the way -/

theorem Targets.items (ho : Targets schema id target o) (he : schema.items? target = some e) :
    Targets schema id e fun d => (o d).map (·.flatMap Datum.items) := by
  intro d vs hd hvs x hx
  obtain ⟨lists, hlists, rfl⟩ := Option.map_eq_some_iff.1 hvs
  obtain ⟨v, hv, hx⟩ := List.mem_flatMap.1 hx
  exact ((ho d lists hd hlists v hv).items he).2 x hx

theorem Targets.members (ho : Targets schema id e o) (hm : schema.member? e name = some m)
    (hi : Ident.ofName? name = some i) :
    Targets schema id m.target fun d => (o d).map (·.filterMap (Datum.member? name)) := by
  intro d vs hd hvs x hx
  obtain ⟨elements, helements, rfl⟩ := Option.map_eq_some_iff.1 hvs
  obtain ⟨v, hv, hx⟩ := List.mem_filterMap.1 hx
  exact (ho d elements hd helements v hv).member hm hi hx

end Signpost.Traversal
