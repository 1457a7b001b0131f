import Signpost.Proofs.Resolver.Capture
import Signpost.Proofs.Resolver.Sites

/-!
# Strings of their own and views of them

In emitted code a string is one of its own or a view of one, and a list of strings is so too (`Form`).  `Value.form?`
says what a value is by what the locals hold, by the methods of locations and partitions and by what the functions of
the runtime library take and give; it knows nothing of the types that the rules have.  A local that has a type in scope
should hold what `Ty.form?` says, and of a string that is a view.

Beside its type a compiled value has a flag for strings of their own.  Where the locals for the names in an expression
hold what they should, the expression becomes a value that is what its type and its flag say (`fits_compile`): views are
only taken of strings of their own, and strings of their own only made of views.  So what leaves the resolver is a
string of its own, a constant or a copy, and borrows from no local (`free_compileString`, `free_document`).
-/

namespace Signpost.Resolver

open Code (Ident)
open Rules (Expr Part Template Call)

/-! ### What code computes -/

/-- What a value of emitted code is. -/
inductive Form where
  /-- A string of its own. -/
  | text
  /-- A view of a string. -/
  | view
  | bool
  | int
  /-- A list of strings of their own. -/
  | texts
  /-- A view of such a list. -/
  | slice
  | location
  | partition
  | option (inner : Form)
  deriving DecidableEq, Repr

namespace Form

/-- What an option holds. -/
def inside? : Form → Option Form
  | option f => some f
  | _ => none

/-- Whether it can be put into a text. -/
def isDisplayable : Form → Bool
  | text | view | bool | int => true
  | _ => false

/-- The methods of a location and of a partition, each with what it gives. -/
def methods : Form → List (Ident × Form)
  | location =>
    [(⟨"scheme", false⟩, view), (⟨"authority", false⟩, view), (⟨"path", false⟩, view),
      (⟨"normalized_path", false⟩, view), (⟨"is_ip", false⟩, bool)]
  | partition =>
    [(⟨"name", false⟩, view), (⟨"dns_suffix", false⟩, view), (⟨"dual_stack_dns_suffix", false⟩, view),
      (⟨"supports_fips", false⟩, bool), (⟨"supports_dual_stack", false⟩, bool),
      (⟨"implicit_global_region", false⟩, view)]
  | _ => []

end Form

/-- What a function takes and gives. -/
structure Signature where
  takes : List Form
  /-- Whether it takes the place to report failed checks to as well. -/
  reports : Bool
  gives : Form
  deriving DecidableEq, Repr

/-- What the functions of the runtime library and the methods of the state of resolvers take and give. -/
def signatures : List (Callee × Signature) :=
  [(.library ["endpoint_lib", "substring", "substring"], ⟨[.view, .int, .int, .bool], true, .option .view⟩),
    (.library ["endpoint_lib", "host", "is_valid_host_label"], ⟨[.view, .bool], true, .bool⟩),
    (.library ["endpoint_lib", "parse_url", "parse_url"], ⟨[.view], true, .option .location⟩),
    (.library ["endpoint_lib", "uri_encode", "uri_encode"], ⟨[.view], false, .text⟩),
    (.state Library.partitionField "resolve_partition", ⟨[.view], true, .option .partition⟩)]

/-- The locals in scope with what they hold, if the code says so, the innermost first. -/
abbrev Forms := List (Ident × Option Form)

/-- Whether a local has the name of the state that a function belongs to. -/
def Callee.isHidden (forms : Forms) : Callee → Bool
  | .library _ => false
  | .state field _ => (forms.map (·.1)).contains field

mutual

/-- What a value is, by what the locals hold.  Nothing can be read from the identifier that declares nothing. -/
@[simp]
def Value.form? (forms : Forms) : Value → Option Form
  | .local i => if i = wildcard then none else (forms.lookup i).join
  | .string _ => some .view
  | .bool _ => some .bool
  | .int _ => some .int
  | .format _ args => do if (← Value.formsOf? forms args).all Form.isDisplayable then some .text else none
  | .toOwned v =>
    match v.form? forms with
    | some .view => some .text
    | _ => none
  | .asStr v =>
    match v.form? forms with
    | some .text => some .view
    | _ => none
  | .isSome v =>
    match v.form? forms with
    | some (.option _) => some .bool
    | _ => none
  | .not v =>
    match v.form? forms with
    | some .bool => some .bool
    | _ => none
  | .equal a b =>
    match a.form? forms, b.form? forms with
    | some .view, some .view | some .bool, some .bool => some .bool
    | _, _ => none
  | .read v accessor => do (← v.form? forms).methods.lookup accessor
  | .item v _ =>
    match v.form? forms with
    | some .slice => some (.option .view)
    | _ => none
  | .or a b =>
    match a.form? forms, b.form? forms with
    | some (.option f), some (.option g) => if f = g then some (.option f) else none
    | _, _ => none
  | .unwrapOr a b =>
    match a.form? forms, b.form? forms with
    | some (.option f), some g => if f = g then some f else none
    | _, _ => none
  | .ownedOr a b =>
    match a.form? forms, b.form? forms with
    | some (.option .view), some .text => some .text
    | _, _ => none
  | .first a b => do
    let f ← a.form? forms
    let _ ← b.form? forms
    return f
  | .call f args => do
    let s ← signatures.lookup f.callee
    let given ← Value.formsOf? forms args
    if given = s.takes ∧ f.reports = s.reports ∧ f.callee.isHidden forms = false then some s.gives else none

/-- What each of several values is. -/
@[simp]
def Value.formsOf? (forms : Forms) : List Value → Option (List Form)
  | [] => some []
  | v :: vs => do
    let f ← v.form? forms
    return f :: (← Value.formsOf? forms vs)

end

/-- What a local holds of a value of a type: of a string a view. -/
def Ty.form? : Ty → Option Form
  | .string => some .view
  | .bool => some .bool
  | .int => some .int
  | .stringArray => some .slice
  | .record name attributes =>
    if Ty.record name attributes = Library.url then some .location
    else if Ty.record name attributes = Library.partition then some .partition
    else none
  | .option t => t.form?.map .option

/-! ### Flags -/

/-- The value is what its type and its flag say: a string of its own if the flag is set, or else what a local of the
type holds. -/
structure Compiled.Fits (forms : Forms) (c : Compiled) : Prop where
  known : c.ty.form?.isSome = true
  owned : c.isOwned = true → c.ty = .string
  form : c.value.form? forms = if c.isOwned then some .text else c.ty.form?

namespace Compiled

variable {forms : Forms} {c : Compiled}

theorem fits_plain {v : Value} {ty : Ty} (hknown : ty.form?.isSome = true) (hv : v.form? forms = ty.form?) :
    (plain v ty).Fits forms := ⟨hknown, fun h => (nomatch h), hv⟩

theorem isOwned_view (c : Compiled) : c.view.isOwned = false := by
  unfold view
  cases h : c.isOwned with
  | true => rfl
  | false => exact h

theorem Fits.view (h : c.Fits forms) : c.view.Fits forms := by
  obtain ⟨value, ty, isOwned⟩ := c
  cases isOwned with
  | false => exact h
  | true =>
    obtain rfl : ty = .string := h.owned rfl
    have hvalue : value.form? forms = some .text := h.form
    refine fits_plain rfl ?_
    simp only [Value.form?, hvalue]
    rfl

theorem Fits.exists_form (h : c.Fits forms) : ∃ f, c.value.form? forms = some f := by
  obtain ⟨f, hf⟩ := Option.isSome_iff_exists.1 h.known
  rw [h.form, hf]
  split <;> exact ⟨_, rfl⟩

theorem Fits.form_view (h : c.Fits forms) : c.view.value.form? forms = c.view.ty.form? := by
  have hform := h.view.form
  rwa [isOwned_view] at hform

/-- A value whose flag is not set is what a local of its type holds. -/
theorem Fits.form_of_not (h : c.Fits forms) (hc : c.isOwned = false) : c.value.form? forms = c.ty.form? := by
  rw [h.form, hc]
  rfl

theorem own_of_view (v : Value) : (⟨v, .string, false⟩ : Compiled).own = ⟨.toOwned v, .string, true⟩ := rfl

theorem own_of_ne (h : c.ty = .string → c.isOwned = true) : c.own = c := by
  rw [own, if_neg]
  simpa using h

theorem Fits.own (h : c.Fits forms) : c.own.Fits forms := by
  obtain ⟨value, ty, isOwned⟩ := c
  by_cases hview : ty = .string ∧ isOwned = false
  · obtain ⟨rfl, rfl⟩ := hview
    have hvalue : value.form? forms = some .view := h.form
    rw [own_of_view]
    refine ⟨rfl, fun _ => rfl, ?_⟩
    simp only [Value.form?, hvalue]
    rfl
  · rwa [own_of_ne]
    simpa using hview

end Compiled

/-! ### Attributes -/

variable {forms : Forms} {ty ty' : Ty}

private theorem mem_toList {attributes : Attributes} {name accessor : String}
    (h : attributes.get? name = some (accessor, ty)) : (name, accessor, ty) ∈ attributes.toList := by
  induction attributes using Attributes.toList.induct with
  | case1 => cases h
  | case2 n a t rest ih =>
    rw [Attributes.get?] at h
    rw [Attributes.toList]
    split at h
    · rename_i hname
      cases h
      exact hname ▸ List.mem_cons_self
    · exact List.mem_cons_of_mem _ (ih h)

/-- The methods of a record give what its attributes say. -/
private theorem form_attribute {record name accessor : String} {attributes : Attributes} {f : Form} {i : Ident}
    (hf : (Ty.record record attributes).form? = some f) (h : attributes.get? name = some (accessor, ty))
    (hi : Ident.ofText? accessor = some i) : f.methods.lookup i = ty.form? ∧ ty.form?.isSome = true := by
  have hgives : ∀ methods : List (Ident × Form), (∀ x ∈ attributes.toList,
      (Ident.ofText? x.2.1).bind (methods.lookup ·) = x.2.2.form? ∧ x.2.2.form?.isSome = true) →
        methods.lookup i = ty.form? ∧ ty.form?.isSome = true := by
    intro methods hall
    have hx := hall _ (mem_toList h)
    rwa [hi] at hx
  rw [Ty.form?] at hf
  split at hf
  · rename_i hurl
    obtain ⟨rfl, rfl⟩ := Ty.record.inj hurl
    cases hf
    exact hgives _ (by decide +kernel)
  · split at hf
    · rename_i hpartition
      obtain ⟨rfl, rfl⟩ := Ty.record.inj hpartition
      cases hf
      exact hgives _ (by decide +kernel)
    · cases hf

private theorem form_foldl_read {names : List (List Char)} {accessors : List Ident} (h : ty.LeadsTo names accessors ty')
    {v : Value} (hknown : ty.form?.isSome = true) (hv : v.form? forms = ty.form?) :
    (accessors.foldl .read v).form? forms = ty'.form? ∧ ty'.form?.isSome = true := by
  induction h generalizing v with
  | here => exact ⟨hv, hknown⟩
  | read h hi hrest ih =>
    obtain ⟨f, hf⟩ := Option.isSome_iff_exists.1 hknown
    obtain ⟨hmethod, hknown'⟩ := form_attribute hf h hi
    refine ih hknown' ?_
    rw [Value.form?, hv, hf]
    exact hmethod

private theorem fits_getAttr {c : Compiled} (hc : c.Fits forms) (hview : c.isOwned = false) (call : Call)
    (path : List Char) : Ensures (getAttr call path c) (Compiled.Fits forms) := by
  refine (ensures_getAttr call path c).mono fun c' hc' => ?_
  obtain ⟨⟨names, isApart, element⟩, -, -, accessors, ty, hleads, hc'⟩ := hc'
  obtain ⟨hform, hknown⟩ := form_foldl_read hleads hc.known (hc.form_of_not hview)
  cases element with
  | none =>
    rw [hc']
    exact Compiled.fits_plain hknown hform
  | some e =>
    obtain ⟨rfl, rfl⟩ := hc'
    refine Compiled.fits_plain rfl ?_
    rw [Value.form?, hform]
    rfl

/-! ### Functions -/

private theorem eq_option_or (ty : Ty) : (∃ t, ty = .option t) ∨ ty.isOption = false ∧ ty.unwrapOption = ty := by
  cases ty with
  | option t => exact .inl ⟨t, rfl⟩
  | _ => exact .inr ⟨rfl, rfl⟩

variable {a b : Compiled}

theorem Compiled.Fits.exists_of_option {c : Compiled} {t : Ty} (h : c.Fits forms) (hc : c.ty = .option t) :
    ∃ f, t.form? = some f ∧ c.value.form? forms = some (.option f) := by
  have hknown := h.known
  rw [hc, Ty.form?, Option.isSome_map] at hknown
  obtain ⟨f, hf⟩ := Option.isSome_iff_exists.1 hknown
  have hview : c.isOwned = false := by
    refine Bool.eq_false_iff.2 fun howned => ?_
    rw [h.owned howned] at hc
    cases hc
  refine ⟨f, hf, ?_⟩
  rw [h.form_of_not hview, hc, Ty.form?, hf]
  rfl

theorem Compiled.Fits.known_unwrap {c : Compiled} (h : c.Fits forms) : c.ty.unwrapOption.form?.isSome = true := by
  obtain ⟨t, ht⟩ | ⟨-, hunwrap⟩ := eq_option_or c.ty
  · obtain ⟨f, hf, -⟩ := h.exists_of_option ht
    rw [ht, Ty.unwrapOption, hf]
    rfl
  · rw [hunwrap]
    exact h.known

private theorem fits_alternatives (ha : a.Fits forms) (hb : b.Fits forms) (call : Call) :
    Ensures (alternatives call a b) (Compiled.Fits forms) := by
  obtain ⟨va, ta, oa⟩ := a
  obtain ⟨vb, tb, ob⟩ := b
  refine .ite (fun _ => .fail _) fun hty => .ite (fun _ => .fail _) fun _ => ?_
  rw [not_not] at hty
  dsimp only at hty ⊢
  obtain ⟨t, rfl⟩ | ⟨hta, -⟩ := eq_option_or ta
  · obtain ⟨f, hf, hva⟩ := ha.exists_of_option rfl
    obtain ⟨t', rfl⟩ | ⟨htb, hunwrap⟩ := eq_option_or tb
    · obtain rfl : t = t' := hty
      obtain ⟨g, hg, hvb⟩ := hb.exists_of_option rfl
      obtain rfl : f = g := Option.some.inj (hf.symm.trans hg)
      refine .pure (Compiled.fits_plain ha.known ?_)
      simp [Value.form?, Ty.form?, hva, hvb, hf]
    · obtain rfl : t = tb := by rw [← hunwrap]; exact hty
      rw [htb]
      cases ob with
      | true =>
        obtain rfl : t = .string := hb.owned rfl
        obtain rfl : Form.view = f := Option.some.inj hf
        have hvb : vb.form? forms = some .text := hb.form
        refine .pure ⟨rfl, fun _ => rfl, ?_⟩
        simp only [Value.form?, hva, hvb]
        rfl
      | false =>
        have hvb : vb.form? forms = some f := (hb.form_of_not rfl).trans hf
        refine .pure (Compiled.fits_plain hb.known ?_)
        simp [Value.form?, hva, hvb, hf]
  · obtain ⟨g, hg⟩ := hb.exists_form
    rw [hta]
    refine .pure ⟨ha.known, ha.owned, ?_⟩
    rw [← ha.form]
    simp [Value.form?, hg]

private theorem fits_equality (ha : a.Fits forms) (hb : b.Fits forms) (call : Call) {want : Ty}
    (hwant : want = .bool ∨ want = .string) :
    Ensures (equality call want a.view b.view) (Compiled.Fits forms) := by
  refine (ensures_expect _ _ _).bind fun _ hta => (ensures_expect _ _ _).bind fun _ htb => .pure ?_
  refine Compiled.fits_plain rfl ?_
  have hva := ha.form_view
  have hvb := hb.form_view
  rw [hta] at hva
  rw [htb] at hvb
  rcases hwant with rfl | rfl
  · simp [Value.form?, hva, hvb, Ty.form?]
  · simp [Value.form?, hva, hvb, Ty.form?]

private theorem fits_apply {args : List Compiled} (h : ∀ a ∈ args, a.Fits forms) (f : Intrinsic) (call : Call) :
    Ensures (f.apply call args) (Compiled.Fits forms) := by
  unfold Intrinsic.apply
  split
  · rename_i a
    have ha := h a List.mem_cons_self
    refine .ite (fun hoption => .pure ?_) fun _ => .fail _
    obtain ⟨t, ht⟩ | ⟨hno, -⟩ := eq_option_or a.view.ty
    · obtain ⟨f, -, hva⟩ := ha.view.exists_of_option ht
      refine Compiled.fits_plain rfl ?_
      simp only [Value.form?, hva]
      rfl
    · rw [hno] at hoption
      cases hoption
  · rename_i a
    have ha := h a List.mem_cons_self
    refine (ensures_expect _ _ _).bind fun _ hty => .pure ?_
    refine Compiled.fits_plain rfl ?_
    have hva := ha.form_view
    rw [hty] at hva
    simp [Value.form?, hva, Ty.form?]
  · rename_i a b
    obtain ⟨ha, hb⟩ := List.forall_mem_cons.1 h
    exact fits_equality ha (List.forall_mem_singleton.1 hb) call (.inl rfl)
  · rename_i a b
    obtain ⟨ha, hb⟩ := List.forall_mem_cons.1 h
    exact fits_equality ha (List.forall_mem_singleton.1 hb) call (.inr rfl)
  · rename_i a b
    obtain ⟨ha, hb⟩ := List.forall_mem_cons.1 h
    exact fits_alternatives ha (List.forall_mem_singleton.1 hb) call
  · exact .fail _

/-- A function takes and gives what the rules say of it, and no local is in its way. -/
structure Function.IsFaithful (forms : Forms) (f : Function) (s : Signature) : Prop where
  found : signatures.lookup f.callee = some s
  takes : s.takes.map some = f.parameters.map Ty.form?
  reports : f.reports = s.reports
  known : f.returns.form?.isSome = true
  gives : some s.gives = if (f.apply []).isOwned then some .text else f.returns.form?
  visible : f.callee.isHidden forms = false

private theorem fits_call {f : Function} {s : Signature} (hf : f.IsFaithful forms s) {vs : List Value}
    (hvs : Value.formsOf? forms vs = some s.takes) : (f.apply vs).Fits forms := by
  refine ⟨hf.known, fun howned => ?_, ?_⟩
  · simp only [Function.apply, Bool.and_eq_true, decide_eq_true_eq] at howned
    exact howned.2
  · show (Value.call f vs).form? forms = _
    have hsame : s.takes = s.takes ∧ f.reports = s.reports ∧ f.callee.isHidden forms = false :=
      ⟨rfl, hf.reports, hf.visible⟩
    rw [Value.form?, hf.found, hvs]
    show (if _ then _ else _) = _
    rw [if_pos hsame]
    exact hf.gives

/-! ### Expressions -/

/-- The local for a name holds what the type of the name says. -/
def Shows (forms : Forms) (scope : Scope) (name : String) : Prop :=
  ∀ b, scope.get? name = some b → b.ty.form?.isSome = true ∧ (Value.local b.ident).form? forms = b.ty.form?

/-- The functions take and give what the rules say of them. -/
def Faithful (forms : Forms) (functions : Table String Function) : Prop :=
  ∀ name f, functions.get? name = some f → ∃ s, f.IsFaithful forms s

/-- Only the state that partitions are looked up in may be hidden from the standard functions. -/
theorem faithful_standard {forms : Forms} (h : Library.partitionField ∉ forms.map (·.1)) :
    Faithful forms Registry.standard.functions := by
  intro name f hf
  have hfunctions : Registry.standard.functions = Library.functions.map fun f => (f.id, f) := rfl
  have hmem := Table.mem_of_get? hf
  rw [hfunctions] at hmem
  obtain ⟨g, hg, hgf⟩ := List.mem_map.1 hmem
  obtain rfl : g = f := (Prod.mk.inj hgf).2
  have hhidden : (Callee.state Library.partitionField "resolve_partition").isHidden forms = false :=
    Bool.eq_false_iff.2 (mt List.contains_iff_mem.1 h)
  simp only [Library.functions, List.mem_cons, List.not_mem_nil, or_false] at hg
  obtain rfl | rfl | rfl | rfl | rfl := hg
  · exact ⟨_, rfl, rfl, rfl, rfl, rfl, rfl⟩
  · exact ⟨_, rfl, rfl, rfl, rfl, rfl, rfl⟩
  · exact ⟨_, rfl, rfl, rfl, rfl, rfl, rfl⟩
  · exact ⟨_, rfl, rfl, rfl, rfl, rfl, rfl⟩
  · exact ⟨_, rfl, rfl, rfl, rfl, rfl, hhidden⟩

variable {functions : Table String Function} {scope : Scope}

private theorem fits_reference {name : String} (h : Shows forms scope name) :
    Ensures (reference scope name) (Compiled.Fits forms) := by
  unfold reference
  cases hb : scope.get? name with
  | none => exact .fail _
  | some b =>
    obtain ⟨hknown, hform⟩ := h b hb
    exact .pure (Compiled.fits_plain hknown hform)

private theorem ensures_displayed_form {c : Compiled} (h : c.Fits forms) (e : Expr) :
    Ensures (displayed e c) fun v => ∃ f, v.form? forms = some f ∧ f.isDisplayable = true := by
  refine .ite (fun _ => .fail _) fun _ => .ite (fun _ => .fail _) fun hdisplayable => .pure ?_
  have hview := h.form_view
  rw [Compiled.ty_view] at hview
  generalize c.ty = ty at hview hdisplayable
  cases ty
  case string | bool | int => exact ⟨_, hview, rfl⟩
  all_goals exact absurd rfl hdisplayable

mutual

/-- What an expression becomes is what its type and its flag say, where all names that it refers to are. -/
theorem fits_compile (hfunctions : Faithful forms functions) : (e : Expr) →
    (∀ name ∈ e.references, Shows forms scope name) →
    EnsuresFor functions (compile scope e) (Compiled.Fits forms)
  | .bool _, _ => .pure (Compiled.fits_plain rfl rfl)
  | .int _, _ => .pure (Compiled.fits_plain rfl rfl)
  | .array _, _ => .fail _
  | .record _, _ => .fail _
  | .ref name, h => .of_ensures (fits_reference (h name (List.mem_singleton.2 rfl)))
  | .string t, h => by
    rw [compile]
    cases ht : Template.plainText? t with
    | some s => exact .pure (Compiled.fits_plain rfl rfl)
    | none =>
      refine (fits_compileParts hfunctions t h).bind fun x hx => .pure ⟨rfl, fun _ => rfl, ?_⟩
      obtain ⟨fs, hfs, hall⟩ := hx
      simp only [Value.form?, hfs]
      exact if_pos hall
  | .call name args, h => by
    rw [compile.eq_def]
    dsimp only
    split
    · split
      · rename_i target path
        split
        · exact .fail _
        · refine (fits_compile hfunctions target fun n hn => h n (List.mem_append_left _ hn)).bind fun c hc => ?_
          exact .of_ensures (fits_getAttr hc.view (Compiled.isOwned_view c) _ _)
      · exact .fail _
    · exact (fits_compileAll hfunctions args h).bind fun cs hcs => .of_ensures (fits_apply hcs _ _)
    · refine (ensures_function_registered name).bind fun f hf => .ite (fun _ => .fail _) fun hlen => ?_
      obtain ⟨s, hs⟩ := hfunctions name f hf
      refine (fits_compileArguments hfunctions _ 1 hs.takes args (by simpa using hlen) h).bind fun vs hvs => .pure ?_
      exact fits_call hs hvs

theorem fits_compileAll (hfunctions : Faithful forms functions) : (es : List Expr) →
    (∀ name ∈ Expr.listReferences es, Shows forms scope name) →
    EnsuresFor functions (compileAll scope es) fun cs => ∀ c ∈ cs, c.Fits forms
  | [], _ => .pure fun _ h => absurd h List.not_mem_nil
  | e :: es, h => by
    obtain ⟨he, hes⟩ := List.forall_mem_append.1 h
    exact (fits_compile hfunctions e he).bind fun c hc => (fits_compileAll hfunctions es hes).bind fun cs hcs =>
      .pure (List.forall_mem_cons.2 ⟨hc, hcs⟩)

theorem fits_compileArguments (hfunctions : Faithful forms functions) (call : Call) (n : Nat) {wants : List Ty}
    {takes : List Form} (htakes : takes.map some = wants.map Ty.form?) : (es : List Expr) → wants.length = es.length →
    (∀ name ∈ Expr.listReferences es, Shows forms scope name) →
    EnsuresFor functions (compileArguments scope call n wants es) fun vs => Value.formsOf? forms vs = some takes
  | [], hlen, _ => by
    obtain rfl := List.length_eq_zero_iff.1 hlen
    obtain rfl : takes = [] := by simpa using htakes
    exact .pure rfl
  | e :: es, hlen, h => by
    obtain ⟨want, wants, rfl⟩ := List.exists_cons_of_length_eq_add_one hlen
    obtain ⟨take, takes, rfl, htake, htakes⟩ := List.map_eq_cons_iff.1 htakes
    obtain ⟨he, hes⟩ := List.forall_mem_append.1 h
    refine (fits_compile hfunctions e he).bind fun c hc => ?_
    refine (EnsuresFor.of_ensures (ensures_expect _ _ _)).bind fun _ hty => ?_
    refine (fits_compileArguments hfunctions call (n + 1) htakes es (Nat.succ.inj hlen) hes).bind fun vs hvs => .pure ?_
    rw [Value.formsOf?, hc.form_view, hty, ← htake, hvs]
    rfl

theorem fits_compileParts (hfunctions : Faithful forms functions) : (ps : List Part) →
    (∀ name ∈ Expr.partReferences ps, Shows forms scope name) →
    EnsuresFor functions (compileParts scope ps) fun x =>
      ∃ fs, Value.formsOf? forms x.2 = some fs ∧ fs.all Form.isDisplayable = true
  | [], _ => .pure ⟨[], rfl, rfl⟩
  | .text s :: ps, h => (fits_compileParts hfunctions ps h).bind fun _ hx => .pure hx
  | .hole e :: ps, h => by
    obtain ⟨he, hps⟩ := List.forall_mem_append.1 h
    refine (fits_compile hfunctions e he).bind fun c hc => ?_
    refine (EnsuresFor.of_ensures (ensures_displayed_form hc e)).bind fun v hv => ?_
    refine (fits_compileParts hfunctions ps hps).bind fun x hx => .pure ?_
    obtain ⟨f, hf, hdisplayable⟩ := hv
    obtain ⟨fs, hfs, hall⟩ := hx
    refine ⟨f :: fs, ?_, ?_⟩
    · rw [Value.formsOf?, hf, hfs]
      rfl
    · rw [List.all_cons, hdisplayable, hall]
      rfl

end

/-! ### What leaves the resolver -/

private theorem isOwned_own {c : Compiled} (h : c.ty = .string) : c.own.isOwned = true := by
  obtain ⟨value, ty, isOwned⟩ := c
  obtain rfl : ty = .string := h
  cases isOwned with
  | false => rfl
  | true => rw [Compiled.own_of_ne fun _ => rfl]

/-- A string that leaves the resolver is one of its own or a constant. -/
theorem owned_of_compileOwned (scope : Scope) (e : Expr) : Ensures (compileOwned scope e) fun c => c.ty = .string →
    c.isOwned = true ∨ ∃ t s, e = .string t ∧ Template.plainText? t = some s ∧ c.value = .string s := by
  by_cases he : isLiteral e = true
  · simp only [compileOwned, he, if_true, bind_pure]
    cases e with
    | bool | int => exact .pure fun h => (nomatch h)
    | array | record => exact .fail _
    | ref | call => cases he
    | string t =>
      rw [compile]
      cases ht : Template.plainText? t with
      | some s => exact .pure fun _ => .inr ⟨t, s, rfl, ht, rfl⟩
      | none => exact (ensures_compileParts scope t).bind fun x _ => .pure fun _ => .inl rfl
  · simp only [compileOwned, he]
    refine (ensures_compile scope e).bind fun c _ => .pure fun h => .inl (isOwned_own ?_)
    exact c.ty_own.symm.trans h

/-- A string that borrows from no local: one of its own or a constant. -/
def Value.IsFree (forms : Forms) (v : Value) : Prop := v.form? forms = some .text ∨ ∃ s, v = .string s

mutual

/-- A document that borrows from no local: strings of lists are copied. -/
def Document.IsFree (forms : Forms) : Document → Prop
  | .int _ => True
  | .array items => Document.AllFree forms items
  | .record fields => Document.FieldsFree forms fields
  | .value v => v.IsFree forms ∨ v.form? forms = some .bool
  | .number v => v.form? forms = some .int
  | .strings v => v.form? forms = some .slice

def Document.AllFree (forms : Forms) : List Document → Prop
  | [] => True
  | d :: ds => d.IsFree forms ∧ Document.AllFree forms ds

def Document.FieldsFree (forms : Forms) : List (String × Document) → Prop
  | [] => True
  | (_, d) :: fs => d.IsFree forms ∧ Document.FieldsFree forms fs

end

/-- What leaves the resolver is what its type and its flag say, and a string of it is free. -/
theorem fits_compileOwned (hfunctions : Faithful forms functions) {e : Expr}
    (h : ∀ name ∈ e.references, Shows forms scope name) : EnsuresFor functions (compileOwned scope e) fun c =>
      c.Fits forms ∧ (c.ty = .string → c.value.IsFree forms) := by
  have hfits : EnsuresFor functions (compileOwned scope e) (Compiled.Fits forms) := by
    refine (fits_compile hfunctions e h).bind fun c hc => .pure ?_
    split
    · exact hc
    · exact hc.own
  refine (hfits.and (.of_ensures (owned_of_compileOwned scope e))).mono fun c hc => ⟨hc.1, fun hty => ?_⟩
  obtain howned | ⟨-, s, -, -, hs⟩ := hc.2 hty
  · refine .inl ?_
    rw [hc.1.form, howned]
    rfl
  · exact .inr ⟨s, hs⟩

theorem free_compileString (hfunctions : Faithful forms functions) (place : Place) {e : Expr}
    (h : ∀ name ∈ e.references, Shows forms scope name) :
    EnsuresFor functions (compileString scope place e) (Value.IsFree forms) :=
  (fits_compileOwned hfunctions h).bind fun _ hc =>
    (EnsuresFor.of_ensures (ensures_expect _ _ _)).bind fun _ hty => .pure (hc.2 hty)

private theorem free_computed (hfunctions : Faithful forms functions) {e : Expr}
    (h : ∀ name ∈ e.references, Shows forms scope name) :
    EnsuresFor functions (do (← compileOwned scope e).toDocument e) (Document.IsFree forms) := by
  refine (fits_compileOwned hfunctions h).bind fun c hc => .of_ensures ?_
  obtain ⟨hfits, hfree⟩ := hc
  have hform : c.ty ≠ .string → c.value.form? forms = c.ty.form? := fun hty =>
    hfits.form_of_not (Bool.eq_false_iff.2 fun howned => hty (hfits.owned howned))
  unfold Compiled.toDocument
  split
  · rename_i hty
    exact .pure (.inl (hfree hty))
  all_goals
    rename_i hty
    rw [hty] at hform
    first | exact .fail _ | exact .pure (.inr (hform (by simp))) | exact .pure (hform (by simp))

mutual

theorem free_document (hfunctions : Faithful forms functions) : (e : Expr) →
    (∀ name ∈ e.references, Shows forms scope name) →
    EnsuresFor functions (document scope e) (Document.IsFree forms)
  | .int _, _ => .pure trivial
  | .array items, h => (free_documents hfunctions items h).bind fun _ hds => .pure hds
  | .record fields, h => (free_documentFields hfunctions fields h).bind fun _ hfs => .pure hfs
  | .string _, h | .bool _, h | .ref _, h | .call _ _, h => free_computed hfunctions h

private theorem free_documents (hfunctions : Faithful forms functions) : (es : List Expr) →
    (∀ name ∈ Expr.listReferences es, Shows forms scope name) →
    EnsuresFor functions (documents scope es) (Document.AllFree forms)
  | [], _ => .pure trivial
  | e :: es, h => by
    obtain ⟨he, hes⟩ := List.forall_mem_append.1 h
    refine (free_document hfunctions e he).bind fun _ hd => ?_
    exact (free_documents hfunctions es hes).bind fun _ hds => .pure ⟨hd, hds⟩

private theorem free_documentFields (hfunctions : Faithful forms functions) : (fs : List (String × Expr)) →
    (∀ name ∈ Expr.fieldReferences fs, Shows forms scope name) →
    EnsuresFor functions (documentFields scope fs) (Document.FieldsFree forms)
  | [], _ => .pure trivial
  | (_, e) :: fs, h => by
    obtain ⟨he, hfs⟩ := List.forall_mem_append.1 h
    refine (free_document hfunctions e he).bind fun _ hd => ?_
    exact (free_documentFields hfunctions fs hfs).bind fun _ hds => .pure ⟨hd, hds⟩

end

end Signpost.Resolver
