import Mathlib.Data.List.Induction
import Mathlib.Data.List.Perm.Subperm
import Signpost.Endpoint.Basic

/-!
# Equal endpoints

Endpoints are equal if the same is found under each name (`Endpoint.beq_iff`), and so are documents, down to the fields
of objects inside them (`Document.beq_iff_same`).  What is found in an endpoint that is built by calls can be told from
the calls for that name alone: the values of a header are those that were added, in order, and the value of a property
is the last one.  So two histories build equal endpoints exactly if they have the same URL at the end and agree on every
name, however the calls for different names are interleaved (`Endpoint.built_beq_built_iff`).
-/

namespace Signpost

/-! ### Tables -/

namespace Table

variable {κ α : Type} [DecidableEq κ] {t u : Table κ α} {key : κ}

theorem get?_eq_none_iff : t.get? key = none ↔ key ∉ t.keys := by
  induction t with
  | nil => simp [get?, keys]
  | cons e t ih =>
    rw [get?, keys, List.map_cons, List.mem_cons, ← keys, not_or, ← ih]
    split
    · rename_i heq
      simp [heq]
    · rename_i hne
      simp [Ne.symm hne]

/-- Tables agree if the same is found under every key. -/
theorem agrees_iff {same : α → α → Bool} {R : α → α → Prop} (ht : t.keys.Nodup) (hu : u.keys.Nodup)
    (hsame : ∀ e ∈ t, ∀ f ∈ u, same e.2 f.2 = true ↔ R e.2 f.2) :
    t.agrees same u = true ↔ ∀ key, Option.Rel R (t.get? key) (u.get? key) := by
  have hlength : t.length = u.length ↔ t.keys.length = u.keys.length := by
    rw [keys, keys, List.length_map, List.length_map]
  rw [agrees, Bool.and_eq_true, beq_iff_eq, List.all_eq_true, hlength]
  constructor
  · rintro ⟨hlength, hall⟩ key
    -- every key of the first table is one of the second, which has no more
    have hfound : ∀ e ∈ t, ∃ b, u.get? e.1 = some b ∧ R e.2 b := by
      intro e he
      obtain ⟨b, hb, hsome⟩ := (Option.any_eq_true _ _).1 (hall e he)
      exact ⟨b, hb, (hsame e he _ (mem_of_get? hb)).1 hsome⟩
    have hsubset : t.keys ⊆ u.keys := by
      intro k hk
      obtain ⟨e, he, rfl⟩ := List.mem_map.1 hk
      obtain ⟨b, hb, -⟩ := hfound e he
      exact List.mem_map.2 ⟨_, mem_of_get? hb, rfl⟩
    have hperm := (List.subperm_of_subset ht hsubset).perm_of_length_le (Nat.le_of_eq hlength.symm)
    cases hkey : t.get? key with
    | none =>
      rw [get?_eq_none_iff, hperm.mem_iff, ← get?_eq_none_iff] at hkey
      rw [hkey]
      exact .none
    | some a =>
      obtain ⟨b, hb, hab⟩ := hfound _ (mem_of_get? hkey)
      rw [hb]
      exact .some hab
  · intro h
    have hkeys : ∀ key, key ∈ t.keys ↔ key ∈ u.keys := by
      intro key
      have hkey := h key
      rw [← not_iff_not, ← get?_eq_none_iff, ← get?_eq_none_iff]
      generalize t.get? key = a, u.get? key = b at hkey ⊢
      cases hkey <;> simp
    refine ⟨((List.perm_ext_iff_of_nodup ht hu).2 hkeys).length_eq, fun e he => ?_⟩
    have hkey := h e.1
    rw [get?_of_mem ht he] at hkey
    cases hb : u.get? e.1 with
    | none =>
      rw [hb] at hkey
      cases hkey
    | some b =>
      rw [hb] at hkey
      cases hkey with
      | some hab => exact (hsame e he _ (mem_of_get? hb)).2 hab

end Table

/-! ### Documents -/

/-- Documents that are the same, where the fields of objects are looked up by name. -/
inductive Document.Same : Document → Document → Prop
  | object {fs gs : Table String Document} (hnames : ∀ name, (fs.get? name).isSome = (gs.get? name).isSome)
    (hvalues : ∀ name a b, fs.get? name = some a → gs.get? name = some b → Same a b) : Same (object fs) (object gs)
  | array {as bs : List Document} (hlength : as.length = bs.length)
    (hitems : ∀ (i : Nat) a b, as[i]? = some a → bs[i]? = some b → Same a b) : Same (array as) (array bs)
  | number (n : Int) : Same (number n) (number n)
  | string (s : String) : Same (string s) (string s)
  | bool (b : Bool) : Same (bool b) (bool b)
  | null : Same null null

namespace Document

namespace Same

theorem of_forall₂ {as bs : List Document} (h : List.Forall₂ Same as bs) : Same (.array as) (.array bs) := by
  refine .array h.length_eq fun i a b ha hb => ?_
  obtain ⟨hi, rfl⟩ := List.getElem?_eq_some_iff.1 ha
  obtain ⟨hi', rfl⟩ := List.getElem?_eq_some_iff.1 hb
  exact h.get hi hi'

theorem of_rel {fs gs : Table String Document} (h : ∀ name, Option.Rel Same (fs.get? name) (gs.get? name)) :
    Same (.object fs) (.object gs) := by
  refine .object (fun name => ?_) fun name a b ha hb => ?_
  · have hname := h name
    generalize fs.get? name = a, gs.get? name = b at hname ⊢
    cases hname <;> rfl
  · have hname := h name
    rw [ha, hb] at hname
    cases hname with
    | some hab => exact hab

theorem array_iff {as bs : List Document} : Same (.array as) (.array bs) ↔ List.Forall₂ Same as bs := by
  refine ⟨fun h => ?_, of_forall₂⟩
  cases h with
  | array hlength hitems =>
    refine List.forall₂_iff_get.2 ⟨hlength, fun i hi hi' => ?_⟩
    exact hitems i _ _ (List.getElem?_eq_getElem hi) (List.getElem?_eq_getElem hi')

theorem object_iff {fs gs : Table String Document} :
    Same (.object fs) (.object gs) ↔ ∀ name, Option.Rel Same (fs.get? name) (gs.get? name) := by
  refine ⟨fun h name => ?_, of_rel⟩
  cases h with
  | object hnames hvalues =>
    have hname := hnames name
    have hvalue := hvalues name
    generalize fs.get? name = a, gs.get? name = b at hname hvalue ⊢
    cases a <;> cases b
    · exact .none
    · cases hname
    · cases hname
    · exact .some (hvalue _ _ rfl rfl)

end Same

mutual

/-- Whether no name comes twice in an object. -/
def isDistinct : Document → Bool
  | object fs => decide (Table.keys fs).Nodup && fieldsDistinct fs
  | array as => itemsDistinct as
  | number _ | string _ | bool _ | null => true

def itemsDistinct : List Document → Bool
  | [] => true
  | a :: as => a.isDistinct && itemsDistinct as

def fieldsDistinct : List (String × Document) → Bool
  | [] => true
  | (_, a) :: fs => a.isDistinct && fieldsDistinct fs

end

theorem forall_of_fieldsDistinct {fs : Table String Document} (h : fieldsDistinct fs = true) :
    ∀ e ∈ fs, e.2.isDistinct = true := by
  induction fs with
  | nil => exact List.forall_mem_nil _
  | cons e fs ih =>
    rw [fieldsDistinct, Bool.and_eq_true] at h
    exact List.forall_mem_cons.2 ⟨h.1, ih h.2⟩

theorem beq_object (fs gs : Table String Document) : (object fs).beq (object gs) = fs.agrees beq gs := by
  have hfields (es : List (String × Document)) :
      fieldsBeq es gs = es.all fun e => (gs.get? e.1).any e.2.beq := by
    induction es with
    | nil => rfl
    | cons e es ih =>
      rw [fieldsBeq, ih, List.all_cons]
      cases gs.get? e.1 <;> rfl
  rw [beq, hfields, Table.agrees]

mutual

theorem beq_iff_same : (a : Document) → a.isDistinct = true → {b : Document} → b.isDistinct = true →
    (a.beq b = true ↔ a.Same b)
  | object fs, ha, b, hb => by
    cases b with
    | object gs =>
      rw [isDistinct, Bool.and_eq_true, decide_eq_true_eq] at ha hb
      rw [beq_object, Same.object_iff]
      exact Table.agrees_iff ha.1 hb.1 fun e he f hf =>
        forall_beq_iff_same fs ha.2 e he (forall_of_fieldsDistinct hb.2 f hf)
    | _ => exact ⟨fun h => (nomatch h), fun h => (nomatch h)⟩
  | array as, ha, b, hb => by
    cases b with
    | array bs => rw [beq, Same.array_iff, itemsBeq_iff as ha hb]
    | _ => exact ⟨fun h => (nomatch h), fun h => (nomatch h)⟩
  | number n, ha, b, hb => by
    cases b with
    | number m =>
      rw [beq, beq_iff_eq]
      exact ⟨fun h => h ▸ .number n, fun h => by cases h; rfl⟩
    | _ => exact ⟨fun h => (nomatch h), fun h => (nomatch h)⟩
  | string s, ha, b, hb => by
    cases b with
    | string t =>
      rw [beq, beq_iff_eq]
      exact ⟨fun h => h ▸ .string s, fun h => by cases h; rfl⟩
    | _ => exact ⟨fun h => (nomatch h), fun h => (nomatch h)⟩
  | bool c, ha, b, hb => by
    cases b with
    | bool d =>
      rw [beq, beq_iff_eq]
      exact ⟨fun h => h ▸ .bool c, fun h => by cases h; rfl⟩
    | _ => exact ⟨fun h => (nomatch h), fun h => (nomatch h)⟩
  | null, ha, b, hb => by
    cases b with
    | null => exact ⟨fun _ => .null, fun _ => rfl⟩
    | _ => exact ⟨fun h => (nomatch h), fun h => (nomatch h)⟩

theorem itemsBeq_iff : (as : List Document) → itemsDistinct as = true → {bs : List Document} →
    itemsDistinct bs = true → (itemsBeq as bs = true ↔ List.Forall₂ Same as bs)
  | [], ha, bs, hb => by
    cases bs with
    | nil => exact ⟨fun _ => .nil, fun _ => rfl⟩
    | cons b bs => exact ⟨fun h => (nomatch h), fun h => (nomatch h)⟩
  | a :: as, ha, bs, hb => by
    cases bs with
    | nil => exact ⟨fun h => (nomatch h), fun h => (nomatch h)⟩
    | cons b bs =>
      rw [itemsDistinct, Bool.and_eq_true] at ha hb
      rw [itemsBeq, Bool.and_eq_true, List.forall₂_cons, beq_iff_same a ha.1 hb.1, itemsBeq_iff as ha.2 hb.2]

theorem forall_beq_iff_same : (fs : List (String × Document)) → fieldsDistinct fs = true → ∀ e ∈ fs,
    ∀ {b : Document}, b.isDistinct = true → (e.2.beq b = true ↔ e.2.Same b)
  | [], ha, e, he, b, hb => nomatch he
  | (name, a) :: fs, ha, e, he, b, hb => by
    rw [fieldsDistinct, Bool.and_eq_true] at ha
    obtain rfl | he := List.mem_cons.1 he
    · exact beq_iff_same a ha.1 hb
    · exact forall_beq_iff_same fs ha.2 e he hb

end

mutual

theorem Same.refl : (a : Document) → a.Same a
  | object fs => by
    refine .of_rel fun name => ?_
    cases h : Table.get? fs name with
    | none => exact .none
    | some a => exact .some (forall_same_refl fs _ (Table.mem_of_get? h))
  | array as => .of_forall₂ (forall₂_same_refl as)
  | number n => .number n
  | string s => .string s
  | bool b => .bool b
  | null => .null

theorem forall₂_same_refl : (as : List Document) → List.Forall₂ Same as as
  | [] => .nil
  | a :: as => .cons (Same.refl a) (forall₂_same_refl as)

theorem forall_same_refl : (fs : List (String × Document)) → ∀ e ∈ fs, e.2.Same e.2
  | [] => List.forall_mem_nil _
  | (_, a) :: fs => List.forall_mem_cons.2 ⟨Same.refl a, forall_same_refl fs⟩

end

end Document

/-! ### Endpoints -/

namespace Endpoint

/-- No name comes twice in an endpoint, neither of headers nor of properties nor inside of these. -/
structure IsDistinct (e : Endpoint) : Prop where
  headers : e.headers.keys.Nodup
  properties : e.properties.keys.Nodup
  documents : ∀ p ∈ e.properties, p.2.isDistinct = true

/-- Endpoints are equal if they have one URL, the same headers and the same properties by name. -/
theorem beq_iff {e f : Endpoint} (he : e.IsDistinct) (hf : f.IsDistinct) :
    (e == f) = true ↔ e.url = f.url ∧ (∀ name, e.headers.get? name = f.headers.get? name) ∧
      ∀ name, Option.Rel Document.Same (e.properties.get? name) (f.properties.get? name) := by
  have hheaders : e.headers.agrees (· == ·) f.headers = true ↔
      ∀ name, e.headers.get? name = f.headers.get? name := by
    rw [Table.agrees_iff he.headers hf.headers fun _ _ _ _ => beq_iff_eq]
    refine forall_congr' fun name => ?_
    generalize e.headers.get? name = a, f.headers.get? name = b
    cases a <;> cases b <;> simp
  have hproperties : e.properties.agrees (· == ·) f.properties = true ↔
      ∀ name, Option.Rel Document.Same (e.properties.get? name) (f.properties.get? name) :=
    Table.agrees_iff he.properties hf.properties fun p hp q hq =>
      Document.beq_iff_same p.2 (he.documents p hp) (hf.documents q hq)
  show beq e f = true ↔ _
  rw [beq, Bool.and_eq_true, Bool.and_eq_true, beq_iff_eq, hheaders, hproperties, and_assoc]

/-! ### Histories -/

/-- A call while an endpoint is built.  The names in an object are told apart already when a property is set to it. -/
inductive Call where
  | url (url : String)
  | header (name value : String)
  | property (name : String) (value : Document) (distinct : value.isDistinct = true)

/-- What a call concerns. -/
inductive Part where
  | url
  | header (name : String)
  | property (name : String)
  deriving DecidableEq

namespace Call

/-- The endpoint after a call. -/
def apply (e : Endpoint) : Call → Endpoint
  | url u => e.setUrl u
  | header name value => e.addHeader name value
  | property name value _ => e.setProperty name value

/-- What the call concerns. -/
def part : Call → Part
  | url _ => .url
  | header name _ => .header name
  | property name _ _ => .property name

/-- The URL that the call sets. -/
def url? : Call → Option String
  | url u => some u
  | _ => none

/-- What the call adds to the header of a name. -/
def added? (name : String) : Call → Option String
  | header n value => if n = name then some value else none
  | _ => none

/-- What the call sets the property of a name to. -/
def set? (name : String) : Call → Option Document
  | property n value _ => if n = name then some value else none
  | _ => none

end Call

/-- The endpoint that calls build. -/
def built (calls : List Call) : Endpoint := calls.foldl Call.apply empty

/-- The last URL of a history, which is empty where none is set. -/
def lastUrl (calls : List Call) : String := (calls.filterMap Call.url?).getLast?.getD ""

/-- The values that a history adds to a header. -/
def added (calls : List Call) (name : String) : List String := calls.filterMap (Call.added? name)

/-- The last value that a history sets a property to. -/
def lastSet? (calls : List Call) (name : String) : Option Document := (calls.filterMap (Call.set? name)).getLast?

variable (calls : List Call) (name : String) (c : Call)

theorem built_concat : built (calls ++ [c]) = c.apply (built calls) := by
  rw [built, List.foldl_concat, built]

theorem lastUrl_concat : lastUrl (calls ++ [c]) = c.url?.getD (lastUrl calls) := by
  rw [lastUrl, List.filterMap_append, List.getLast?_append, List.filterMap_cons, List.filterMap_nil]
  cases c.url? <;> rfl

theorem added_concat : added (calls ++ [c]) name = added calls name ++ (c.added? name).toList := by
  rw [added, List.filterMap_append, List.filterMap_cons, List.filterMap_nil, ← added]
  cases c.added? name <;> rfl

theorem lastSet?_concat : lastSet? (calls ++ [c]) name = (c.set? name).or (lastSet? calls name) := by
  rw [lastSet?, List.filterMap_append, List.getLast?_append, List.filterMap_cons, List.filterMap_nil, ← lastSet?]
  cases c.set? name <;> rfl

/-- Calls keep the names apart. -/
theorem IsDistinct.apply {e : Endpoint} (h : e.IsDistinct) : (c.apply e).IsDistinct := by
  cases c with
  | url u => exact ⟨h.headers, h.properties, h.documents⟩
  | header name value => exact ⟨Table.nodup_keys_put h.headers _ _, h.properties, h.documents⟩
  | property name value hvalue =>
    refine ⟨h.headers, Table.nodup_keys_put h.properties _ _, fun p hp => ?_⟩
    obtain rfl | hp := Table.mem_put hp
    · exact hvalue
    · exact h.documents p hp

theorem isDistinct_built : (built calls).IsDistinct := by
  induction calls using List.reverseRecOn with
  | nil => exact ⟨List.nodup_nil, List.nodup_nil, List.forall_mem_nil _⟩
  | append_singleton cs c ih =>
    rw [built_concat]
    exact ih.apply c

theorem url_built : (built calls).url = lastUrl calls := by
  induction calls using List.reverseRecOn with
  | nil => rfl
  | append_singleton cs c ih =>
    rw [built_concat, lastUrl_concat, ← ih]
    cases c <;> rfl

theorem get?_headers_apply (e : Endpoint) : (c.apply e).headers.get? name =
    match c.added? name with
    | some value => some (e.header name ++ [value])
    | none => e.headers.get? name := by
  cases c with
  | header n value =>
    rw [Call.apply, addHeader, Table.get?_put, Call.added?]
    by_cases h : n = name
    · rw [if_pos h, if_pos h, h]
    · rw [if_neg h, if_neg h]
  | url u | property n value h => rfl

/-- A header is there if a value was added to it. -/
theorem get?_headers_built :
    (built calls).headers.get? name = if added calls name = [] then none else some (added calls name) := by
  induction calls using List.reverseRecOn with
  | nil => rfl
  | append_singleton cs c ih =>
    rw [built_concat, added_concat, get?_headers_apply]
    cases c.added? name with
    | none => simpa using ih
    | some value =>
      rw [Endpoint.header, ih]
      by_cases h : added cs name = [] <;> simp [h]

theorem get?_properties_built : (built calls).properties.get? name = lastSet? calls name := by
  induction calls using List.reverseRecOn with
  | nil => rfl
  | append_singleton cs c ih =>
    rw [built_concat, lastSet?_concat, ← ih]
    cases c with
    | property n value hvalue =>
      rw [Call.apply, setProperty, Table.get?_put, Call.set?]
      split <;> rfl
    | url u | header n value => rfl

/-! ### Names that are interleaved -/

variable {calls} {calls' : List Call}

/-- What reads only the calls for one part does not notice the others. -/
private theorem filterMap_eq_of_filter_eq {α : Type} {f : Call → Option α} {p : Part}
    (hf : ∀ c, c.part ≠ p → f c = none) (h : calls.filter (·.part = p) = calls'.filter (·.part = p)) :
    calls.filterMap f = calls'.filterMap f := by
  have hfilter (cs : List Call) : (cs.filter (·.part = p)).filterMap f = cs.filterMap f := by
    rw [List.filterMap_filter]
    refine List.filterMap_congr fun c _ => ?_
    by_cases hc : c.part = p
    · simp [hc]
    · simp [hc, hf c hc]
  rw [← hfilter, h, hfilter]

theorem lastUrl_eq (h : calls.filter (·.part = .url) = calls'.filter (·.part = .url)) :
    lastUrl calls = lastUrl calls' := by
  rw [lastUrl, lastUrl, filterMap_eq_of_filter_eq (fun c hc => ?_) h]
  cases c with
  | url u => exact absurd rfl hc
  | _ => rfl

theorem added_eq {name : String} (h : calls.filter (·.part = .header name) = calls'.filter (·.part = .header name)) :
    added calls name = added calls' name := by
  refine filterMap_eq_of_filter_eq (fun c hc => ?_) h
  cases c with
  | header n value => exact if_neg fun heq => hc (congrArg Part.header heq)
  | _ => rfl

theorem lastSet?_eq {name : String}
    (h : calls.filter (·.part = .property name) = calls'.filter (·.part = .property name)) :
    lastSet? calls name = lastSet? calls' name := by
  rw [lastSet?, lastSet?, filterMap_eq_of_filter_eq (fun c hc => ?_) h]
  cases c with
  | property n value hvalue => exact if_neg fun heq => hc (congrArg Part.property heq)
  | _ => rfl

variable (calls calls')

private theorem beq_built_iff : (built calls == built calls') = true ↔
    lastUrl calls = lastUrl calls' ∧ (∀ name, added calls name = added calls' name) ∧
      ∀ name, Option.Rel Document.Same (lastSet? calls name) (lastSet? calls' name) := by
  have hheader (name : String) : (built calls).headers.get? name = (built calls').headers.get? name ↔
      added calls name = added calls' name := by
    rw [get?_headers_built, get?_headers_built]
    generalize added calls name = vs, added calls' name = ws
    cases vs <;> cases ws <;> simp
  rw [beq_iff (isDistinct_built calls) (isDistinct_built calls'), url_built, url_built]
  simp only [hheader, get?_properties_built]

/-- Two histories build equal endpoints exactly if the last URL is the same, the values that were added to each header
are the same in the same order, and the last value of each property is the same.  It does not matter how the calls for
different parts are interleaved. -/
theorem built_beq_built_iff :
    ((built calls == built calls') = true ↔
      lastUrl calls = lastUrl calls' ∧ (∀ name, added calls name = added calls' name) ∧
        ∀ name, Option.Rel Document.Same (lastSet? calls name) (lastSet? calls' name)) ∧
    ((∀ p, calls.filter (·.part = p) = calls'.filter (·.part = p)) → (built calls == built calls') = true) := by
  refine ⟨beq_built_iff calls calls', fun h => (beq_built_iff calls calls').2 ⟨?_, fun name => ?_, fun name => ?_⟩⟩
  · exact lastUrl_eq (h .url)
  · exact added_eq (h (.header name))
  · rw [lastSet?_eq (h (.property name))]
    cases lastSet? calls' name with
    | none => exact .none
    | some a => exact .some (.refl a)

/-- Two values of a header with a URL behind them. -/
private def headersFirst : List Call := [.header "x" "1", .header "x" "2", .url "http://x"]

/-- The same URL, between the same values. -/
private def urlBetween : List Call := [.header "x" "1", .url "http://x", .header "x" "2"]

theorem built_beq_built_iff_between : (∀ p, headersFirst.filter (·.part = p) = urlBetween.filter (·.part = p)) ∧
    (built headersFirst == built urlBetween) = true := by
  have h : ∀ p, headersFirst.filter (·.part = p) = urlBetween.filter (·.part = p) := by
    intro p
    cases p with
    | url | property name => rfl
    | header name => by_cases h : "x" = name <;> simp [headersFirst, urlBetween, Call.part, h]
  exact ⟨h, (built_beq_built_iff _ _).2 h⟩

/-- Values of one header are not exchanged. -/
example : (built [.header "x" "1", .header "x" "2"] == built [.header "x" "2", .header "x" "1"]) = false := by decide

end Endpoint

end Signpost
