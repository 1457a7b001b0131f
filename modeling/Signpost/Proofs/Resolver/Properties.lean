import Signpost.Proofs.Endpoint.Equality
import Signpost.Proofs.Json.Decoding
import Signpost.Proofs.Query.Literal
import Signpost.Proofs.Resolver.Compiling
import Signpost.Proofs.Rules.Rereading
import Signpost.Resolver.Run
import Signpost.Resolver.Tests

/-!
# Constant properties

A property without references, calls and templates is read in two ways: as an expression of a ruleset, whose objects
have their keys in order, and as a value that a test expects, whose objects have them in the order of the text.  What
either is compiled to comes to one document wherever it is run (`Document.Denotes`), and these are the same if the order
of fields does not count (`Document.Same`), so that tests expect what the resolver gives (`same_of_read`).
-/

namespace Signpost

/-! ### Entries in order -/

namespace Json

variable {α : Type}

theorem get?_insertSorted (key name : String) (value : α) (es : Table String α) :
    Table.get? (insertSorted key value es) name = if key = name then some value else es.get? name := by
  fun_induction insertSorted key value es with
  | case1 => rfl
  | case2 v es =>
    rw [Table.get?, Table.get?]
    split <;> rfl
  | case3 k v es hne hlt => rfl
  | case4 k v es hne hlt ih =>
    rw [Table.get?, Table.get?, ih]
    split
    · rename_i heq
      rw [if_neg fun hkey => hne (hkey.trans heq.symm)]
    · rfl

/-- To sort entries does not change what is found under a name. -/
theorem get?_sortEntries (es : List (String × α)) (name : String) :
    Table.get? (sortEntries es) name = (Table.ofList es).get? name := by
  have hfold (t u : Table String α) (h : ∀ name, t.get? name = u.get? name) :
      Table.get? (es.foldl (fun sorted e => insertSorted e.1 e.2 sorted) t) name =
        Table.get? (es.foldl (fun t e => t.put e.1 e.2) u) name := by
    induction es generalizing t u with
    | nil => exact h name
    | cons e es ih =>
      refine ih _ _ fun name => ?_
      rw [get?_insertSorted, Table.get?_put, h]
  exact hfold [] [] fun _ => rfl

/-- Entries with distinct keys all stay. -/
theorem mem_sortEntries {es : List (String × α)} {e : String × α} (hkeys : (es.map (·.1)).Nodup) (h : e ∈ es) :
    e ∈ sortEntries es := by
  refine Table.mem_of_get? ?_
  rw [get?_sortEntries, Table.ofList_eq_self hkeys]
  exact Table.get?_of_mem hkeys h

theorem Ascending.nodup_keys {es : Table String α} (h : Ascending es) : es.keys.Nodup :=
  List.pairwise_map.2 (h.imp fun hlt => by grind)

end Json

/-! ### Documents of constants -/

namespace Json.Outline

mutual

/-- Whether no object of the text has a key that comes twice. -/
def isDistinct : Outline → Bool
  | broken _ | brokenWord _ | null | bool _ | number _ | string _ => true
  | list _ items _ => areDistinct items
  | object _ entries _ => decide (entries.filterMap fun e => e.1.read.toOption).Nodup && haveDistinct entries

def areDistinct : List Outline → Bool
  | [] => true
  | o :: os => isDistinct o && areDistinct os

def haveDistinct : List (Scanned String × Outline) → Bool
  | [] => true
  | (_, o) :: es => isDistinct o && haveDistinct es

end

theorem keys_of_readEntries {entries : List (Scanned String × Outline)} {es : List (String × Value)}
    (h : readEntries entries = .ok es) : (entries.filterMap fun e => e.1.read.toOption) = es.map (·.1) := by
  induction entries generalizing es with
  | nil =>
    cases h
    rfl
  | cons e entries ih =>
    obtain ⟨key, v, es', hkey, -, hes, rfl⟩ := exists_of_readEntries_cons h
    rw [List.filterMap_cons_some (by rw [hkey]; rfl), ih hes, List.map_cons]

end Json.Outline

namespace Json.Value

mutual

/-- Whether the value holds only strings without braces, truth values and whole numbers of 64 bits, and no key that
makes a reference or a call. -/
def isConstant : Value → Bool
  | null | number (.real _) => false
  | bool _ => true
  | number (.int n) => decide (-0x8000000000000000 ≤ n) && decide (n < 0x8000000000000000)
  | string s => s.toList.all fun c => c != '{' && c != '}'
  | array items => areConstant items
  | object entries => haveConstants entries

def areConstant : List Value → Bool
  | [] => true
  | v :: vs => isConstant v && areConstant vs

def haveConstants : List (String × Value) → Bool
  | [] => true
  | (k, v) :: es => k != "ref" && k != "fn" && isConstant v && haveConstants es

end

theorem constant_of_mem {es : List (String × Value)} {e : String × Value} (h : haveConstants es = true) (he : e ∈ es) :
    e.2.isConstant = true := by
  induction es with
  | nil => cases he
  | cons d es ih =>
    simp only [haveConstants, Bool.and_eq_true] at h
    obtain rfl | he := List.mem_cons.1 he
    · exact h.1.2
    · exact ih h.2 he

mutual

/-- The value as a document. -/
def document : Value → Document
  | null | number (.real _) => .null
  | bool b => .bool b
  | number (.int n) => .number n
  | string s => .string s
  | array items => .array (documents items)
  | object entries => .object (Table.ofList (fieldDocuments entries))

def documents : List Value → List Document
  | [] => []
  | v :: vs => document v :: documents vs

def fieldDocuments : List (String × Value) → List (String × Document)
  | [] => []
  | (k, v) :: es => (k, document v) :: fieldDocuments es

end

theorem fieldDocuments_eq_map (es : List (String × Value)) :
    fieldDocuments es = es.map fun e => (e.1, e.2.document) := by
  induction es with
  | nil => rfl
  | cons e es ih => rw [fieldDocuments, ih, List.map_cons]

end Json.Value

namespace Rules.PropertyValue

mutual

/-- The value as a document. -/
def document : PropertyValue → Document
  | string s => .string s
  | bool b => .bool b
  | int n => .number n
  | array items => .array (documents items)
  | object fields => .object (Table.ofList (fieldDocuments fields))

def documents : List PropertyValue → List Document
  | [] => []
  | v :: vs => document v :: documents vs

def fieldDocuments : List (String × PropertyValue) → List (String × Document)
  | [] => []
  | (k, v) :: fs => (k, document v) :: fieldDocuments fs

end

theorem fieldDocuments_eq_map (fs : List (String × PropertyValue)) :
    fieldDocuments fs = fs.map fun f => (f.1, f.2.document) := by
  induction fs with
  | nil => rfl
  | cons f fs ih => rw [fieldDocuments, ih, List.map_cons]

end Rules.PropertyValue

namespace Resolver

open Json (Outline Decoder Source)
open Rules (Expr PropertyValue Template)

/-! ### Running documents -/

/-- Wherever the document is computed, it comes to this one, and nothing is reported. -/
def Document.Denotes (doc : Document) (a : Signpost.Document) : Prop :=
  ∀ partitions locals diagnostics, doc.run (standardMeaning partitions) locals diagnostics = some (a, diagnostics)

/-- The same for documents in order. -/
def Document.AllDenote (docs : List Document) (as : List Signpost.Document) : Prop :=
  ∀ partitions locals diagnostics,
    Document.runAll (standardMeaning partitions) locals docs diagnostics = some (as, diagnostics)

/-- The same for fields in order. -/
def Document.FieldsDenote (fields : List (String × Document)) (as : List (String × Signpost.Document)) : Prop :=
  ∀ partitions locals diagnostics,
    Document.runFields (standardMeaning partitions) locals fields diagnostics = some (as, diagnostics)

namespace Document

variable {doc : Document} {docs : List Document} {fields : List (String × Document)} {a : Signpost.Document}
  {as : List Signpost.Document} {bs : List (String × Signpost.Document)} {name : String}

private theorem run_bind {α β : Type} {m : Running α} {f : α → Running β} {d d' : Diagnostics} {x : α}
    (h : m d = some (x, d')) : (m >>= f) d = f x d' := by
  show (m d >>= fun p => f p.1 p.2) = _
  rw [h]
  rfl

theorem denotes_string (s : String) : Denotes (.value (.string s)) (.string s) := fun _ _ _ => rfl

theorem denotes_bool (b : Bool) : Denotes (.value (.bool b)) (.bool b) := fun _ _ _ => rfl

theorem denotes_int (n : Int) : Denotes (.int n) (.number n) := fun _ _ _ => rfl

theorem AllDenote.nil : AllDenote [] [] := fun _ _ _ => rfl

theorem AllDenote.cons (h : Denotes doc a) (hs : AllDenote docs as) : AllDenote (doc :: docs) (a :: as) := by
  intro partitions locals d
  rw [runAll, run_bind (h partitions locals d), run_bind (hs partitions locals d)]
  rfl

theorem FieldsDenote.nil : FieldsDenote [] [] := fun _ _ _ => rfl

theorem FieldsDenote.cons (h : Denotes doc a) (hs : FieldsDenote fields bs) :
    FieldsDenote ((name, doc) :: fields) ((name, a) :: bs) := by
  intro partitions locals d
  rw [runFields, run_bind (h partitions locals d), run_bind (hs partitions locals d)]
  rfl

theorem AllDenote.array (h : AllDenote docs as) : Denotes (.array docs) (.array as) := by
  intro partitions locals d
  rw [run, run_bind (h partitions locals d)]
  rfl

theorem FieldsDenote.record (h : FieldsDenote fields bs) : Denotes (.record fields) (.object (Table.ofList bs)) := by
  intro partitions locals d
  rw [run, run_bind (h partitions locals d)]
  rfl

end Document

/-! ### Expected properties -/

mutual

theorem denotes_propertyDocument : (p : PropertyValue) → (propertyDocument p).Denotes p.document
  | .string s => Document.denotes_string s
  | .bool b => Document.denotes_bool b
  | .int n => Document.denotes_int n
  | .array items => (allDenote_propertyDocuments items).array
  | .object fields => (fieldsDenote_propertyFields fields).record

theorem allDenote_propertyDocuments : (ps : List PropertyValue) →
    Document.AllDenote (propertyDocuments ps) (PropertyValue.documents ps)
  | [] => .nil
  | p :: ps => .cons (denotes_propertyDocument p) (allDenote_propertyDocuments ps)

theorem fieldsDenote_propertyFields : (fs : List (String × PropertyValue)) →
    Document.FieldsDenote (propertyFields fs) (PropertyValue.fieldDocuments fs)
  | [] => .nil
  | (_, p) :: fs => .cons (denotes_propertyDocument p) (fieldsDenote_propertyFields fs)

end

/-! ### Constants of a ruleset -/

/-- Keys that make a reference or a call are not found. -/
private theorem lookup?_eq_none {es : List (String × Json.Value)} (h : Json.Value.haveConstants es = true) :
    Expr.lookup? es "ref" = none ∧ Expr.lookup? es "fn" = none := by
  induction es with
  | nil => exact ⟨rfl, rfl⟩
  | cons e es ih =>
    simp only [Json.Value.haveConstants, Bool.and_eq_true, bne_iff_ne] at h
    obtain ⟨⟨⟨href, hfn⟩, -⟩, hes⟩ := h
    simp only [Expr.lookup?, List.find?_cons, href, hfn, decide_false] at ih ⊢
    exact ih hes

private theorem plainText?_plain (s : String) : Template.plainText? (.plain s) = some s := by
  rw [Template.plain]
  split
  · rename_i h
    rw [String.isEmpty_iff.1 h]
    rfl
  · exact congrArg some (String.append_empty)

private theorem compiling_bind {α β : Type} {m : Compiling α} {f : α → Compiling β} {r r' : Registry} {x : α}
    (h : m r = .ok (x, r')) : (m >>= f) r = f x r' := by
  show (m r >>= fun p => f p.1 p.2) = _
  rw [h]
  rfl

mutual

/-- A constant is read as an expression, which is compiled everywhere to the document that the constant is. -/
theorem exists_document (path : String) : (v : Json.Value) → v.isConstant = true →
    ∃ e doc, Expr.ofJson path v = .ok e ∧ (∀ scope registry, document scope e registry = .ok (doc, registry)) ∧
      doc.Denotes v.document
  | .null, h | .number (.real _), h => by cases h
  | .bool b, _ => ⟨.bool b, .value (.bool b), rfl, fun _ _ => rfl, Document.denotes_bool b⟩
  | .number (.int n), h => by
    simp only [Json.Value.isConstant, Bool.and_eq_true, decide_eq_true_eq] at h
    exact ⟨.int n, .int n, by rw [Expr.ofJson]; exact if_pos h.2, fun _ _ => rfl, Document.denotes_int n⟩
  | .string s, h => by
    simp only [Json.Value.isConstant, List.all_eq_true, Bool.and_eq_true, bne_iff_ne] at h
    have hplain : Template.ofText s = .ok (.plain s) :=
      Template.ofText_plain (fun hmem => (h _ hmem).1 rfl) fun hmem => (h _ hmem).2 rfl
    refine ⟨.string (Template.plain s), .value (.string s), by rw [Expr.ofJson, hplain], fun scope registry => ?_,
      Document.denotes_string s⟩
    rw [document, compileOwned, compile, plainText?_plain]
    · rfl
    all_goals nofun
  | .array vs, h => by
    obtain ⟨es, docs, hes, hdocs, hdenote⟩ := exists_documents path vs h
    refine ⟨.array es, .array docs, by rw [Expr.ofJson, hes]; rfl, fun scope registry => ?_, hdenote.array⟩
    rw [document, compiling_bind (hdocs scope registry)]
    rfl
  | .object entries, h => by
    obtain ⟨fs, docs, hfs, hdocs, hdenote⟩ := exists_documentFields path entries h
    obtain ⟨href, hfn⟩ := lookup?_eq_none h
    refine ⟨.record fs, .record docs, by rw [Expr.ofJson, href, hfn, hfs]; rfl, fun scope registry => ?_,
      hdenote.record⟩
    rw [document, compiling_bind (hdocs scope registry)]
    rfl

theorem exists_documents (path : String) : (vs : List Json.Value) → Json.Value.areConstant vs = true →
    ∃ es docs, Expr.ofItems path vs = .ok es ∧
      (∀ scope registry, documents scope es registry = .ok (docs, registry)) ∧
      Document.AllDenote docs (Json.Value.documents vs)
  | [], _ => ⟨[], [], rfl, fun _ _ => rfl, .nil⟩
  | v :: vs, h => by
    simp only [Json.Value.areConstant, Bool.and_eq_true] at h
    obtain ⟨e, doc, he, hdoc, hdenotes⟩ := exists_document path v h.1
    obtain ⟨es, docs, hes, hdocs, hdenote⟩ := exists_documents path vs h.2
    refine ⟨e :: es, doc :: docs, by rw [Expr.ofItems, he, ok_bind, hes]; rfl, fun scope registry => ?_,
      .cons hdenotes hdenote⟩
    rw [documents, compiling_bind (hdoc scope registry), compiling_bind (hdocs scope registry)]
    rfl

theorem exists_documentFields (path : String) : (es : List (String × Json.Value)) → Json.Value.haveConstants es = true →
    ∃ fs docs, Expr.ofFields path es = .ok fs ∧
      (∀ scope registry, documentFields scope fs registry = .ok (docs, registry)) ∧
      Document.FieldsDenote docs (Json.Value.fieldDocuments es)
  | [], _ => ⟨[], [], rfl, fun _ _ => rfl, .nil⟩
  | (k, v) :: es, h => by
    simp only [Json.Value.haveConstants, Bool.and_eq_true, bne_iff_ne] at h
    obtain ⟨⟨⟨-, hfn⟩, hv⟩, hes⟩ := h
    obtain ⟨e, doc, he, hdoc, hdenotes⟩ := exists_document path v hv
    obtain ⟨fs, docs, hfs, hdocs, hdenote⟩ := exists_documentFields path es hes
    refine ⟨(k, e) :: fs, (k, doc) :: docs, by rw [Expr.ofFields, if_neg hfn, he, ok_bind, hfs]; rfl,
      fun scope registry => ?_, .cons hdenotes hdenote⟩
    rw [documentFields, compiling_bind (hdoc scope registry), compiling_bind (hdocs scope registry)]
    rfl

end

/-! ### One text, read in two ways -/

variable {entries : List (Json.Scanned String × Outline)} {es : List (String × Json.Value)}

/-- Entries with the same keys in the same order, whose values are the same documents. -/
private def Pairwise (es : List (String × Json.Value)) (fs : List (String × PropertyValue)) : Prop :=
  List.Forall₂ (fun e f => e.1 = f.1 ∧ e.2.document.Same f.2.document) es fs

private theorem rel_ofList {fs : List (String × PropertyValue)} (h : Pairwise es fs) (name : String) :
    Option.Rel (fun v p => v.document.Same p.document) ((Table.ofList es).get? name) ((Table.ofList fs).get? name) := by
  have hfold (t : Table String Json.Value) (u : Table String PropertyValue)
      (htu : ∀ name, Option.Rel (fun v p => v.document.Same p.document) (t.get? name) (u.get? name)) :
      Option.Rel (fun v p => v.document.Same p.document)
        (Table.get? (es.foldl (fun t e => t.put e.1 e.2) t) name)
        (Table.get? (fs.foldl (fun t e => t.put e.1 e.2) u) name) := by
    induction h generalizing t u with
    | nil => exact htu name
    | cons hef _ ih =>
      refine ih _ _ fun name => ?_
      rw [Table.get?_put, Table.get?_put, hef.1]
      split
      · exact .some hef.2
      · exact htu name
  exact hfold [] [] fun _ => .none

/-- An object whose keys are put in order is the same as one that keeps them as they come. -/
private theorem same_object {fs : List (String × PropertyValue)} (h : Pairwise es fs) :
    (Json.Value.object (Json.sortEntries es)).document.Same (PropertyValue.object (Table.ofList fs)).document := by
  rw [Json.Value.document, PropertyValue.document, Json.Value.fieldDocuments_eq_map,
    PropertyValue.fieldDocuments_eq_map, Table.ofList_eq_self, Table.ofList_eq_self]
  · refine .of_rel fun name => ?_
    rw [Table.get?_map, Table.get?_map, Json.get?_sortEntries]
    have hname := rel_ofList h name
    generalize (Table.ofList es).get? name = v, (Table.ofList fs).get? name = p at hname ⊢
    cases hname with
    | none => exact .none
    | some hvp => exact .some hvp
  · rw [Table.keys_map]
    exact Table.nodup_keys_ofList fs
  · rw [Table.keys_map]
    exact (Json.ascending_sortEntries es).nodup_keys

mutual

/-- What a text is as a JSON value is the same document as what it is as the value of a property. -/
theorem same_of_ofOutline? : (o : Outline) → {v : Json.Value} → {p : PropertyValue} → o.read = .ok v →
    PropertyValue.ofOutline? o = some p → v.document.Same p.document
  | .broken _, _, _, hv, _ | .brokenWord _, _, _, hv, _ => by cases hv
  | .null, _, _, _, hp | .string ⟨.error _, _⟩, _, _, _, hp | .number ⟨.error _, _⟩, _, _, _, hp
  | .number ⟨.ok (.real _), _⟩, _, _, _, hp => by cases hp
  | .bool b, _, _, hv, hp => by
    cases hv
    cases hp
    exact .bool b
  | .string ⟨.ok s, _⟩, _, _, hv, hp => by
    cases hv
    cases hp
    exact .string s
  | .number ⟨.ok (.int n), _⟩, _, _, hv, hp => by
    cases hv
    rw [PropertyValue.ofOutline?] at hp
    split at hp <;> cases hp
    exact .number n
  | .list level items ending, v, p, hv, hp => by
    obtain ⟨-, -, vs, hvs, rfl⟩ := Outline.exists_of_read_list hv
    obtain ⟨ps, hps, rfl⟩ := Option.map_eq_some_iff.1 hp
    exact .of_forall₂ (same_of_ofItems? items hvs hps)
  | .object level entries ending, v, p, hv, hp => by
    obtain ⟨-, -, es, hes, rfl⟩ := Outline.exists_of_read_object hv
    obtain ⟨fields, hfields, rfl⟩ := Option.map_eq_some_iff.1 hp
    obtain ⟨fs, rfl, hpairs⟩ := pairwise_of_ofEntries? entries hes hfields
    exact same_object hpairs

theorem same_of_ofItems? : (os : List Outline) → {vs : List Json.Value} → {ps : List PropertyValue} →
    Outline.readItems os = .ok vs → PropertyValue.ofItems? os = some ps →
    List.Forall₂ Signpost.Document.Same (Json.Value.documents vs) (PropertyValue.documents ps)
  | [], _, _, hvs, hps => by
    cases hvs
    cases hps
    exact .nil
  | o :: os, vs, ps, hvs, hps => by
    obtain ⟨v, vs', hv, hvs', rfl⟩ := Outline.exists_of_readItems_cons hvs
    obtain ⟨p, hp, hps⟩ := Option.bind_eq_some_iff.1 hps
    obtain ⟨ps', hps', hps⟩ := Option.bind_eq_some_iff.1 hps
    cases hps
    exact .cons (same_of_ofOutline? o hv hp) (same_of_ofItems? os hvs' hps')

/-- The entries that are put into a table one after the other. -/
private theorem pairwise_of_ofEntries? : (entries : List (Json.Scanned String × Outline)) →
    {es : List (String × Json.Value)} → {table fields : Table String PropertyValue} →
    Outline.readEntries entries = .ok es → PropertyValue.ofEntries? table entries = some fields →
    ∃ fs, fs.foldl (fun t e => t.put e.1 e.2) table = fields ∧ Pairwise es fs
  | [], _, _, _, hes, hfields => by
    cases hes
    cases hfields
    exact ⟨[], rfl, .nil⟩
  | (⟨.error _, _⟩, _) :: _, _, _, _, _, hfields => by cases hfields
  | (⟨.ok key, _⟩, o) :: entries, es, table, fields, hes, hfields => by
    obtain ⟨_, v, es', ⟨⟩, hv, hes', rfl⟩ := Outline.exists_of_readEntries_cons hes
    obtain ⟨p, hp, hfields⟩ := Option.bind_eq_some_iff.1 hfields
    obtain ⟨fs, hfs, hpairs⟩ := pairwise_of_ofEntries? entries hes' hfields
    exact ⟨(key, p) :: fs, hfs, .cons ⟨rfl, same_of_ofOutline? o hv hp⟩ hpairs⟩

end

/-! ### Texts that are read as properties -/

mutual

/-- A constant without keys that come twice is the value of a property. -/
theorem exists_ofOutline? : (o : Outline) → {v : Json.Value} → o.read = .ok v → v.isConstant = true →
    o.isDistinct = true → ∃ p, PropertyValue.ofOutline? o = some p
  | .broken _, _, hv, _, _ | .brokenWord _, _, hv, _, _ | .string ⟨.error _, _⟩, _, hv, _, _
  | .number ⟨.error _, _⟩, _, hv, _, _ => by cases hv
  | .null, _, hv, hconstant, _ | .number ⟨.ok (.real _), _⟩, _, hv, hconstant, _ => by
    cases hv
    cases hconstant
  | .bool b, _, _, _, _ => ⟨.bool b, rfl⟩
  | .string ⟨.ok s, _⟩, _, _, _, _ => ⟨.string s, rfl⟩
  | .number ⟨.ok (.int n), _⟩, _, hv, hconstant, _ => by
    cases hv
    simp only [Json.Value.isConstant, Bool.and_eq_true, decide_eq_true_eq] at hconstant
    exact ⟨.int n, if_pos hconstant.2⟩
  | .list level items ending, v, hv, hconstant, hdistinct => by
    obtain ⟨-, -, vs, hvs, rfl⟩ := Outline.exists_of_read_list hv
    obtain ⟨ps, hps⟩ := exists_ofItems? items hvs hconstant hdistinct
    exact ⟨.array ps, by rw [PropertyValue.ofOutline?, hps]; rfl⟩
  | .object level entries ending, v, hv, hconstant, hdistinct => by
    obtain ⟨-, -, es, hes, rfl⟩ := Outline.exists_of_read_object hv
    simp only [Outline.isDistinct, Bool.and_eq_true, decide_eq_true_eq] at hdistinct
    have hkeys := Outline.keys_of_readEntries hes ▸ hdistinct.1
    -- keys that came twice could have replaced what is no constant
    have hall : ∀ e ∈ es, e.2.isConstant = true := fun e he =>
      Json.Value.constant_of_mem hconstant (Json.mem_sortEntries hkeys he)
    obtain ⟨fields, hfields⟩ := exists_ofEntries? entries hes hall hdistinct.2 []
    exact ⟨.object fields, by rw [PropertyValue.ofOutline?, hfields]; rfl⟩

theorem exists_ofItems? : (os : List Outline) → {vs : List Json.Value} → Outline.readItems os = .ok vs →
    Json.Value.areConstant vs = true → Outline.areDistinct os = true → ∃ ps, PropertyValue.ofItems? os = some ps
  | [], _, _, _, _ => ⟨[], rfl⟩
  | o :: os, vs, hvs, hconstant, hdistinct => by
    obtain ⟨v, vs', hv, hvs', rfl⟩ := Outline.exists_of_readItems_cons hvs
    simp only [Json.Value.areConstant, Outline.areDistinct, Bool.and_eq_true] at hconstant hdistinct
    obtain ⟨p, hp⟩ := exists_ofOutline? o hv hconstant.1 hdistinct.1
    obtain ⟨ps, hps⟩ := exists_ofItems? os hvs' hconstant.2 hdistinct.2
    exact ⟨p :: ps, by rw [PropertyValue.ofItems?, hp, hps]; rfl⟩

theorem exists_ofEntries? : (entries : List (Json.Scanned String × Outline)) → {es : List (String × Json.Value)} →
    Outline.readEntries entries = .ok es → (∀ e ∈ es, e.2.isConstant = true) →
    Outline.haveDistinct entries = true →
    ∀ table, ∃ fields, PropertyValue.ofEntries? table entries = some fields
  | [], _, _, _, _, table => ⟨table, rfl⟩
  | (⟨.error _, _⟩, _) :: _, _, hes, _, _, _ => by cases hes
  | (⟨.ok key, _⟩, o) :: entries, es, hes, hconstant, hdistinct, table => by
    obtain ⟨_, v, es', ⟨⟩, hv, hes', rfl⟩ := Outline.exists_of_readEntries_cons hes
    simp only [Outline.haveDistinct, Bool.and_eq_true] at hdistinct
    obtain ⟨p, hp⟩ := exists_ofOutline? o hv (hconstant _ List.mem_cons_self) hdistinct.1
    obtain ⟨fields, hfields⟩ := exists_ofEntries? entries hes'
      (fun e he => hconstant e (List.mem_cons_of_mem _ he)) hdistinct.2 (table.put key p)
    exact ⟨fields, by rw [PropertyValue.ofEntries?, hp]; exact hfields⟩

end

/-- Let texts in a ruleset and in a test suite say the same constant.  The one of the ruleset is read as an expression
and compiled everywhere.  The one of the test suite is read as the value of a property, unless a key comes twice in an
object.  What either is compiled to comes to the same document. -/
theorem same_of_read {o o' : Outline} {src : Source} {v : Json.Value} (path : String) (src' : Source)
    (hv : Decoder.value src o = .ok v) (hsame : o'.read = o.read) (hconstant : v.isConstant = true) :
    ∃ e doc a, Expr.ofJson path v = .ok e ∧ (∀ scope registry, document scope e registry = .ok (doc, registry)) ∧
      doc.Denotes a ∧ (o'.isDistinct = true → ∃ p, PropertyValue.decoder src' o' = .ok p) ∧
      ∀ p, PropertyValue.decoder src' o' = .ok p → ∃ b, (propertyDocument p).Denotes b ∧ a.Same b := by
  obtain ⟨e, doc, he, hdoc, hdenotes⟩ := exists_document path v hconstant
  have hread : o'.read = .ok v := hsame.trans (Json.ok_of_orMismatch hv)
  refine ⟨e, doc, v.document, he, hdoc, hdenotes, fun hdistinct => ?_, fun p hp => ?_⟩
  · obtain ⟨p, hp⟩ := exists_ofOutline? o' hread hconstant hdistinct
    exact ⟨p, by rw [PropertyValue.decoder, hread, hp]; rfl⟩
  · obtain ⟨_, -, hp⟩ := exists_of_bind_ok hp
    split at hp
    · rename_i p' hp'
      cases hp
      exact ⟨p.document, denotes_propertyDocument p, same_of_ofOutline? o' hread hp'⟩
    · cases hp

/-- `{"b": [1, true], "a": "x"}` in a ruleset, and the same with its keys in order in a test suite. -/
theorem same_of_read_swapped :
    let a : Json.Scanned String × Outline := (⟨.ok "a", none⟩, .string ⟨.ok "x", none⟩)
    let b (level : Nat) : Json.Scanned String × Outline :=
      (⟨.ok "b", none⟩, .list level [.number ⟨.ok (.int 1), none⟩, .bool true] .closed)
    let o : Outline := .object 7 [b 8, a] .closed
    let o' : Outline := .object 5 [a, b 6] .closed
    let v : Json.Value := .object [("a", .string "x"), ("b", .array [.number (.int 1), .bool true])]
    Decoder.value .text o = .ok v ∧ o'.read = o.read ∧ v.isConstant = true ∧ o'.isDistinct = true ∧
      ∃ e doc a, Expr.ofJson "endpoint" v = .ok e ∧
        (∀ scope registry, document scope e registry = .ok (doc, registry)) ∧ doc.Denotes a ∧
        (o'.isDistinct = true → ∃ p, PropertyValue.decoder .text o' = .ok p) ∧
        ∀ p, PropertyValue.decoder .text o' = .ok p →
          ∃ b, (propertyDocument p).Denotes b ∧ a.Same b := by
  intro a b o o' v
  have hv : Decoder.value .text o = .ok v := rfl
  have hsame : o'.read = o.read := rfl
  have hconstant : v.isConstant = true := by decide
  exact ⟨hv, hsame, hconstant, by decide, same_of_read "endpoint" .text hv hsame hconstant⟩

end Resolver

end Signpost
