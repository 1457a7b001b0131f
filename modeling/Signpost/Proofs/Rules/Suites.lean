import Mathlib
import Signpost.Proofs.Schema.Documents
import Signpost.Rules.Suite

/-!
# Test suites written and read

The names in the tables of a suite that is read are distinct, and its property values are not too deep
(`TestSuite.ensures_decoder`).  Such a suite comes back from what is written of it (`TestSuite.reads_decoder`).
-/

namespace Signpost.Rules

open Json

variable {level : Nat}

/-! ### Documents as values -/

namespace PropertyValue

mutual

/-- The document of a property value. -/
def toValue : PropertyValue → Value
  | string s => .string s
  | bool b => .bool b
  | int n => .number (.int n)
  | array items => .array (itemValues items)
  | object fields => .object (fieldValues fields)

def itemValues : List PropertyValue → List Value
  | [] => []
  | v :: vs => toValue v :: itemValues vs

def fieldValues : List (String × PropertyValue) → List (String × Value)
  | [] => []
  | (k, v) :: fs => (k, toValue v) :: fieldValues fs

end

theorem itemValues_eq_map (vs : List PropertyValue) : itemValues vs = vs.map toValue := by
  induction vs with
  | nil => rfl
  | cons v vs ih => rw [itemValues, ih, List.map_cons]

theorem fieldValues_eq_map (fs : List (String × PropertyValue)) :
    fieldValues fs = fs.map fun f => (f.1, f.2.toValue) := by
  induction fs with
  | nil => rfl
  | cons f fs ih => rw [fieldValues, ih, List.map_cons]

mutual

theorem write_eq : ∀ v : PropertyValue, v.write = v.toValue.write
  | string _ => rfl
  | bool _ => rfl
  | int _ => rfl
  | array items => by rw [write, toValue, write_array, writeItems_eq items]
  | object fields => by rw [write, toValue, write_object, writeFields_eq fields]

theorem writeItems_eq : ∀ vs : List PropertyValue, writeItems vs = (itemValues vs).map Value.write
  | [] => rfl
  | v :: vs => by rw [writeItems, itemValues, List.map_cons, write_eq v, writeItems_eq vs]

theorem writeFields_eq : ∀ fs : List (String × PropertyValue),
    writeFields fs = (fieldValues fs).map fun f => (f.1, f.2.write)
  | [] => rfl
  | (k, v) :: fs => by rw [writeFields, fieldValues, List.map_cons, write_eq v, writeFields_eq fs]

end

end PropertyValue

/-- The document of a parameter's value. -/
def ParameterValue.toValue : ParameterValue → Value
  | string s => .string s
  | bool b => .bool b
  | stringArray items => .ofStrings items

/-- The document of an expected endpoint. -/
def ExpectedEndpoint.toValue (e : ExpectedEndpoint) : Value :=
  .object
    [("url", .string e.url),
     ("headers", .object (e.headers.map fun h => (h.1, .ofStrings h.2))),
     ("properties", .object (e.properties.map fun p => (p.1, p.2.toValue)))]

/-- The document of an expectation. -/
def Expectation.toValue : Expectation → Value
  | endpoint e => .object [("endpoint", e.toValue)]
  | error message => .object [("error", .string message)]

/-- The document of a test. -/
def TestCase.toValue (c : TestCase) : Value :=
  .object
    [("documentation", (c.documentation.map .string).getD .null),
     ("params", .object (c.params.map fun p => (p.1, p.2.toValue))),
     ("expect", c.expect.toValue)]

/-- The document of a suite. -/
def TestSuite.toValue (s : TestSuite) : Value := .object [("testCases", .array (s.cases.map TestCase.toValue))]

theorem ParameterValue.write_eq (p : ParameterValue) : p.write = p.toValue.write := by
  cases p with
  | stringArray items => exact (write_ofStrings items).symm
  | _ => rfl

theorem Expectation.write_eq (e : Expectation) : e.write = e.toValue.write := by
  cases e with
  | endpoint e =>
    simp [write, toValue, ExpectedEndpoint.toValue, write_object, write_ofStrings, write_string, PropertyValue.write_eq,
      Function.comp_def]
  | error message => simp [write, toValue, write_object, write_string]

theorem TestCase.write_eq (c : TestCase) : c.write = c.toValue.write := by
  have hdocumentation : ((c.documentation.map Value.string).getD .null).write =
      (c.documentation.map Value.quote).getD "null" := by
    cases c.documentation <;> rfl
  simp [write, toValue, write_object, ParameterValue.write_eq, Expectation.write_eq, hdocumentation, Function.comp_def]

theorem TestSuite.write_eq (s : TestSuite) : s.write = s.toValue.write := by
  simp [write, toValue, write_object, write_array, funext TestCase.write_eq, Function.comp_def]

/-! ### What is read -/

namespace PropertyValue

/-- What can be read at a level: its numbers are whole with 64 bits, one for the sign, its names are distinct, and its
lists and objects are not too deep. -/
inductive Fits : Nat → PropertyValue → Prop
  | string {level s} : Fits level (string s)
  | bool {level b} : Fits level (bool b)
  | int {level n} (h : -0x8000000000000000 ≤ n ∧ n < 0x8000000000000000) : Fits level (int n)
  | array {level vs} (hl : level < Outline.maxLevel) (h : ∀ v ∈ vs, Fits (level + 1) v) : Fits level (array vs)
  | object {level fs} (hl : level < Outline.maxLevel) (hkeys : (Table.keys fs).Nodup)
    (h : ∀ f ∈ fs, Fits (level + 1) f.2) : Fits level (object fs)

variable {o : Outline} {v : PropertyValue} {w : Value}

private def FitsOf (level : Nat) (o : Outline) : Prop :=
  ∀ {w v}, o.read = .ok w → ofOutline? o = some v → v.Fits level

private theorem fits_of_ofItems? {os : List Outline} (ih : ∀ o ∈ os, FitsOf level o) {ws : List Value}
    {vs : List PropertyValue} (hread : Outline.readItems os = .ok ws) (h : ofItems? os = some vs) :
    ∀ v ∈ vs, v.Fits level := by
  induction os generalizing ws vs with
  | nil =>
    cases h
    exact List.forall_mem_nil _
  | cons o os ih' =>
    obtain ⟨w, ws, hw, hws, -⟩ := Outline.exists_of_readItems_cons hread
    obtain ⟨v, hv, h⟩ := Option.bind_eq_some_iff.1 h
    obtain ⟨vs, hvs, h⟩ := Option.bind_eq_some_iff.1 h
    cases h
    have hrest := ih' (fun p hp => ih p (List.mem_cons_of_mem o hp)) hws hvs
    exact List.forall_mem_cons.2 ⟨ih o List.mem_cons_self hw hv, hrest⟩

private theorem fits_of_ofEntries? {es : List (Scanned String × Outline)} (ih : ∀ e ∈ es, FitsOf level e.2)
    {ws : List (String × Value)} {table fs : Table String PropertyValue} (hread : Outline.readEntries es = .ok ws)
    (h : ofEntries? table es = some fs) (hkeys : table.keys.Nodup) (htable : ∀ f ∈ table, f.2.Fits level) :
    fs.keys.Nodup ∧ ∀ f ∈ fs, f.2.Fits level := by
  induction es generalizing ws table with
  | nil =>
    cases h
    exact ⟨hkeys, htable⟩
  | cons e es ih' =>
    obtain ⟨⟨key?, trailing⟩, o⟩ := e
    cases key? with
    | error f => cases h
    | ok key =>
      obtain ⟨_, w, ws, -, hw, hws, -⟩ := Outline.exists_of_readEntries_cons hread
      obtain ⟨v, hv, h⟩ := Option.bind_eq_some_iff.1 h
      refine ih' (fun p hp => ih p (List.mem_cons_of_mem _ hp)) hws h (Table.nodup_keys_put hkeys key v) ?_
      intro f hf
      obtain rfl | hf := Table.mem_put hf
      · exact ih _ List.mem_cons_self hw hv
      · exact htable f hf

theorem fits_of_ofOutline? (hsane : o.Sane level) : FitsOf level o := by
  induction hsane with
  | broken | brokenWord | null =>
    rintro _ _ - ⟨⟩
  | @bool _ b =>
    intro _ _ _ h
    cases h
    exact .bool
  | @number _ s hs =>
    rintro _ _ - h
    obtain ⟨_ | n | _, _⟩ := s
    · cases h
    · obtain ⟨hn, h⟩ := Option.ite_none_right_eq_some.1 h
      cases h
      exact .int ⟨(hs n rfl).1, hn⟩
    · cases h
  | @string _ s =>
    rintro _ _ - h
    obtain ⟨_ | _, _⟩ := s
    · cases h
    · cases h
      exact .string
  | @list level os ending _ ih =>
    intro w v hread h
    obtain ⟨vs, hvs, rfl⟩ := Option.map_eq_some_iff.1 h
    obtain ⟨hlevel, -, ws, hws, -⟩ := Outline.exists_of_read_list hread
    exact .array hlevel (fits_of_ofItems? ih hws hvs)
  | @object level es ending _ ih =>
    intro w v hread h
    obtain ⟨fs, hfs, rfl⟩ := Option.map_eq_some_iff.1 h
    obtain ⟨hlevel, -, ws, hws, -⟩ := Outline.exists_of_read_object hread
    obtain ⟨hkeys, hfits⟩ := fits_of_ofEntries? ih hws hfs List.nodup_nil (List.forall_mem_nil _)
    exact .object hlevel hkeys hfits

theorem ensures_decoder : decoder.Ensures level (Fits level) := by
  constructor
  intro src o v hsane h
  obtain ⟨w, hw, h⟩ := exists_of_bind_ok h
  split at h
  · cases h
    exact fits_of_ofOutline? hsane (ok_of_orMismatch hw) ‹_›
  · cases h

theorem Fits.toValue (h : v.Fits level) : v.toValue.Fits level := by
  induction h with
  | string => exact .string
  | bool => exact .bool
  | int h => exact .int (by omega)
  | array hl _ ih =>
    rw [PropertyValue.toValue, itemValues_eq_map]
    exact .array hl (List.forall_mem_map.2 ih)
  | object hl _ _ ih =>
    rw [PropertyValue.toValue, fieldValues_eq_map]
    exact .object hl (List.forall_mem_map.2 ih)

private theorem ofItems?_outlines {vs : List PropertyValue}
    (ih : ∀ v ∈ vs, ofOutline? (v.toValue.outline level) = some v) :
    ofItems? (vs.map fun v => v.toValue.outline level) = some vs := by
  induction vs with
  | nil => rfl
  | cons v vs ih' =>
    rw [List.map_cons, ofItems?, ih v List.mem_cons_self, ih' fun u hu => ih u (List.mem_cons_of_mem v hu)]
    rfl

/-- The entries of a table that have been put are in front of those that are still to be put. -/
private theorem ofEntries?_outlines {fs put rest : Table String PropertyValue} (hkeys : fs.keys.Nodup)
    (ih : ∀ f ∈ fs, ofOutline? (f.2.toValue.outline level) = some f.2) (h : put ++ rest = fs) :
    ofEntries? put (rest.map fun f => (⟨.ok f.1, none⟩, f.2.toValue.outline level)) = some fs := by
  induction rest generalizing put with
  | nil =>
    rw [List.append_nil] at h
    exact congrArg some h
  | cons f rest ih' =>
    rw [List.map_cons, ofEntries?, ih f (h ▸ List.mem_append_right _ List.mem_cons_self)]
    exact ih' ((Table.put_append (h ▸ hkeys)).trans h)

/-- A property value is recognized in the outline of what is written of it. -/
theorem Fits.ofOutline?_outline (h : v.Fits level) : ofOutline? (v.toValue.outline level) = some v := by
  induction h with
  | string | bool => rfl
  | int h => exact if_pos h.2
  | array _ _ ih =>
    rw [PropertyValue.toValue, Value.outline, itemValues_eq_map, Value.itemOutlines_eq_map, List.map_map, ofOutline?]
    exact congrArg (Option.map PropertyValue.array) (ofItems?_outlines ih)
  | object _ hkeys _ ih =>
    rw [PropertyValue.toValue, Value.outline, fieldValues_eq_map, Value.entryOutlines_eq_map, List.map_map, ofOutline?]
    exact congrArg (Option.map PropertyValue.object) (ofEntries?_outlines hkeys ih (List.nil_append _))

theorem Fits.reads_decoder (h : v.Fits level) : decoder.Reads level v.toValue v := by
  intro src
  obtain ⟨w, hw⟩ := h.toValue.exists_read
  rw [decoder, hw, h.ofOutline?_outline]
  rfl

end PropertyValue

/-- The names of headers and properties are distinct, and the properties can be read. -/
structure ExpectedEndpoint.Fits (level : Nat) (e : ExpectedEndpoint) : Prop where
  headers : e.headers.keys.Nodup
  properties : e.properties.keys.Nodup
  values : ∀ p ∈ e.properties, p.2.Fits (level + 2)

/-- An expected endpoint can be read. -/
def Expectation.Fits (level : Nat) : Expectation → Prop
  | endpoint e => e.Fits (level + 1)
  | error _ => True

/-- The names of parameters are distinct, and what is expected can be read. -/
structure TestCase.Fits (level : Nat) (c : TestCase) : Prop where
  params : c.params.keys.Nodup
  expect : c.expect.Fits (level + 1)

namespace TestSuite

/-- What holds of an endpoint while it is read. -/
private structure EndpointDraft.Fits (level : Nat) (d : EndpointDraft) : Prop where
  headers : ∀ t ∈ d.headers, t.keys.Nodup
  properties : ∀ t ∈ d.properties, t.keys.Nodup ∧ ∀ p ∈ t, p.2.Fits (level + 2)

/-- What holds of a test while it is read. -/
private structure CaseDraft.Fits (level : Nat) (d : CaseDraft) : Prop where
  params : ∀ t ∈ d.params, t.keys.Nodup
  expect : ∀ e ∈ d.expect, e.Fits (level + 1)

theorem ensures_endpoint : endpoint.Ensures level (ExpectedEndpoint.Fits level) := by
  have hfields : ∀ f ∈ endpointFields, Record.Keeps f (level + 1) (EndpointDraft.Fits level) := by
    simp only [endpointFields, List.forall_mem_cons, List.not_mem_nil, false_imp_iff, implies_true, and_true]
    exact ⟨Record.keeps_of Decoder.ensures_true fun _ _ hd _ => ⟨hd.headers, hd.properties⟩,
      Record.keeps_of Decoder.ensures_true.entries fun _ _ hd ht => ⟨forall_mem_some ht.1, hd.properties⟩,
      Record.keeps_of PropertyValue.ensures_decoder.entries fun _ _ hd ht => ⟨hd.headers, forall_mem_some ht⟩⟩
  have hempty : EndpointDraft.Fits level ⟨none, none, none⟩ := ⟨forall_mem_none, forall_mem_none⟩
  refine (Record.ensures_decoder hfields hempty).andThen fun d hd => ?_
  obtain ⟨hkeys, hvalues⟩ := getD_of_forall (a := []) hd.properties ⟨List.nodup_nil, List.forall_mem_nil _⟩
  exact ⟨getD_of_forall hd.headers List.nodup_nil, hkeys, hvalues⟩

theorem ensures_expectation : expectation.Ensures level (Expectation.Fits level) := by
  refine .alternative ?_
  simp only [List.forall_mem_cons, List.not_mem_nil, false_imp_iff, implies_true, and_true]
  exact ⟨⟨forall_mem_none, ensures_endpoint.map fun _ h => h⟩, forall_mem_none, Decoder.ensures_true.map fun _ h => h⟩

theorem ensures_testCase : testCase.Ensures level (TestCase.Fits level) := by
  have hfields : ∀ f ∈ caseFields, Record.Keeps f (level + 1) (CaseDraft.Fits level) := by
    simp only [caseFields, List.forall_mem_cons, List.not_mem_nil, false_imp_iff, implies_true, and_true]
    exact ⟨Record.keeps_of Decoder.ensures_true fun _ _ hd _ => ⟨hd.params, hd.expect⟩,
      Record.keeps_of Decoder.ensures_true.entries fun _ _ hd ht => ⟨forall_mem_some ht.1, hd.expect⟩,
      Record.keeps_of ensures_expectation fun _ _ hd he => ⟨hd.params, forall_mem_some he⟩⟩
  have hempty : CaseDraft.Fits level ⟨none, none, none⟩ := ⟨forall_mem_none, forall_mem_none⟩
  refine (Record.ensures_decoder hfields hempty).andThen fun d hd => ?_
  refine ⟨getD_of_forall hd.params List.nodup_nil, getD_of_forall hd.expect ?_⟩
  exact ⟨List.nodup_nil, List.nodup_nil, List.forall_mem_nil _⟩

theorem ensures_decoder : decoder.Ensures level fun s => ∀ c ∈ s.cases, c.Fits (level + 2) :=
  (Record.ensures_single ensures_testCase.list).andThen fun _ h => getD_of_forall h (List.forall_mem_nil _)

end TestSuite

/-! ### What is written -/

theorem ParameterValue.fits_toValue (hl : level < Outline.maxLevel) (p : ParameterValue) : p.toValue.Fits level := by
  cases p with
  | string => exact .string
  | bool => exact .bool
  | stringArray items => exact Value.fits_ofStrings hl items

theorem ParameterValue.reads_parameterValue (hl : level < Outline.maxLevel) (p : ParameterValue) :
    Draft.parameterValue.Reads level p.toValue p := by
  intro src
  cases p with
  | string | bool => rfl
  | stringArray items =>
    obtain ⟨w, hw⟩ := (fits_toValue hl (.stringArray items)).exists_read
    have hstrings : Draft.strings? (Value.itemOutlines (level + 1) (items.map .string)) = some items := by
      rw [Value.itemOutlines_eq_map, Draft.strings?]
      clear * -
      induction items with
      | nil => rfl
      | cons s items ih =>
        rw [List.map_cons, List.map_cons, List.mapM_cons, ih]
        rfl
    unfold Draft.parameterValue
    rw [hw]
    simp only [toValue, Value.ofStrings, Value.outline, hstrings]
    rfl

namespace ExpectedEndpoint

variable {e : ExpectedEndpoint}

theorem Fits.toValue (h : e.Fits level) (hl : level + 2 < Outline.maxLevel) : e.toValue.Fits level := by
  have hheaders : (Value.object (e.headers.map fun h => (h.1, .ofStrings h.2))).Fits (level + 1) :=
    .object (by omega) (List.forall_mem_map.2 fun h _ => Value.fits_ofStrings hl h.2)
  have hproperties : (Value.object (e.properties.map fun p => (p.1, p.2.toValue))).Fits (level + 1) :=
    .object (by omega) (List.forall_mem_map.2 fun p hp => (h.values p hp).toValue)
  exact .object (by omega)
    (List.forall_mem_cons.2 ⟨.string, List.forall_mem_cons.2 ⟨hheaders, List.forall_mem_singleton.2 hproperties⟩⟩)

theorem Fits.reads_endpoint (h : e.Fits level) (hl : level + 2 < Outline.maxLevel) :
    TestSuite.endpoint.Reads level e.toValue e := by
  have hl' : level + 1 < Outline.maxLevel := Nat.lt_of_succ_lt hl
  have hheaders := Decoder.reads_entries hl' h.headers fun h _ => Decoder.reads_strings hl h.2
  have hproperties := Decoder.reads_entries hl' h.properties fun p hp => (h.values p hp).reads_decoder
  have hfills : Record.Fills TestSuite.endpointFields (level + 1) ⟨none, none, none⟩
      [("url", .string e.url), ("headers", .object (e.headers.map fun h => (h.1, .ofStrings h.2))),
        ("properties", .object (e.properties.map fun p => (p.1, p.2.toValue)))]
      ⟨some e.url, some e.headers, some e.properties⟩ :=
    .cons rfl rfl (Record.read_of Decoder.reads_string _)
      (.cons rfl rfl (Record.read_of hheaders _) (.cons rfl rfl (Record.read_of hproperties _) .nil))
  exact (Record.reads_decoder (by omega) hfills rfl).andThen
    fun (d : TestSuite.EndpointDraft) => ExpectedEndpoint.mk (d.url.getD "") (d.headers.getD []) (d.properties.getD [])

end ExpectedEndpoint

namespace Expectation

variable {e : Expectation}

theorem Fits.toValue (h : e.Fits level) (hl : level + 3 < Outline.maxLevel) : e.toValue.Fits level := by
  cases e with
  | endpoint e => exact .object (by omega) (List.forall_mem_singleton.2 (ExpectedEndpoint.Fits.toValue h hl))
  | error message => exact .object (by omega) (List.forall_mem_singleton.2 .string)

theorem Fits.reads_expectation (h : e.Fits level) (hl : level + 3 < Outline.maxLevel) :
    TestSuite.expectation.Reads level e.toValue e := by
  cases e with
  | endpoint e =>
    exact Decoder.reads_alternative (by omega) rfl ((ExpectedEndpoint.Fits.reads_endpoint h hl).map endpoint)
  | error message => exact Decoder.reads_alternative (by omega) rfl (Decoder.reads_string.map error)

end Expectation

namespace TestCase

variable {c : TestCase}

theorem Fits.toValue (h : c.Fits level) (hl : level + 4 < Outline.maxLevel) : c.toValue.Fits level := by
  have hdocumentation : ((c.documentation.map Value.string).getD .null).Fits (level + 1) := by
    cases c.documentation with
    | none => exact .null
    | some s => exact .string
  have hparams : (Value.object (c.params.map fun p => (p.1, p.2.toValue))).Fits (level + 1) :=
    .object (by omega) (List.forall_mem_map.2 fun p _ => p.2.fits_toValue (by omega))
  have hexpect : c.expect.toValue.Fits (level + 1) := h.expect.toValue hl
  exact .object (by omega)
    (List.forall_mem_cons.2 ⟨hdocumentation, List.forall_mem_cons.2 ⟨hparams, List.forall_mem_singleton.2 hexpect⟩⟩)

theorem Fits.reads_testCase (h : c.Fits level) (hl : level + 4 < Outline.maxLevel) :
    TestSuite.testCase.Reads level c.toValue c := by
  have hdocumentation : (Decoder.optional Decoder.string).Reads (level + 1)
      ((c.documentation.map .string).getD .null) c.documentation := by
    cases c.documentation with
    | none => exact Decoder.reads_optional_null
    | some s => exact Decoder.reads_string.optional Value.noConfusion
  have hparams := Decoder.reads_entries (show level + 1 < Outline.maxLevel by omega) h.params fun p _ =>
    p.2.reads_parameterValue (by omega)
  have hexpect := h.expect.reads_expectation hl
  have hfills : Record.Fills TestSuite.caseFields (level + 1) ⟨none, none, none⟩
      [("documentation", (c.documentation.map .string).getD .null),
        ("params", .object (c.params.map fun p => (p.1, p.2.toValue))), ("expect", c.expect.toValue)]
      ⟨some c.documentation, some c.params, some c.expect⟩ :=
    .cons rfl rfl (Record.read_of hdocumentation _)
      (.cons rfl rfl (Record.read_of hparams _) (.cons rfl rfl (Record.read_of hexpect _) .nil))
  exact (Record.reads_decoder (by omega) hfills rfl).andThen
    fun (d : TestSuite.CaseDraft) => TestCase.mk d.documentation.join (d.params.getD []) (d.expect.getD default)

end TestCase

namespace TestSuite

variable {s : TestSuite}

theorem fits_toValue (h : ∀ c ∈ s.cases, c.Fits 3) : s.toValue.Fits 1 := by
  refine .object (by decide) (List.forall_mem_singleton.2 (.array (by decide) (List.forall_mem_map.2 fun c hc => ?_)))
  exact (h c hc).toValue (by decide)

theorem reads_decoder (h : ∀ c ∈ s.cases, c.Fits 3) : decoder.Reads 1 s.toValue s := by
  have hcases := Decoder.reads_list (show 2 < Outline.maxLevel by decide) fun c hc =>
    (h c hc).reads_testCase (by decide)
  exact (Record.reads_single (by decide) hcases).andThen
    fun (cases? : Option (List TestCase)) => TestSuite.mk (cases?.getD [])

/-- A suite that is read comes back from what is written of it. -/
theorem ofText_write {text : String} (h : ofText text = .ok s) : ofText s.write = .ok s := by
  unfold ofText at h
  split at h
  · cases h
  · rename_i s' hs'
    cases h
    have hfits := ensures_decoder.decode hs'
    have hread : Json.decode decoder s.write = .ok s := by
      rw [write_eq]
      exact (reads_decoder hfits).decode (fits_toValue hfits)
    rw [ofText, hread]

end TestSuite

/-- Writing a schema or a suite that was read and reading it again gives the same one, so it is written the same. -/
theorem ofText_write_of_ofText :
    (∀ text s, Schema.ofText text = .ok s →
      Schema.ofText s.write = .ok s ∧ (Schema.ofText s.write).map Schema.write = .ok s.write) ∧
    ∀ text s, TestSuite.ofText text = .ok s →
      TestSuite.ofText s.write = .ok s ∧ (TestSuite.ofText s.write).map TestSuite.write = .ok s.write := by
  refine ⟨fun text s h => ?_, fun text s h => ?_⟩
  · have hback := Schema.ofText_write h
    exact ⟨hback, by rw [hback]; rfl⟩
  · have hback := TestSuite.ofText_write h
    exact ⟨hback, by rw [hback]; rfl⟩

private def sizesText : String :=
  " \x7b\"shapes\":\x7b\"Size\":\x7b\"values\":[\"s\", \"l\"], \"type\":\"enum\"\x7d\x7d\x7d"

private def localText : String :=
  "\x7b\"testCases\":[\x7b\"expect\":\x7b\"endpoint\":" ++
    "\x7b\"properties\":\x7b\"n\":[-1]\x7d, \"url\":\"u\"\x7d\x7d\x7d]\x7d"

/-- The texts need not be as they are written: here the entries have another order and some are left out. -/
theorem ofText_write_of_ofText_unordered :
    (∃ s, Schema.ofText sizesText = .ok s ∧ Schema.ofText s.write = .ok s) ∧
    ∃ s, TestSuite.ofText localText = .ok s ∧ TestSuite.ofText s.write = .ok s := by
  have hsizes : Schema.ofText sizesText = .ok ⟨[(⟨"Size"⟩, .enum ["s", "l"])]⟩ := by cbv
  have hlocal : TestSuite.ofText localText =
      .ok ⟨[⟨none, [], .endpoint ⟨"u", [], [("n", .array [.int (-1)])]⟩⟩]⟩ := by cbv
  exact ⟨⟨_, hsizes, (ofText_write_of_ofText.1 _ _ hsizes).1⟩, _, hlocal, (ofText_write_of_ofText.2 _ _ hlocal).1⟩

end Signpost.Rules
