import Signpost.Json.Decode
import Signpost.Proofs.Json.Outlines
import Signpost.Proofs.Json.Writing

/-!
# Documents that are decoded

`Decoder.Ensures` says what holds of everything that is decoded from outlines of text, and `Decoder.Reads` that what is
written of a value is decoded as something.  Both come with one lemma for each way in which decoders are put together,
and both end at whole texts (`Decoder.Ensures.decode`, `Decoder.Reads.decode`).
-/

namespace Signpost.Json

variable {α β σ : Type}

open Outline (Sane)

/-! ### What is decoded -/

theorem ok_of_orFault {f : Option Fault} {result : Except Mismatch α} {a : α} (h : orFault f result = .ok a) :
    result = .ok a := by
  cases f with
  | none => exact h
  | some f => cases h

theorem ok_of_orMismatch {result : Except Fault α} {a : α} (h : orMismatch result = .ok a) : result = .ok a := by
  cases result with
  | error f => cases h
  | ok b =>
    cases h
    rfl

theorem forall_mem_none {P : α → Prop} : ∀ a ∈ (none : Option α), P a := fun _ h => absurd h (Option.not_mem_none _)

theorem forall_mem_some {P : α → Prop} {a : α} (h : P a) : ∀ b ∈ some a, P b := by
  rintro _ ⟨⟩
  exact h

theorem getD_of_forall {P : α → Prop} {a? : Option α} {a : α} (h : ∀ b ∈ a?, P b) (ha : P a) : P (a?.getD a) := by
  cases a? with
  | none => exact ha
  | some b => exact h b rfl

/-- Everything that is decoded from sane outlines of the level has the property. -/
structure Decoder.Ensures (d : Decoder α) (level : Nat) (P : α → Prop) : Prop where
  post : ∀ {src o a}, Sane level o → d src o = .ok a → P a

variable {level : Nat} {P : α → Prop} {Q : β → Prop} {d : Decoder α}

namespace Decoder

theorem ensures_true : d.Ensures level fun _ => True := ⟨fun _ _ => trivial⟩

theorem Ensures.map {f : α → β} (h : d.Ensures level P) (hf : ∀ a, P a → Q (f a)) :
    Ensures (fun src o => (d src o).map f) level Q := by
  constructor
  intro src o b hsane hb
  obtain ⟨a, ha, rfl⟩ := exists_of_map_ok hb
  exact hf a (h.post hsane ha)

theorem Ensures.andThen {f : α → β} (h : d.Ensures level P) (hf : ∀ a, P a → Q (f a)) :
    Ensures (fun src o => do return f (← d src o)) level Q := by
  constructor
  intro src o b hsane hb
  obtain ⟨a, ha, hb⟩ := exists_of_bind_ok hb
  cases hb
  exact hf a (h.post hsane ha)

theorem Ensures.optional (h : d.Ensures level P) : Ensures (optional d) level fun x => ∀ a ∈ x, P a := by
  constructor
  intro src o x hsane hx
  unfold Decoder.optional at hx
  split at hx
  · cases hx
    exact forall_mem_none
  · obtain ⟨a, ha, rfl⟩ := exists_of_map_ok hx
    exact forall_mem_some (h.post hsane ha)

theorem Ensures.list (h : d.Ensures (level + 1) P) : Ensures (list d) level fun as => ∀ a ∈ as, P a := by
  constructor
  intro src o as hsane has
  unfold Decoder.list at has
  split at has
  · cases hsane with
    | list hos =>
      split at has
      · cases has
      · obtain ⟨as', has', hok⟩ := exists_of_bind_ok has
        obtain rfl := Except.ok.inj (ok_of_orFault hok)
        exact forall_of_mapM_ok has' fun o ho a ha => h.post (hos o ho) ha
  · cases has

theorem Ensures.entries (h : d.Ensures (level + 1) P) :
    Ensures (entries d) level fun t => t.keys.Nodup ∧ ∀ e ∈ t, P e.2 := by
  constructor
  intro src o t hsane ht
  unfold Decoder.entries at ht
  split at ht
  · cases hsane with
    | object hes =>
      split at ht
      · cases ht
      · obtain ⟨t', ht', hok⟩ := exists_of_bind_ok ht
        obtain rfl := Except.ok.inj (ok_of_orFault hok)
        refine foldlM_ok_induction (I := fun t : Table String α => t.keys.Nodup ∧ ∀ e ∈ t, P e.2) ht'
          ⟨List.nodup_nil, List.forall_mem_nil _⟩ ?_
        rintro e he s s' ⟨hkeys, hs⟩ hstep
        obtain ⟨key, -, hstep⟩ := exists_of_bind_ok hstep
        obtain ⟨a, ha, hstep⟩ := exists_of_bind_ok hstep
        cases hstep
        refine ⟨Table.nodup_keys_put hkeys key a, fun e' he' => ?_⟩
        obtain rfl | he' := Table.mem_put he'
        · exact h.post (hes e he) ha
        · exact hs e' he'
  · cases ht

theorem mem_of_variant {variants : List (String × α)} {src : Source} {o : Outline} {a : α}
    (h : variant variants src o = .ok a) : ∃ name, (name, a) ∈ variants := by
  unfold variant at h
  split at h
  · obtain ⟨name, -, h⟩ := exists_of_bind_ok h
    split at h
    · rename_i v hv
      cases h
      exact ⟨v.1, List.mem_of_find?_eq_some hv⟩
    · cases h
  · split at h
    · split at h
      · rename_i v hv
        cases h
        exact ⟨v.1, List.mem_of_getElem? hv⟩
      · cases h
    · cases h
  · cases h

/-- What is split off is the content of a kind, and the other entries stay. -/
theorem of_splitTag {tag : String} {kind : Decoder α} {src : Source} {found found' : Option α}
    {es rest : List (Scanned String × Outline)} (h : splitTag tag kind src found es = .ok (found', rest)) :
    (∀ e ∈ rest, e ∈ es) ∧ ∀ a ∈ found', a ∈ found ∨ ∃ o, kind src o = .ok a := by
  induction es generalizing found rest with
  | nil =>
    cases h
    exact ⟨fun _ h => h, fun _ h => .inl h⟩
  | cons e es ih =>
    obtain ⟨key, -, h⟩ := exists_of_bind_ok h
    split at h
    · split at h
      · cases h
      · obtain ⟨a, ha, h⟩ := exists_of_bind_ok h
        obtain ⟨hrest, hfound⟩ := ih h
        refine ⟨fun e' he' => List.mem_cons_of_mem _ (hrest e' he'), fun a' ha' => ?_⟩
        obtain heq | hkind := hfound a' ha'
        · cases heq
          exact .inr ⟨_, ha⟩
        · exact .inr hkind
    · obtain ⟨_, -, h⟩ := exists_of_bind_ok h
      obtain ⟨⟨found₁, rest₁⟩, hsplit, h⟩ := exists_of_bind_ok h
      cases h
      obtain ⟨hrest, hfound⟩ := ih hsplit
      refine ⟨fun e' he' => ?_, hfound⟩
      obtain rfl | he' := List.mem_cons.1 he'
      · exact List.mem_cons_self
      · exact List.mem_cons_of_mem _ (hrest e' he')

theorem Ensures.tagged {tag expected : String} {kinds : List (String × Decoder α)}
    (h : ∀ k ∈ kinds, k.2.Ensures level P) : Ensures (tagged tag expected kinds) level P := by
  constructor
  intro src o a hsane ha
  unfold Decoder.tagged at ha
  split at ha
  · cases hsane with
    | object hes =>
      split at ha
      · cases ha
      · obtain ⟨⟨found, rest⟩, hsplit, ha⟩ := exists_of_bind_ok ha
        obtain ⟨hrest, hfound⟩ := of_splitTag hsplit
        dsimp only at ha
        split at ha
        · cases ha
        · cases ha
        · rename_i content _
          obtain ⟨o, hkind⟩ := (hfound content rfl).resolve_left (Option.not_mem_none _)
          obtain ⟨name, hmem⟩ := mem_of_variant hkind
          exact (h _ hmem).post (.object fun e he => hes e (hrest e he)) ha
  · cases hsane with
    | list hos =>
      split at ha
      · cases ha
      · split at ha
        · cases ok_of_orFault ha
        · obtain ⟨content, hkind, ha⟩ := exists_of_bind_ok ha
          obtain ⟨_, -, ha⟩ := exists_of_bind_ok ha
          obtain ⟨name, hmem⟩ := mem_of_variant hkind
          exact (h _ hmem).post (.list fun o ho => hos o (List.mem_cons_of_mem _ ho)) (ok_of_orFault ha)
  · cases ha

theorem Ensures.alternative {alternatives : List (Alternative α)}
    (h : ∀ a ∈ alternatives, (∀ b ∈ a.bare, P b) ∧ a.content.Ensures (level + 1) P) :
    Ensures (alternative alternatives) level P := by
  constructor
  intro src o a hsane ha
  unfold Decoder.alternative at ha
  extract_lets named at ha
  have hnamed {name : String} {x : Alternative α} (hx : named name = .ok x) : x ∈ alternatives := by
    unfold named at hx
    split at hx
    · cases hx
      exact List.mem_of_find?_eq_some ‹_›
    · cases hx
  split at ha
  · obtain ⟨name, -, ha⟩ := exists_of_bind_ok ha
    obtain ⟨x, hx, ha⟩ := exists_of_bind_ok ha
    split at ha
    · rename_i b hb
      cases ha
      exact (h x (hnamed hx)).1 _ hb
    · cases ha
  · cases hsane with
    | object hes =>
      split at ha
      · cases ha
      split at ha
      · split at ha
        · cases ha
        · cases ha
        · obtain ⟨_, -, ha⟩ := exists_of_bind_ok ha
          obtain ⟨_, -, ha⟩ := exists_of_bind_ok ha
          cases ha
        · cases ha
      · obtain ⟨name, -, ha⟩ := exists_of_bind_ok ha
        obtain ⟨x, hx, ha⟩ := exists_of_bind_ok ha
        obtain ⟨b, hb, ha⟩ := exists_of_bind_ok ha
        have hP := (h x (hnamed hx)).2.post (hes _ List.mem_cons_self) hb
        split at ha
        · cases ha
          exact hP
        · cases ha
        · cases ha
  · cases ha
  · cases ha

end Decoder

namespace Record

variable {I : σ → Prop} {fields : List (Field σ)}

/-- What reading the field keeps of a draft. -/
def Keeps (f : Field σ) (level : Nat) (I : σ → Prop) : Prop :=
  ∀ {src o s s'}, Sane level o → I s → f.read src o s = .ok s' → I s'

theorem keeps_of {name : String} {required : Bool} {get : σ → Option α} {set : α → σ → σ}
    (h : d.Ensures level P) (hset : ∀ s a, I s → P a → I (set a s)) :
    Keeps (Field.of name required get set d) level I := by
  intro src o s s' hsane hs hs'
  obtain ⟨a, ha, rfl⟩ := exists_of_map_ok hs'
  exact hset s a hs (h.post hsane ha)

private theorem eq_of_finishList {src : Source} {s s' : σ} {count : Nat} {os : List Outline} {ending : Ending}
    (h : finishList src s count os ending = .ok s') : s = s' := by
  unfold finishList at h
  split at h
  · exact Except.ok.inj h
  · cases h
  · cases h
  · split at h <;> first | exact Except.ok.inj h | cases h

private theorem of_fromList {src : Source} {expected : String} {ending : Ending} {count : Nat}
    {fs : List (Field σ)} {os : List Outline} {s s' : σ} (hf : ∀ f ∈ fs, Keeps f level I)
    (hos : ∀ o ∈ os, Sane level o) (hs : I s) (h : fromList src expected ending count fs os s = .ok s') : I s' := by
  induction fs generalizing os s count with
  | nil =>
    rw [fromList] at h
    exact eq_of_finishList h ▸ hs
  | cons f fs ih =>
    have hf' : ∀ g ∈ fs, Keeps g level I := fun g hg => hf g (List.mem_cons_of_mem f hg)
    cases os with
    | nil =>
      rw [fromList] at h
      split at h
      · cases h
      · split at h
        · cases h
        · exact ih hf' hos hs h
    | cons o os =>
      rw [fromList] at h
      obtain ⟨s₁, hs₁, h⟩ := exists_of_bind_ok h
      have hkept := hf f List.mem_cons_self (hos o List.mem_cons_self) hs hs₁
      exact ih hf' (fun p hp => hos p (List.mem_cons_of_mem o hp)) hkept h

theorem ensures_decoder (hf : ∀ f ∈ fields, Keeps f (level + 1) I) {name : String} {empty : σ} (hempty : I empty) :
    Decoder.Ensures (decoder fields name empty) level I := by
  constructor
  intro src o s hsane hs
  unfold decoder at hs
  split at hs
  · cases hsane with
    | object hes =>
      split at hs
      · cases hs
      · obtain ⟨s', hs', hok⟩ := exists_of_bind_ok hs
        have hcomplete := ok_of_orFault hok
        unfold complete at hcomplete
        split at hcomplete
        · cases hcomplete
        · cases hcomplete
          refine foldlM_ok_induction (I := I) hs' hempty ?_
          intro e he s s' hs hstep
          obtain ⟨key, -, hstep⟩ := exists_of_bind_ok hstep
          split at hstep
          · rename_i f hfind
            split at hstep
            · cases hstep
            · exact hf f (List.mem_of_find?_eq_some hfind) (hes e he) hs hstep
          · split at hstep
            · cases hstep
              exact hs
            · cases ok_of_orFault hstep
              exact hs
  · cases hsane with
    | list hos =>
      split at hs
      · cases hs
      · exact of_fromList hf hos hempty hs
  · cases hs

theorem ensures_single (h : d.Ensures (level + 1) P) {name field : String} {required : Bool} :
    Decoder.Ensures (single name field required d) level fun x => ∀ a ∈ x, P a := by
  refine ensures_decoder (List.forall_mem_singleton.2 (keeps_of h ?_)) forall_mem_none
  exact fun _ _ _ ha => forall_mem_some ha

end Record

/-- Everything that is decoded from a text has the property. -/
theorem Decoder.Ensures.decode (h : d.Ensures 1 P) {text : String} {a : α} (ha : decode d text = .ok a) : P a := by
  obtain ⟨a', ha', hok⟩ := exists_of_bind_ok ha
  obtain rfl := Except.ok.inj (ok_of_orFault hok)
  exact h.post (Outline.sane_ofText _ _) ha'

/-! ### What is written is decoded -/

variable {v : Value} {a : α}

private theorem exists_readItems {vs : List Value} (h : ∀ v ∈ vs, ∃ w, (v.outline level).read = .ok w) :
    ∃ ws, Outline.readItems (vs.map (Value.outline level)) = .ok ws := by
  induction vs with
  | nil => exact ⟨[], rfl⟩
  | cons v vs ih =>
    obtain ⟨w, hw⟩ := h v List.mem_cons_self
    obtain ⟨ws, hws⟩ := ih fun u hu => h u (List.mem_cons_of_mem _ hu)
    refine ⟨w :: ws, ?_⟩
    rw [List.map_cons, Outline.readItems, hw, hws]
    rfl

private theorem exists_readEntries {es : List (String × Value)} (h : ∀ e ∈ es, ∃ w, (e.2.outline level).read = .ok w) :
    ∃ ws, Outline.readEntries (es.map fun e => (⟨.ok e.1, none⟩, e.2.outline level)) = .ok ws := by
  induction es with
  | nil => exact ⟨[], rfl⟩
  | cons e es ih =>
    obtain ⟨w, hw⟩ := h e List.mem_cons_self
    obtain ⟨ws, hws⟩ := ih fun d hd => h d (List.mem_cons_of_mem _ hd)
    refine ⟨(e.1, w) :: ws, ?_⟩
    rw [List.map_cons, Outline.readEntries, hw, hws]
    rfl

theorem Value.Fits.exists_read (h : v.Fits level) : ∃ w, (v.outline level).read = .ok w := by
  induction h with
  | null => exact ⟨_, rfl⟩
  | bool => exact ⟨_, rfl⟩
  | int => exact ⟨_, rfl⟩
  | string => exact ⟨_, rfl⟩
  | array hl _ ih =>
    obtain ⟨ws, hws⟩ := exists_readItems ih
    refine ⟨.array ws, ?_⟩
    rw [outline, itemOutlines_eq_map, Outline.read, if_neg (Nat.not_le.2 hl), hws]
    rfl
  | object hl _ ih =>
    obtain ⟨ws, hws⟩ := exists_readEntries ih
    refine ⟨.object (sortEntries ws), ?_⟩
    rw [outline, entryOutlines_eq_map, Outline.read, if_neg (Nat.not_le.2 hl), hws]
    rfl

/-- The value that holds strings. -/
def Value.ofStrings (ss : List String) : Value := .array (ss.map .string)

theorem Value.fits_ofStrings (hl : level < Outline.maxLevel) (ss : List String) : (ofStrings ss).Fits level :=
  .array hl (List.forall_mem_map.2 fun _ _ => .string)

namespace Decoder

/-- What is written of the value, at the level, is decoded as `a`. -/
def Reads (d : Decoder α) (level : Nat) (v : Value) (a : α) : Prop := ∀ src, d src (v.outline level) = .ok a

theorem reads_string {s : String} : Reads Decoder.string level (.string s) s := fun _ => rfl

theorem reads_bool {b : Bool} : Reads Decoder.bool level (.bool b) b := fun _ => rfl

theorem Reads.map (h : d.Reads level v a) (f : α → β) : Reads (fun src o => (d src o).map f) level v (f a) := by
  intro src
  show (d src _).map f = _
  rw [h src]
  rfl

theorem Reads.andThen (h : d.Reads level v a) (f : α → β) :
    Reads (fun src o => do return f (← d src o)) level v (f a) := by
  intro src
  show (d src _ >>= fun a => pure (f a)) = _
  rw [h src]
  rfl

theorem reads_optional_null : Reads (optional d) level .null none := fun _ => rfl

theorem Reads.optional (h : d.Reads level v a) (hv : v ≠ .null) : Reads (optional d) level v (some a) := by
  intro src
  have hmap : (d src (v.outline level)).map some = .ok (some a) := by
    rw [h src]
    rfl
  cases v with
  | null => exact absurd rfl hv
  | _ => exact hmap

theorem reads_list {as : List α} {write : α → Value} (hl : level < Outline.maxLevel)
    (h : ∀ a ∈ as, d.Reads (level + 1) (write a) a) : Reads (list d) level (.array (as.map write)) as := by
  intro src
  have hitems : (Value.itemOutlines (level + 1) (as.map write)).mapM (d src) = .ok as := by
    rw [Value.itemOutlines_eq_map]
    induction as with
    | nil => rfl
    | cons a as ih =>
      rw [List.map_cons, List.map_cons, List.mapM_cons, h a List.mem_cons_self src,
        ih fun b hb => h b (List.mem_cons_of_mem _ hb)]
      rfl
  show (if _ then _ else _) = _
  rw [if_neg (Nat.not_le.2 hl), hitems]
  rfl

theorem reads_strings (hl : level < Outline.maxLevel) (ss : List String) :
    Reads (list Decoder.string) level (.ofStrings ss) ss := reads_list hl fun _ _ => reads_string

theorem reads_entries {t : Table String α} {write : α → Value} (hl : level < Outline.maxLevel) (hkeys : t.keys.Nodup)
    (h : ∀ e ∈ t, d.Reads (level + 1) (write e.2) e.2) :
    Reads (entries d) level (.object (t.map fun e => (e.1, write e.2))) t := by
  intro src
  -- the entries that have been read are in front of those that are to be read
  have hfold : ∀ (read rest : Table String α), read ++ rest = t →
      (Value.entryOutlines (level + 1) (rest.map fun e => (e.1, write e.2))).foldlM
        (fun (table : Table String α) e => do
          let key ← orMismatch e.1.read
          let a ← d src e.2
          return table.put key a) read = .ok t := by
    intro read rest ht
    induction rest generalizing read with
    | nil =>
      rw [List.append_nil] at ht
      exact congrArg Except.ok ht
    | cons e rest ih =>
      have he := h e (ht ▸ List.mem_append_right _ List.mem_cons_self) src
      rw [List.map_cons, Value.entryOutlines, List.foldlM_cons]
      show (d src _ >>= fun a => _) >>= _ = _
      rw [he]
      exact ih _ ((Table.put_append (ht ▸ hkeys)).trans ht)
  show (if _ then _ else _) = _
  rw [if_neg (Nat.not_le.2 hl), hfold [] t rfl]
  rfl

private theorem splitTag_outlines {tag : String} {kind : Decoder α} {src : Source} {found : Option α}
    {es : List (String × Value)} (hkeys : ∀ e ∈ es, e.1 ≠ tag) (hfits : ∀ e ∈ es, e.2.Fits level) :
    splitTag tag kind src found (Value.entryOutlines level es) = .ok (found, Value.entryOutlines level es) := by
  induction es with
  | nil => rfl
  | cons e es ih =>
    obtain ⟨w, hw⟩ := (hfits e List.mem_cons_self).exists_read
    have hrest := ih (fun d hd => hkeys d (List.mem_cons_of_mem _ hd)) fun d hd => hfits d (List.mem_cons_of_mem _ hd)
    rw [Value.entryOutlines, splitTag]
    show (if e.1 = tag then _ else _) = _
    rw [if_neg (hkeys e List.mem_cons_self), hw, hrest]
    rfl

/-- The kind in front of the content. -/
theorem reads_tagged {tag expected kind : String} {kinds : List (String × Decoder α)} {content : Decoder α}
    {es : List (String × Value)} (hl : level < Outline.maxLevel)
    (hkind : kinds.find? (·.1 = kind) = some (kind, content)) (hkeys : ∀ e ∈ es, e.1 ≠ tag)
    (hfits : ∀ e ∈ es, e.2.Fits (level + 1)) (h : content.Reads level (.object es) a) :
    Reads (tagged tag expected kinds) level (.object ((tag, .string kind) :: es)) a := by
  intro src
  have hvariant : variant kinds src (.string ⟨.ok kind, none⟩) = .ok content := by
    simp only [variant, orMismatch, ok_bind, hkind]
    rfl
  have hsplit : splitTag tag (variant kinds) src none (Value.entryOutlines (level + 1) ((tag, .string kind) :: es)) =
      .ok (some content, Value.entryOutlines (level + 1) es) := by
    rw [Value.entryOutlines, splitTag]
    show (if tag = tag then _ else _) = _
    rw [if_pos rfl]
    show (variant kinds src (.string ⟨.ok kind, none⟩) >>= _) = _
    rw [hvariant]
    exact splitTag_outlines hkeys hfits
  show (if _ then _ else _) = _
  rw [if_neg (Nat.not_le.2 hl), hsplit]
  exact h .held

theorem reads_alternative {alternatives : List (Alternative α)} {x : Alternative α} {name : String}
    (hl : level < Outline.maxLevel) (hfind : alternatives.find? (·.name = name) = some x)
    (h : x.content.Reads (level + 1) v a) : Reads (alternative alternatives) level (.object [(name, v)]) a := by
  intro src
  rw [Value.outline, Value.entryOutlines, Value.entryOutlines]
  simp only [alternative, if_neg (Nat.not_le.2 hl), orMismatch, ok_bind, hfind, h src]
  rfl

end Decoder

namespace Record

variable {fields : List (Field σ)}

/-- The entries are those of fields that are not set yet, and reading them in order gives the second draft. -/
inductive Fills (fields : List (Field σ)) (level : Nat) : σ → List (String × Value) → σ → Prop
  | nil {s : σ} : Fills fields level s [] s
  | cons {s s₁ s' : σ} {name : String} {v : Value} {es : List (String × Value)} {f : Field σ}
    (hfind : fields.find? (·.name = name) = some f) (hset : f.isSet s = false)
    (hread : ∀ src, f.read src (v.outline level) s = .ok s₁) (h : Fills fields level s₁ es s') :
    Fills fields level s ((name, v) :: es) s'

theorem Fills.foldlM {s s' : σ} {es : List (String × Value)} (h : Fills fields level s es s') (src : Source) :
    (Value.entryOutlines level es).foldlM (entry fields src) s = .ok s' := by
  induction h with
  | nil => rfl
  | @cons s s₁ s' name v es f hfind hset hread _ ih =>
    have hentry : entry fields src s (⟨.ok name, none⟩, v.outline level) = .ok s₁ := by
      unfold entry
      simp only [orMismatch, ok_bind, hfind, hset]
      exact hread src
    rw [Value.entryOutlines, List.foldlM_cons, hentry]
    exact ih

theorem reads_decoder {name : String} {empty s : σ} {es : List (String × Value)} (hl : level < Outline.maxLevel)
    (h : Fills fields (level + 1) empty es s) (hcomplete : complete fields s = .ok s) :
    Decoder.Reads (decoder fields name empty) level (.object es) s := by
  intro src
  show (if _ then _ else _) = _
  rw [if_neg (Nat.not_le.2 hl), h.foldlM]
  exact hcomplete

/-- A field of a decoder is read as its decoder reads. -/
theorem read_of {name : String} {required : Bool} {get : σ → Option α} {set : α → σ → σ}
    (h : d.Reads level v a) (s : σ) (src : Source) :
    (Field.of name required get set d).read src (v.outline level) s = .ok (set a s) := by
  show (d src _).map _ = _
  rw [h src]
  rfl

theorem reads_single {name field : String} {required : Bool} (hl : level < Outline.maxLevel)
    (h : d.Reads (level + 1) v a) :
    Decoder.Reads (single name field required d) level (.object [(field, v)]) (some a) := by
  have hfind : [Field.of field required (fun s : Option α => s) (fun a _ => some a) d].find? (·.name = field) =
      some (Field.of field required (fun s : Option α => s) (fun a _ => some a) d) :=
    List.find?_cons_of_pos (decide_eq_true rfl)
  refine reads_decoder hl (.cons hfind rfl (read_of h none) .nil) ?_
  cases required <;> rfl

end Record

/-- What is written of a value is decoded from the text. -/
theorem Decoder.Reads.decode (h : d.Reads 1 v a) (hv : v.Fits 1) : decode d v.write = .ok a := by
  unfold Json.decode
  rw [Value.ofText_write hv]
  show (d .text (v.outline 1) >>= _) = _
  rw [h .text]
  rfl

end Signpost.Json
