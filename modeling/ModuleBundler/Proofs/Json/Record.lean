import ModuleBundler.Json.Decode
import ModuleBundler.Proofs.Json.Compact
import ModuleBundler.Proofs.Json.Members

/-!
# Records by name

A record given by name is read field by field, in whatever order its members stand: each field is
what its member is read as, or what it was before if there is no such member.
-/

namespace ModuleBundler.Json.Decoder

variable {α σ : Type}

/-- A part of a record with the name of its member. -/
structure Slot (σ : Type) where
  {α : Type}
  name : String
  decoder : Leniency → Decoder α
  get : σ → α
  set : α → σ → σ
  required : Bool := false

def Slot.field (slot : Slot σ) (l : Leniency) : Field σ :=
  ⟨slot.name, fun d => slot.set <$> slot.decoder l d, slot.required⟩

/-- The slots are all of a record, and no two of them overlap. -/
structure Slot.Cover (slots : List (Slot σ)) : Prop where
  names : (slots.map Slot.name).Nodup
  get_set : ∀ i ∈ slots, ∀ a s, i.get (i.set a s) = a
  get_set_of_ne : ∀ i ∈ slots, ∀ j ∈ slots, i.name ≠ j.name → ∀ a s, i.get (j.set a s) = i.get s
  ext : ∀ s t, (∀ i ∈ slots, i.get s = i.get t) → s = t

/-- What is there is read, and what is not stays as it was. -/
def Takes (decoder : Decoder α) (before : α) : Option Document → α → Prop
  | none, a => a = before
  | some d, a => decoder d = .ok a

/-- The same for a value in place of a document. -/
def TakesValue (decoder : Decoder α) (before : α) (v? : Option Value) (a : α) : Prop :=
  Takes decoder before (v?.map Document.ofValue) a

variable {slots : List (Slot σ)} {l : Leniency} {ds : List (String × Document)}
  {seen seen' : List String} {s s' : σ}

theorem find?_field (hslots : Slot.Cover slots) {i : Slot σ} (hi : i ∈ slots) :
    (slots.map (Slot.field · l)).find? (·.name == i.name) = some (i.field l) := by
  have hfind : slots.find? (fun j => j.name == i.name) = some i := by
    cases hj : slots.find? (fun j => j.name == i.name) with
    | none => simpa using List.find?_eq_none.1 hj i hi
    | some j =>
      have hname : j.name = i.name := by simpa using List.find?_some hj
      rw [List.inj_on_of_nodup_map hslots.names (List.mem_of_find?_eq_some hj) hi hname]
  rw [List.find?_map]
  exact congrArg (Option.map (Slot.field · l)) hfind

theorem find?_field_none {k : String} (hk : k ∉ slots.map Slot.name) :
    (slots.map (Slot.field · l)).find? (·.name == k) = none := by
  simp only [List.find?_eq_none, List.mem_map, forall_exists_index, and_imp,
    forall_apply_eq_imp_iff₂, beq_iff_eq]
  exact fun i hi h => hk (List.mem_map.2 ⟨i, hi, h⟩)

theorem lookup_eq_none_iff {k : String} : ds.lookup k = none ↔ k ∉ ds.map Prod.fst := by
  induction ds with
  | nil => simp
  | cons m ds ih =>
    rw [List.lookup_cons, List.map_cons, List.mem_cons, not_or, ← ih]
    by_cases h : k = m.1
    · simp [h]
    · simp only [beq_false_of_ne h, h, not_false_iff, true_and]

/-- Members are in order if each is a field's and none stands twice. -/
def InOrder (slots : List (Slot σ)) (ks seen : List String) : Prop :=
  ks.Nodup ∧ ∀ k ∈ ks, k ∈ slots.map Slot.name ∧ k ∉ seen

theorem inOrder_cons {k : String} {ks : List String} :
    InOrder slots (k :: ks) seen ↔
      (k ∈ slots.map Slot.name ∧ k ∉ seen) ∧ InOrder slots ks (k :: seen) := by
  rw [InOrder, InOrder, List.nodup_cons, List.forall_mem_cons]
  simp only [List.mem_cons, not_or]
  constructor
  · rintro ⟨⟨hnew, hnodup⟩, hk, hks⟩
    exact ⟨hk, hnodup, fun k' hk' => ⟨(hks k' hk').1, fun h => hnew (h ▸ hk'), (hks k' hk').2⟩⟩
  · rintro ⟨hk, hnodup, hks⟩
    exact ⟨⟨fun h => (hks k h).2.1 rfl, hnodup⟩, hk,
      fun k' hk' => ⟨(hks k' hk').1, (hks k' hk').2.2⟩⟩

/-- The first member is read into its slot, and no other slot takes part in it. -/
theorem takes_cons (hslots : Slot.Cover slots) {i : Slot σ} (hi : i ∈ slots) {d : Document}
    (hnew : i.name ∉ ds.map Prod.fst) :
    (∀ j ∈ slots,
      Takes (j.decoder l) (j.get s) (((i.name, d) :: ds).lookup j.name) (j.get s')) ↔
      ∃ a, i.decoder l d = .ok a ∧
        ∀ j ∈ slots, Takes (j.decoder l) (j.get (i.set a s)) (ds.lookup j.name) (j.get s') := by
  have hnone : ds.lookup i.name = none := lookup_eq_none_iff.2 hnew
  constructor
  · intro h
    have hread : i.decoder l d = .ok (i.get s') := by simpa [Takes] using h i hi
    refine ⟨_, hread, fun j hj => ?_⟩
    by_cases hij : j.name = i.name
    · obtain rfl := List.inj_on_of_nodup_map hslots.names hj hi hij
      simp [hnone, Takes, hslots.get_set j hj]
    · have hj' := h j hj
      rw [hslots.get_set_of_ne j hj i hi hij]
      rwa [List.lookup_cons, beq_false_of_ne hij] at hj'
  · rintro ⟨a, hread, h⟩ j hj
    by_cases hij : j.name = i.name
    · obtain rfl := List.inj_on_of_nodup_map hslots.names hj hi hij
      have hj' := h j hj
      rw [hnone, Takes, hslots.get_set j hj] at hj'
      simpa [Takes, hj'] using hread
    · have hj' := h j hj
      rw [hslots.get_set_of_ne j hj i hi hij] at hj'
      rwa [List.lookup_cons, beq_false_of_ne hij]

/-- A member that a slot waits for is read into it. -/
theorem members_known (hslots : Slot.Cover slots) {i : Slot σ} (hi : i ∈ slots)
    (hseen : i.name ∉ seen) {d : Document} {result : List String × σ} :
    members (slots.map (Slot.field · l)) l seen s ((i.name, d) :: ds) = .ok result ↔
      ∃ a, i.decoder l d = .ok a ∧
        members (slots.map (Slot.field · l)) l (i.name :: seen) (i.set a s) ds = .ok result := by
  rw [members, find?_field hslots hi]
  cases hd : i.decoder l d <;> simp [hseen, hd, Slot.field, bind, Except.bind]

/-- A member that was seen before ends the reading. -/
theorem members_seen (hslots : Slot.Cover slots) {i : Slot σ} (hi : i ∈ slots)
    (hseen : i.name ∈ seen) (d : Document) :
    members (slots.map (Slot.field · l)) l seen s ((i.name, d) :: ds) =
      .error (.duplicateField i.name) := by
  rw [members, find?_field hslots hi]
  simp [hseen, throw, throwThe, MonadExceptOf.throw, bind, Except.bind]

/-- Members are read if they are in order and every slot takes its own. -/
theorem members_eq_ok_iff (hslots : Slot.Cover slots) (hl : l.unknownFields = false) :
    members (slots.map (Slot.field · l)) l seen s ds = .ok (seen', s') ↔
      InOrder slots (ds.map Prod.fst) seen ∧ seen' = (ds.map Prod.fst).reverse ++ seen ∧
      ∀ i ∈ slots, Takes (i.decoder l) (i.get s) (ds.lookup i.name) (i.get s') := by
  induction ds generalizing seen s with
  | nil =>
    have hext : (∀ i ∈ slots, i.get s' = i.get s) ↔ s = s' :=
      ⟨fun h => (hslots.ext s' s h).symm, fun h i _ => h ▸ rfl⟩
    simp [members, InOrder, Takes, hext, eq_comm]
  | cons m ds ih =>
    obtain ⟨k, d⟩ := m
    rw [List.map_cons, inOrder_cons]
    by_cases hk : k ∈ slots.map Slot.name
    · obtain ⟨i, hi, rfl⟩ := List.mem_map.1 hk
      by_cases hseen : i.name ∈ seen
      · simp [members_seen hslots hi hseen, hseen]
      · rw [members_known hslots hi hseen]
        simp only [ih, hk, hseen, not_false_iff, true_and]
        constructor
        · rintro ⟨a, hread, hin, hseen', htakes⟩
          have hnew : i.name ∉ ds.map Prod.fst := fun h => (hin.2 _ h).2 List.mem_cons_self
          exact ⟨hin, by simpa using hseen', (takes_cons hslots hi hnew).2 ⟨a, hread, htakes⟩⟩
        · rintro ⟨hin, hseen', htakes⟩
          have hnew : i.name ∉ ds.map Prod.fst := fun h => (hin.2 _ h).2 List.mem_cons_self
          obtain ⟨a, hread, htakes⟩ := (takes_cons hslots hi hnew).1 htakes
          exact ⟨a, hread, hin, by simpa using hseen', htakes⟩
    · rw [members, find?_field_none hk]
      constructor
      · simp [hl, throw, throwThe, MonadExceptOf.throw, bind, Except.bind]
      · exact fun h => absurd h.1.1.1 hk

/-- A record by name is read if its text goes on to the end, its members are in order, no required
one is missing and every slot takes its own. -/
theorem record_object_eq_ok_iff (hslots : Slot.Cover slots) (hl : l.unknownFields = false)
    (name : String) (ending : Option FaultAt) (index : Nat) :
    record name (slots.map (Slot.field · l)) l s (.object ds ending index) = .ok s' ↔
      ending = none ∧ InOrder slots (ds.map Prod.fst) [] ∧
      (∀ i ∈ slots, i.required = true → i.name ∈ ds.map Prod.fst) ∧
      ∀ i ∈ slots, Takes (i.decoder l) (i.get s) (ds.lookup i.name) (i.get s') := by
  have hmembers (seen' : List String) :
      members (slots.map (Slot.field · l)) l [] s ds = .ok (seen', s') ↔
        InOrder slots (ds.map Prod.fst) [] ∧ seen' = (ds.map Prod.fst).reverse ++ [] ∧
        ∀ i ∈ slots, Takes (i.decoder l) (i.get s) (ds.lookup i.name) (i.get s') :=
    members_eq_ok_iff hslots hl
  have hmissing : (slots.map (Slot.field · l)).find? (fun f =>
      f.required && !((ds.map Prod.fst).reverse ++ []).contains f.name) = none ↔
      ∀ i ∈ slots, i.required = true → i.name ∈ ds.map Prod.fst := by
    simp [List.find?_eq_none, Slot.field]
  constructor
  · intro h
    rw [record] at h
    cases hread : members (slots.map (Slot.field · l)) l [] s ds with
    | error e => simp [hread, bind, Except.bind] at h
    | ok r =>
      obtain ⟨seen', t⟩ := r
      cases ending with
      | some f => simp [hread, finish, bind, Except.bind] at h
      | none =>
        cases hfind : (slots.map (Slot.field · l)).find? fun f =>
            f.required && !seen'.contains f.name with
        | some f =>
          simp only [hread, hfind, finish, throw, throwThe, MonadExceptOf.throw, bind, Except.bind,
            reduceCtorEq] at h
        | none =>
          simp only [hread, hfind, finish, bind, Except.bind, pure, Except.pure,
            Except.ok.injEq] at h
          subst h
          obtain ⟨hin, rfl, htakes⟩ := (hmembers _).1 hread
          exact ⟨rfl, hin, hmissing.1 hfind, htakes⟩
  · rintro ⟨rfl, hin, hrequired, htakes⟩
    rw [record, (hmembers _).2 ⟨hin, rfl, htakes⟩]
    have hfind := hmissing.2 hrequired
    simp only [finish, bind, Except.bind, hfind]
    rfl

/-! ## Documents of values -/

theorem keys_ofMembers (ms : List (String × Value)) :
    (Document.ofMembers ms).map Prod.fst = ms.map Prod.fst := by
  induction ms with
  | nil => rfl
  | cons m ms ih => simp [Document.ofMembers, ih]

theorem lookup_ofMembers (k : String) (ms : List (String × Value)) :
    (Document.ofMembers ms).lookup k = (Value.member? k ms).map Document.ofValue := by
  induction ms with
  | nil => rfl
  | cons m ms ih =>
    rw [Document.ofMembers, List.lookup_cons, ih]
    by_cases h : k = m.1
    · simp [Value.member?, h]
    · simp [Value.member?, h, beq_false_of_ne h]

/-- What an object is read as depends on its keys and what they lead to. -/
theorem record_ofValue_eq_ok_iff (hslots : Slot.Cover slots) (hl : l.unknownFields = false)
    (name : String) (ms : List (String × Value)) :
    record name (slots.map (Slot.field · l)) l s (.ofValue (.object ms)) = .ok s' ↔
      InOrder slots (ms.map Prod.fst) [] ∧
      (∀ i ∈ slots, i.required = true → i.name ∈ ms.map Prod.fst) ∧
      ∀ i ∈ slots, TakesValue (i.decoder l) (i.get s) (Value.member? i.name ms) (i.get s') := by
  simp only [Document.ofValue, record_object_eq_ok_iff hslots hl, keys_ofMembers,
    lookup_ofMembers, true_and, TakesValue]

/-! ## Faithful decoders -/

/-- What is strictly read off a document is also read off the value of this document. -/
def Faithful (decoder : Leniency → Decoder α) : Prop :=
  ∀ l : Leniency, l.unknownFields = false → ∀ d a, decoder .none d = .ok a →
    ∃ v, d.value = .ok v ∧ decoder l (.ofValue v) = .ok a

theorem faithful_text (expected : String) : Faithful fun _ => text expected := by
  intro l _ d a h
  cases d with
  | string s stop => exact ⟨.string s, rfl, h⟩
  | _ => simp [text] at h

theorem faithful_natural : Faithful fun _ => natural := by
  intro l _ d a h
  cases d with
  | number n stop =>
    cases n with
    | ok n =>
      cases n with
      | natural n => exact ⟨.number (.natural n), rfl, h⟩
      | _ => simp [natural] at h
    | error f => simp [natural] at h
  | _ => simp [natural] at h

theorem optional_of_ne_null {item : Decoder α} {d : Document} (hd : ∀ i, d ≠ .null i) :
    optional item d = some <$> item d := by
  cases d with
  | null i => exact absurd rfl (hd i)
  | _ => rfl

theorem ofValue_ne_null {d : Document} {v : Value} (hd : ∀ i, d ≠ .null i)
    (hv : d.value = .ok v) : ∀ i, Document.ofValue v ≠ .null i := by
  cases v with
  | null =>
    obtain ⟨i, rfl⟩ := Document.shape_of_value hv
    exact absurd rfl (hd i)
  | _ => simp [Document.ofValue]

theorem Faithful.optional {item : Leniency → Decoder α} (h : Faithful item) :
    Faithful fun l => optional (item l) := by
  intro l hl d a hd
  by_cases hnull : ∃ i, d = .null i
  · obtain ⟨i, rfl⟩ := hnull
    exact ⟨.null, rfl, hd⟩
  · have hne : ∀ i, d ≠ .null i := fun i hi => hnull ⟨i, hi⟩
    dsimp only at hd ⊢
    rw [optional_of_ne_null hne] at hd
    cases hitem : item .none d with
    | error e => simp [hitem] at hd
    | ok b =>
      obtain ⟨v, hv, hread⟩ := h l hl d b hitem
      refine ⟨v, hv, ?_⟩
      rw [optional_of_ne_null (ofValue_ne_null hne hv), hread, ← hd, hitem]

theorem mapM_faithful {item : Leniency → Decoder α} (h : Faithful item)
    (hl : l.unknownFields = false) {ds : List Document} {as : List α}
    (hds : ds.mapM (item .none) = .ok as) :
    ∃ vs, Document.valueItems ds = .ok vs ∧
      (Document.ofValues vs).mapM (item l) = .ok as := by
  induction ds generalizing as with
  | nil => exact ⟨[], rfl, hds⟩
  | cons d ds ih =>
    rw [List.mapM_cons] at hds
    cases hd : item .none d with
    | error e => simp [hd, bind, Except.bind] at hds
    | ok a =>
      cases hrest : ds.mapM (item .none) with
      | error e => simp [hd, hrest, bind, Except.bind] at hds
      | ok rest =>
        obtain ⟨v, hv, hread⟩ := h l hl d a hd
        obtain ⟨vs, hvs, hreads⟩ := ih hrest
        refine ⟨v :: vs, ?_, ?_⟩
        · rw [Document.valueItems, hv, hvs]
          rfl
        · rw [Document.ofValues, List.mapM_cons, hread, hreads, ← hds, hd, hrest]

theorem Faithful.list {item : Leniency → Decoder α} (h : Faithful item) :
    Faithful fun l => list (item l) := by
  intro l hl d as hd
  cases d with
  | array ds ending start =>
    cases hds : ds.mapM (item .none) with
    | error e => simp [Decoder.list, hds, bind, Except.bind] at hd
    | ok bs =>
      cases ending with
      | some f => simp [Decoder.list, hds, finish, bind, Except.bind] at hd
      | none =>
        obtain ⟨vs, hvs, hreads⟩ := mapM_faithful h hl hds
        refine ⟨.array vs, ?_, ?_⟩
        · rw [Document.value, hvs]
          rfl
        · simpa [Decoder.list, hds, finish, bind, Except.bind, Document.ofValue, hreads] using hd
  | _ => simp [Decoder.list] at hd

/-! ### Records -/

theorem lookup_of_mem {k : String} {d : Document} (hds : (ds.map Prod.fst).Nodup)
    (h : (k, d) ∈ ds) : ds.lookup k = some d := by
  induction ds with
  | nil => simp at h
  | cons m ds ih =>
    rw [List.map_cons, List.nodup_cons] at hds
    rcases List.mem_cons.1 h with rfl | h
    · simp
    · have hk : k ≠ m.1 := fun hk => hds.1 (hk ▸ List.mem_map_of_mem h)
      rw [List.lookup_cons, beq_false_of_ne hk]
      exact ih hds.2 h

/-- Members that have values have them under their own keys. -/
theorem valueMembers_of_forall (h : ∀ m ∈ ds, ∃ v, m.2.value = .ok v) :
    ∃ ms, Document.valueMembers ds = .ok ms ∧ ms.map Prod.fst = ds.map Prod.fst ∧
      ∀ k, (Value.member? k ms).map Except.ok = (ds.lookup k).map Document.value := by
  induction ds with
  | nil => exact ⟨[], rfl, rfl, fun _ => rfl⟩
  | cons m ds ih =>
    obtain ⟨k, d⟩ := m
    obtain ⟨v, hv⟩ := h (k, d) List.mem_cons_self
    obtain ⟨ms, hms, hkeys, hmember⟩ := ih fun m hm => h m (List.mem_cons_of_mem _ hm)
    refine ⟨(k, v) :: ms, ?_, by simp [hkeys], fun k' => ?_⟩
    · rw [Document.valueMembers, hv, hms]
      rfl
    · rw [List.lookup_cons]
      by_cases hk : k' = k
      · simpa [Value.member?, hk] using hv.symm
      · simp only [Value.member?, hk, if_false, beq_false_of_ne hk, hmember]

theorem InOrder.of_perm {ks ks' : List String} (h : InOrder slots ks seen) (hp : ks'.Perm ks) :
    InOrder slots ks' seen :=
  ⟨hp.nodup_iff.2 h.1, fun k hk => h.2 k (hp.mem_iff.1 hk)⟩

variable {start : σ} {name : String}

theorem record_object_faithful (hslots : Slot.Cover slots)
    (hfaithful : ∀ i ∈ slots, Faithful i.decoder) (hl : l.unknownFields = false)
    {ending : Option FaultAt} {index : Nat}
    (h : record name (slots.map (Slot.field · .none)) .none s (.object ds ending index) = .ok s') :
    ∃ v, (Document.object ds ending index).value = .ok v ∧
      record name (slots.map (Slot.field · l)) l s (.ofValue v) = .ok s' := by
  obtain ⟨rfl, hin, hrequired, htakes⟩ :=
    (record_object_eq_ok_iff hslots (by rfl) name ending index).1 h
  have htaken : ∀ i ∈ slots, ∀ d, ds.lookup i.name = some d →
      ∃ v, d.value = .ok v ∧ i.decoder l (.ofValue v) = .ok (i.get s') := by
    intro i hi d hd
    have hread := htakes i hi
    rw [hd] at hread
    exact hfaithful i hi l hl d _ hread
  have hvalues : ∀ m ∈ ds, ∃ v, m.2.value = .ok v := by
    intro m hm
    obtain ⟨i, hi, hname⟩ := List.mem_map.1 (hin.2 m.1 (List.mem_map_of_mem hm)).1
    obtain ⟨v, hv, -⟩ := htaken i hi m.2 (hname ▸ lookup_of_mem hin.1 hm)
    exact ⟨v, hv⟩
  obtain ⟨ms, hms, hkeys, hmember⟩ := valueMembers_of_forall hvalues
  have hnodup : (ms.map Prod.fst).Nodup := hkeys ▸ hin.1
  have hperm : ((Value.sortMembers ms).map Prod.fst).Perm (ds.map Prod.fst) :=
    hkeys ▸ (Value.sortMembers_perm hnodup).map Prod.fst
  refine ⟨.object (Value.sortMembers ms), ?_, ?_⟩
  · rw [Document.value, hms]
    rfl
  · rw [record_ofValue_eq_ok_iff hslots hl]
    refine ⟨hin.of_perm hperm, fun i hi hi' => hperm.mem_iff.2 (hrequired i hi hi'), ?_⟩
    intro i hi
    rw [Value.member?_sortMembers _ hnodup, TakesValue]
    have hi' := hmember i.name
    cases hd : ds.lookup i.name with
    | none =>
      rw [hd, Option.map_none, Option.map_eq_none_iff] at hi'
      have hkept := htakes i hi
      rw [hd] at hkept
      rw [hi']
      exact hkept
    | some d =>
      obtain ⟨v, hv, hread⟩ := htaken i hi d hd
      rw [hd, Option.map_some, hv, Option.map_eq_some_iff] at hi'
      obtain ⟨v', hv', hsame⟩ := hi'
      rw [hv', Except.ok.inj hsame]
      exact hread

/-- Fields by position are faithful as long as there are no more items than fields. -/
theorem positions_faithful (hfaithful : ∀ i ∈ slots, Faithful i.decoder)
    (hl : l.unknownFields = false) {items : List Document} {unset : List (Field σ)}
    (h : positions (slots.map (Slot.field · .none)) s items = .ok (unset, s', [])) :
    ∃ vs unset', Document.valueItems items = .ok vs ∧
      positions (slots.map (Slot.field · l)) s (Document.ofValues vs) = .ok (unset', s', []) ∧
      unset'.any Field.required = unset.any Field.required := by
  induction slots generalizing s items with
  | nil =>
    simp only [List.map_nil, positions, Except.ok.injEq, Prod.mk.injEq] at h
    obtain ⟨rfl, rfl, rfl⟩ := h
    exact ⟨[], [], rfl, rfl, rfl⟩
  | cons i slots ih =>
    cases items with
    | nil =>
      simp only [List.map_cons, positions, Except.ok.injEq, Prod.mk.injEq] at h
      obtain ⟨rfl, rfl, -⟩ := h
      refine ⟨[], _, rfl, rfl, ?_⟩
      simp [Slot.field, Function.comp_def]
    | cons d items =>
      rw [List.map_cons, positions] at h
      cases hd : i.decoder .none d with
      | error e => simp [Slot.field, hd, bind, Except.bind] at h
      | ok a =>
        have hrest : positions (slots.map (Slot.field · .none)) (i.set a s) items =
            .ok (unset, s', []) := by
          simpa [Slot.field, hd, bind, Except.bind] using h
        obtain ⟨v, hv, hread⟩ := hfaithful i List.mem_cons_self l hl d a hd
        obtain ⟨vs, unset', hvs, hreads, hsame⟩ :=
          ih (fun j hj => hfaithful j (List.mem_cons_of_mem _ hj)) hrest
        refine ⟨v :: vs, unset', ?_, ?_, hsame⟩
        · rw [Document.valueItems, hv, hvs]
          rfl
        · rw [Document.ofValues, List.map_cons, positions]
          simpa [Slot.field, hread, bind, Except.bind] using hreads

theorem positions_rest {fields unset : List (Field σ)} {items rest : List Document}
    (h : positions fields s items = .ok (unset, s', rest)) (hne : unset.isEmpty = false) :
    rest = [] := by
  induction fields generalizing s items with
  | nil =>
    simp only [positions, Except.ok.injEq, Prod.mk.injEq] at h
    simp [← h.1] at hne
  | cons f fields ih =>
    cases items with
    | nil =>
      simp only [positions, Except.ok.injEq, Prod.mk.injEq] at h
      exact h.2.2.symm
    | cons d items =>
      rw [positions] at h
      cases hd : f.set d with
      | error e => simp [hd, bind, Except.bind] at h
      | ok g => exact ih (by simpa [hd, bind, Except.bind] using h)

theorem record_array_of_positions {fields unset : List (Field σ)} {items : List Document}
    {index : Nat} (h : positions fields s items = .ok (unset, s', []))
    (hrequired : unset.any Field.required = false) :
    record name fields l s (.array items none index) = .ok s' := by
  cases hempty : unset.isEmpty <;>
    simp [record, h, hempty, hrequired, finish, bind, Except.bind, pure, Except.pure]

/-- A record by position is strictly read only if its text goes on to the end, nothing is left over
and no required field is left out. -/
theorem positions_of_record_array {fields : List (Field σ)} {items : List Document}
    {ending : Option FaultAt} {index : Nat}
    (h : record name fields .none s (.array items ending index) = .ok s') :
    ending = none ∧ ∃ unset, positions fields s items = .ok (unset, s', []) ∧
      unset.any Field.required = false := by
  rw [record] at h
  cases hread : positions fields s items with
  | error e => simp [hread, bind, Except.bind] at h
  | ok r =>
    obtain ⟨unset, t, rest⟩ := r
    simp only [hread, bind, Except.bind, Leniency.none, Bool.false_or] at h
    cases hempty : unset.isEmpty with
    | true =>
      obtain rfl : unset = [] := List.isEmpty_iff.1 hempty
      cases ending with
      | none =>
        cases rest with
        | nil =>
          obtain rfl : t = s' := by simpa [pure, Except.pure] using h
          exact ⟨rfl, [], rfl, rfl⟩
        | cons d rest => simp [throw, throwThe, MonadExceptOf.throw] at h
      | some f =>
        cases hend : rest.isEmpty && f.fault.isEnd <;>
          simp [hend, throw, throwThe, MonadExceptOf.throw] at h
    | false =>
      obtain rfl := positions_rest hread hempty
      cases ending with
      | none =>
        cases hrequired : unset.any Field.required with
        | true =>
          simp [hempty, hrequired, finish, throw, throwThe, MonadExceptOf.throw] at h
        | false =>
          obtain rfl : t = s' := by simpa [hempty, hrequired, finish, pure, Except.pure] using h
          exact ⟨rfl, unset, rfl, hrequired⟩
      | some f => simp [hempty, finish] at h

/-- A record of faithfully read slots is faithfully read, by name and by position. -/
theorem faithful_record (hslots : Slot.Cover slots) (hfaithful : ∀ i ∈ slots, Faithful i.decoder) :
    Faithful fun l => record name (slots.map (Slot.field · l)) l start := by
  intro l hl d a h
  cases d with
  | object ds ending index => exact record_object_faithful hslots hfaithful hl h
  | array items ending index =>
    obtain ⟨rfl, unset, hread, hrequired⟩ := positions_of_record_array h
    obtain ⟨vs, unset', hvs, hreads, hsame⟩ := positions_faithful hfaithful hl hread
    refine ⟨.array vs, ?_, ?_⟩
    · rw [Document.value, hvs]
      rfl
    · exact record_array_of_positions hreads (hsame.trans hrequired)
  | _ => simp [record] at h

end ModuleBundler.Json.Decoder
