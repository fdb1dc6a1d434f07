import Mathlib.Data.List.Nodup
import ModuleBundler.OrderedMap

/-!
# Looking up what was inserted

A map gives the value that was last inserted at a key. Made from a list with distinct keys, it has
the pairs of this list as its entries.
-/

namespace ModuleBundler.OrderedMap

variable {κ α : Type} [DecidableEq κ]

theorem find?_insertEntries (k j : κ) (a : α) (es : List (κ × α)) :
    ((insertEntries k a es).find? (·.1 == j)).map Prod.snd =
      if j = k then some a else (es.find? (·.1 == j)).map Prod.snd := by
  induction es with
  | nil =>
    by_cases hj : k = j
    · simp [insertEntries, hj]
    · simp [insertEntries, hj, Ne.symm hj]
  | cons e es ih =>
    by_cases he : e.1 = k
    · by_cases hj : k = j
      · simp [insertEntries, he, hj]
      · simp [insertEntries, he, hj, Ne.symm hj]
    · by_cases hj : e.1 = j
      · have hjk : j ≠ k := fun h => he (hj.trans h)
        simp [insertEntries, hj, hjk]
      · simpa [insertEntries, he, hj] using ih

theorem get?_insert (m : OrderedMap κ α) (k j : κ) (a : α) :
    (m.insert k a).get? j = if j = k then some a else m.get? j :=
  find?_insertEntries k j a m.entries

theorem keys_insert (m : OrderedMap κ α) (k : κ) (a : α) :
    (m.insert k a).keys = if k ∈ m.keys then m.keys else m.keys ++ [k] :=
  keys_insertEntries k a m.entries

theorem get?_eq_none {m : OrderedMap κ α} {k : κ} : m.get? k = none ↔ k ∉ m.keys := by
  rw [get?, Option.map_eq_none_iff, List.find?_eq_none, keys, List.mem_map]
  exact ⟨fun h ⟨e, he, hk⟩ => h e he (beq_iff_eq.2 hk), fun h e he hk => h ⟨e, he, beq_iff_eq.1 hk⟩⟩

theorem mem_entries_of_get? {m : OrderedMap κ α} {k : κ} {a : α} (h : m.get? k = some a) :
    (k, a) ∈ m.entries := by
  obtain ⟨e, he, rfl⟩ := Option.map_eq_some_iff.1 h
  have hk : e.1 = k := by simpa using List.find?_some he
  exact hk ▸ List.mem_of_find?_eq_some he

theorem mem_values_of_get? {m : OrderedMap κ α} {k : κ} {a : α} (h : m.get? k = some a) :
    a ∈ m.values :=
  List.mem_map_of_mem (f := Prod.snd) (mem_entries_of_get? h)

/-- Every entry is found under its key. -/
theorem get?_of_mem {m : OrderedMap κ α} {e : κ × α} (h : e ∈ m.entries) :
    m.get? e.1 = some e.2 := by
  cases hget : m.get? e.1 with
  | none => exact absurd (List.mem_map_of_mem h) (get?_eq_none.1 hget)
  | some a =>
    have heq : (e.1, a) = e := List.inj_on_of_nodup_map m.nodup (mem_entries_of_get? hget) h rfl
    rw [← heq]

theorem contains_eq_isSome (m : OrderedMap κ α) (k : κ) : m.contains k = (m.get? k).isSome := by
  rw [contains, Bool.eq_iff_iff, decide_eq_true_iff, Option.isSome_iff_ne_none]
  exact (not_iff_comm.1 get?_eq_none.symm).symm

/-! ## Maps from a list of distinct keys -/

theorem insertEntries_of_new {k : κ} {a : α} {es : List (κ × α)} (h : k ∉ es.map Prod.fst) :
    insertEntries k a es = es ++ [(k, a)] := by
  induction es with
  | nil => rfl
  | cons e es ih =>
    rw [List.map_cons, List.mem_cons, not_or] at h
    rw [insertEntries, if_neg fun he => h.1 he.symm, ih h.2]
    rfl

theorem entries_foldl_insert {es : List (κ × α)} (m : OrderedMap κ α)
    (h : (m.entries ++ es).map Prod.fst |>.Nodup) :
    (es.foldl (fun m e => m.insert e.1 e.2) m).entries = m.entries ++ es := by
  induction es generalizing m with
  | nil => exact (List.append_nil _).symm
  | cons e es ih =>
    have hnew : e.1 ∉ m.entries.map Prod.fst := by
      rw [List.map_append, List.map_cons, List.nodup_append] at h
      exact fun hm => h.2.2 _ hm _ List.mem_cons_self rfl
    have hinsert : (m.insert e.1 e.2).entries = m.entries ++ [e] := insertEntries_of_new hnew
    rw [List.foldl_cons, ih, hinsert, List.append_assoc]
    · rfl
    · rw [hinsert, List.append_assoc]
      exact h

/-- A list with distinct keys is the list of entries. -/
theorem entries_ofList {es : List (κ × α)} (h : (es.map Prod.fst).Nodup) :
    (ofList es).entries = es :=
  entries_foldl_insert empty h

/-- A map is made again from its entries. -/
theorem ofList_entries (m : OrderedMap κ α) : ofList m.entries = m := by
  have h : (ofList m.entries).entries = m.entries := entries_ofList m.nodup
  generalize ofList m.entries = m' at h
  cases m
  cases m'
  cases h
  rfl

variable {f : κ → α} {ks : List κ}

theorem entries_ofList_map (h : ks.Nodup) :
    (ofList (ks.map fun k => (k, f k))).entries = ks.map fun k => (k, f k) := by
  apply entries_ofList
  rw [List.map_map]
  exact (List.map_id ks).symm ▸ h

theorem keys_ofList_map (h : ks.Nodup) : (ofList (ks.map fun k => (k, f k))).keys = ks := by
  rw [keys, entries_ofList_map h, List.map_map]
  exact List.map_id ks

end ModuleBundler.OrderedMap
