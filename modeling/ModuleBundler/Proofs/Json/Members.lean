import Mathlib.Data.List.Perm.Lattice
import ModuleBundler.Json.Value

/-!
# Looking members up

What a key leads to in members that were sorted or laid over each other. As long as keys are
distinct, no look-up can tell whether members were sorted, and one layer over another is known by
what each of them has at a key.
-/

namespace ModuleBundler.Json.Value

variable {k k' : String} {v : Value} {ms lower upper : List (String × Value)}

theorem member?_eq_none_iff : member? k ms = none ↔ k ∉ ms.map Prod.fst := by
  induction ms with
  | nil => simp [member?]
  | cons m ms ih =>
    by_cases h : k = m.1 <;> simp [member?, h, ih]

theorem mem_of_member? (h : member? k ms = some v) : (k, v) ∈ ms := by
  induction ms with
  | nil => simp [member?] at h
  | cons m ms ih =>
    by_cases hk : k = m.1
    · simp only [member?, hk, if_true, Option.some.injEq] at h
      simp [hk, ← h]
    · simp only [member?, hk, if_false] at h
      exact List.mem_cons_of_mem _ (ih h)

theorem member?_of_mem (hms : (ms.map Prod.fst).Nodup) (h : (k, v) ∈ ms) :
    member? k ms = some v := by
  induction ms with
  | nil => simp at h
  | cons m ms ih =>
    rw [List.map_cons, List.nodup_cons] at hms
    rcases List.mem_cons.1 h with rfl | h
    · simp [member?]
    · have hk : k ≠ m.1 := fun hk => hms.1 (hk ▸ List.mem_map_of_mem h)
      simp [member?, hk, ih hms.2 h]

/-! ## Sorted members -/

theorem insertMember_perm (h : k ∉ ms.map Prod.fst) :
    (insertMember k v ms).Perm ((k, v) :: ms) := by
  induction ms with
  | nil => exact .refl _
  | cons m ms ih =>
    rw [List.map_cons, List.mem_cons, not_or] at h
    rw [insertMember, if_neg h.1]
    split
    · exact .refl _
    · exact ((ih h.2).cons m).trans (.swap ..)

theorem foldl_insertMember_perm (found : List (String × Value))
    (h : ((ms ++ found).map Prod.fst).Nodup) :
    (ms.foldl (fun found m => insertMember m.1 m.2 found) found).Perm (ms ++ found) := by
  induction ms generalizing found with
  | nil => exact .refl _
  | cons m ms ih =>
    rw [List.cons_append, List.map_cons, List.nodup_cons] at h
    have hm : m.1 ∉ found.map Prod.fst := fun hm => h.1 (by simp [hm])
    have hinsert := insertMember_perm (v := m.2) hm
    have hperm : (ms ++ insertMember m.1 m.2 found).Perm (m :: (ms ++ found)) :=
      (hinsert.append_left ms).trans List.perm_middle
    have hnodup : ((ms ++ insertMember m.1 m.2 found).map Prod.fst).Nodup := by
      rw [(hperm.map Prod.fst).nodup_iff]
      exact List.nodup_cons.2 h
    exact (ih _ hnodup).trans hperm

/-- Members with distinct keys are only put into another order. -/
theorem sortMembers_perm (h : (ms.map Prod.fst).Nodup) : (sortMembers ms).Perm ms := by
  have hfold := foldl_insertMember_perm [] (by rwa [List.append_nil])
  rwa [List.append_nil] at hfold

/-- Sorting members with distinct keys changes no look-up. -/
theorem member?_sortMembers (k : String) (h : (ms.map Prod.fst).Nodup) :
    member? k (sortMembers ms) = member? k ms := by
  have hperm := sortMembers_perm h
  have hnodup : ((sortMembers ms).map Prod.fst).Nodup := (hperm.map Prod.fst).nodup_iff.2 h
  ext v
  constructor
  · exact fun hv => member?_of_mem h (hperm.mem_iff.1 (mem_of_member? hv))
  · exact fun hv => member?_of_mem hnodup (hperm.mem_iff.2 (mem_of_member? hv))

/-! ## Layers -/

theorem member?_setMember (k k' : String) (v : Value) (ms : List (String × Value)) :
    member? k (setMember k' v ms) = if k = k' then some v else member? k ms := by
  induction ms with
  | nil => rfl
  | cons m ms ih =>
    by_cases hm : k' = m.1
    · subst hm
      by_cases hk : k = m.1 <;> simp [setMember, member?, hk]
    · by_cases hk : k = m.1
      · have hne : m.1 ≠ k' := fun h => hm h.symm
        simp [setMember, member?, hm, hk, hne]
      · simp [setMember, member?, hm, hk, ih]

theorem keys_setMember (k : String) (v : Value) (ms : List (String × Value)) :
    (setMember k v ms).map Prod.fst =
      if k ∈ ms.map Prod.fst then ms.map Prod.fst else ms.map Prod.fst ++ [k] := by
  induction ms with
  | nil => simp [setMember]
  | cons m ms ih =>
    by_cases hm : k = m.1
    · simp [setMember, hm]
    · by_cases hk : k ∈ ms.map Prod.fst <;> simp_all [setMember]

theorem nodup_setMember (h : (ms.map Prod.fst).Nodup) :
    ((setMember k v ms).map Prod.fst).Nodup := by
  rw [keys_setMember]
  by_cases hk : k ∈ ms.map Prod.fst
  · rwa [if_pos hk]
  · rw [if_neg hk]
    exact List.nodup_append.2 ⟨h, by simp, fun a ha b hb hab =>
      hk (List.mem_singleton.1 hb ▸ hab ▸ ha)⟩

/-- What is laid over a value at one key. -/
def atop (lower? : Option Value) (v : Value) : Value := lower?.elim v fun below => layer below v

/-- The upper layer counts where it has something; what is below is not lost in objects. -/
theorem member?_layerMembers (k : String) (hupper : (upper.map Prod.fst).Nodup) :
    member? k (layerMembers lower upper) =
      ((member? k upper).map (atop (member? k lower))).or (member? k lower) := by
  induction upper generalizing lower with
  | nil => simp [layerMembers, member?]
  | cons m upper ih =>
    rw [List.map_cons, List.nodup_cons] at hupper
    rw [layerMembers, ih hupper.2, member?_setMember]
    by_cases hk : k = m.1
    · have hnone : member? k upper = none := member?_eq_none_iff.2 (hk ▸ hupper.1)
      subst hk
      simp [member?, hnone, atop]
    · simp [member?, hk]

theorem mem_keys_layerMembers (hupper : (upper.map Prod.fst).Nodup) :
    k ∈ (layerMembers lower upper).map Prod.fst ↔
      k ∈ lower.map Prod.fst ∨ k ∈ upper.map Prod.fst := by
  rw [← not_iff_not, not_or, ← member?_eq_none_iff, ← member?_eq_none_iff, ← member?_eq_none_iff,
    member?_layerMembers k hupper, Option.or_eq_none_iff, Option.map_eq_none_iff, and_comm]

theorem nodup_layerMembers (hlower : (lower.map Prod.fst).Nodup) :
    ((layerMembers lower upper).map Prod.fst).Nodup := by
  induction upper generalizing lower with
  | nil => simpa [layerMembers] using hlower
  | cons m upper ih =>
    rw [layerMembers]
    exact ih (nodup_setMember hlower)

theorem setMember_of_new (h : k ∉ ms.map Prod.fst) : setMember k v ms = ms ++ [(k, v)] := by
  induction ms with
  | nil => rfl
  | cons m ms ih =>
    rw [List.map_cons, List.mem_cons, not_or] at h
    simp [setMember, h.1, ih h.2]

theorem layerMembers_new (h : ((lower ++ upper).map Prod.fst).Nodup) :
    layerMembers lower upper = lower ++ upper := by
  induction upper generalizing lower with
  | nil => simp [layerMembers]
  | cons m upper ih =>
    have hnew : m.1 ∉ lower.map Prod.fst := by
      rw [List.map_append, List.map_cons, List.nodup_append] at h
      exact fun hm => h.2.2 _ hm _ List.mem_cons_self rfl
    have hnone : member? m.1 lower = none := member?_eq_none_iff.2 hnew
    rw [layerMembers, hnone, Option.elim_none, setMember_of_new hnew, ih (by simpa using h)]
    simp

/-- Over nothing, a layer is what it is. -/
theorem layerMembers_nil (h : (ms.map Prod.fst).Nodup) : layerMembers [] ms = ms :=
  layerMembers_new h

end ModuleBundler.Json.Value
