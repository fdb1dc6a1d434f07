import ModuleBundler.Plugin.Builtin
import ModuleBundler.Proofs.OrderedMap

/-!
# Registries that come about by declaring and registering

Whatever is declared and registered, the built-in hooks stay what they are, and a hook that does not
wait has no listener that does. A plugin that only registers listeners adds these and no others.
-/

namespace ModuleBundler

namespace Hook.Registry

variable {r r' : Registry} {hook : String}

/-- What a declaration does to a hook. -/
theorem declare_cases {kind : Kind} (h : r.declare hook kind = .ok r') (j : String) :
    r'.hooks.get? j = r.hooks.get? j ∨
      r.hooks.get? j = none ∧ r'.hooks.get? j = some ⟨kind, []⟩ := by
  unfold declare at h
  split at h
  · rename_i hnone
    cases h
    rw [OrderedMap.get?_insert]
    by_cases hj : j = hook
    · subst hj
      rw [kind?, Option.map_eq_none_iff] at hnone
      exact .inr ⟨hnone, if_pos rfl⟩
    · exact .inl (if_neg hj)
  · split at h
    · cases h
      exact .inl rfl
    · cases h

/-- What a registration does to a hook. -/
theorem register_cases {name : String} {l : Listener} (h : r.register hook name l = .ok r')
    (j : String) :
    r'.hooks.get? j = r.hooks.get? j ∨
      ∃ d, r.hooks.get? j = some d ∧ (d.kind = .sync → l.isAsync = false) ∧
        r'.hooks.get? j = some { d with taps := d.taps ++ [⟨name, l⟩] } := by
  unfold register at h
  split at h
  · cases h
  · rename_i d hd
    split at h
    · cases h
    · rename_i hkind
      cases h
      rw [OrderedMap.get?_insert]
      by_cases hj : j = hook
      · subst hj
        refine .inr ⟨d, hd, fun hsync => ?_, if_pos rfl⟩
        simpa [hsync] using hkind
      · exact .inl (if_neg hj)

theorem mem_taps_of_register {name : String} {l : Listener} (h : r.register hook name l = .ok r')
    {j : String} {tap : Tap} (htap : tap ∈ r'.taps j) : tap ∈ r.taps j ∨ tap.listener = l := by
  obtain hsame | ⟨d, hd, -, hnew⟩ := register_cases h j
  · rw [taps, hsame] at htap
    exact .inl htap
  · rw [taps, hnew] at htap
    rw [taps, hd]
    rcases List.mem_append.1 htap with htap | htap
    · exact .inl htap
    · exact .inr (List.mem_singleton.1 htap ▸ rfl)

theorem taps_builtin (hook : String) : builtin.taps hook = [] := by
  have hentries : builtin.hooks.entries = builtins.map fun p => (p.1, ⟨p.2, []⟩) := rfl
  rw [taps, OrderedMap.get?, hentries, List.find?_map]
  cases builtins.find? ((fun e : String × Declaration => e.1 == hook) ∘ _) <;> rfl

/-- Registries as declaring and registering make them. -/
inductive Made : Registry → Prop
  | builtin : Made builtin
  | declare {r r' : Registry} {hook : String} {kind : Kind} (hr : r.Made)
    (h : r.declare hook kind = .ok r') : Made r'
  | register {r r' : Registry} {hook name : String} {l : Listener} (hr : r.Made)
    (h : r.register hook name l = .ok r') : Made r'

namespace Made

/-- The built-in hooks stay declared as what they are. -/
theorem exists_builtin (h : r.Made) {kind : Kind} (hb : (hook, kind) ∈ builtins) :
    ∃ taps, r.hooks.get? hook = some ⟨kind, taps⟩ := by
  induction h with
  | builtin =>
    simp only [builtins, List.mem_cons, Prod.mk.injEq, List.not_mem_nil, or_false] at hb
    obtain ⟨rfl, rfl⟩ | ⟨rfl, rfl⟩ | ⟨rfl, rfl⟩ | ⟨rfl, rfl⟩ := hb
    all_goals exact ⟨[], rfl⟩
  | declare hr h ih =>
    obtain ⟨taps, hget⟩ := ih
    obtain hsame | ⟨hnone, -⟩ := declare_cases h hook
    · exact ⟨taps, hsame.trans hget⟩
    · rw [hget] at hnone
      cases hnone
  | register hr h ih =>
    obtain ⟨taps, hget⟩ := ih
    obtain hsame | ⟨d, hd, -, hnew⟩ := register_cases h hook
    · exact ⟨taps, hsame.trans hget⟩
    · rw [hget] at hd
      cases hd
      exact ⟨_, hnew⟩

theorem get?_builtin (h : r.Made) {kind : Kind} (hb : (hook, kind) ∈ builtins) :
    r.hooks.get? hook = some ⟨kind, r.taps hook⟩ := by
  obtain ⟨taps, hget⟩ := h.exists_builtin hb
  rw [hget, Registry.taps, hget]
  rfl

/-- The listeners of a hook that does not wait do not wait. -/
theorem isAsync_eq_false (h : r.Made) {taps : List Tap}
    (hd : r.hooks.get? hook = some ⟨.sync, taps⟩) :
    ∀ tap ∈ taps, tap.listener.isAsync = false := by
  induction h generalizing taps with
  | builtin =>
    have htaps := taps_builtin hook
    rw [Registry.taps, hd] at htaps
    cases htaps
    simp
  | declare hr h ih =>
    obtain hsame | ⟨-, hnew⟩ := declare_cases h hook
    · exact ih (hsame.symm.trans hd)
    · rw [hnew] at hd
      cases hd
      simp
  | register hr h ih =>
    obtain hsame | ⟨d, hold, hl, hnew⟩ := register_cases h hook
    · exact ih (hsame.symm.trans hd)
    · rw [hnew] at hd
      obtain ⟨kind, old⟩ := d
      cases hd
      intro tap htap
      rcases List.mem_append.1 htap with htap | htap
      · exact ih hold tap htap
      · rw [List.mem_singleton.1 htap]
        exact hl rfl

end Made

end Hook.Registry

namespace Plugin

open Hook (Listener Registry)

variable {name : String} {taps : List (String × Listener)} {r : Registry}

theorem tapAll_made (hr : r.Made) : (tapAll name r taps).registry.Made := by
  induction taps generalizing r with
  | nil => exact hr
  | cons p taps ih =>
    unfold tapAll
    split
    · rename_i h
      exact ih (.register hr h)
    · exact hr

/-- What holds of all listeners before and of those that are registered holds of all after. -/
theorem forall_tapAll {P : Listener → Prop} (hr : ∀ hook, ∀ tap ∈ r.taps hook, P tap.listener)
    (htaps : ∀ p ∈ taps, P p.2) :
    ∀ hook, ∀ tap ∈ (tapAll name r taps).registry.taps hook, P tap.listener := by
  induction taps generalizing r with
  | nil => exact hr
  | cons p taps ih =>
    obtain ⟨hp, htaps⟩ := List.forall_mem_cons.1 htaps
    unfold tapAll
    split
    · rename_i h
      refine ih (fun hook tap htap => ?_) htaps
      obtain htap | hl := Registry.mem_taps_of_register h htap
      · exact hr hook tap htap
      · exact hl ▸ hp
    · exact hr

end Plugin

end ModuleBundler
