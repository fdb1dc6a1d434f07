import ModuleBundler.Proofs.Hook.Frame

/-!
# Fuel of hooks

An invocation that comes to an end with some fuel comes to the same end with more.
-/

namespace ModuleBundler.Hook

variable {m : Type → Type} [Monad m] {σ : Type} [World m σ] {α γ : Type}

/-- Wherever the first action comes to an answer, the second comes to the same one. -/
def Below (x y : Action m α) : Prop :=
  ∀ u a v, World.run x.run u = (some a, v) → World.run y.run u = (some a, v)

namespace Below

variable {x y z : Action m α}

@[refl] theorem refl (x : Action m α) : Below x x := fun _ _ _ h => h

theorem trans (hxy : Below x y) (hyz : Below y z) : Below x z :=
  fun u a v h => hyz u a v (hxy u a v h)

theorem none : Below outOfFuel x := by
  intro u a v h
  rw [Framed.run_outOfFuel] at h
  cases h

theorem bind {f g : α → Action m γ} (hx : Below x y) (hf : ∀ a, Below (f a) (g a)) :
    Below (x >>= f) (y >>= g) := by
  intro u c w h
  rw [Framed.run_bind] at h ⊢
  rcases hrun : World.run x.run u with ⟨_ | a, v⟩
  · rw [hrun] at h
    cases h
  · rw [hrun] at h
    rw [hx u a v hrun]
    exact hf a v c w h

/-- An action that is below the next one for every fuel is below all later ones. -/
theorem of_le {x : Nat → Action m α} (h : ∀ fuel, Below (x fuel) (x (fuel + 1))) {fuel more : Nat}
    (hle : fuel ≤ more) : Below (x fuel) (x more) := by
  induction hle with
  | refl => rfl
  | step _ ih => exact ih.trans (h _)

end Below

variable {s : Stage m}

section Sync

variable {nested nested' : String → Action m (Except Error Unit)}

theorem runSync_below (hn : ∀ hook, Below (nested hook) (nested' hook)) (t : Task false) :
    Below (runSync s nested t) (runSync s nested' t) := by
  induction t with
  | finish outcome => exact .refl _
  | look next ih => exact .bind (.refl _) ih
  | insert m next ih => exact .bind (.refl _) ih
  | say note next ih => exact .bind (.refl _) fun _ => ih
  | invokeSync hook next ih => exact .bind (hn hook) ih
  | pause h next ih => cases h
  | invoke h hook next ih => cases h
  | read h path next ih => cases h
  | write h path bytes next ih => cases h

theorem runTaps_below {run run' : Task false → Action m Outcome}
    (hrun : ∀ t, Below (run t) (run' t)) (hook : String) (taps : List Tap) :
    Below (runTaps run hook taps) (runTaps run' hook taps) := by
  induction taps with
  | nil => exact .refl _
  | cons tap taps ih =>
    obtain ⟨name, listener⟩ := tap
    cases listener with
    | async task => exact ih
    | sync task =>
      refine .bind (hrun task) fun outcome => ?_
      cases outcome with
      | error cause => exact .refl _
      | ok _ => exact ih

theorem invokeSyncOn_below (hn : ∀ hook, Below (nested hook) (nested' hook)) (r : Registry)
    (hook : String) : Below (invokeSyncOn s nested r hook) (invokeSyncOn s nested' r hook) := by
  unfold invokeSyncOn
  split
  · exact .refl _
  · split
    · exact runTaps_below (runSync_below hn) hook _
    · exact .refl _

theorem invokeNested_below (fuel : Nat) (hook : String) :
    Below (invokeNested s fuel hook) (invokeNested s (fuel + 1) hook) := by
  induction fuel generalizing hook with
  | zero => exact .none
  | succ fuel ih => exact invokeSyncOn_below ih s.registry hook

end Sync

section Waiting

theorem advance_below {nested nested' : String → Action m (Except Error Unit)}
    (hn : ∀ hook, Below (nested hook) (nested' hook)) (t : Task true) :
    Below (advance s nested t) (advance s nested' t) := by
  induction t with
  | finish outcome => exact .refl _
  | look next ih => exact .bind (.refl _) ih
  | insert m next ih => exact .bind (.refl _) ih
  | say note next ih => exact .bind (.refl _) fun _ => ih
  | invokeSync hook next ih => exact .bind (hn hook) ih
  | pause h next ih => exact .refl _
  | invoke h hook next ih => exact .refl _
  | read h path next ih => exact .bind (.refl _) ih
  | write h path bytes next ih => exact .bind (.refl _) ih

section Step

variable {fuel : Nat} (hturn : ∀ r, Below (turn s fuel r) (turn s (fuel + 1) r))
variable (hturns : ∀ i paused, Below (turns s fuel i paused) (turns s (fuel + 1) i paused))

include hturn hturns

theorem turn_succ_below (r : Running) : Below (turn s (fuel + 1) r) (turn s (fuel + 2) r) := by
  cases r with
  | task t =>
    rw [turn, turn]
    refine .bind (advance_below (invokeNested_below fuel) t) fun stop => ?_
    cases stop with
    | finished outcome => exact .refl _
    | paused next => exact .refl _
    | invoking hook next =>
      simp only
      split
      · exact hturn _
      · exact hturn _
  | awaiting i next =>
    rw [turn, turn]
    refine .bind (hturns i 0) fun t => ?_
    cases t with
    | paused i => exact .refl _
    | ended result => exact hturn _

theorem turns_succ_below (i : Invocation) (paused : Nat) :
    Below (turns s (fuel + 1) i paused) (turns s (fuel + 2) i paused) := by
  cases i with
  | series hook current rest =>
    unfold turns
    cases current with
    | none =>
      cases rest with
      | nil => exact .refl _
      | cons tap rest => exact hturns _ 0
    | some p =>
      refine .bind (hturn p.2) fun t => ?_
      cases t with
      | paused running => exact .refl _
      | ended outcome =>
        cases outcome with
        | error cause => exact .refl _
        | ok _ => exact hturns _ 0
  | parallel hook waiting failure? =>
    unfold turns
    cases waiting with
    | nil => cases failure? <;> exact .refl _
    | cons p waiting =>
      refine .bind (hturn p.2) fun t => ?_
      cases t with
      | paused running =>
        simp only
        split
        · exact .refl _
        · exact hturns _ _
      | ended outcome => exact hturns _ 0

end Step

/-- More fuel changes no turn: by induction on the fuel, for listeners and invocations together. -/
theorem turn_turns_below (fuel : Nat) :
    (∀ r, Below (turn s fuel r) (turn s (fuel + 1) r)) ∧
    ∀ i paused, Below (turns s fuel i paused) (turns s (fuel + 1) i paused) := by
  induction fuel with
  | zero =>
    refine ⟨fun r => ?_, fun i paused => ?_⟩
    · rw [turn]
      exact .none
    · rw [turns]
      exact .none
  | succ fuel ih => exact ⟨turn_succ_below ih.1 ih.2, turns_succ_below ih.1 ih.2⟩

theorem turn_below {fuel more : Nat} (hle : fuel ≤ more) (r : Running) :
    Below (turn s fuel r) (turn s more r) :=
  Below.of_le (fun fuel => (turn_turns_below fuel).1 r) hle

theorem turns_below {fuel more : Nat} (hle : fuel ≤ more) (i : Invocation) (paused : Nat) :
    Below (turns s fuel i paused) (turns s more i paused) :=
  Below.of_le (fun fuel => (turn_turns_below fuel).2 i paused) hle

theorem complete_below {fuel more : Nat} (hle : fuel ≤ more) (i : Invocation) :
    Below (complete s fuel i) (complete s more i) := by
  refine Below.of_le (x := fun fuel => complete s fuel i) (fun fuel => ?_) hle
  induction fuel generalizing i with
  | zero => exact .none
  | succ fuel ih =>
    rw [complete, complete]
    refine .bind (turns_below (Nat.le_succ fuel) i 0) fun t => ?_
    cases t with
    | paused i => exact ih i
    | ended result => exact .refl _

end Waiting

end ModuleBundler.Hook
