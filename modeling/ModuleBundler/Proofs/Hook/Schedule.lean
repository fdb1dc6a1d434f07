import ModuleBundler.Proofs.Hook.Isolation
import ModuleBundler.Proofs.Hook.Watch

/-!
# The schedule of an invocation

Unwatched, an invocation gives turns in an order of its own. That order is one of the schedules of
the watched invocation, which then does the same.
-/

namespace ModuleBundler.Hook

variable {m : Type → Type} [Monad m] {σ : Type} [World m σ] {α γ ι : Type}

/-- A state without its log. -/
def unlogged (u : Compilation × List Event × σ) : Compilation × σ := (u.1, u.2.2)

theorem watchedHost_mirrors (h : FileSystem.Host m) :
    h.MirroredBy (Prod.snd : List Event × σ → σ) (watchedHost h) := by
  have hlift {β : Type} (x : m β) :
      Mirrors (Prod.snd : List Event × σ → σ) x (StateT.lift x : Logged m β) := by
    intro t
    rw [World.run_lift]
    rfl
  have hseen {β : Type} (e : Event) (x : m β) :
      Mirrors (Prod.snd : List Event × σ → σ) x (log e >>= fun _ => StateT.lift x) := by
    intro t
    rw [World.run_bind, log, World.run_modify]
    exact hlift x (t.1 ++ [e], t.2)
  exact ⟨fun _ => hlift _, fun _ _ => hseen _ _, fun _ _ => hseen _ _, fun _ => hlift _, hlift _⟩

/-- The stage that a watched run gives to its listeners. They find no listeners on the built-in
hooks. -/
def watchedStage (s : Stage m) : Stage (Logged m) where
  host := watchedHost s.host
  say note := StateT.lift (s.say note)
  registry := s.registry.silenced

theorem watchedStage_alike {s : Stage m} (h : s.registry.Isolated) :
    Alike (Prod.snd : List Event × σ → σ) s (watchedStage s) where
  host := watchedHost_mirrors s.host
  say note t := by
    change _ = Prod.map id Prod.snd (World.run (StateT.lift (s.say note)) t)
    rw [World.run_lift]
    rfl
  registry hook hhook := by
    change _ = s.registry.silenced.hooks.get? hook
    simp [Registry.get?_silenced, hhook]
  isolated := h

theorem watchedHost_leaves (h : FileSystem.Host m) :
    (watchedHost h).Leaves (Prod.fst : List Event × σ → List Event) where
  read _ _ := by
    simp only [watchedHost]
    rw [World.run_lift]
  isFile _ _ := by
    simp only [watchedHost]
    rw [World.run_lift]

/-- Listeners that write no file leave the log alone. -/
theorem watchedStage_quiet {s : Stage m} (h : s.registry.Quiet) :
    (watchedStage s).Quiet (Prod.fst : List Event × σ → List Event) where
  registry hook tap htap := by
    apply h hook
    simp only [watchedStage, Registry.taps, Registry.get?_silenced, Option.map_map] at htap
    cases hd : s.registry.hooks.get? hook with
    | none => simp [hd] at htap
    | some d =>
      by_cases hhook : hook ∈ builtinNames
      · simp [hd, hhook] at htap
      · simpa [hd, hhook, Registry.taps] using htap
  say note t := by
    simp only [watchedStage]
    rw [World.run_lift]
  read := (watchedHost_leaves s.host).read

/-- Both actions do the same but for the log. -/
abbrev Echoes (x : Action m α) (y : Action (Logged m) α) : Prop :=
  Agree (Prod.snd : List Event × σ → σ) (fun _ => True) x y

theorem Agree.run {Q : α → Prop} {x : Action m α} {y : Action (Logged m) α}
    (h : Agree (Prod.snd : List Event × σ → σ) Q x y) (u : Compilation × List Event × σ) :
    World.run x.run (unlogged u) = ((World.run y.run u).1, unlogged (World.run y.run u).2) :=
  (h u).1

theorem Agree.tell_bind {x : Action m α} {e : Event} {f : Unit → Action (Logged m) α}
    (h : Echoes x (f ())) : Echoes x (tell e >>= f) := by
  intro u
  rw [Framed.run_bind, run_tell]
  exact h (logged e u)

/-- Whatever `x` gives, `y` gives under some choice. -/
def Follows (x : Action m α) (y : ι → Action (Logged m) α) : Prop :=
  ∀ (u : Compilation × List Event × σ) (a : α) (t : Compilation × σ),
    World.run x.run (unlogged u) = (some a, t) →
      ∃ i u', World.run (y i).run u = (some a, u') ∧ unlogged u' = t

theorem Follows.of_echoes {x : Action m α} {y : Action (Logged m) α} (h : Echoes (σ := σ) x y)
    (i : ι) : Follows (σ := σ) x fun _ : ι => y := by
  intro u a t hrun
  rw [h.run u] at hrun
  obtain ⟨hvalue, hstate⟩ := Prod.mk.inj hrun
  exact ⟨i, _, Prod.ext hvalue rfl, hstate⟩

/-! ## Hooks that do not wait -/

variable {s : Stage m} {s' : Stage (Logged m)}

theorem watchTaps_echoes {run : Task false → Action m Outcome}
    {run' : Task false → Action (Logged m) Outcome}
    (hrun : ∀ t : Task false, t.Isolated → Echoes (run t) (run' t)) (hook : String) (place : Nat)
    {taps : List Tap} (htaps : ∀ tap ∈ taps, tap.listener.Isolated) :
    Echoes (runTaps run hook taps) (watchTaps run' hook place taps) := by
  induction taps generalizing place with
  | nil => exact .pure trivial
  | cons tap taps ih =>
    obtain ⟨name, listener⟩ := tap
    rw [List.forall_mem_cons] at htaps
    cases listener with
    | async task => exact ih (place + 1) htaps.2
    | sync task =>
      refine .tell_bind (.bind (hrun task htaps.1) fun outcome _ => ?_)
      cases outcome with
      | error cause => exact .tell_bind (.pure trivial)
      | ok _ => exact .tell_bind (ih (place + 1) htaps.2)

theorem watchSync_echoes (hs : Alike (Prod.snd : List Event × σ → σ) s s') (fuel : Nat)
    {r : Registry} (hr : r.Isolated) (hook : String) :
    Echoes (invokeSync s fuel r hook) (watchSync s' fuel r hook) := by
  rw [invokeSync, invokeSyncOn, watchSync]
  cases hd : r.hooks.get? hook with
  | none => exact .pure trivial
  | some d =>
    simp only
    split
    · exact watchTaps_echoes (fun t ht => runSync_alike hs (invokeNested_alike hs fuel) ht) hook 0
        fun tap htap => hr.tap hd htap
    · exact .pure trivial

/-! ## Hooks that wait -/

/-- What is left of a series: of the listener that has begun, and of the ones after it. -/
def seriesFrom (s : Stage (Logged m)) (hook : String) (place : Nat) :
    Option (String × Running) → List Tap → List Choice → Action (Logged m) (Except Error Unit)
  | none, taps, schedule => watchSeries s hook place taps schedule
  | some (name, running), taps, schedule => do
    let (outcome, schedule) ← finishAlone s schedule running
    tell (.ended hook place outcome.toBool)
    match outcome with
    | .error cause => return .error (.listener hook name cause)
    | .ok _ => watchSeries s hook (place + 1) taps schedule

/-- A state once a listener has been called that gets a turn. -/
def called (hook : String) (r : Runner) (u : Compilation × List Event × σ) :
    Compilation × List Event × σ :=
  if r.called then u else logged (.called hook r.place) u

theorem unlogged_called (hook : String) (r : Runner) (u : Compilation × List Event × σ) :
    unlogged (called hook r u) = unlogged u := by
  unfold called
  split <;> rfl

theorem run_announce (hook : String) (r : Runner) (u : Compilation × List Event × σ) :
    World.run (r.announce hook : Action (Logged m) Unit).run u = (some (), called hook r u) := by
  unfold Runner.announce called
  split
  · exact Framed.run_pure _ _
  · exact run_tell _ _

theorem run_watchSeries_cons (s' : Stage (Logged m)) (hook : String) (place : Nat) (tap : Tap)
    (taps : List Tap) (schedule : List Choice) (u : Compilation × List Event × σ) :
    World.run (watchSeries s' hook place (tap :: taps) schedule).run u =
      World.run (seriesFrom s' hook place (some (tap.name, .task tap.listener.task)) taps
        schedule).run (logged (.called hook place) u) := by
  rw [watchSeries, Framed.run_bind, run_tell]
  rfl

/-- One turn of the listener that has begun. -/
theorem run_seriesFrom_cons (s' : Stage (Logged m)) (hook : String) (place : Nat) (name : String)
    (running : Running) (taps : List Tap) (choice : Choice) (schedule : List Choice)
    (u : Compilation × List Event × σ) :
    World.run (seriesFrom s' hook place (some (name, running)) taps (choice :: schedule)).run u =
      match World.run (turn s' choice.fuel running).run u with
      | (none, v) => (none, v)
      | (some (.paused left), v) =>
        World.run (seriesFrom s' hook place (some (name, left)) taps schedule).run v
      | (some (.ended (.error cause)), v) =>
        (some (.error (.listener hook name cause)), logged (.ended hook place false) v)
      | (some (.ended (.ok _)), v) =>
        World.run (watchSeries s' hook (place + 1) taps schedule).run
          (logged (.ended hook place true) v) := by
  rw [seriesFrom, Framed.run_bind, finishAlone, Framed.run_bind]
  rcases World.run (turn s' choice.fuel running).run u with ⟨_ | left | cause | x, v⟩
  · rfl
  · simp only
    rw [seriesFrom, Framed.run_bind]
  · simp only
    rw [Framed.run_pure]
    simp only
    rw [Framed.run_bind, run_tell]
    exact Framed.run_pure _ _
  · simp only
    rw [Framed.run_pure]
    simp only
    rw [Framed.run_bind, run_tell]
    rfl

/-- The first of the listeners that are left gets a turn. -/
theorem run_race_cons (s' : Stage (Logged m)) (hook : String) (r : Runner) (runners : List Runner)
    (failure? : Option Error) (fuel : Nat) (schedule : List Choice)
    (u : Compilation × List Event × σ) :
    World.run (race s' hook (⟨0, fuel⟩ :: schedule) (r :: runners) failure?).run u =
      match World.run (turn s' fuel r.left).run (called hook r u) with
      | (none, v) => (none, v)
      | (some (.paused left), v) =>
        World.run (race s' hook schedule (runners ++ [{ r with left, called := true }])
          failure?).run v
      | (some (.ended outcome), v) =>
        World.run (race s' hook schedule runners
          (firstFailure hook r.name outcome failure?)).run
            (logged (.ended hook r.place outcome.toBool) v) := by
  rw [race]
  simp only [List.getElem?_cons_zero, List.eraseIdx_cons_zero]
  rw [Framed.run_bind, run_announce]
  simp only
  rw [Framed.run_bind]
  rcases World.run (turn s' fuel r.left).run (called hook r u) with ⟨_ | left | outcome, v⟩
  · rfl
  · rfl
  · simp only
    rw [Framed.run_bind, run_tell]

/-- What an invocation keeps of a listener that has not ended. -/
def Runner.pending (r : Runner) : String × Running := (r.name, r.left)

/-- Watching what is left of an invocation, with the turns still to be chosen. -/
inductive Shows (s : Stage (Logged m)) :
    Invocation → (List Choice → Action (Logged m) (Except Error Unit)) → Prop
  | series (hook : String) (place : Nat) (current : Option (String × Running)) (rest : List Tap) :
    Shows s (.series hook current rest) (seriesFrom s hook place current rest)
  | parallel (hook : String) (runners : List Runner) (failure? : Option Error) :
    Shows s (.parallel hook (runners.map Runner.pending) failure?)
      fun schedule => race s hook schedule runners failure?

/-- What a turn of an invocation does, the watched one does with some choices, from `u` on. -/
inductive Scheduled (s : Stage (Logged m))
    (watched : List Choice → Action (Logged m) (Except Error Unit))
    (u : Compilation × List Event × σ) :
    Option (Turn Invocation (Except Error Unit)) × (Compilation × σ) → Prop
  | lacking (t : Compilation × σ) : Scheduled s watched u (none, t)
  | ended {result : Except Error Unit} (schedule : List Choice) (v : Compilation × List Event × σ)
    (h : ∀ more, World.run (watched (schedule ++ more)).run u = (some result, v)) :
    Scheduled s watched u (some (.ended result), unlogged v)
  | paused {i : Invocation} (schedule : List Choice)
    {rest : List Choice → Action (Logged m) (Except Error Unit)}
    (v : Compilation × List Event × σ) (hrest : Shows s i rest) (hi : i.Isolated)
    (h : ∀ more, World.run (watched (schedule ++ more)).run u = World.run (rest more).run v) :
    Scheduled s watched u (some (.paused i), unlogged v)

/-- Choices that come first. -/
theorem Scheduled.after {watched rest : List Choice → Action (Logged m) (Except Error Unit)}
    {u v : Compilation × List Event × σ}
    {out : Option (Turn Invocation (Except Error Unit)) × (Compilation × σ)}
    (first : List Choice) (h : Scheduled s' rest v out)
    (hfirst : ∀ more, World.run (watched (first ++ more)).run u = World.run (rest more).run v) :
    Scheduled s' watched u out := by
  cases h with
  | lacking t => exact .lacking t
  | ended schedule w h =>
    refine .ended (first ++ schedule) w fun more => ?_
    rw [List.append_assoc, hfirst, h]
  | paused schedule w hrest hi h =>
    refine .paused (first ++ schedule) w hrest hi fun more => ?_
    rw [List.append_assoc, hfirst, h]

theorem isolated_of_runners {hook : String} {runners : List Runner} {failure? : Option Error}
    (h : ∀ r ∈ runners, r.left.Isolated) :
    Invocation.Isolated (.parallel hook (runners.map Runner.pending) failure?) := by
  refine .parallel fun p hp => ?_
  obtain ⟨r, hr, rfl⟩ := List.mem_map.1 hp
  exact h r hr

/-- A turn of an invocation is scheduled. -/
def TurnsScheduled (s : Stage m) (s' : Stage (Logged m)) (fuel : Nat) : Prop :=
  ∀ (i : Invocation) (paused : Nat) (watched : List Choice → Action (Logged m) (Except Error Unit))
    (u : Compilation × List Event × σ), i.Isolated → Shows s' i watched →
      Scheduled s' watched u (World.run (turns s fuel i paused).run (unlogged u))

section Step

variable {fuel paused : Nat} (hs : Alike (Prod.snd : List Event × σ → σ) s s')
variable (ih : TurnsScheduled (σ := σ) s s' fuel)

include hs ih

theorem series_scheduled {hook : String} {place : Nat} {current : Option (String × Running)}
    {rest : List Tap} (hcurrent : ∀ p ∈ current, p.2.Isolated)
    (hrest : ∀ tap ∈ rest, tap.listener.Isolated) (u : Compilation × List Event × σ) :
    Scheduled s' (seriesFrom s' hook place current rest) u
      (World.run (turns s (fuel + 1) (.series hook current rest) paused).run (unlogged u)) := by
  unfold turns
  cases current with
  | none =>
    cases rest with
    | nil =>
      rw [Framed.run_pure]
      exact .ended [] u fun more => Framed.run_pure _ _
    | cons tap rest =>
      obtain ⟨htap, hrest⟩ := List.forall_mem_cons.1 hrest
      have hbegun : Invocation.Isolated
          (.series hook (some (tap.name, .task tap.listener.task)) rest) := by
        refine .series (fun p hp => ?_) hrest
        cases hp
        exact .task htap.task
      have hcons (more : List Choice) := run_watchSeries_cons s' hook place tap rest more u
      exact (ih _ 0 _ (logged (.called hook place) u) hbegun
        (.series hook place _ rest)).after [] hcons
  | some p =>
    obtain ⟨name, running⟩ := p
    have hturn := (turn_turns_alike hs fuel).1 running (hcurrent _ rfl)
    have hleft := (hturn u).2
    have hcons (more : List Choice) := run_seriesFrom_cons s' hook place name running rest
      ⟨0, fuel⟩ more u
    simp only at hcons ⊢
    rw [Framed.run_bind, hturn.run u]
    rcases hr : World.run (turn s' fuel running).run u with ⟨_ | left | cause | x, v⟩
    · exact .lacking _
    · rw [hr] at hleft hcons
      have hpaused : Invocation.Isolated (.series hook (some (name, left)) rest) :=
        .series (fun p hp => by cases hp; exact hleft _ rfl) hrest
      simp only
      rw [Framed.run_pure]
      exact .paused [⟨0, fuel⟩] v (.series hook place _ rest) hpaused hcons
    · rw [hr] at hcons
      simp only
      rw [Framed.run_pure]
      exact .ended [⟨0, fuel⟩] (logged (.ended hook place false) v) hcons
    · rw [hr] at hcons
      have hnext : Invocation.Isolated (.series hook none rest) :=
        .series (fun p hp => by cases hp) hrest
      exact (ih _ 0 _ (logged (.ended hook place true) v) hnext
        (.series hook (place + 1) none rest)).after [⟨0, fuel⟩] hcons

theorem parallel_scheduled {hook : String} {runners : List Runner} {failure? : Option Error}
    (hrunners : ∀ r ∈ runners, r.left.Isolated) (u : Compilation × List Event × σ) :
    Scheduled s' (fun schedule => race s' hook schedule runners failure?) u
      (World.run (turns s (fuel + 1) (.parallel hook (runners.map Runner.pending)
        failure?) paused).run (unlogged u)) := by
  unfold turns
  cases runners with
  | nil =>
    cases failure? with
    | none =>
      simp only [List.map_nil]
      rw [Framed.run_pure]
      exact .ended [] u fun more => by rw [race]; exact Framed.run_pure _ _
    | some e =>
      simp only [List.map_nil]
      rw [Framed.run_pure]
      exact .ended [] u fun more => by rw [race]; exact Framed.run_pure _ _
  | cons r runners =>
    obtain ⟨hr, hrunners⟩ := List.forall_mem_cons.1 hrunners
    have hturn := (turn_turns_alike hs fuel).1 r.left hr
    have hleft := (hturn (called hook r u)).2
    have hcons (more : List Choice) := run_race_cons s' hook r runners failure? fuel more u
    have hpending : r.pending = (r.name, r.left) := rfl
    simp only [List.map_cons, hpending]
    rw [Framed.run_bind, ← unlogged_called hook r u, hturn.run]
    rcases hrun : World.run (turn s' fuel r.left).run (called hook r u) with ⟨_ | left | outcome, v⟩
    · exact .lacking _
    · rw [hrun] at hleft hcons
      have hall : ∀ q ∈ runners ++ [{ r with left, called := true }], q.left.Isolated := by
        intro q hq
        rcases List.mem_append.1 hq with hq | hq
        · exact hrunners q hq
        · exact List.mem_singleton.1 hq ▸ hleft _ rfl
      have hmap : runners.map Runner.pending ++ [(r.name, left)] =
          (runners ++ [{ r with left, called := true }]).map Runner.pending := by
        rw [List.map_append]
        rfl
      simp only [hmap]
      split
      · rw [Framed.run_pure]
        exact .paused [⟨0, fuel⟩] v (.parallel hook _ failure?) (isolated_of_runners hall) hcons
      · exact (ih _ _ _ v (isolated_of_runners hall) (.parallel hook _ failure?)).after
          [⟨0, fuel⟩] hcons
    · rw [hrun] at hcons
      exact (ih _ 0 _ (logged (.ended hook r.place outcome.toBool) v)
        (isolated_of_runners hrunners) (.parallel hook runners _)).after [⟨0, fuel⟩] hcons

end Step

/-- Turns of invocations are scheduled: by induction on the fuel. -/
theorem turns_scheduled (hs : Alike (Prod.snd : List Event × σ → σ) s s') (fuel : Nat) :
    TurnsScheduled (σ := σ) s s' fuel := by
  induction fuel with
  | zero =>
    intro i paused watched u _ _
    rw [turns, Framed.run_outOfFuel]
    exact .lacking _
  | succ fuel ih =>
    intro i paused watched u hi hshows
    cases hshows with
    | series hook place current rest =>
      cases hi with
      | series hcurrent hrest => exact series_scheduled hs ih hcurrent hrest u
    | parallel hook runners failure? =>
      cases hi with
      | parallel hwaiting =>
        refine parallel_scheduled hs ih (fun r hr => ?_) u
        exact hwaiting _ (List.mem_map_of_mem hr)

/-- An invocation that is completed is some watched one. -/
theorem complete_follows (hs : Alike (Prod.snd : List Event × σ → σ) s s') (fuel : Nat)
    {i : Invocation} {watched : List Choice → Action (Logged m) (Except Error Unit)}
    (hi : i.Isolated) (hshows : Shows s' i watched) :
    Follows (σ := σ) (complete s fuel i) watched := by
  intro u result t hrun
  induction fuel generalizing i watched u with
  | zero =>
    rw [complete, Framed.run_outOfFuel] at hrun
    cases hrun
  | succ fuel ih =>
    have hscheduled := turns_scheduled hs fuel i 0 watched u hi hshows
    rw [complete, Framed.run_bind] at hrun
    generalize World.run (turns s fuel i 0).run (unlogged u) = out at hscheduled hrun
    cases hscheduled with
    | lacking _ => cases hrun
    | ended schedule v h =>
      simp only at hrun
      rw [Framed.run_pure] at hrun
      cases hrun
      exact ⟨schedule ++ [], v, h [], rfl⟩
    | paused schedule v hrest hleft h =>
      obtain ⟨more, w, hmore, hw⟩ := ih hleft hrest v hrun
      exact ⟨schedule ++ more, w, (h more).trans hmore, hw⟩

theorem map_runnersFrom (place : Nat) (taps : List Tap) :
    (runnersFrom place taps).map Runner.pending =
      taps.map fun t => (t.name, .task t.listener.task) := by
  induction taps generalizing place with
  | nil => rfl
  | cons tap taps ih =>
    rw [runnersFrom, List.map_cons, List.map_cons, ih]
    rfl

/-- Every invocation of a hook that waits is a watched one under some schedule. -/
theorem watch_follows (hs : Alike (Prod.snd : List Event × σ → σ) s s') (fuel : Nat)
    {r : Registry} (hr : r.Isolated) (hook : String) :
    Follows (σ := σ) (invoke s fuel r hook) fun schedule => watch s' schedule r hook := by
  rw [invoke, begin_]
  unfold watch
  cases hd : r.hooks.get? hook with
  | none => exact .of_echoes (.pure trivial) []
  | some d =>
    obtain ⟨kind, taps⟩ := d
    have htaps : ∀ tap ∈ taps, tap.listener.Isolated := fun tap htap => hr.tap hd htap
    cases kind with
    | sync => exact .of_echoes (.pure trivial) []
    | asyncParallel =>
      simp only
      rw [← map_runnersFrom 0 taps]
      have hrunners := forall_runnersFrom
        (fun tap htap => Running.Isolated.task (htaps tap htap).task) 0
      exact complete_follows hs fuel (isolated_of_runners hrunners) (.parallel hook _ none)
    | asyncSeries =>
      exact complete_follows hs fuel (.series (fun p hp => by cases hp) htaps)
        (.series hook 0 none taps)

end ModuleBundler.Hook
