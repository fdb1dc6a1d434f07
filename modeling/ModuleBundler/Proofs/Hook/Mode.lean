import ModuleBundler.Proofs.Hook.Parallel

/-!
# Listeners that do not wait, on hooks of each kind

The same listeners, none of which waits, are called in the same order by hooks of all three kinds. A
hook that does not wait and a series stop at the first failure; a parallel hook goes on, but reports
no other failure than these.
-/

namespace ModuleBundler.Hook

variable {m : Type → Type} [Monad m] {σ : Type} [World m σ] {α : Type}

/-! ## Calls -/

/-- With enough fuel an action comes to this answer and leads to this state. -/
def Settles (x : Nat → Action m α) (u : Compilation × σ) (a : α) (v : Compilation × σ) : Prop :=
  ∃ least, ∀ fuel, least ≤ fuel → World.run (x fuel).run u = (some a, v)

/-- A call of a listener that does not wait, and how it ended. -/
structure SyncCall where
  name : String
  task : Task false
  outcome : Outcome

/-- The listener that is called. -/
def SyncCall.tap (c : SyncCall) : Tap := ⟨c.name, .sync c.task⟩

/-- The task, started in one state, ends with this outcome in another. -/
def Performs (s : Stage m) (task : Task false) (u : Compilation × σ) (outcome : Outcome)
    (v : Compilation × σ) : Prop :=
  ∃ fuel, World.run (runSync s (invokeNested s fuel) task).run u = (some outcome, v)

/-- The calls lead from one state to another, one after the other and without a gap. -/
inductive InSequence (s : Stage m) : Compilation × σ → List SyncCall → Compilation × σ → Prop
  | done (u : Compilation × σ) : InSequence s u [] u
  | call {u v w : Compilation × σ} {c : SyncCall} {calls : List SyncCall}
    (hcall : Performs s c.task u c.outcome v) (hrest : InSequence s v calls w) :
    InSequence s u (c :: calls) w

/-- The calls up to the first failure, which is the last of them. -/
def upToFailure : List SyncCall → List SyncCall
  | [] => []
  | c :: calls =>
    match c.outcome with
    | .ok _ => c :: upToFailure calls
    | .error _ => [c]

/-- The result of a hook that reports the first failure. -/
def reportOf (hook : String) : List SyncCall → Except Error Unit
  | [] => .ok ()
  | c :: calls =>
    match c.outcome with
    | .ok _ => reportOf hook calls
    | .error cause => .error (.listener hook c.name cause)

/-- The task comes to an end, whatever state it starts in. -/
def Task.Ends (s : Stage m) (task : Task false) : Prop :=
  ∀ u : Compilation × σ, ∃ outcome v, Performs s task u outcome v

variable {s : Stage m} {u v w : Compilation × σ} {calls : List SyncCall} {hook : String}

theorem Settles.of_below {x : Nat → Action m α} {a : α} {fuel : Nat}
    (hx : ∀ {fuel more : Nat}, fuel ≤ more → Below (x fuel) (x more))
    (h : World.run (x fuel).run u = (some a, v)) : Settles x u a v :=
  ⟨fuel, fun _ hle => hx hle u a v h⟩

theorem Settles.eq_run {x : Nat → Action m α} {a b : α} (fuel : Nat)
    (hx : ∀ {fuel more : Nat}, fuel ≤ more → Below (x fuel) (x more)) (h : Settles x u a v)
    (hb : (World.run (x fuel).run u).1 = some b) : a = b ∧ v = (World.run (x fuel).run u).2 := by
  obtain ⟨least, hleast⟩ := h
  have hmore := hleast (fuel + least) (Nat.le_add_left ..)
  have hsame := hx (Nat.le_add_right fuel least) u b _ (Prod.ext hb rfl)
  rw [hsame, Prod.mk.injEq, Option.some.injEq] at hmore
  exact ⟨hmore.1.symm, hmore.2.symm⟩

theorem invokeSync_below {fuel more : Nat} (hle : fuel ≤ more) (r : Registry) (hook : String) :
    Below (invokeSync s fuel r hook) (invokeSync s more r hook) :=
  invokeSyncOn_below (fun hook => .of_le (fun fuel => invokeNested_below fuel hook) hle) r hook

theorem invoke_below {fuel more : Nat} (hle : fuel ≤ more) (r : Registry) (hook : String) :
    Below (invoke s fuel r hook) (invoke s more r hook) := by
  unfold invoke
  split
  · rfl
  · exact complete_below hle _

theorem Performs.settles {task : Task false} {outcome : Outcome}
    (h : Performs s task u outcome v) :
    Settles (fun fuel => runSync s (invokeNested s fuel) task) u outcome v := by
  obtain ⟨fuel, hrun⟩ := h
  refine .of_below (fun hle => ?_) hrun
  exact runSync_below (fun hook => .of_le (fun fuel => invokeNested_below fuel hook) hle) task

/-- The task invokes no hooks. -/
def Task.InvokesNone : Task false → Prop
  | .finish _ => True
  | .look next => ∀ c, (next c).InvokesNone
  | .insert _ next => ∀ result, (next result).InvokesNone
  | .say _ next => next.InvokesNone
  | .invokeSync _ _ => False

/-- Whatever state the action starts in, it comes to an answer. -/
def Answers (x : Action m α) : Prop :=
  ∀ u : Compilation × σ, ∃ a v, World.run x.run u = (some a, v)

theorem Answers.bind {γ : Type} {x : Action m α} {f : α → Action m γ} (hx : Answers x)
    (hf : ∀ a, Answers (f a)) : Answers (x >>= f) := by
  intro u
  obtain ⟨a, v, hrun⟩ := hx u
  rw [Framed.run_bind, hrun]
  exact hf a v

theorem answers_runSync (nested : String → Action m (Except Error Unit)) {task : Task false}
    (h : task.InvokesNone) : Answers (runSync s nested task) := by
  induction task with
  | finish outcome => exact fun u => ⟨_, _, Framed.run_pure _ u⟩
  | look next ih => exact .bind (fun u => ⟨_, _, Framed.run_look u⟩) fun c => ih c (h c)
  | insert added next ih =>
    refine .bind (fun u => ?_) fun result => ih result (h result)
    rw [Framed.run_insertModule]
    cases u.1.graph.insert added with
    | error e => exact ⟨_, _, rfl⟩
    | ok graph => exact ⟨_, _, rfl⟩
  | say note next ih => exact .bind (fun u => ⟨_, _, Framed.run_host _ u⟩) fun _ => ih h
  | invokeSync hook next => exact absurd h id
  | pause hwaits => cases hwaits
  | invoke hwaits => cases hwaits
  | read hwaits => cases hwaits
  | write hwaits => cases hwaits

/-- A task that invokes no hooks comes to an end. -/
theorem Task.InvokesNone.ends {task : Task false} (h : task.InvokesNone) : task.Ends s := by
  intro u
  obtain ⟨outcome, v, hrun⟩ := answers_runSync (invokeNested s 0) h u
  exact ⟨outcome, v, 0, hrun⟩

/-- Listeners that come to an end can all be called. -/
theorem exists_inSequence {taps : List Tap}
    (htaps : ∀ tap ∈ taps, ∃ task, tap.listener = .sync task ∧ task.Ends s) (u : Compilation × σ) :
    ∃ calls w, calls.map SyncCall.tap = taps ∧ InSequence s u calls w := by
  induction taps generalizing u with
  | nil => exact ⟨[], u, rfl, .done u⟩
  | cons tap taps ih =>
    obtain ⟨⟨task, htask, hends⟩, hrest⟩ := List.forall_mem_cons.1 htaps
    obtain ⟨outcome, v, hcall⟩ := hends u
    obtain ⟨calls, w, hmap, hcalls⟩ := ih hrest v
    refine ⟨⟨tap.name, task, outcome⟩ :: calls, w, ?_, .call hcall hcalls⟩
    rw [List.map_cons, hmap, SyncCall.tap, ← htask]

/-- The first calls of a sequence. -/
theorem InSequence.upToFailure (h : InSequence s u calls w) :
    ∃ v, InSequence s u (upToFailure calls) v := by
  induction h with
  | done u => exact ⟨u, .done u⟩
  | @call u v w c calls hcall _ ih =>
    rw [Hook.upToFailure]
    cases c.outcome with
    | ok _ =>
      obtain ⟨v, hv⟩ := ih
      exact ⟨v, .call hcall hv⟩
    | error _ => exact ⟨v, .call hcall (.done v)⟩

/-! ## Hooks that do not wait -/

theorem runTaps_settles (h : InSequence s u (upToFailure calls) v) (hook : String) :
    Settles (fun fuel => runTaps (runSync s (invokeNested s fuel)) hook (calls.map SyncCall.tap)) u
      (reportOf hook calls) v := by
  induction calls generalizing u with
  | nil =>
    cases h
    exact ⟨0, fun _ _ => Framed.run_pure _ _⟩
  | cons c calls ih =>
    obtain ⟨name, task, outcome⟩ := c
    cases outcome with
    | ok _ =>
      cases h with
      | call hcall hrest =>
        obtain ⟨least, hleast⟩ := hcall.settles
        obtain ⟨more, hmore⟩ := ih hrest
        refine ⟨max least more, fun fuel hle => ?_⟩
        beta_reduce
        rw [List.map_cons, SyncCall.tap, runTaps, Framed.run_bind, hleast fuel (by omega)]
        exact hmore fuel (by omega)
    | error cause =>
      cases h with
      | call hcall hrest =>
        cases hrest
        obtain ⟨least, hleast⟩ := hcall.settles
        refine ⟨least, fun fuel hle => ?_⟩
        beta_reduce
        rw [List.map_cons, SyncCall.tap, runTaps, Framed.run_bind, hleast fuel hle]
        exact Framed.run_pure _ _

theorem sync_settles (h : InSequence s u (upToFailure calls) v) {r : Registry}
    (hd : r.hooks.get? hook = some ⟨.sync, calls.map SyncCall.tap⟩) :
    Settles (fun fuel => invokeSync s fuel r hook) u (reportOf hook calls) v := by
  obtain ⟨least, hleast⟩ := runTaps_settles h hook
  refine ⟨least, fun fuel hle => ?_⟩
  beta_reduce
  rw [invokeSync, invokeSyncOn, hd]
  exact hleast fuel hle

/-! ## Turns of listeners that do not wait -/

/-- The run of an action, with its answer put differently. -/
def andThen {γ : Type} (f : α → γ) : Option α × Compilation × σ → Option γ × Compilation × σ
  | (answer, v) => (answer.map f, v)

theorem run_bind_andThen {γ δ : Type} {f : α → Action m γ} {g : α → Action m δ} {k : γ → δ}
    (x : Action m α)
    (h : ∀ a u, World.run (g a).run u = andThen k (World.run (f a).run u)) (u : Compilation × σ) :
    World.run (x >>= g).run u = andThen k (World.run (x >>= f).run u) := by
  rw [Framed.run_bind, Framed.run_bind]
  rcases World.run x.run u with ⟨_ | a, v⟩
  · rfl
  · exact h a v

/-- A task that never waits is taken up to its end. -/
theorem run_advance_lift (nested : String → Action m (Except Error Unit)) (task : Task false)
    (u : Compilation × σ) :
    World.run (advance s nested task.lift).run u =
      andThen Stop.finished (World.run (runSync s nested task).run u) := by
  induction task generalizing u with
  | finish outcome =>
    rw [Task.lift, advance, runSync, Framed.run_pure, Framed.run_pure]
    rfl
  | look next ih => exact run_bind_andThen _ ih u
  | insert added next ih => exact run_bind_andThen _ ih u
  | say note next ih => exact run_bind_andThen _ (fun _ => ih) u
  | invokeSync hook next ih => exact run_bind_andThen _ ih u
  | pause hwaits => cases hwaits
  | invoke hwaits => cases hwaits
  | read hwaits => cases hwaits
  | write hwaits => cases hwaits

/-- The only turn of a listener that does not wait is its call. -/
theorem Performs.turned {c : SyncCall} (h : Performs s c.task u c.outcome v) :
    Turned s (.task c.tap.listener.task) u (.ended c.outcome) v := by
  obtain ⟨fuel, hrun⟩ := h
  have htask : c.tap.listener.task = c.task.lift := rfl
  refine ⟨fuel + 1, ?_⟩
  rw [htask, turn, Framed.run_bind, run_advance_lift, hrun]
  exact Framed.run_pure _ _

/-! ## Series -/

/-- The next listener of a series gets its turn. -/
theorem turns_series_cons (fuel : Nat) (tap : Tap) (rest : List Tap) :
    turns s (fuel + 2) (.series hook none (tap :: rest)) 0 =
      turn s fuel (.task tap.listener.task) >>= fun t =>
        match t with
        | .paused running => return .paused (.series hook (some (tap.name, running)) rest)
        | .ended (.error cause) => return .ended (.error (.listener hook tap.name cause))
        | .ended (.ok _) => turns s fuel (.series hook none rest) 0 := by
  rewrite [turns, turns]
  rfl

theorem turns_series_settles (h : InSequence s u (upToFailure calls) v) (hook : String) :
    ∃ fuel, World.run (turns s fuel (.series hook none (calls.map SyncCall.tap)) 0).run u =
      (some (.ended (reportOf hook calls)), v) := by
  induction calls generalizing u with
  | nil =>
    cases h
    refine ⟨1, ?_⟩
    rw [List.map_nil, turns]
    exact Framed.run_pure _ _
  | cons c calls ih =>
    obtain ⟨name, task, outcome⟩ := c
    cases outcome with
    | ok _ =>
      cases h with
      | call hcall hrest =>
        obtain ⟨first, hfirst⟩ := hcall.turned
        obtain ⟨more, hmore⟩ := ih hrest
        refine ⟨first + more + 2, ?_⟩
        have hturn := turn_below (Nat.le_add_right first more) _ u _ _ hfirst
        rw [List.map_cons, turns_series_cons, Framed.run_bind, hturn]
        exact turns_below (Nat.le_add_left more first) _ _ _ _ _ hmore
    | error cause =>
      cases h with
      | call hcall hrest =>
        cases hrest
        obtain ⟨first, hfirst⟩ := hcall.turned
        refine ⟨first + 2, ?_⟩
        rw [List.map_cons, turns_series_cons, Framed.run_bind, hfirst]
        exact Framed.run_pure _ _

theorem series_settles (h : InSequence s u (upToFailure calls) v) {r : Registry}
    (hd : r.hooks.get? hook = some ⟨.asyncSeries, calls.map SyncCall.tap⟩) :
    Settles (fun fuel => invoke s fuel r hook) u (reportOf hook calls) v := by
  obtain ⟨fuel, hfuel⟩ := turns_series_settles h hook
  have hrun : World.run (invoke s (fuel + 1) r hook).run u =
      (some (reportOf hook calls), v) := by
    rw [invoke, begin_, hd]
    simp only
    rw [complete, Framed.run_bind, hfuel]
    exact Framed.run_pure _ _
  exact .of_below (fun hle => invoke_below hle r hook) hrun

/-! ## Parallel hooks -/

/-- Every listener is called in its turn, whatever failed before. -/
theorem InSequence.inTurn (h : InSequence s u calls w) (hook : String) (place : Nat)
    (failure? : Option Error) :
    ∃ last?, InTurn (Turned s) hook ⟨runnersFrom place (calls.map SyncCall.tap), failure?, u⟩
      ⟨[], last?, w⟩ ∧
      last? = failure?.or (match reportOf hook calls with
        | .ok _ => none
        | .error e => some e) := by
  induction h generalizing place failure? with
  | done u => exact ⟨failure?, .done _, (Option.or_none ..).symm⟩
  | @call u v w c calls hcall _ ih =>
    obtain ⟨last?, hturns, hlast⟩ := ih (place + 1) (firstFailure hook c.name c.outcome failure?)
    refine ⟨last?, .ended hcall.turned hturns, hlast.trans ?_⟩
    rw [reportOf]
    cases failure? with
    | some e => rfl
    | none => cases c.outcome <;> rfl

theorem parallel_settles (h : InSequence s u calls w) {r : Registry}
    (hd : r.hooks.get? hook = some ⟨.asyncParallel, calls.map SyncCall.tap⟩) :
    Settles (fun fuel => invoke s fuel r hook) u (reportOf hook calls) w := by
  obtain ⟨last?, hturns, hlast⟩ := h.inTurn hook 0 none
  have hresult : (Standing.mk [] last? w).result? = some (reportOf hook calls) := by
    rw [hlast]
    cases reportOf hook calls <;> rfl
  obtain ⟨fuel, hfuel⟩ := (invoke_iff_inTurn hd).2 ⟨_, hturns, rfl, hresult⟩
  exact .of_below (fun hle => invoke_below hle r hook) hfuel

/-! ## Hooks of each kind -/

/-- Listeners that do not wait and come to an end are called in the order in which they were tapped,
each in the state that the one before it leaves. A hook that does not wait and a series both call
them up to the first failure; a parallel hook calls all. Each kind reports the first failure, under
the name of its hook. -/
theorem modes_agree {taps : List Tap}
    (hends : ∀ tap ∈ taps, ∃ task, tap.listener = .sync task ∧ task.Ends s) (u : Compilation × σ) :
    ∃ calls v w, calls.map SyncCall.tap = taps ∧
      InSequence s u (upToFailure calls) v ∧ InSequence s u calls w ∧
      (∀ r hook, r.hooks.get? hook = some ⟨.sync, taps⟩ →
        Settles (fun fuel => invokeSync s fuel r hook) u (reportOf hook calls) v) ∧
      (∀ r hook, r.hooks.get? hook = some ⟨.asyncSeries, taps⟩ →
        Settles (fun fuel => invoke s fuel r hook) u (reportOf hook calls) v) ∧
      ∀ r hook, r.hooks.get? hook = some ⟨.asyncParallel, taps⟩ →
        Settles (fun fuel => invoke s fuel r hook) u (reportOf hook calls) w := by
  obtain ⟨calls, w, rfl, hall⟩ := exists_inSequence hends u
  obtain ⟨v, hfirst⟩ := hall.upToFailure
  exact ⟨calls, v, w, rfl, hfirst, hall, fun r hook hd => sync_settles hfirst hd,
    fun r hook hd => series_settles hfirst hd, fun r hook hd => parallel_settles hall hd⟩

/-- Of three listeners the first and the last add a module, and the second fails over the first. -/
def quarrel : List Tap :=
  [⟨"adds", .sync (.insert ⟨.ofRooted "/x", .empty, ""⟩ fun _ => .succeed)⟩,
    ⟨"objects", .sync (.look fun c =>
      if c.graph.contains (.ofRooted "/x") then .fail "there is one" else .succeed)⟩,
    ⟨"adds too", .sync (.insert ⟨.ofRooted "/y", .empty, ""⟩ fun _ => .succeed)⟩]

/-- The same listeners on a hook of each kind. -/
def quarrelStage : Stage (StateM FileSystem.Memory) :=
  ⟨FileSystem.Memory.host, fun _ => pure (), ⟨.ofList [(compilation, ⟨.sync, quarrel⟩),
    (make, ⟨.asyncParallel, quarrel⟩), (emit, ⟨.asyncSeries, quarrel⟩)]⟩⟩

/-- The three hooks blame the second listener; only the parallel one has called the third. -/
theorem modes_agree_quarrel : ∃ v w,
    Settles (fun fuel => invokeSync quarrelStage fuel quarrelStage.registry compilation) hastyStart
      (.error (.listener compilation "objects" ⟨"there is one", []⟩)) v ∧
    Settles (fun fuel => invoke quarrelStage fuel quarrelStage.registry emit) hastyStart
      (.error (.listener emit "objects" ⟨"there is one", []⟩)) v ∧
    Settles (fun fuel => invoke quarrelStage fuel quarrelStage.registry make) hastyStart
      (.error (.listener make "objects" ⟨"there is one", []⟩)) w ∧
    v.1.graph.ids = [.ofRooted "/x"] ∧
    w.1.graph.ids = [.ofRooted "/x", .ofRooted "/y"] := by
  have hends : ∀ tap ∈ quarrel, ∃ task, tap.listener = .sync task ∧ task.Ends quarrelStage := by
    simp only [quarrel, List.forall_mem_cons]
    refine ⟨⟨_, rfl, Task.InvokesNone.ends fun _ => trivial⟩,
      ⟨_, rfl, Task.InvokesNone.ends fun c => ?_⟩,
      ⟨_, rfl, Task.InvokesNone.ends fun _ => trivial⟩, by simp⟩
    beta_reduce
    split <;> trivial
  obtain ⟨calls, v, w, -, -, -, hsync, hseries, hparallel⟩ := modes_agree hends hastyStart
  replace hsync := hsync quarrelStage.registry compilation rfl
  replace hseries := hseries quarrelStage.registry emit rfl
  replace hparallel := hparallel quarrelStage.registry make rfl
  obtain ⟨hfirst, hv⟩ := hsync.eq_run 9 (fun hle => invokeSync_below hle _ _)
    (show _ = some (.error (.listener compilation "objects" ⟨"there is one", []⟩)) by
      decide +kernel)
  obtain ⟨hsecond, -⟩ := hseries.eq_run 9 (fun hle => invoke_below hle _ _)
    (show _ = some (.error (.listener emit "objects" ⟨"there is one", []⟩)) by decide +kernel)
  obtain ⟨hthird, hw⟩ := hparallel.eq_run 9 (fun hle => invoke_below hle _ _)
    (show _ = some (.error (.listener make "objects" ⟨"there is one", []⟩)) by decide +kernel)
  rw [hfirst] at hsync
  rw [hsecond] at hseries
  rw [hthird] at hparallel
  refine ⟨v, w, hsync, hseries, hparallel, ?_, ?_⟩
  · rw [hv]
    decide +kernel
  · rw [hw]
    decide +kernel

end ModuleBundler.Hook
