import Mathlib.Data.List.Perm.Basic
import ModuleBundler.Proofs.Hook.Frame

/-!
# Watching the listeners of a hook

The calls of a hook's listeners, as they can be seen from outside: when each one is called and when
it ends. The listeners of a parallel hook get their turns in whatever order a schedule says.
-/

namespace ModuleBundler.Hook

open FileSystem (Host)

/-- What can be seen of a run. A listener is known by its place among those of its hook. -/
inductive Event where
  | entered (phase : Phase)
  | called (hook : String) (place : Nat)
  | ended (hook : String) (place : Nat) (well : Bool)
  /-- Whether the graph was found to be closed. -/
  | checked (closed : Bool)
  | creates (directory : String)
  | writes (path : String)
  deriving DecidableEq

section Watching

/-- A world that also keeps a log of what is seen. -/
abbrev Logged (m : Type → Type) := StateT (List Event) m

variable {m : Type → Type} [Monad m]

def log (e : Event) : Logged m Unit := modify (· ++ [e])

def tell (e : Event) : Action (Logged m) Unit := liftM (log e : Logged m Unit)

/-- A host whose requests to change something are seen. -/
def watchedHost (h : Host m) : Host (Logged m) where
  read path := StateT.lift (h.read path)
  write path bytes := do
    log (.writes path)
    StateT.lift (h.write path bytes)
  createDirectory path all := do
    log (.creates path)
    StateT.lift (h.createDirectory path all)
  isFile path := StateT.lift (h.isFile path)
  workingDirectory := StateT.lift h.workingDirectory

/-- Calls listeners in order up to the first failure, from the one at `place` on. -/
def watchTaps (run : Task false → Action (Logged m) Outcome) (hook : String) :
    Nat → List Tap → Action (Logged m) (Except Error Unit)
  | _, [] => return .ok ()
  | place, ⟨_, .async _⟩ :: taps => watchTaps run hook (place + 1) taps
  | place, ⟨name, .sync task⟩ :: taps => do
    tell (.called hook place)
    let outcome ← run task
    tell (.ended hook place outcome.toBool)
    match outcome with
    | .error cause => return .error (.listener hook name cause)
    | .ok _ => watchTaps run hook (place + 1) taps

/-- Invokes a hook of `r` that does not wait. -/
def watchSync (s : Stage (Logged m)) (fuel : Nat) (r : Registry) (hook : String) :
    Action (Logged m) (Except Error Unit) :=
  match r.hooks.get? hook with
  | none => return .error (.unknown hook)
  | some d =>
    if d.kind = .sync then watchTaps (runSync s (invokeNested s fuel)) hook 0 d.taps
    else return .error (.kindMismatch hook d.kind false)

/-- Who gets the next turn, and how much fuel it has. -/
structure Choice where
  place : Nat
  fuel : Nat

/-- Gives a listener turns until it ends. -/
def finishAlone (s : Stage (Logged m)) :
    List Choice → Running → Action (Logged m) (Outcome × List Choice)
  | [], _ => outOfFuel
  | choice :: schedule, running => do
    match ← turn s choice.fuel running with
    | .paused left => finishAlone s schedule left
    | .ended outcome => return (outcome, schedule)

/-- Calls listeners one after another, waiting for each, from the one at `place` on. -/
def watchSeries (s : Stage (Logged m)) (hook : String) :
    Nat → List Tap → List Choice → Action (Logged m) (Except Error Unit)
  | _, [], _ => return .ok ()
  | place, tap :: taps, schedule => do
    tell (.called hook place)
    let (outcome, schedule) ← finishAlone s schedule (.task tap.listener.task)
    tell (.ended hook place outcome.toBool)
    match outcome with
    | .error cause => return .error (.listener hook tap.name cause)
    | .ok _ => watchSeries s hook (place + 1) taps schedule

/-- A listener of a parallel hook that has not ended. -/
structure Runner where
  place : Nat
  name : String
  left : Running
  called : Bool

def runnersFrom (place : Nat) : List Tap → List Runner
  | [] => []
  | tap :: taps => ⟨place, tap.name, .task tap.listener.task, false⟩ :: runnersFrom (place + 1) taps

/-- A listener is called when it gets its first turn. -/
def Runner.announce (r : Runner) (hook : String) : Action (Logged m) Unit :=
  if r.called then return () else tell (.called hook r.place)

/-- Gives turns to the listeners of a parallel hook until all have ended. A choice counts the
listeners that are left, and one beyond them is void. -/
def race (s : Stage (Logged m)) (hook : String) :
    List Choice → List Runner → Option Error → Action (Logged m) (Except Error Unit)
  | _, [], none => return .ok ()
  | _, [], some e => return .error e
  | [], _ :: _, _ => outOfFuel
  | choice :: schedule, runner :: runners, failure? =>
    match (runner :: runners)[choice.place]? with
    | none => race s hook schedule (runner :: runners) failure?
    | some chosen => do
      chosen.announce hook
      let others := (runner :: runners).eraseIdx choice.place
      match ← turn s choice.fuel chosen.left with
      | .paused left =>
        race s hook schedule (others ++ [{ chosen with left, called := true }]) failure?
      | .ended outcome =>
        tell (.ended hook chosen.place outcome.toBool)
        race s hook schedule others (firstFailure hook chosen.name outcome failure?)

/-- Invokes a hook of `r` and waits for its listeners. -/
def watch (s : Stage (Logged m)) (schedule : List Choice) (r : Registry) (hook : String) :
    Action (Logged m) (Except Error Unit) :=
  match r.hooks.get? hook with
  | none => return .error (.unknown hook)
  | some d =>
    match d.kind with
    | .sync => return .error (.kindMismatch hook .sync true)
    | .asyncParallel => race s hook schedule (runnersFrom 0 d.taps) none
    | .asyncSeries => watchSeries s hook 0 d.taps schedule

end Watching

/-! ## What is seen of a hook -/

/-- How a part of a run came out; one that is stuck had no more turns. -/
inductive Status where
  | passed
  | failed
  | stuck
  deriving DecidableEq

def Status.of {ε α : Type} : Option (Except ε α) → Status
  | none => .stuck
  | some (.error _) => .failed
  | some (.ok _) => .passed

/-- What may be seen of a part of a run, by how it came out. -/
abbrev Sights := Status → List Event → Prop

/-- The sight is of this hook's listeners. -/
def Event.IsOf (hook : String) (e : Event) : Prop :=
  (∃ place, e = .called hook place) ∨ ∃ place well, e = .ended hook place well

/-- Of `n` listeners none is called twice. When the hook passes, each was called and ended well. -/
structure Attended (hook : String) (n : Nat) (b : Status) (seen : List Event) : Prop where
  own : ∀ e ∈ seen, e.IsOf hook
  once : ∀ place, seen.count (.called hook place) ≤ if place < n then 1 else 0
  all : b = .passed → ∀ place < n, seen.count (.called hook place) = 1
  well : b = .passed → ∀ place, .ended hook place false ∉ seen
  ended : b = .passed → ∀ place < n, .ended hook place true ∈ seen

theorem Attended.stuck {hook : String} {n : Nat} : Attended hook n .stuck [] where
  own := by simp
  once := by simp
  all h := by cases h
  well h := by cases h
  ended h := by cases h

/-- No listener is called before those that were called earlier have ended, and ended well. -/
def OneByOne (hook : String) (seen : List Event) : Prop :=
  ∀ front place back, seen = front ++ .called hook place :: back →
    ∀ earlier, .called hook earlier ∈ front → .ended hook earlier true ∈ front

/-- Unless turns are lacking, every listener has ended. -/
def Drained (hook : String) (n : Nat) (b : Status) (seen : List Event) : Prop :=
  b ≠ .stuck → ∀ place < n, ∃ well, .ended hook place well ∈ seen

/-- Calls from `place` on, one after another up to the first failure. -/
inductive Calls (hook : String) (n : Nat) : Nat → Sights
  | none : Calls hook n n .passed []
  | stuck {place : Nat} (h : place < n) : Calls hook n place .stuck [.called hook place]
  | failed {place : Nat} (h : place < n) :
    Calls hook n place .failed [.called hook place, .ended hook place false]
  | next {place : Nat} {b : Status} {seen : List Event} (h : place < n)
    (hnext : Calls hook n (place + 1) b seen) :
    Calls hook n place b (.called hook place :: .ended hook place true :: seen)

namespace Calls

variable {hook : String} {n place : Nat} {b : Status} {seen : List Event}

theorem own (h : Calls hook n place b seen) : ∀ e ∈ seen, e.IsOf hook := by
  induction h with
  | none => simp
  | stuck h => simp [Event.IsOf]
  | failed h => simp [Event.IsOf]
  | next h _ ih =>
    rintro e he
    rcases List.mem_cons.1 he with rfl | he
    · exact .inl ⟨_, rfl⟩
    rcases List.mem_cons.1 he with rfl | he
    · exact .inr ⟨_, _, rfl⟩
    · exact ih e he

/-- Only listeners from `place` on are called, each at most once. -/
theorem once (h : Calls hook n place b seen) (i : Nat) :
    seen.count (.called hook i) ≤ if place ≤ i ∧ i < n then 1 else 0 := by
  induction h with
  | none => simp
  | @stuck place h =>
    by_cases hi : i = place
    · simp [hi, h]
    · simp [Ne.symm hi]
  | @failed place h =>
    by_cases hi : i = place
    · simp [hi, h]
    · simp [Ne.symm hi]
  | @next place b seen h _ ih =>
    by_cases hi : i = place
    · subst hi
      have hnone : seen.count (.called hook i) = 0 := by
        have hle := ih
        rw [if_neg (by omega)] at hle
        omega
      simp [h, hnone]
    · have hrange : (place + 1 ≤ i ∧ i < n) ↔ (place ≤ i ∧ i < n) := by omega
      rw [List.count_cons_of_ne (by simp [Ne.symm hi]), List.count_cons_of_ne (by simp)]
      exact Nat.le_trans ih (Nat.le_of_eq (if_congr hrange rfl rfl))

/-- When all pass, each listener from `place` on was called and ended well. -/
theorem passed (h : Calls hook n place b seen) (hb : b = .passed) (i : Nat) (hp : place ≤ i)
    (hi : i < n) : seen.count (.called hook i) = 1 ∧ .ended hook i true ∈ seen := by
  induction h with
  | none => omega
  | stuck h => cases hb
  | failed h => cases hb
  | @next place b seen h hnext ih =>
    by_cases hsame : i = place
    · subst hsame
      have hnone := hnext.once i
      rw [if_neg (by omega)] at hnone
      simp [Nat.le_zero.1 hnone]
    · obtain ⟨hcount, hmem⟩ := ih hb (by omega)
      simp [Ne.symm hsame, hcount, hmem]

theorem well (h : Calls hook n place b seen) (hb : b = .passed) (i : Nat) :
    .ended hook i false ∉ seen := by
  induction h with
  | none => simp
  | stuck h => cases hb
  | failed h => cases hb
  | next h _ ih => simpa using ih hb

theorem attended (h : Calls hook n 0 b seen) : Attended hook n b seen where
  own := h.own
  once i := by simpa using h.once i
  all hb i hi := (h.passed hb i (Nat.zero_le i) hi).1
  well := h.well
  ended hb i hi := (h.passed hb i (Nat.zero_le i) hi).2

theorem oneByOne (h : Calls hook n place b seen) : OneByOne hook seen := by
  intro front i back heq earlier hearlier
  induction h generalizing front with
  | none => simp at heq
  | stuck h =>
    rcases front with _ | ⟨x, front⟩
    · cases hearlier
    · simp at heq
  | failed h =>
    rcases front with _ | ⟨x, _ | ⟨y, front⟩⟩
    · cases hearlier
    · simp at heq
    · simp at heq
  | next h _ ih =>
    rcases front with _ | ⟨x, _ | ⟨y, front⟩⟩
    · cases hearlier
    · simp at heq
    · simp only [List.cons_append, List.cons.injEq] at heq
      obtain ⟨rfl, rfl, hrest⟩ := heq
      rcases List.mem_cons.1 hearlier with hsame | hearlier
      · cases hsame
        exact List.mem_cons_of_mem _ List.mem_cons_self
      · have hfront : .called hook earlier ∈ front := by simpa using hearlier
        exact List.mem_cons_of_mem _ (List.mem_cons_of_mem _ (ih front hrest hfront))

end Calls

/-- The places of the listeners that were not called so far. -/
def uncalled (runners : List Runner) : List Nat :=
  (runners.filter fun r => !r.called).map Runner.place

/-- What is seen of a race: each listener is called once if it was not called before, and ends. -/
structure Raced (hook : String) (runners : List Runner) (failed : Bool) (b : Status)
    (seen : List Event) : Prop where
  own : ∀ e ∈ seen, e.IsOf hook
  once : ∀ place, seen.count (.called hook place) ≤ (uncalled runners).count place
  all : b ≠ .stuck → ∀ place, seen.count (.called hook place) = (uncalled runners).count place
  ended : b ≠ .stuck → ∀ r ∈ runners, ∃ well, .ended hook r.place well ∈ seen
  well : b = .passed → failed = false ∧ ∀ place, .ended hook place false ∉ seen

namespace Raced

variable {hook : String} {runners others : List Runner} {chosen : Runner} {failed : Bool}
variable {b : Status} {seen : List Event}

theorem none : Raced hook [] false .passed [] where
  own := by simp
  once := by simp [uncalled]
  all := by simp [uncalled]
  ended := by simp
  well := by simp

theorem failure : Raced hook [] true .failed [] where
  own := by simp
  once := by simp [uncalled]
  all := by simp [uncalled]
  ended := by simp
  well := by simp

theorem stuck : Raced hook runners failed .stuck [] where
  own := by simp
  once := by simp
  all h := absurd rfl h
  ended h := absurd rfl h
  well h := by cases h

/-- What is seen when a listener gets its first turn. -/
def announced (hook : String) (r : Runner) : List Event :=
  if r.called then [] else [.called hook r.place]

theorem count_uncalled (hook : String) (hperm : runners.Perm (chosen :: others)) (place : Nat) :
    (uncalled runners).count place =
      (announced hook chosen).count (.called hook place) + (uncalled others).count place := by
  have hfilter := (hperm.filter fun r => !r.called).map Runner.place
  rw [uncalled, hfilter.count_eq, uncalled, announced]
  cases hc : chosen.called with
  | true => simp [hc]
  | false =>
    by_cases hp : place = chosen.place
    · simp [hc, hp, Nat.add_comm]
    · simp [hc, Ne.symm hp]

theorem own_announced : ∀ e ∈ announced hook chosen, e.IsOf hook := by
  intro e he
  unfold announced at he
  split at he
  · cases he
  · exact .inl ⟨_, List.mem_singleton.1 he⟩

theorem ended_not_mem_announced (place : Nat) (well : Bool) :
    .ended hook place well ∉ announced hook chosen := by
  unfold announced
  split <;> simp

/-- The chosen listener pauses, and the race goes on with it at the end. -/
theorem paused (hperm : runners.Perm (chosen :: others)) (left : Running)
    (h : Raced hook (others ++ [{ chosen with left, called := true }]) failed b seen) :
    Raced hook runners failed b (announced hook chosen ++ seen) := by
  have huncalled : uncalled (others ++ [{ chosen with left, called := true }]) =
      uncalled others := by
    simp [uncalled]
  refine ⟨fun e he => ?_, fun place => ?_, fun hb place => ?_, fun hb r hr => ?_, fun hb => ?_⟩
  · exact (List.mem_append.1 he).elim (own_announced e) (h.own e)
  · have hle := h.once place
    rw [huncalled] at hle
    rw [List.count_append, count_uncalled hook hperm]
    omega
  · rw [List.count_append, count_uncalled hook hperm, h.all hb, huncalled]
  · obtain ⟨well, hmem⟩ : ∃ well, .ended hook r.place well ∈ seen := by
      rcases List.mem_cons.1 (hperm.mem_iff.1 hr) with rfl | hr
      · exact h.ended hb { r with left, called := true } (by simp)
      · exact h.ended hb r (List.mem_append_left _ hr)
    exact ⟨well, List.mem_append_right _ hmem⟩
  · refine ⟨(h.well hb).1, fun place hmem => ?_⟩
    rcases List.mem_append.1 hmem with hmem | hmem
    · exact ended_not_mem_announced _ _ hmem
    · exact (h.well hb).2 place hmem

/-- The chosen listener ends, and the race goes on without it. -/
theorem finished (hperm : runners.Perm (chosen :: others)) (well : Bool)
    (h : Raced hook others (failed || !well) b seen) :
    Raced hook runners failed b
      (announced hook chosen ++ .ended hook chosen.place well :: seen) := by
  have hcount (place : Nat) :
      (Event.ended hook chosen.place well :: seen).count (.called hook place) =
        seen.count (.called hook place) := by simp
  refine ⟨fun e he => ?_, fun place => ?_, fun hb place => ?_, fun hb r hr => ?_, fun hb => ?_⟩
  · rcases List.mem_append.1 he with he | he
    · exact own_announced e he
    · rcases List.mem_cons.1 he with rfl | he
      · exact .inr ⟨_, _, rfl⟩
      · exact h.own e he
  · have hle := h.once place
    rw [List.count_append, hcount, count_uncalled hook hperm]
    omega
  · rw [List.count_append, hcount, count_uncalled hook hperm, h.all hb]
  · rcases List.mem_cons.1 (hperm.mem_iff.1 hr) with rfl | hr
    · exact ⟨well, List.mem_append_right _ List.mem_cons_self⟩
    · obtain ⟨well', hmem⟩ := h.ended hb r hr
      exact ⟨well', List.mem_append_right _ (List.mem_cons_of_mem _ hmem)⟩
  · obtain ⟨hfailed, hnone⟩ := h.well hb
    rw [Bool.or_eq_false_iff, Bool.not_eq_false'] at hfailed
    refine ⟨hfailed.1, fun place hmem => ?_⟩
    rcases List.mem_append.1 hmem with hmem | hmem
    · exact ended_not_mem_announced _ _ hmem
    · rcases List.mem_cons.1 hmem with heq | hmem
      · cases heq
        cases hfailed.2
      · exact hnone place hmem

/-- The chosen listener has no end to its turn. -/
theorem lost (hperm : runners.Perm (chosen :: others)) :
    Raced hook runners failed .stuck (announced hook chosen) where
  own := own_announced
  once place := by
    rw [count_uncalled hook hperm]
    exact Nat.le_add_right _ _
  all h := absurd rfl h
  ended h := absurd rfl h
  well h := by cases h

end Raced

theorem uncalled_runnersFrom (place : Nat) (taps : List Tap) :
    uncalled (runnersFrom place taps) = List.range' place taps.length := by
  induction taps generalizing place with
  | nil => rfl
  | cons tap taps ih =>
    have hrest := ih (place + 1)
    rw [uncalled] at hrest ⊢
    rw [runnersFrom, List.filter_cons_of_pos rfl, List.map_cons, hrest]
    rfl

theorem exists_runner {place i : Nat} {taps : List Tap} (hp : place ≤ i)
    (hi : i < place + taps.length) : ∃ r ∈ runnersFrom place taps, r.place = i := by
  have hmem : i ∈ uncalled (runnersFrom place taps) := by
    rw [uncalled_runnersFrom, List.mem_range'_1]
    exact ⟨hp, hi⟩
  obtain ⟨r, hr, heq⟩ := List.mem_map.1 hmem
  exact ⟨r, (List.mem_filter.1 hr).1, heq⟩

/-- What holds of the tasks of all listeners holds of what is left of them at first. -/
theorem forall_runnersFrom {P : Running → Prop} {taps : List Tap}
    (h : ∀ tap ∈ taps, P (.task tap.listener.task)) (place : Nat) :
    ∀ r ∈ runnersFrom place taps, P r.left := by
  induction taps generalizing place with
  | nil => simp [runnersFrom]
  | cons tap taps ih =>
    obtain ⟨htap, htaps⟩ := List.forall_mem_cons.1 h
    intro r hr
    rcases List.mem_cons.1 hr with rfl | hr
    · exact htap
    · exact ih htaps _ r hr

/-- A race of all listeners attends to each of them, and is over when all have ended. -/
theorem Raced.attended {hook : String} {taps : List Tap} {b : Status} {seen : List Event}
    (h : Raced hook (runnersFrom 0 taps) false b seen) :
    Attended hook taps.length b seen ∧ Drained hook taps.length b seen := by
  have hcount (place : Nat) : (uncalled (runnersFrom 0 taps)).count place =
      if place < taps.length then 1 else 0 := by
    rw [uncalled_runnersFrom, ← List.range_eq_range', List.count_range]
  have hended : Drained hook taps.length b seen := by
    intro hb place hplace
    obtain ⟨r, hr, rfl⟩ : ∃ r ∈ runnersFrom 0 taps, r.place = place :=
      exists_runner (Nat.zero_le _) (by simpa using hplace)
    exact h.ended hb r hr
  refine ⟨⟨h.own, fun place => hcount place ▸ h.once place, fun hb place hplace => ?_,
    fun hb => (h.well hb).2, fun hb place hplace => ?_⟩, hended⟩
  · rw [h.all (by simp [hb]), hcount, if_pos hplace]
  · obtain ⟨well, hmem⟩ := hended (by simp [hb]) place hplace
    cases well with
    | true => exact hmem
    | false => exact absurd hmem ((h.well hb).2 place)

/-! ## Keeping a log -/

variable {m : Type → Type} [Monad m] {σ : Type} [World m σ] {α γ : Type}

/-- A state once an event was seen. -/
def logged (e : Event) (s : Compilation × List Event × σ) : Compilation × List Event × σ :=
  (s.1, s.2.1 ++ [e], s.2.2)

theorem run_tell (e : Event) (s : Compilation × List Event × σ) :
    World.run (tell e : Action (Logged m) Unit).run s = (some (), logged e s) := by
  rw [tell, Framed.run_host, log, World.run_modify]
  rfl

/-- What an action adds to the log and how it comes out fit together. -/
def Emits (x : Action (Logged m) α) (S : Option α → List Event → Prop) : Prop :=
  ∀ s : Compilation × List Event × σ, ∃ seen,
    (World.run x.run s).2.2.1 = s.2.1 ++ seen ∧ S (World.run x.run s).1 seen

namespace Emits

variable {S S' : Option α → List Event → Prop} {T : Option γ → List Event → Prop}

theorem weaken {x : Action (Logged m) α} (hx : Emits x S) (h : ∀ r seen, S r seen → S' r seen) :
    Emits x S' := by
  intro s
  obtain ⟨seen, hlog, hS⟩ := hx s
  exact ⟨seen, hlog, h _ _ hS⟩

theorem pure {a : α} (h : S (some a) []) : Emits (Pure.pure a : Action (Logged m) α) S := by
  intro s
  rw [Framed.run_pure]
  exact ⟨[], (List.append_nil _).symm, h⟩

theorem lacking (h : S none []) : Emits (outOfFuel : Action (Logged m) α) S := by
  intro s
  rw [Framed.run_outOfFuel]
  exact ⟨[], (List.append_nil _).symm, h⟩

theorem bind {x : Action (Logged m) α} {f : α → Action (Logged m) γ} (hx : Emits x S)
    (hnone : ∀ seen, S none seen → T none seen)
    (hf : ∀ a seen, S (some a) seen → Emits (f a) fun r more => T r (seen ++ more)) :
    Emits (x >>= f) T := by
  intro s
  obtain ⟨seen, hlog, hS⟩ := hx s
  rw [Framed.run_bind]
  rcases hr : World.run x.run s with ⟨_ | a, t⟩
  · rw [hr] at hlog hS
    exact ⟨seen, hlog, hnone seen hS⟩
  · rw [hr] at hlog hS
    obtain ⟨more, hmore, hT⟩ := hf a seen hS t
    refine ⟨seen ++ more, ?_, hT⟩
    rw [hmore, hlog, List.append_assoc]

/-- An action that leaves the log alone. -/
theorem silent {Q : α → Prop} {x : Action (Logged m) α} (hx : Framed Prod.fst Q x) :
    Emits x fun r seen => seen = [] ∧ ∀ a, r = some a → Q a := by
  intro s
  obtain ⟨hgrows, hQ⟩ := hx s
  exact ⟨[], hgrows.rest.trans (List.append_nil _).symm, rfl, hQ⟩

theorem silent_bind {Q : α → Prop} {x : Action (Logged m) α} {f : α → Action (Logged m) γ}
    (hx : Framed Prod.fst Q x) (hnone : T none []) (hf : ∀ a, Q a → Emits (f a) T) :
    Emits (x >>= f) T := by
  refine (silent hx).bind (fun seen h => h.1 ▸ hnone) fun a seen h => ?_
  obtain ⟨rfl, hQ⟩ := h
  exact hf a (hQ a rfl)

theorem tell (e : Event) : Emits (tell e : Action (Logged m) Unit) fun r seen =>
    r = some () ∧ seen = [e] := by
  intro s
  rw [run_tell]
  exact ⟨[e], rfl, rfl, rfl⟩

theorem tell_bind {e : Event} {f : Unit → Action (Logged m) γ}
    (hf : Emits (f ()) fun r seen => T r (e :: seen)) :
    Emits (Hook.tell e >>= f) T := by
  refine (tell e).bind (fun seen h => by cases h.1) fun a seen h => ?_
  obtain ⟨-, rfl⟩ := h
  exact hf

end Emits

variable {s : Stage (Logged m)}

variable {hook : String} {n : Nat} {may : FileSystem.Operation → Prop}

/-- Listeners that do not wait are called one after another. -/
theorem watchTaps_emits {run : Task false → Action (Logged m) Outcome}
    (hrun : ∀ t, Framed Prod.fst (fun _ => True) (run t)) (taps : List Tap)
    (hsync : ∀ tap ∈ taps, tap.listener.isAsync = false) (place : Nat)
    (hn : place + taps.length = n) :
    Emits (watchTaps run hook place taps) fun r seen => Calls hook n place (.of r) seen := by
  induction taps generalizing place with
  | nil =>
    rw [List.length_nil, Nat.add_zero] at hn
    subst hn
    exact .pure .none
  | cons tap taps ih =>
    obtain ⟨name, listener⟩ := tap
    rw [List.length_cons] at hn
    have hplace : place < n := by omega
    have htaps : ∀ tap ∈ taps, tap.listener.isAsync = false :=
      fun tap htap => hsync tap (List.mem_cons_of_mem _ htap)
    have hrest := ih htaps (place + 1) (by omega)
    cases listener with
    | async task => simpa [Listener.isAsync] using hsync _ List.mem_cons_self
    | sync task =>
      rw [watchTaps]
      refine .tell_bind (.silent_bind (hrun task) (.stuck hplace) fun outcome _ => ?_)
      refine .tell_bind ?_
      cases outcome with
      | error cause => exact .pure (.failed hplace)
      | ok _ => exact hrest.weaken fun r seen h => .next hplace h

theorem finishAlone_framed (hs : s.Confined Prod.fst may) (schedule : List Choice)
    {running : Running} (hrunning : running.Confined may) :
    Framed Prod.fst (fun _ => True) (finishAlone s schedule running) := by
  induction schedule generalizing running with
  | nil => exact .none
  | cons choice schedule ih =>
    rw [finishAlone]
    refine .bind (turn_framed hs choice.fuel hrunning) fun t ht => ?_
    cases t with
    | paused left => exact ih ht
    | ended outcome => exact .pure trivial

/-- Listeners of a series are called one after another. -/
theorem watchSeries_emits (hs : s.Confined Prod.fst may) (taps : List Tap)
    (htaps : ∀ tap ∈ taps, tap.listener.Confined may) (place : Nat) (hn : place + taps.length = n)
    (schedule : List Choice) :
    Emits (watchSeries s hook place taps schedule)
      fun r seen => Calls hook n place (.of r) seen := by
  induction taps generalizing place schedule with
  | nil =>
    rw [List.length_nil, Nat.add_zero] at hn
    subst hn
    exact .pure .none
  | cons tap taps ih =>
    rw [List.length_cons] at hn
    obtain ⟨htap, htaps⟩ := List.forall_mem_cons.1 htaps
    have hplace : place < n := by omega
    rw [watchSeries]
    refine .tell_bind (.silent_bind (finishAlone_framed hs schedule (.task htap.task))
      (.stuck hplace) fun result _ => ?_)
    obtain ⟨outcome, schedule⟩ := result
    refine .tell_bind ?_
    cases outcome with
    | error cause => exact .pure (.failed hplace)
    | ok _ => exact (ih htaps (place + 1) (by omega) schedule).weaken fun r seen h => .next hplace h

theorem announce_emits (r : Runner) :
    Emits (r.announce hook : Action (Logged m) Unit) fun result seen =>
      result = some () ∧ seen = Raced.announced hook r := by
  unfold Runner.announce Raced.announced
  split
  · exact .pure ⟨rfl, rfl⟩
  · exact .tell _

theorem isSome_firstFailure (name : String) (outcome : Outcome) (failure? : Option Error) :
    (firstFailure hook name outcome failure?).isSome = (failure?.isSome || !outcome.toBool) := by
  cases failure? <;> cases outcome <;> rfl

/-- Whatever the schedule, a race calls each listener once. -/
theorem race_emits (hs : s.Confined Prod.fst may) (schedule : List Choice) (runners : List Runner)
    (hrunners : ∀ r ∈ runners, r.left.Confined may) (failure? : Option Error) :
    Emits (race s hook schedule runners failure?)
      fun r seen => Raced hook runners failure?.isSome (.of r) seen := by
  induction schedule generalizing runners failure? with
  | nil =>
    cases runners with
    | nil =>
      cases failure? with
      | none => exact .pure .none
      | some e => exact .pure .failure
    | cons runner runners => exact .lacking .stuck
  | cons choice schedule ih =>
    cases runners with
    | nil =>
      cases failure? with
      | none => exact .pure .none
      | some e => exact .pure .failure
    | cons runner runners =>
      rw [race]
      cases hchosen : (runner :: runners)[choice.place]? with
      | none => exact ih _ hrunners failure?
      | some chosen =>
        obtain ⟨hlt, hget⟩ := List.getElem?_eq_some_iff.1 hchosen
        have hperm :
            (runner :: runners).Perm (chosen :: (runner :: runners).eraseIdx choice.place) := by
          rw [← hget]
          exact (List.getElem_cons_eraseIdx_perm hlt).symm
        have hleft : chosen.left.Confined may :=
          hrunners chosen (hperm.mem_iff.2 List.mem_cons_self)
        have hothers : ∀ r ∈ (runner :: runners).eraseIdx choice.place, r.left.Confined may :=
          fun r hr => hrunners r (hperm.mem_iff.2 (List.mem_cons_of_mem _ hr))
        refine .bind (announce_emits chosen) (fun seen h => by cases h.1) fun _ seen h => ?_
        obtain ⟨-, rfl⟩ := h
        refine .silent_bind (turn_framed hs choice.fuel hleft)
          ((List.append_nil _).symm ▸ .lost hperm) fun t ht => ?_
        cases t with
        | paused left =>
          refine (ih _ (fun r hr => ?_) failure?).weaken fun r seen h => h.paused hperm left
          rcases List.mem_append.1 hr with hr | hr
          · exact hothers r hr
          · rw [List.mem_singleton.1 hr]
            exact ht
        | ended outcome =>
          refine .tell_bind ((ih _ hothers _).weaken fun r seen h => .finished hperm _ ?_)
          rw [← isSome_firstFailure]
          exact h

section Invocations

variable {r : Registry} {taps : List Tap}

theorem watchSync_emits (hs : s.Confined Prod.fst may) (fuel : Nat)
    (hd : r.hooks.get? hook = some ⟨.sync, taps⟩)
    (hsync : ∀ tap ∈ taps, tap.listener.isAsync = false) :
    Emits (watchSync s fuel r hook) fun result seen =>
      Calls hook taps.length 0 (.of result) seen := by
  rw [watchSync, hd]
  exact watchTaps_emits (runSync_framed hs (invokeNested_framed hs fuel)) taps hsync 0
    (Nat.zero_add _)

theorem watch_series_emits (hs : s.Confined Prod.fst may) (hr : r.Confined may)
    (schedule : List Choice) (hd : r.hooks.get? hook = some ⟨.asyncSeries, taps⟩) :
    Emits (watch s schedule r hook) fun result seen =>
      Calls hook taps.length 0 (.of result) seen := by
  rw [watch, hd]
  exact watchSeries_emits hs taps (fun tap htap => hr.tap hd htap) 0 (Nat.zero_add _) schedule

theorem watch_parallel_emits (hs : s.Confined Prod.fst may) (hr : r.Confined may)
    (schedule : List Choice) (hd : r.hooks.get? hook = some ⟨.asyncParallel, taps⟩) :
    Emits (watch s schedule r hook) fun result seen =>
      Attended hook taps.length (.of result) seen ∧ Drained hook taps.length (.of result) seen := by
  rw [watch, hd]
  refine (race_emits hs schedule (runnersFrom 0 taps) ?_ none).weaken fun _ _ h => h.attended
  exact forall_runnersFrom (fun tap htap => .task (hr.tap hd htap).task) 0

end Invocations

end ModuleBundler.Hook
