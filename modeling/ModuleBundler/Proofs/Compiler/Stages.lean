import ModuleBundler.Proofs.Compiler.Watch
import ModuleBundler.Proofs.Hook.Registry

/-!
# What is seen of each phase

A watched run goes through its phases as far as they pass. What is seen of each phase depends on the
listeners of its hook, and on how the phase came out.
-/

namespace ModuleBundler

open FileSystem (Host)
open Hook (Attended Calls Choice Drained Emits Event Framed Logged Registry Sights Stage Status
  logged watchedHost watchedStage)

/-- The host is asked to change something. -/
def Hook.Event.IsRequest : Event → Prop
  | .creates _ => True
  | .writes _ => True
  | _ => False

namespace Compiler

/-! ## Phases -/

/-- The phases of a run. -/
def phases : List Phase :=
  [.build, .graphAssembled, .make, .generate, .emit, .afterEmit, .done]

/-- What may be seen of the make phase, whose hook has `n` listeners. -/
inductive Making (n : Nat) : Sights
  /-- The hook was not called. -/
  | unexpanded {b : Status} (hb : b ≠ .passed) : Making n b []
  | unfinished {b : Status} {seen : List Event} (hb : b ≠ .passed)
    (h : Attended Hook.make n b seen) (hdrained : Drained Hook.make n b seen) : Making n b seen
  /-- All listeners ended well, and the graph was looked at. -/
  | checked {b : Status} {seen : List Event} (closed : Bool)
    (hb : b = if closed then .passed else .failed) (h : Attended Hook.make n .passed seen) :
    Making n b (seen ++ [.checked closed])

/-- What may be seen in a phase once it is entered. -/
def Within (r : Registry) : Phase → Sights
  | .graphAssembled => Calls Hook.compilation (r.taps Hook.compilation).length 0
  | .make => Making (r.taps Hook.make).length
  | .generate => fun _ seen => ∀ e ∈ seen, e.IsRequest
  | .emit => Calls Hook.emit (r.taps Hook.emit).length 0
  | .afterEmit => Calls Hook.afterEmit (r.taps Hook.afterEmit).length 0
  | _ => fun _ seen => seen = []

/-- What may be seen of a phase. -/
def SightsOf (r : Registry) (phase : Phase) : Sights := fun b seen =>
  ∃ rest, seen = .entered phase :: rest ∧ Within r phase b rest

/-- What may be seen of phases that follow each other as long as they pass. -/
inductive Staged (sights : Phase → Sights) : List Phase → Sights
  | done : Staged sights [] .passed []
  /-- The run ends before the next phase is entered. -/
  | halt {phases : List Phase} {b : Status} (hb : b ≠ .passed) : Staged sights phases b []
  | stop {phase : Phase} {phases : List Phase} {b : Status} {seen : List Event} (hb : b ≠ .passed)
    (h : sights phase b seen) : Staged sights (phase :: phases) b seen
  | next {phase : Phase} {phases : List Phase} {b : Status} {seen more : List Event}
    (h : sights phase .passed seen) (hmore : Staged sights phases b more) :
    Staged sights (phase :: phases) b (seen ++ more)

namespace Staged

variable {sights : Phase → Sights} {ps qs : List Phase} {b : Status} {seen more : List Event}

theorem append (h : Staged sights ps .passed seen) (hmore : Staged sights qs b more) :
    Staged sights (ps ++ qs) b (seen ++ more) := by
  generalize hpassed : Status.passed = b' at h
  induction h with
  | done => exact hmore
  | halt hb => exact absurd hpassed.symm hb
  | stop hb _ => exact absurd hpassed.symm hb
  | next h _ ih =>
    rw [List.append_assoc]
    exact .next h (ih hpassed)

theorem stopped (h : Staged sights ps b seen) (hb : b ≠ .passed) :
    Staged sights (ps ++ qs) b seen := by
  induction h with
  | done => exact absurd rfl hb
  | halt _ => exact .halt hb
  | stop _ h => exact .stop hb h
  | next h _ ih => exact .next h (ih hb)

theorem singleton {phase : Phase} (h : sights phase b seen) : Staged sights [phase] b seen := by
  cases b with
  | passed => exact List.append_nil seen ▸ .next h .done
  | failed => exact .stop (by simp) h
  | stuck => exact .stop (by simp) h

end Staged

/-! ## Stages -/

variable {m : Type → Type} [Monad m] {σ : Type} [World m σ] {α γ ε : Type}

/-- What is seen of a stage and how it comes out fit together. -/
def Sees (x : Step (Logged m) α) (S : Sights) : Prop := Emits x.run fun r seen => S (.of r) seen

/-- Nothing is seen. -/
def Silent : Sights := fun _ seen => seen = []

/-- Nothing is seen, and the run goes on. -/
def Smooth : Sights := fun b seen => b = .passed ∧ seen = []

namespace Sees

variable {x : Step (Logged m) α} {f : α → Step (Logged m) γ} {S T : Sights}

theorem weaken (hx : Sees x S) (h : ∀ b seen, S b seen → T b seen) : Sees x T :=
  Emits.weaken hx fun _ seen hS => h _ seen hS

theorem pure {a : α} (h : S .passed []) : Sees (Pure.pure a : Step (Logged m) α) S := Emits.pure h

theorem bind (hx : Sees x S) (hstop : ∀ b seen, b ≠ .passed → S b seen → T b seen)
    (hf : ∀ a seen, S .passed seen → Sees (f a) fun b more => T b (seen ++ more)) :
    Sees (x >>= f) T := by
  refine Emits.bind hx (fun seen hS => hstop .stuck seen (by simp) hS) fun r seen hS => ?_
  cases r with
  | error e =>
    refine Emits.pure ?_
    rw [List.append_nil]
    exact hstop .failed seen (by simp) hS
  | ok a => exact hf a seen hS

theorem silent_bind (hx : Sees x Silent) (hstop : ∀ b, b ≠ .passed → T b [])
    (hf : ∀ a, Sees (f a) T) : Sees (x >>= f) T := by
  refine hx.bind (fun b seen hb h => h ▸ hstop b hb) fun a seen h => ?_
  rw [h]
  exact hf a

theorem smooth_bind (hx : Sees x Smooth) (hf : ∀ a, Sees (f a) T) : Sees (x >>= f) T := by
  refine hx.bind (fun b seen hb h => absurd h.1 hb) fun a seen h => ?_
  rw [h.2]
  exact hf a

theorem action {x : Hook.Action (Logged m) α} {V : α → Prop} (hx : Framed Prod.fst V x) :
    Sees (liftM x : Step (Logged m) α) Silent :=
  Emits.silent_bind hx rfl fun _ _ => Emits.pure rfl

theorem host {x : Logged m α}
    (hx : ∀ t, ∃ seen, (World.run x t).2.1 = t.1 ++ seen ∧ S .passed seen) :
    Sees (inHost x) S := by
  intro s
  obtain ⟨seen, hlog, hS⟩ := hx s.2
  have hrun := run_action (liftM x : Hook.Action (Logged m) α) s
  rw [Framed.run_host] at hrun
  refine ⟨seen, ?_, ?_⟩
  · exact (congrArg (fun r => r.2.2.1) hrun).trans hlog
  · have hstatus : World.run (inHost x : Step (Logged m) α).run.run s = _ := hrun
    rw [hstatus]
    exact hS

theorem quiet {x : Logged m α} (hx : Preserves Prod.fst x) : Sees (inHost x) Smooth :=
  host fun t => ⟨[], (hx t).trans (List.append_nil _).symm, rfl, rfl⟩

theorem modify (f : Compilation → Compilation) :
    Sees (modifyThe Compilation f : Step (Logged m) PUnit) Smooth := by
  intro s
  rw [run_modify]
  exact ⟨[], (List.append_nil _).symm, rfl, rfl⟩

theorem get : Sees (getThe Compilation : Step (Logged m) Compilation) Smooth := by
  intro s
  have hrun := run_action (getThe Compilation : Hook.Action (Logged m) Compilation) s
  rw [Framed.run_look] at hrun
  have hrun' : World.run (getThe Compilation : Step (Logged m) Compilation).run.run s = _ := hrun
  rw [hrun']
  exact ⟨[], (List.append_nil _).symm, rfl, rfl⟩

theorem check (wrap : ε → Bundle.Error) (result : Except ε α) :
    Sees (check wrap result : Step (Logged m) α)
      fun b seen => b = .of (some result) ∧ seen = [] := by
  cases result with
  | error e => exact Emits.pure ⟨rfl, rfl⟩
  | ok a => exact pure ⟨rfl, rfl⟩

theorem check_bind {wrap : ε → Bundle.Error} {result : Except ε α}
    (hstop : ∀ b, b ≠ .passed → T b []) (hf : ∀ a, Sees (f a) T) :
    Sees (Compiler.check wrap result >>= f) T :=
  silent_bind ((check wrap result).weaken fun _ _ h => h.2) hstop hf

theorem lacking (h : S .stuck []) :
    Sees (withHooks Hook.outOfFuel : Step (Logged m) α) S := by
  refine Emits.bind (Emits.lacking (S := fun r seen => r = none ∧ seen = []) ⟨rfl, rfl⟩) ?_ ?_
  · rintro _ ⟨-, rfl⟩
    exact h
  · rintro a _ ⟨hr, -⟩
    cases hr

theorem notice_bind {e : Event} {f : Unit → Step (Logged m) γ}
    (hf : Sees (f ()) fun b more => T b (e :: more)) : Sees (notice e >>= f) T := by
  intro s
  rw [run_notice_bind]
  obtain ⟨seen, hlog, hT⟩ := hf (logged e s)
  refine ⟨e :: seen, ?_, hT⟩
  rw [hlog, logged, List.append_assoc]
  rfl

/-- A result that ends the run when it is an error. -/
theorem checked {x : Hook.Action (Logged m) (Except ε α)} {wrap : ε → Bundle.Error}
    (hx : Emits x fun r seen => S (.of r) seen) :
    Sees (withHooks x >>= fun r => Compiler.check wrap r) S := by
  intro s
  obtain ⟨seen, hlog, hS⟩ := hx s
  rw [run_bind, withHooks, run_action]
  rcases hr : World.run x.run s with ⟨_ | r, t⟩
  · rw [hr] at hlog hS
    exact ⟨seen, hlog, hS⟩
  · rw [hr] at hlog hS
    simp only
    rw [run_check]
    cases r with
    | error e => exact ⟨seen, hlog, hS⟩
    | ok a => exact ⟨seen, hlog, hS⟩

theorem checked_bind {x : Hook.Action (Logged m) (Except ε α)} {wrap : ε → Bundle.Error}
    (hx : Emits x fun r seen => S (.of r) seen)
    (hstop : ∀ b seen, b ≠ .passed → S b seen → T b seen)
    (hf : ∀ a seen, S .passed seen → Sees (f a) fun b more => T b (seen ++ more)) :
    Sees (withHooks x >>= fun r => Compiler.check wrap r >>= f) T := by
  intro s
  rw [run_bind_assoc]
  exact bind (checked hx) hstop hf s

/-- What is seen of a phase once it is entered. -/
theorem entered {r : Registry} {phase : Phase} {f : Unit → Step (Logged m) γ}
    (hf : Sees (f ()) (Within r phase)) : Sees (notice (.entered phase) >>= f) (SightsOf r phase) :=
  notice_bind (hf.weaken fun _ seen h => ⟨seen, rfl, h⟩)

end Sees

/-- All that the action adds to the log are requests to the host. -/
def Requests (x : Logged m α) : Prop :=
  ∀ t : List Event × σ, ∃ seen, (World.run x t).2.1 = t.1 ++ seen ∧ ∀ e ∈ seen, e.IsRequest

namespace Requests

theorem pure (a : α) : Requests (Pure.pure a : Logged m α) := by
  intro t
  rw [World.run_pure]
  exact ⟨[], (List.append_nil _).symm, by simp⟩

theorem bind {x : Logged m α} {f : α → Logged m γ} (hx : Requests x) (hf : ∀ a, Requests (f a)) :
    Requests (x >>= f) := by
  intro t
  obtain ⟨seen, hlog, hseen⟩ := hx t
  obtain ⟨more, hlog', hmore⟩ := hf (World.run x t).1 (World.run x t).2
  refine ⟨seen ++ more, ?_, fun e he => ?_⟩
  · rw [World.run_bind, hlog', hlog, List.append_assoc]
  · exact (List.mem_append.1 he).elim (hseen e) (hmore e)

/-- A request that is seen, and what the host makes of it. -/
theorem log_bind (e : Event) (he : e.IsRequest) (x : m α) :
    Requests (Hook.log e >>= fun _ => StateT.lift x) := by
  intro t
  rw [World.run_bind, Hook.log, World.run_modify, World.run_lift]
  exact ⟨[e], rfl, by simpa using he⟩

end Requests

theorem writeArtifact_requests (h : Host m) (directory filename code : String) :
    Requests (Bundle.writeArtifact (watchedHost h) directory filename code) := by
  unfold Bundle.writeArtifact
  simp only
  cases Bundle.outputPath (Path.clean directory) filename with
  | error e => exact .pure _
  | ok target =>
    have hcreate : Requests ((watchedHost h).createDirectory (Path.clean directory) true) :=
      .log_bind (.creates _) trivial _
    refine hcreate.bind fun created => ?_
    cases created with
    | error e => exact .pure _
    | ok _ =>
      have hwrite : Requests ((watchedHost h).write target (Text.encode code)) :=
        .log_bind (.writes _) trivial _
      refine hwrite.bind fun written => ?_
      cases written with
      | error e => exact .pure _
      | ok _ => exact .pure _

section Stages

variable {c : Compiler} {s : Stage (Logged m)}

theorem watchedBuild_sees {h : Host (Logged m)} (hh : h.Leaves (Prod.fst : List Event × σ → _)) :
    Sees (c.watchedBuild h) (SightsOf c.registry .build) := by
  have hbuilder : (c.builder h).host.Leaves (Prod.fst : List Event × σ → _) := hh
  have hsilent : Sees (c.buildEntry h) Silent := by
    refine .smooth_bind (.modify _) fun _ => .smooth_bind .get fun now => ?_
    refine .smooth_bind (.quiet (Builder.build_preserves hbuilder _)) fun built => ?_
    refine .check_bind (fun _ _ => rfl) fun entry => ?_
    refine .silent_bind (.action (.insertModule entry)) (fun _ _ => rfl) fun added => ?_
    exact .check_bind (fun _ _ => rfl) fun _ => .pure rfl
  exact .entered hsilent

theorem watchedCompilation_sees (hs : s.Quiet (Prod.fst : List Event × σ → _))
    (hc : c.registry.Made) (fuel : Nat) :
    Sees (c.watchedCompilation s fuel) (SightsOf c.registry .graphAssembled) := by
  have hd : c.registry.hooks.get? Hook.compilation = some ⟨.sync, _⟩ :=
    hc.get?_builtin (by decide)
  refine .entered (.smooth_bind (.modify _) fun _ => .checked ?_)
  exact Hook.watchSync_emits hs.confined fuel hd (hc.isAsync_eq_false hd)

theorem watchedMake_sees (hs : s.Quiet (Prod.fst : List Event × σ → _))
    (hhost : s.host.Leaves (Prod.fst : List Event × σ → _)) (hc : c.registry.Made)
    (hr : c.registry.Quiet) (fuel : Nat) (schedule : List Choice) (entry : Module) :
    Sees (c.watchedMake s fuel schedule entry) (SightsOf c.registry .make) := by
  have hd : c.registry.hooks.get? Hook.make = some ⟨.asyncParallel, _⟩ :=
    hc.get?_builtin (by decide)
  have hbuilder : (c.builder s.host).host.Leaves (Prod.fst : List Event × σ → _) := hhost
  refine .entered (.smooth_bind (.modify _) fun _ => .smooth_bind .get fun now => ?_)
  refine .smooth_bind (.quiet (Graph.expandInto_preserves hbuilder)) fun o => ?_
  cases o with
  | none => exact .lacking (.unexpanded (by simp))
  | some o =>
    refine .smooth_bind (.modify _) fun _ => ?_
    refine .check_bind (fun b hb => .unexpanded hb) fun _ => ?_
    refine .checked_bind
      (S := fun b seen => Attended Hook.make _ b seen ∧ Drained Hook.make _ b seen)
      (Hook.watch_parallel_emits hs.confined hr.confined schedule hd) (fun b seen hb h => .unfinished hb h.1 h.2)
      fun _ seen h => ?_
    refine .smooth_bind .get fun now => .notice_bind ((Sees.check _ _).weaken ?_)
    rintro b _ ⟨rfl, rfl⟩
    refine .checked _ ?_ h.1
    cases now.graph.validate now.entry with
    | error e => rfl
    | ok _ => rfl

theorem watchedWriting_sees (h : Host m) :
    Sees (c.watchedWriting (watchedHost h)) (SightsOf c.registry .generate) := by
  refine .entered (.smooth_bind (.modify _) fun _ => .smooth_bind .get fun now => ?_)
  refine .bind (.host (S := fun _ seen => ∀ e ∈ seen, e.IsRequest)
    (writeArtifact_requests h _ _ _)) (fun _ _ _ h => h) fun path seen h => ?_
  have hall : ∀ e ∈ seen ++ [], e.IsRequest := by simpa using h
  exact .check_bind (fun _ _ => hall) fun _ => .smooth_bind (.modify _) fun _ => .pure hall

theorem watchedAfterWriting_sees (hs : s.Quiet (Prod.fst : List Event × σ → _))
    (hr : c.registry.Quiet) (schedule : List Choice) (artifact : Artifact) {phase : Phase}
    {hook : String} (hd : c.registry.hooks.get? hook = some ⟨.asyncSeries, c.registry.taps hook⟩)
    (hphase : Within c.registry phase = Calls hook (c.registry.taps hook).length 0) :
    Sees (c.watchedAfterWriting s schedule artifact phase hook) (SightsOf c.registry phase) := by
  refine .entered (.smooth_bind (.modify _) fun _ => .checked ?_)
  rw [hphase]
  exact Hook.watch_series_emits hs.confined hr.confined schedule hd

theorem watchedDone_sees (artifact : Artifact) :
    Sees (watchedDone artifact : Step (Logged m) Success) (SightsOf c.registry .done) :=
  .entered (.smooth_bind (.modify _) fun _ => .smooth_bind .get fun _ => .pure rfl)

variable (c) in
/-- What is seen of a watched run. -/
abbrev Seen (ps : List Phase) : Sights := Staged (SightsOf c.registry) ps

theorem Sees.staged {x : Step (Logged m) α} {phase : Phase}
    (hx : Sees x (SightsOf c.registry phase)) : Sees x (c.Seen [phase]) :=
  hx.weaken fun _ _ h => .singleton h

theorem Sees.staged_bind {x : Step (Logged m) α} {f : α → Step (Logged m) γ} {ps qs : List Phase}
    (hx : Sees x (c.Seen ps)) (hf : ∀ a, Sees (f a) (c.Seen qs)) :
    Sees (x >>= f) (c.Seen (ps ++ qs)) :=
  hx.bind (fun _ _ hb h => h.stopped hb) fun a _ h => (hf a).weaken fun _ _ hmore => h.append hmore

theorem watchedStages_sees (hc : c.registry.Made) (hr : c.registry.Quiet) (h : Host m)
    (say : String → m Unit) (fuel : Nat) (schedule : Schedule) :
    Sees (c.watchedStages h say fuel schedule) (c.Seen phases) := by
  have hs : (watchedStage ⟨h, say, c.registry⟩).Quiet (Prod.fst : List Event × σ → _) :=
    Hook.watchedStage_quiet hr
  have hh : (watchedHost h).Leaves (Prod.fst : List Event × σ → _) := Hook.watchedHost_leaves h
  have hassemble : Sees (c.watchedAssemble (watchedStage ⟨h, say, c.registry⟩) fuel schedule.make)
      (c.Seen [.build, .graphAssembled, .make]) := by
    refine .staged_bind (watchedBuild_sees hh).staged fun entry => ?_
    refine .staged_bind (watchedCompilation_sees hs hc fuel).staged fun _ => ?_
    exact (watchedMake_sees hs hh hc hr fuel schedule.make entry).staged
  have hconclude : Sees (c.watchedConclude (watchedStage ⟨h, say, c.registry⟩) schedule.emit
      schedule.afterEmit) (c.Seen [.generate, .emit, .afterEmit, .done]) := by
    refine .staged_bind (watchedWriting_sees h).staged fun artifact => ?_
    refine .staged_bind (watchedAfterWriting_sees hs hr schedule.emit artifact
      (hc.get?_builtin (by decide)) rfl).staged fun _ => ?_
    refine .staged_bind (watchedAfterWriting_sees hs hr schedule.afterEmit artifact
      (hc.get?_builtin (by decide)) rfl).staged fun _ => ?_
    exact (watchedDone_sees artifact).staged
  exact .staged_bind hassemble fun _ => hconclude

/-- What is seen of a run is what is seen of its stages. -/
theorem Sees.runIn {d : Logged m (Except FileSystem.Error String)}
    (hd : Preserves (Prod.fst : List Event × σ → _) d) {x : Step (Logged m) Success}
    {ps : List Phase} (hx : Sees x (c.Seen ps)) {s : σ} {ending? : Option Ending}
    {seen : List Event} {t : σ}
    (hrun : World.run (c.runIn d x) ([], s) = (ending?, seen, t)) :
    c.Seen ps (.of (ending?.map Ending.result)) seen := by
  have hsilent := hd ([], s)
  rw [run_runIn] at hrun
  rcases hanswer : World.run d ([], s) with ⟨e | directory, l, v⟩
  · rw [hanswer] at hrun hsilent
    cases hrun
    cases hsilent
    exact .halt (by simp [Status.of])
  rw [hanswer] at hrun hsilent
  cases hsilent
  cases hstart : c.compilationIn directory with
  | error e =>
    simp only [hstart] at hrun
    cases hrun
    exact .halt (by simp [Status.of])
  | ok start =>
    obtain ⟨seen', hlog, hseen⟩ := hx (start, [], v)
    simp only [hstart] at hrun
    rcases hstages : World.run x.run.run (start, [], v) with ⟨result?, final, l, w⟩
    rw [hstages] at hrun hlog hseen
    cases hrun
    obtain rfl : seen = seen' := hlog
    cases result? with
    | none => exact hseen
    | some result => exact hseen

/-- What is seen of a watched run goes through the phases, whatever the schedule. -/
theorem watchedRun_staged (hc : c.registry.Made) (hr : c.registry.Quiet) (h : Host m)
    (say : String → m Unit) (fuel : Nat) (schedule : Schedule) {s : σ} {ending? : Option Ending}
    {seen : List Event} {t : σ}
    (hrun : World.run (c.watchedRun h say fuel schedule) ([], s) = (ending?, seen, t)) :
    c.Seen phases (.of (ending?.map Ending.result)) seen := by
  have hcwd : Preserves (Prod.fst : List Event × σ → _) (watchedHost h).workingDirectory := by
    intro t
    simp only [watchedHost]
    rw [World.run_lift]
  exact (watchedStages_sees hc hr h say fuel schedule).runIn (workingDirectory_preserves hcwd) hrun

end Stages

end Compiler

end ModuleBundler
