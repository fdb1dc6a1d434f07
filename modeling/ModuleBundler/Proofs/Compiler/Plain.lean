import ModuleBundler.Proofs.Compiler.Reading

/-!
# Runs without plugins

Nobody listens to the hooks of a compiler without plugins. Its run is a plain sequence of requests:
the working directory, the entry, what the walk needs, and in the end the artifact.
-/

namespace ModuleBundler.Compiler

open FileSystem (Host)

variable {c : Compiler}

/-- A compiler without plugins has the built-in hooks without listeners. -/
theorem ofConfig_plain {config : Config} {notes : List String}
    (h : ofConfig config = (notes, .ok c)) (hplain : config.plugins = []) :
    c.registry = .builtin := by
  unfold ofConfig at h
  rw [hplain] at h
  split at h
  · cases h
  · cases h
    rfl

theorem output_of_compilationIn {directory : String} {start : Compilation}
    (h : c.compilationIn directory = .ok start) :
    start.output.filename = c.settings.output.filename := by
  obtain ⟨entry, -, rfl⟩ := start_of_compilationIn h
  rfl

section Idle

variable {m : Type → Type} [Monad m] {σ : Type} [World m σ]

/-- The result of a hook that waits and that nobody listens to, if there is fuel enough. -/
def idle (fuel : Nat) : Option (Except Hook.Error Unit) :=
  if fuel < 2 then none else some (.ok ())

theorem run_complete_idle (s : Hook.Stage m) (fuel : Nat) {i : Hook.Invocation}
    (hi : ∀ fuel, Hook.turns s (fuel + 1) i 0 = return .ended (.ok ())) (u : Compilation × σ) :
    World.run (Hook.complete s fuel i).run u = (idle fuel, u) := by
  match fuel with
  | 0 => exact Hook.Framed.run_outOfFuel u
  | 1 =>
    rw [Hook.complete, Hook.Framed.run_bind, Hook.turns, Hook.Framed.run_outOfFuel]
    rfl
  | fuel + 2 =>
    rw [Hook.complete, Hook.Framed.run_bind, hi, Hook.Framed.run_pure]
    simp only
    rw [Hook.Framed.run_pure, idle, if_neg (by omega)]

/-- The built-in hooks that wait. -/
theorem run_invoke_idle (s : Hook.Stage m) (fuel : Nat) {hook : String}
    (hhook : hook ∈ [Hook.make, Hook.emit, Hook.afterEmit]) (u : Compilation × σ) :
    World.run (Hook.invoke s fuel .builtin hook).run u = (idle fuel, u) := by
  have hparallel : Hook.begin_ .builtin Hook.make = .ok (.parallel Hook.make [] none) := rfl
  have hemit : Hook.begin_ .builtin Hook.emit = .ok (.series Hook.emit none []) := rfl
  have hafter : Hook.begin_ .builtin Hook.afterEmit = .ok (.series Hook.afterEmit none []) := rfl
  simp only [List.mem_cons, List.not_mem_nil, or_false] at hhook
  rw [Hook.invoke]
  obtain rfl | rfl | rfl := hhook
  · rw [hparallel]
    exact run_complete_idle s fuel (fun _ => by unfold Hook.turns; rfl) u
  · rw [hemit]
    exact run_complete_idle s fuel (fun _ => by unfold Hook.turns; rfl) u
  · rw [hafter]
    exact run_complete_idle s fuel (fun _ => by unfold Hook.turns; rfl) u

theorem run_invokeSync_idle (s : Hook.Stage m) (fuel : Nat) (u : Compilation × σ) :
    World.run (Hook.invokeSync s fuel .builtin Hook.compilation).run u = (some (.ok ()), u) :=
  Hook.Framed.run_pure _ u

end Idle

section Plain

variable {m : Type → Type} [Monad m]

/-- Why a run ends before it writes its artifact: for lack of fuel, or with an error. -/
abbrev Stop := Option (Bundle.Error × Option Compilation)

/-- What comes of a walk: a graph that is fit to be written, or the end of the run. -/
def settled (fuel : Nat) (start : Compilation) :
    Option Graph.Walk.Outcome → Except Stop Compilation
  | none => .error none
  | some o =>
    let now := { start with phase := .make, graph := o.graph }
    match o.result with
    | .error e => .error (some (.build e, some now))
    | .ok _ =>
      if fuel < 2 then .error none
      else match now.graph.validate now.entry with
        | .error e => .error (some (.graph e, some now))
        | .ok _ => .ok now

/-- Makes the graph when nobody listens. -/
def plainAssemble (c : Compiler) (h : Host m) (fuel : Nat) (start : Compilation) :
    m (Except Stop Compilation) := do
  match ← (c.builder h).build start.entry with
  | .error e => return .error (some (.build e, some { start with phase := .build }))
  | .ok built =>
    match start.graph.insert built with
    | .error e => return .error (some (.graph e, some { start with phase := .build }))
    | .ok graph =>
      return settled fuel start
        (← Graph.expandInto (c.builder h) c.settings.maxModules? fuel built graph)

/-- What a run asks before it writes anything. -/
def plainPrepare (c : Compiler) (h : Host m) (fuel : Nat) : m (Except Stop Compilation) := do
  match ← c.workingDirectory h with
  | .error e => return .error (some (.fileSystem e, none))
  | .ok directory =>
    match c.compilationIn directory with
    | .error e => return .error (some (.build (.invalidId e), none))
    | .ok start => c.plainAssemble h fuel start

/-- Writes the artifact when nobody listens. -/
def plainConclude (c : Compiler) (h : Host m) (now : Compilation) : m Ending := do
  let code := Bundle.render c.settings.output.banner? now.graph now.entry
  match ← Bundle.writeArtifact h now.output.directory c.settings.output.filename code with
  | .error e => return ⟨.error e, some { now with phase := .generate }⟩
  | .ok path =>
    let artifact : Artifact := ⟨path, code.utf8ByteSize, now.graph.size⟩
    return ⟨.ok ⟨artifact, now.entry⟩, some { now with phase := .done, artifact? := some artifact }⟩

/-- What is left of a run once it has asked what it needs. -/
def plainFinish (c : Compiler) (h : Host m) : Except Stop Compilation → m (Option Ending)
  | .error stop => return stop.map fun p => ⟨.error p.1, p.2⟩
  | .ok now => return some (← c.plainConclude h now)

/-- A run when nobody listens: it asks, and then it writes. -/
def plainRun (c : Compiler) (h : Host m) (fuel : Nat) : m (Option Ending) := do
  c.plainFinish h (← c.plainPrepare h fuel)

variable {σ : Type} [World m σ]

/-- The bundle is written as the graph is. -/
theorem run_writeBundle (c : Compiler) (h : Host m) (s : Compilation × σ) :
    World.run (c.writeBundle h).run.run s =
      match World.run (Bundle.writeArtifact h s.1.output.directory s.1.output.filename
        (Bundle.render c.settings.output.banner? s.1.graph s.1.entry)) s.2 with
      | (.error e, t) => (some (.error e), { s.1 with phase := .generate }, t)
      | (.ok path, t) =>
        let code := Bundle.render c.settings.output.banner? s.1.graph s.1.entry
        let artifact : Artifact := ⟨path, code.utf8ByteSize, s.1.graph.size⟩
        (some (.ok artifact), { s.1 with phase := .generate, artifact? := some artifact }, t) := by
  rw [writeBundle, run_bind, enter, run_modify]
  simp only
  rw [run_bind, run_get]
  simp only
  rw [run_bind, run_inHost]
  rcases World.run (Bundle.writeArtifact h s.1.output.directory s.1.output.filename
    (Bundle.render c.settings.output.banner? s.1.graph s.1.entry)) s.2 with ⟨e | path, t⟩
  · simp only
    rw [run_bind, run_check]
    rfl
  · simp only
    rw [run_bind, run_check]
    simp only [Except.mapError]
    rw [run_bind, run_modify]
    exact run_pure _ _

/-- How a run of stages ends. -/
def endingOf (p : Option (Except Bundle.Error Success) × Compilation × σ) : Option Ending × σ :=
  (p.1.map fun result => ⟨result, some p.2.1⟩, p.2.2)

variable (hr : c.registry = .builtin)

include hr

theorem run_callCompilation_plain (s : Hook.Stage m) (fuel : Nat) (u : Compilation × σ) :
    World.run (c.callCompilation s fuel).run.run u =
      (some (.ok ()), { u.1 with phase := .graphAssembled }, u.2) := by
  rw [callCompilation, run_bind, enter, run_modify]
  simp only
  rw [run_bind, run_withHooks, hr, run_invokeSync_idle]
  simp only
  rw [run_check]
  rfl

theorem run_settle_plain (s : Hook.Stage m) (fuel : Nat) (result : Except BuildError Nat)
    (u : Compilation × σ) :
    World.run (c.settle s fuel result).run.run u =
      match result with
      | .error e => (some (.error (.build e)), u)
      | .ok _ =>
        if fuel < 2 then (none, u)
        else (some ((u.1.graph.validate u.1.entry).mapError .graph), u) := by
  rw [settle, run_bind, run_check]
  cases result with
  | error e => rfl
  | ok n =>
    simp only [Except.mapError]
    rw [run_bind, run_withHooks, hr, run_invoke_idle s fuel (by simp), idle]
    by_cases hfuel : fuel < 2
    · rw [if_pos hfuel, if_pos hfuel]
    · rw [if_neg hfuel, if_neg hfuel]
      simp only
      rw [run_bind, run_check]
      simp only [Except.mapError]
      rw [run_bind, run_get]
      exact run_check _ _ _

theorem run_callAfterWriting_plain (s : Hook.Stage m) {fuel : Nat} (hfuel : 2 ≤ fuel)
    (artifact : Artifact) (phase : Phase) {hook : String}
    (hhook : hook ∈ [Hook.make, Hook.emit, Hook.afterEmit]) (u : Compilation × σ) :
    World.run (c.callAfterWriting s fuel artifact phase hook).run.run u =
      (some (.ok ()), { u.1 with phase }, u.2) := by
  rw [callAfterWriting, run_bind, enter, run_modify]
  simp only
  rw [run_bind, run_withHooks, hr, run_invoke_idle s fuel hhook, idle, if_neg (by omega)]
  simp only
  rw [run_check]
  rfl

/-- What follows the writing does not matter when nobody listens. -/
theorem run_afterWriting_plain (s : Hook.Stage m) {fuel : Nat} (hfuel : 2 ≤ fuel)
    (artifact : Artifact) (u : Compilation × σ) :
    World.run (do
      c.callAfterWriting s fuel artifact .emit Hook.emit
      c.callAfterWriting s fuel artifact .afterEmit Hook.afterEmit
      enter .done
      return (⟨artifact, (← getThe Compilation).entry⟩ : Success) : Step m Success).run.run u =
      (some (.ok ⟨artifact, u.1.entry⟩), { u.1 with phase := .done }, u.2) := by
  rw [run_bind, run_callAfterWriting_plain hr s hfuel artifact .emit (by simp)]
  simp only
  rw [run_bind, run_callAfterWriting_plain hr s hfuel artifact .afterEmit (by simp)]
  simp only
  rw [run_bind, enter, run_modify]
  simp only
  rw [run_bind, run_get]
  exact run_pure _ _

theorem run_conclude_plain (s : Hook.Stage m) {fuel : Nat} (hfuel : 2 ≤ fuel) (now : Compilation)
    (hfile : now.output.filename = c.settings.output.filename) (u : σ) :
    endingOf (World.run (c.concludeApart s.host s fuel).run.run (now, u)) =
      World.run (c.plainFinish s.host (.ok now)) u := by
  rw [concludeApart, run_bind, run_writeBundle, hfile, plainFinish, World.run_bind, plainConclude,
    World.run_bind]
  simp only
  rcases World.run (Bundle.writeArtifact s.host now.output.directory c.settings.output.filename
    (Bundle.render c.settings.output.banner? now.graph now.entry)) u with ⟨e | path, v⟩
  · simp only
    rw [World.run_pure, World.run_pure]
    rfl
  · simp only
    rw [run_afterWriting_plain hr s hfuel, World.run_pure, World.run_pure]
    rfl

theorem run_graph_plain (s : Hook.Stage m) (fuel : Nat) (built : Module) (start : Compilation)
    (hfile : start.output.filename = c.settings.output.filename) (u : σ) :
    endingOf (World.run (c.makeGraphApart s.host s fuel built >>= fun _ =>
        c.concludeApart s.host s fuel).run.run (start, u)) =
      World.run (Graph.expandInto (c.builder s.host) c.settings.maxModules? fuel built
        start.graph >>= fun outcome? => c.plainFinish s.host (settled fuel start outcome?)) u := by
  rw [run_bind, run_makeGraphApart, World.run_bind]
  simp only
  rcases World.run (Graph.expandInto (c.builder s.host) c.settings.maxModules? fuel built
    start.graph) u with ⟨_ | ⟨graph, result⟩, v⟩
  · exact (World.run_pure _ v).symm
  · simp only
    rw [run_settle_plain hr, settled]
    cases result with
    | error e => exact (World.run_pure _ v).symm
    | ok n =>
      simp only
      by_cases hfuel : fuel < 2
      · rw [if_pos hfuel, if_pos hfuel]
        exact (World.run_pure _ v).symm
      · have henough : 2 ≤ fuel := Nat.le_of_not_lt hfuel
        rw [if_neg hfuel, if_neg hfuel]
        cases graph.validate start.entry with
        | error e => exact (World.run_pure _ v).symm
        | ok _ => exact run_conclude_plain hr s henough { start with phase := .make, graph } hfile v

theorem run_stages_plain (s : Hook.Stage m) (fuel : Nat) {start : Compilation}
    (hfile : start.output.filename = c.settings.output.filename) (u : σ) :
    endingOf (World.run (c.stagesApart s.host s fuel).run.run (start, u)) =
      World.run (c.plainAssemble s.host fuel start >>= c.plainFinish s.host) u := by
  rw [stagesApart, assembleApart, ← run_bind_assoc, run_bind, run_buildEntry, plainAssemble,
    World.run_bind, World.run_bind]
  simp only
  rcases World.run ((c.builder s.host).build start.entry) u with ⟨e | built, v⟩
  · simp only
    rw [World.run_pure]
    exact (World.run_pure _ v).symm
  · simp only
    cases start.graph.insert built with
    | error e =>
      simp only
      rw [World.run_pure]
      exact (World.run_pure _ v).symm
    | ok graph =>
      simp only
      have hsettled : settled fuel { start with phase := .graphAssembled, graph } =
          settled fuel start := rfl
      have hgraph := run_graph_plain hr s fuel built
        { start with phase := .graphAssembled, graph } hfile v
      rw [World.run_bind, hsettled] at hgraph
      rw [← run_bind_assoc, run_bind, run_callCompilation_plain hr, World.run_bind, World.run_pure]
      exact hgraph

/-- A run without listeners is a plain one. -/
theorem run_plain (h : Host m) (say : String → m Unit) (fuel : Nat) (u : σ) :
    World.run (c.run h say fuel) u = World.run (c.plainRun h fuel) u := by
  rw [run_eq_runApart, runApart, run_runIn, plainRun, plainPrepare, World.run_bind, World.run_bind]
  rcases World.run (c.workingDirectory h) u with ⟨e | directory, v⟩
  · simp only
    rw [World.run_pure]
    exact (World.run_pure _ v).symm
  · simp only
    cases hstart : c.compilationIn directory with
    | error e =>
      simp only
      rw [World.run_pure]
      exact (World.run_pure _ v).symm
    | ok start =>
      have hfile := output_of_compilationIn hstart
      have hstages := run_stages_plain hr ⟨h, say, c.registry⟩ fuel hfile v
      rw [World.run_bind] at hstages
      exact hstages

end Plain

end ModuleBundler.Compiler
