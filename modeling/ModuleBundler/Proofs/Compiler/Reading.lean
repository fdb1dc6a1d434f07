import ModuleBundler.Proofs.Compiler.Artifact
import ModuleBundler.Proofs.FileSystem.Reading
import ModuleBundler.Proofs.Graph.Course
import ModuleBundler.Proofs.Graph.Termination

/-!
# What a run reads

A run reads the file of the entry and then those of the modules that its graph lacks. As long as its
listeners read nothing, no file is read twice, and the files that are read tell which modules of the
graph the run has built itself.
-/

namespace ModuleBundler

open FileSystem (Host Record Memory)
open FileSystem.Record (reading)
open ModuleBundler.Graph (Extends)

namespace Graph

variable {m : Type → Type} [Monad m] {σ : Type} [World m σ] {h : Host m}
variable {refuse : FileSystem.Request → Option String} {b : Builder (StateT Record m)}
variable {limit : Option Nat} {fuel : Nat}

/-- A walk reads the files of modules that the graph lacks, each once. When it succeeds, these are
the modules that it has added. -/
theorem Walk.reading_run (hb : b.host = Record.host h refuse) {w : Walk} (hw : w.Tracked)
    {s t : Record × σ} {result : Option Walk.Outcome}
    (hrun : World.run (Walk.run b.build limit fuel w) s = (result, t)) :
    ∃ sought : List ModuleId, reading t = reading s ++ sought.map ModuleId.path ∧
      (w.graph.ids ++ sought).Nodup ∧
      ∀ after n, result = some ⟨after, .ok n⟩ → after.ids = w.graph.ids ++ sought := by
  have hid : ∀ id s n, (World.run (b.build id) s).1 = .ok n → n.id = id :=
    fun _ _ _ hbuilt => Builder.id_of_built hbuilt
  have hread : ∀ {id : ModuleId} {u v : Record × σ} {r : Except BuildError Module},
      World.run (b.build id) u = (r, v) → reading v = reading u ++ [id.path] := by
    intro id u v r hbuild
    have hread := Builder.reading_build hb id u
    rw [hbuild] at hread
    exact hread
  have hstep : ∀ (v : Walk) (n : Module) (hnew : n.id ∉ v.graph.ids) (queue : List ModuleId)
      (u t : Record × σ), v.Tracked →
      (∃ found : List ModuleId, v.graph.ids = w.graph.ids ++ found ∧
        reading u = reading s ++ found.map ModuleId.path) →
      v.next? = some (n.id, { v with queue }) → checkLimit limit v.graph = .ok () →
      World.run (b.build n.id) u = (.ok n, t) →
      ∃ found : List ModuleId,
        (take { v with queue } n hnew).graph.ids = w.graph.ids ++ found ∧
        reading t = reading s ++ found.map ModuleId.path := by
    intro v n hnew queue u t _ ⟨found, hids, hu⟩ _ _ hbuild
    refine ⟨found ++ [n.id], ?_, ?_⟩
    · rw [take, ids_push, hids, List.append_assoc]
    · rw [hread hbuild, hu, List.map_append, List.append_assoc]
      rfl
  obtain ⟨v, u, hv, ⟨found, hids, hu⟩, hends, -⟩ :=
    run_ends hid hstep hw ⟨[], (List.append_nil _).symm, (List.append_nil _).symm⟩ hrun
  have hnodup : (w.graph.ids ++ found).Nodup := hids ▸ v.graph.nodup
  cases hends with
  | idle hnext =>
    refine ⟨found, hu, hnodup, fun after n hafter => ?_⟩
    cases hafter
    exact hids
  | full hnext hlimit => exact ⟨found, hu, hnodup, fun after n hafter => by cases hafter⟩
  | unfinished hnext => exact ⟨found, hu, hnodup, fun after n hafter => by cases hafter⟩
  | @failed id queue e _ hnext hlimit hbuild =>
    obtain ⟨_, -, hunseen, -⟩ := next?_some hnext
    have hnew : id ∉ w.graph.ids ++ found := fun hmem => hunseen ((hv id).2 (hids ▸ hmem))
    refine ⟨found ++ [id], ?_, ?_, fun after n hafter => by cases hafter⟩
    · rw [hread hbuild, hu, List.map_append, List.append_assoc]
      rfl
    · rw [← List.append_assoc]
      exact List.nodup_append.2 ⟨hnodup, List.nodup_singleton id, by
        rintro x hx y hy rfl
        exact hnew (List.mem_singleton.1 hy ▸ hx)⟩

/-- An expansion of an entry that the graph holds reads the files of what it adds. -/
theorem reading_expandInto (hb : b.host = Record.host h refuse) {g : Graph} {entry : Module}
    (hold : entry.id ∈ g.ids) {s t : Record × σ} {result : Option Walk.Outcome}
    (hrun : World.run (expandInto b limit fuel entry g) s = (result, t)) :
    ∃ sought : List ModuleId, reading t = reading s ++ sought.map ModuleId.path ∧
      (g.ids ++ sought).Nodup ∧
      ∀ after n, result = some ⟨after, .ok n⟩ → after.ids = g.ids ++ sought := by
  rw [expandInto, Walk.start_along hold] at hrun
  exact Walk.reading_run hb Walk.tracked_along hrun

end Graph

theorem Bundle.writeArtifact_unread {m : Type → Type} [Monad m] {σ : Type} [World m σ] {h : Host m}
    {refuse : FileSystem.Request → Option String} (directory filename code : String) :
    Preserves (reading (σ := σ))
      (writeArtifact (Record.host h refuse) directory filename code) := by
  unfold writeArtifact
  simp only
  cases outputPath (Path.clean directory) filename with
  | error e => exact .pure _
  | ok target =>
    refine (Record.createDirectory_unread _ true).bind fun created => ?_
    cases created with
    | error e => exact .pure _
    | ok _ =>
      refine (Record.write_unread target _).bind fun written => ?_
      cases written with
      | error e => exact .pure _
      | ok _ => exact .pure _

namespace Compiler

section Still

variable {n : Type → Type} [Monad n] {τ : Type} [World n τ] {α γ β : Type} {view : τ → β}

/-- Whatever comes of the stage, it leaves what `view` shows, and the modules of the graph. -/
def Still (view : τ → β) (x : Step n α) : Prop :=
  ∀ s, Extends s.1.graph (World.run x.run.run s).2.1.graph ∧
    view (World.run x.run.run s).2.2 = view s.2

namespace Still

theorem pure (a : α) : Still view (Pure.pure a : Step n α) := by
  intro s
  rw [run_pure]
  exact ⟨.refl _, rfl⟩

theorem bind {x : Step n α} {f : α → Step n γ} (hx : Still view x) (hf : ∀ a, Still view (f a)) :
    Still view (x >>= f) := by
  intro s
  obtain ⟨hgraph, hview⟩ := hx s
  rw [run_bind]
  rcases hr : World.run x.run.run s with ⟨_ | (e | a), t⟩
  · rw [hr] at hgraph hview
    exact ⟨hgraph, hview⟩
  · rw [hr] at hgraph hview
    exact ⟨hgraph, hview⟩
  · rw [hr] at hgraph hview
    obtain ⟨hgraph', hview'⟩ := hf a t
    exact ⟨hgraph.trans hgraph', hview'.trans hview⟩

/-- An action of the listeners that lets the graph grow. -/
theorem action {Q : α → Prop} {x : Hook.Action n α} (hx : Hook.Framed view Q x) :
    Still view (liftM x : Step n α) := by
  intro s
  have hgrows := (hx s).1
  rw [run_action]
  rcases hr : World.run x.run s with ⟨_ | a, t⟩
  · rw [hr] at hgrows
    exact ⟨hgrows.graph, hgrows.rest⟩
  · rw [hr] at hgrows
    exact ⟨hgrows.graph, hgrows.rest⟩

theorem inHost {x : n α} (hx : Preserves view x) : Still view (inHost x : Step n α) :=
  action (.host hx)

theorem get : Still view (getThe Compilation : Step n Compilation) := action .look

theorem modifying {f : Compilation → Compilation} (hf : ∀ c, (f c).graph = c.graph) :
    Still view (modifyThe Compilation f : Step n PUnit) := by
  intro s
  rw [run_modify, hf]
  exact ⟨.refl _, rfl⟩

theorem enter (phase : Phase) : Still view (enter phase : Step n Unit) := modifying fun _ => rfl

theorem check {ε : Type} (wrap : ε → Bundle.Error) (result : Except ε α) :
    Still view (check wrap result : Step n α) := by
  intro s
  rw [run_check]
  exact ⟨.refl _, rfl⟩

/-- What follows a stage and is still leaves what the stage has left. -/
theorem after {x : Step n α} {f : α → Step n γ} (hf : ∀ a, Still view (f a))
    (s : Compilation × τ) :
    Extends (World.run x.run.run s).2.1.graph (World.run (x >>= f).run.run s).2.1.graph ∧
      view (World.run (x >>= f).run.run s).2.2 = view (World.run x.run.run s).2.2 := by
  rw [run_bind]
  rcases World.run x.run.run s with ⟨_ | (e | a), t⟩
  · exact ⟨.refl _, rfl⟩
  · exact ⟨.refl _, rfl⟩
  · exact hf a t

end Still

end Still

section Apart

variable {m : Type → Type} [Monad m]

/-- What is left of making the graph once the walk has come to a result. -/
def settle (c : Compiler) (s : Hook.Stage m) (fuel : Nat) (result : Except BuildError Nat) :
    Step m Unit := do
  let _ ← check .build result
  check .hook (← withHooks (Hook.invoke s fuel c.registry Hook.make))
  let now ← getThe Compilation
  check .graph (now.graph.validate now.entry)

/-- Makes the graph with a host apart from that of the listeners. -/
def makeGraphApart (c : Compiler) (own : Host m) (s : Hook.Stage m) (fuel : Nat)
    (entry : Module) : Step m Unit := do
  enter .make
  let graph := (← getThe Compilation).graph
  match ← inHost (Graph.expandInto (c.builder own) c.settings.maxModules? fuel entry graph) with
  | none => withHooks Hook.outOfFuel
  | some o =>
    modifyThe Compilation fun c => { c with graph := o.graph }
    c.settle s fuel o.result

def assembleApart (c : Compiler) (own : Host m) (s : Hook.Stage m) (fuel : Nat) : Step m Unit := do
  let entry ← c.buildEntry own
  c.callCompilation s fuel
  c.makeGraphApart own s fuel entry

def concludeApart (c : Compiler) (own : Host m) (s : Hook.Stage m) (fuel : Nat) :
    Step m Success := do
  let artifact ← c.writeBundle own
  c.callAfterWriting s fuel artifact .emit Hook.emit
  c.callAfterWriting s fuel artifact .afterEmit Hook.afterEmit
  enter .done
  return ⟨artifact, (← getThe Compilation).entry⟩

def stagesApart (c : Compiler) (own : Host m) (s : Hook.Stage m) (fuel : Nat) :
    Step m Success := do
  c.assembleApart own s fuel
  c.concludeApart own s fuel

/-- Runs a compiler that has a host of its own, apart from that of its listeners. -/
def runApart (c : Compiler) (own : Host m) (s : Hook.Stage m) (fuel : Nat) : m (Option Ending) :=
  c.runIn (c.workingDirectory own) (c.stagesApart own s fuel)

/-- In a run the compiler and its listeners share one host. -/
theorem run_eq_runApart (c : Compiler) (h : Host m) (say : String → m Unit) (fuel : Nat) :
    c.run h say fuel = c.runApart h ⟨h, say, c.registry⟩ fuel := rfl

end Apart

section Stages

variable {m : Type → Type} [Monad m] {σ : Type} [World m σ] {c : Compiler} {h : Host m}
variable {refuse : FileSystem.Request → Option String} {stage : Hook.Stage (StateT Record m)}
variable {may : FileSystem.Operation → Prop}

theorem callCompilation_still (hs : stage.Confined (reading (σ := σ)) may) (fuel : Nat) :
    Still (reading (σ := σ)) (c.callCompilation stage fuel) :=
  .bind (.enter _) fun _ =>
    .bind (.action (Hook.invokeSync_framed hs fuel c.registry _)) fun _ => .check _ _

theorem settle_still (hs : stage.Confined (reading (σ := σ)) may) (hr : c.registry.Confined may)
    (fuel : Nat) (result : Except BuildError Nat) :
    Still (reading (σ := σ)) (c.settle stage fuel result) :=
  .bind (.check _ _) fun _ =>
    .bind (.action (Hook.invoke_framed hs fuel hr _)) fun _ =>
      .bind (.check _ _) fun _ => .bind .get fun _ => .check _ _

theorem concludeApart_still (hs : stage.Confined (reading (σ := σ)) may)
    (hr : c.registry.Confined may) (fuel : Nat) :
    Still (reading (σ := σ)) (c.concludeApart (Record.host h refuse) stage fuel) := by
  have hcall : ∀ artifact phase hook,
      Still (reading (σ := σ)) (c.callAfterWriting stage fuel artifact phase hook) :=
    fun _ _ hook => .bind (.enter _) fun _ =>
      .bind (.action (Hook.invoke_framed hs fuel hr hook)) fun _ => .check _ _
  have hwrite : Still (reading (σ := σ)) (c.writeBundle (Record.host h refuse)) := by
    refine .bind (.enter _) fun _ => .bind .get fun _ =>
      .bind (.inHost (Bundle.writeArtifact_unread _ _ _)) fun _ => .bind (.check _ _) fun _ => ?_
    exact .bind (.modifying fun _ => rfl) fun _ => .pure _
  exact .bind hwrite fun _ => .bind (hcall _ _ _) fun _ => .bind (hcall _ _ _) fun _ =>
    .bind (.enter _) fun _ => .bind .get fun _ => .pure _

/-- The entry is built and added to the graph. -/
theorem run_buildEntry (c : Compiler) (h : Host m) (s : Compilation × σ) :
    World.run (c.buildEntry h).run.run s =
      match World.run ((c.builder h).build s.1.entry) s.2 with
      | (.error e, t) => (some (.error (.build e)), { s.1 with phase := .build }, t)
      | (.ok built, t) =>
        match s.1.graph.insert built with
        | .error e => (some (.error (.graph e)), { s.1 with phase := .build }, t)
        | .ok graph => (some (.ok built), { s.1 with phase := .build, graph }, t) := by
  rw [buildEntry, run_bind, enter, run_modify]
  simp only
  rw [run_bind, run_get]
  simp only
  rw [run_bind, run_inHost]
  rcases World.run ((c.builder h).build s.1.entry) s.2 with ⟨e | built, t⟩
  · simp only
    rw [run_bind, run_check]
    rfl
  · simp only
    rw [run_bind, run_check]
    simp only [Except.mapError]
    rw [run_bind, run_withHooks, Hook.Framed.run_insertModule]
    cases s.1.graph.insert built with
    | error e =>
      simp only
      rw [run_bind, run_check]
      rfl
    | ok graph =>
      simp only
      rw [run_bind, run_check]
      simp only [Except.mapError]
      exact run_pure _ _

/-- The walk comes first, and the graph is what it has left. -/
theorem run_makeGraphApart (c : Compiler) (own : Host m) (stage : Hook.Stage m) (fuel : Nat)
    (built : Module) (s : Compilation × σ) :
    World.run (c.makeGraphApart own stage fuel built).run.run s =
      match World.run (Graph.expandInto (c.builder own) c.settings.maxModules? fuel built
        s.1.graph) s.2 with
      | (none, t) => (none, { s.1 with phase := .make }, t)
      | (some o, t) => World.run (c.settle stage fuel o.result).run.run
        ({ s.1 with phase := .make, graph := o.graph }, t) := by
  rw [makeGraphApart, run_bind, enter, run_modify]
  simp only
  rw [run_bind, run_get]
  simp only
  rw [run_bind, run_inHost]
  rcases World.run (Graph.expandInto (c.builder own) c.settings.maxModules? fuel built
    s.1.graph) s.2 with ⟨_ | o, t⟩
  · simp only
    rw [run_withHooks, Hook.Framed.run_outOfFuel]
  · simp only
    rw [run_bind, run_modify]

end Stages

section Expands

variable {m : Type → Type} [Monad m] {σ : Type} [World m σ]

/-- A run that starts in the state `s` comes past the expansion of its graph. It has built the
entry, the listeners of `compilation` have left the graph `before`, and the walk `after`. -/
def ExpandsGraph (c : Compiler) (own : Host m) (stage : Hook.Stage m) (fuel : Nat) (s : σ)
    (entry : ModuleId) (before after : Graph) : Prop :=
  ∃ directory start t built first u now v n w,
    World.run (c.workingDirectory own) s = (.ok directory, t) ∧
    c.compilationIn directory = .ok start ∧ start.entry = entry ∧
    World.run (c.buildEntry own).run.run (start, t) = (some (.ok built), first, u) ∧
    World.run (c.callCompilation stage fuel).run.run (first, u) = (some (.ok ()), now, v) ∧
    now.graph = before ∧
    World.run (Graph.expandInto (c.builder own) c.settings.maxModules? fuel built before) v =
      (some ⟨after, .ok n⟩, w)

/-- What the paths tell that a compiler has read in a run. None is read twice. Once the walk is
over, they are those of the modules in the graph, in order, but for what listeners have added before
the walk and after it. -/
structure ReadsOnce (c : Compiler) (own : Host m) (stage : Hook.Stage m) (fuel : Nat) (s : σ)
    (ending? : Option Ending) (paths : List String) : Prop where
  nodup : paths.Nodup
  keys : ∀ entry before after, c.ExpandsGraph own stage fuel s entry before after →
    ∃ early found : List ModuleId, before.ids = entry :: early ∧ after.ids = before.ids ++ found ∧
      paths = (entry :: found).map ModuleId.path ∧
      ∀ ending final, ending? = some ending → ending.compilation? = some final →
        ∃ late, final.graph.ids = after.ids ++ late

end Expands

section Run

variable {m : Type → Type} [Monad m] {σ : Type} [World m σ]
variable {c : Compiler} {h : Host m} {refuse : FileSystem.Request → Option String}
variable {stage : Hook.Stage (StateT Record m)} {may : FileSystem.Operation → Prop} {fuel : Nat}

/-- Distinct modules have distinct files. -/
theorem nodup_paths {ids sought : List ModuleId} {id : ModuleId} (hid : id ∈ ids)
    (h : (ids ++ sought).Nodup) : ((id :: sought).map ModuleId.path).Nodup := by
  obtain ⟨-, hsought, hdisjoint⟩ := List.nodup_append.1 h
  have hnew : id ∉ sought := fun hmem => hdisjoint id hid id hmem rfl
  exact (List.nodup_cons.2 ⟨hnew, hsought⟩).map ModuleId.path_injective

/-- Building the entry reads its file. -/
theorem reading_buildEntry (c : Compiler) (h : Host m)
    (refuse : FileSystem.Request → Option String) (s : Compilation × Record × σ) :
    reading (World.run (c.buildEntry (Record.host h refuse)).run.run s).2.2 =
      reading s.2 ++ [s.1.entry.path] := by
  have hb : (c.builder (Record.host h refuse)).host = Record.host h refuse := rfl
  have hread := Builder.reading_build hb s.1.entry s.2
  rw [run_buildEntry]
  rcases hbuild : World.run ((c.builder (Record.host h refuse)).build s.1.entry) s.2
    with ⟨e | built, t⟩
  · rw [hbuild] at hread
    exact hread
  · rw [hbuild] at hread
    simp only
    cases s.1.graph.insert built with
    | error e => exact hread
    | ok graph => exact hread

/-- An entry that was built is the only module of the graph. -/
theorem ids_of_buildEntry {s t : Compilation × Record × σ} {built : Module}
    (hs : s.1.graph = .empty)
    (hrun : World.run (c.buildEntry (Record.host h refuse)).run.run s = (some (.ok built), t)) :
    built.id = s.1.entry ∧ t.1.graph.ids = [s.1.entry] := by
  rw [run_buildEntry, hs] at hrun
  rcases hbuild : World.run ((c.builder (Record.host h refuse)).build s.1.entry) s.2
    with ⟨e | first, u⟩
  · rw [hbuild] at hrun
    cases hrun
  · rw [hbuild] at hrun
    have hid : first.id = s.1.entry := Builder.id_of_built (congrArg Prod.fst hbuild)
    simp only at hrun
    cases hg : Graph.empty.insert first with
    | error e =>
      rw [hg] at hrun
      cases hrun
    | ok graph =>
      rw [hg] at hrun
      cases hrun
      exact ⟨hid, hid ▸ ids_of_insert_empty hg⟩

/-- Making the graph reads the file of no module that the graph holds, and no file twice. -/
theorem nodup_makeGraphApart (hs : stage.Confined (reading (σ := σ)) may)
    (hr : c.registry.Confined may) {built : Module} {s : Compilation × Record × σ}
    (hheld : built.id ∈ s.1.graph.ids) (hread : reading s.2 = [built.id.path]) :
    (reading (World.run (c.makeGraphApart (Record.host h refuse) stage fuel built).run.run
      s).2.2).Nodup := by
  have hb : (c.builder (Record.host h refuse)).host = Record.host h refuse := rfl
  rw [run_makeGraphApart]
  rcases hwalk : World.run (Graph.expandInto (c.builder (Record.host h refuse))
    c.settings.maxModules? fuel built s.1.graph) s.2 with ⟨_ | o, t⟩
  all_goals
    obtain ⟨sought, hsought, hnodup, -⟩ := Graph.reading_expandInto hb hheld hwalk
    rw [hread] at hsought
    have hpaths := nodup_paths hheld hnodup
  · exact hsought ▸ hpaths
  · simp only
    rw [(settle_still hs hr fuel o.result _).2, hsought]
    exact hpaths

/-- The stages of a run read no file twice. -/
theorem nodup_stagesApart (h : Host m) (refuse : FileSystem.Request → Option String)
    (hs : stage.Confined (reading (σ := σ)) may) (hr : c.registry.Confined may) (fuel : Nat)
    {s : Compilation × Record × σ}
    (hgraph : s.1.graph = .empty) (hread : reading s.2 = []) :
    (reading (World.run (c.stagesApart (Record.host h refuse) stage fuel).run.run
      s).2.2).Nodup := by
  have hlate : reading (World.run (c.stagesApart (Record.host h refuse) stage fuel).run.run s).2.2 =
      reading (World.run (c.assembleApart (Record.host h refuse) stage fuel).run.run s).2.2 :=
    (Still.after (fun _ => concludeApart_still hs hr fuel) s).2
  have hentry : reading (World.run (c.buildEntry (Record.host h refuse)).run.run s).2.2 =
      [s.1.entry.path] := by
    rw [reading_buildEntry, hread, List.nil_append]
  have hone : [s.1.entry.path].Nodup := List.nodup_singleton _
  rw [hlate, assembleApart, run_bind]
  rcases hbuild : World.run (c.buildEntry (Record.host h refuse)).run.run s
    with ⟨_ | (e | built), t⟩
  · rw [hbuild] at hentry
    exact hentry ▸ hone
  · rw [hbuild] at hentry
    exact hentry ▸ hone
  · obtain ⟨hid, hids⟩ := ids_of_buildEntry hgraph hbuild
    rw [hbuild] at hentry
    simp only
    obtain ⟨hgrows, hsame⟩ := callCompilation_still (c := c) hs fuel t
    rw [run_bind]
    rcases hcall : World.run (c.callCompilation stage fuel).run.run t with ⟨_ | (e | _), u⟩
    all_goals rw [hcall] at hgrows hsame
    · exact (hsame.trans hentry) ▸ hone
    · exact (hsame.trans hentry) ▸ hone
    · have hheld : built.id ∈ u.1.graph.ids := by
        apply (List.IsPrefix.map Module.id hgrows).subset
        change built.id ∈ t.1.graph.ids
        rw [hids, hid]
        exact List.mem_singleton_self _
      exact nodup_makeGraphApart hs hr hheld (hid ▸ hsame.trans hentry)

theorem graph_of_compilationIn {directory : String} {start : Compilation}
    (h : c.compilationIn directory = .ok start) : start.graph = .empty := by
  obtain ⟨entry, -, rfl⟩ := start_of_compilationIn h
  rfl

/-- Finding its working directory a run reads nothing. -/
theorem workingDirectory_unread (c : Compiler) (h : Host m)
    (refuse : FileSystem.Request → Option String) :
    Preserves (reading (σ := σ)) (c.workingDirectory (Record.host h refuse)) :=
  workingDirectory_preserves Record.workingDirectory_unread

/-- The stages of a run that comes past its walk add nothing to what was read. -/
theorem still_of_walk (hs : stage.Confined (reading (σ := σ)) may)
    (hr : c.registry.Confined may) {s first now : Compilation} {t u v w : Record × σ}
    {built : Module} {after : Graph} {n : Nat}
    (hbuild : World.run (c.buildEntry (Record.host h refuse)).run.run (s, t) =
      (some (.ok built), first, u))
    (hcall : World.run (c.callCompilation stage fuel).run.run (first, u) =
      (some (.ok ()), now, v))
    (hwalk : World.run (Graph.expandInto (c.builder (Record.host h refuse))
      c.settings.maxModules? fuel built now.graph) v = (some ⟨after, .ok n⟩, w)) :
    Extends after (World.run (c.stagesApart (Record.host h refuse) stage fuel).run.run
        (s, t)).2.1.graph ∧
      reading (World.run (c.stagesApart (Record.host h refuse) stage fuel).run.run
        (s, t)).2.2 = reading w := by
  have hassemble : World.run (c.assembleApart (Record.host h refuse) stage fuel).run.run (s, t) =
      World.run (c.settle stage fuel (.ok n)).run.run
        ({ now with phase := .make, graph := after }, w) := by
    rw [assembleApart, run_bind, hbuild]
    simp only
    rw [run_bind, hcall]
    simp only
    rw [run_makeGraphApart, hwalk]
  obtain ⟨hgraph, hread⟩ := settle_still hs hr fuel (.ok n)
    ({ now with phase := .make, graph := after }, w)
  obtain ⟨hgraph', hread'⟩ := Still.after
    (x := c.assembleApart (Record.host h refuse) stage fuel)
    (f := fun _ => c.concludeApart (Record.host h refuse) stage fuel)
    (fun _ => concludeApart_still hs hr fuel) (s, t)
  rw [hassemble] at hgraph' hread'
  exact ⟨hgraph.trans hgraph', hread'.trans hread⟩

variable {s : σ} {ending? : Option Ending} {r : Record} {t : σ}

/-- Whatever comes of a run, it reads no file twice. -/
theorem nodup_runApart (hs : stage.Confined (reading (σ := σ)) may) (hr : c.registry.Confined may)
    (hrun : World.run (c.runApart (Record.host h refuse) stage fuel) (({} : Record), s) =
      (ending?, r, t)) : r.sources.Nodup := by
  have hstart := workingDirectory_unread c h refuse (({} : Record), s)
  rw [runApart, run_runIn] at hrun
  rcases hd : World.run (c.workingDirectory (Record.host h refuse)) (({} : Record), s)
    with ⟨e | directory, u⟩
  all_goals rw [hd] at hrun hstart
  · cases hrun
    have hnil : r.sources = [] := hstart
    exact hnil ▸ List.nodup_nil
  · cases hc : c.compilationIn directory with
    | error e =>
      simp only [hc] at hrun
      cases hrun
      have hnil : r.sources = [] := hstart
      exact hnil ▸ List.nodup_nil
    | ok start =>
      have hnodup := nodup_stagesApart h refuse hs hr fuel (s := (start, u))
        (graph_of_compilationIn hc) hstart
      simp only [hc] at hrun
      rcases hout : World.run (c.stagesApart (Record.host h refuse) stage fuel).run.run (start, u)
        with ⟨o, final, v⟩
      rw [hout] at hrun hnodup
      cases hrun
      exact hnodup

/-- A run that comes past its walk has read the files of the entry and of what the walk has added.
What else its graph holds in the end comes from listeners, before the walk or after it. -/
theorem sources_of_expandsGraph (hs : stage.Confined (reading (σ := σ)) may)
    (hr : c.registry.Confined may)
    (hrun : World.run (c.runApart (Record.host h refuse) stage fuel) (({} : Record), s) =
      (ending?, r, t)) {entry : ModuleId} {before after : Graph}
    (hexpands : c.ExpandsGraph (Record.host h refuse) stage fuel (({} : Record), s) entry before
      after) :
    ∃ early found : List ModuleId, before.ids = entry :: early ∧ after.ids = before.ids ++ found ∧
      r.sources = (entry :: found).map ModuleId.path ∧
      ∀ ending final, ending? = some ending → ending.compilation? = some final →
        ∃ late, final.graph.ids = after.ids ++ late := by
  have hstart := workingDirectory_unread c h refuse (({} : Record), s)
  obtain ⟨directory, start, u, built, first, v, now, x, n, w, hd, hc, rfl, hbuild, hcall, rfl,
    hwalk⟩ := hexpands
  obtain ⟨hid, hids⟩ := ids_of_buildEntry (s := (start, u)) (graph_of_compilationIn hc) hbuild
  have hread : reading v = reading u ++ [start.entry.path] := by
    have hread := reading_buildEntry c h refuse (start, u)
    rw [hbuild] at hread
    exact hread
  obtain ⟨hgrows, hsame⟩ := callCompilation_still (c := c) hs fuel (first, v)
  obtain ⟨hlate, hrest⟩ := still_of_walk hs hr hbuild hcall hwalk
  rw [hd] at hstart
  rw [hcall] at hgrows hsame
  obtain ⟨early, hearly⟩ : ∃ early, now.graph.ids = start.entry :: early := by
    obtain ⟨more, hmore⟩ := List.IsPrefix.map Module.id hgrows
    exact ⟨more, by rw [Graph.ids, ← hmore]; exact congrArg (· ++ more) hids⟩
  have hheld : built.id ∈ now.graph.ids := by
    rw [hearly, hid]
    exact List.mem_cons_self
  have hb : (c.builder (Record.host h refuse)).host = Record.host h refuse := rfl
  obtain ⟨found, hfound, -, hafter⟩ := Graph.reading_expandInto hb hheld hwalk
  have hsources : reading w = (start.entry :: found).map ModuleId.path := by
    have hnil : reading u = [] := hstart
    rw [hfound, hsame, hread, hnil]
    rfl
  rw [runApart, run_runIn, hd] at hrun
  simp only [hc] at hrun
  rcases hout : World.run (c.stagesApart (Record.host h refuse) stage fuel).run.run (start, u)
    with ⟨o, last, y⟩
  rw [hout] at hrun hlate hrest
  cases hrun
  refine ⟨early, found, hearly, hafter after n rfl, hrest.trans hsources,
    fun ending final hending hfinal => ?_⟩
  obtain ⟨result, -, rfl⟩ := Option.map_eq_some_iff.1 hending
  cases hfinal
  obtain ⟨late, hmore⟩ := List.IsPrefix.map Module.id hlate
  exact ⟨late, hmore.symm⟩

theorem readsOnce (hs : stage.Confined (reading (σ := σ)) may) (hr : c.registry.Confined may)
    (hrun : World.run (c.runApart (Record.host h refuse) stage fuel) (({} : Record), s) =
      (ending?, r, t)) :
    c.ReadsOnce (Record.host h refuse) stage fuel (({} : Record), s) ending? r.sources where
  nodup := nodup_runApart hs hr hrun
  keys _ _ _ := sources_of_expandsGraph hs hr hrun

/-- Listeners that read nothing, and notes that they leave elsewhere, do not show in a record. -/
theorem confined_sharing (hr : c.registry.Confined (· ≠ .read)) (say : String → m Unit) :
    (Hook.Stage.mk (Record.host h refuse) (fun note => liftM (say note)) c.registry).Confined
      (reading (σ := σ)) (· ≠ .read) where
  registry := hr
  say note s := by
    change reading (World.run (StateT.lift (say note)) s).2 = _
    rw [World.run_lift]
    rfl
  read hread := absurd rfl hread
  write _ path bytes := Record.write_unread path bytes

/-- Listeners that work beneath a record, which does not see what they ask of their host. -/
def beneath (r : Hook.Registry) (h : Host m) (say : String → m Unit) :
    Hook.Stage (StateT Record m) :=
  ⟨h.lift, fun note => liftM (say note), r⟩

theorem confined_beneath (r : Hook.Registry) (h : Host m) (say : String → m Unit) :
    (beneath r h say).Confined (reading (σ := σ)) (fun _ => True) := by
  have hlift {β : Type} (x : m β) :
      Preserves (reading (σ := σ)) (liftM x : StateT Record m β) := by
    intro s
    change reading (World.run (StateT.lift x) s).2 = _
    rw [World.run_lift]
    rfl
  exact ⟨r.confined_of_forall fun _ => trivial, fun _ => hlift _, fun _ _ => hlift _,
    fun _ _ _ => hlift _⟩

/-- Expanding an entry over finitely many files ends. In a run whose listeners read nothing no file
is read twice; once its walk is over, the files that it has read are those of its graph, in order,
without what listeners have added. The same holds of what any run reads besides what its listeners
read, where a second record keeps what these ask for. -/
theorem run_reads_once :
    (∀ (b : Builder (StateM Memory)) (limit : Option Nat) (entry : Module) (files : Memory)
      (fuel : Nat), b.host = Memory.host → files.files.size < fuel →
        (World.run (Graph.expand b limit fuel entry) files).1.isSome) ∧
    ∀ (c : Compiler) (h : Host m) (refuse : FileSystem.Request → Option String)
      (say : String → m Unit) (fuel : Nat) (s : σ),
      (∀ ending? r t, c.registry.Confined (· ≠ .read) →
        World.run (c.run (Record.host h refuse) (fun note => liftM (say note)) fuel)
          (({} : Record), s) = (ending?, r, t) →
        c.ReadsOnce (Record.host h refuse)
          ⟨Record.host h refuse, fun note => liftM (say note), c.registry⟩ fuel
          (({} : Record), s) ending? (Record.sources r)) ∧
      ∀ own listeners ending? r listening t,
        own = Record.host (h.lift : Host (StateT Record m)) refuse →
        listeners = beneath c.registry (Record.host h refuse) (fun note => liftM (say note)) →
        World.run (c.runApart own listeners fuel) (({} : Record), ({} : Record), s) =
          (ending?, r, listening, t) →
        c.ReadsOnce own listeners fuel (({} : Record), ({} : Record), s) ending?
          (Record.sources r) := by
  refine ⟨fun b limit entry files fuel hb hfuel => ?_, fun c h refuse say fuel s => ⟨?_, ?_⟩⟩
  · have hends := Graph.expandInto_isSome hb limit entry .empty hfuel
    rw [Graph.expand, World.run_bind, World.run_pure, Option.isSome_map]
    exact hends
  · intro ending? r t hr hrun
    rw [run_eq_runApart] at hrun
    exact readsOnce (confined_sharing hr say) hr hrun
  · rintro own listeners ending? r listening t rfl rfl hrun
    exact readsOnce (confined_beneath _ _ _) (c.registry.confined_of_forall fun _ => trivial) hrun

/-- A compiler whose listeners add a module before the walk and one after it. -/
def seeding : Compiler where
  settings :=
    { entry := "/a", transformer := ⟨fun text _ => .ok ⟨.ofList [(text, text)], text⟩⟩ }
  registry := ⟨.ofList [
    (Hook.compilation, ⟨.sync, [⟨"early",
      .sync (.insert ⟨.ofRooted "/c", .empty, ""⟩ fun _ => .succeed)⟩]⟩),
    (Hook.make, ⟨.asyncParallel, [⟨"late",
      .async (.insert ⟨.ofRooted "/d", .empty, ""⟩ fun _ => .succeed)⟩]⟩),
    (Hook.emit, ⟨.asyncSeries, []⟩), (Hook.afterEmit, ⟨.asyncSeries, []⟩)]⟩
  plugins := []

/-- Three files, each of which mentions the next. -/
def chain : Memory :=
  .ofFiles "/" [("/a", Text.encode "./b"), ("/b", Text.encode "./c"), ("/c", Text.encode "./a")]

def seedingHost : Host (StateT Record (StateM Memory)) := Record.host Memory.host fun _ => none

def seedingStage : Hook.Stage (StateT Record (StateM Memory)) :=
  ⟨seedingHost, fun _ => liftM (pure () : StateM Memory Unit), seeding.registry⟩

/-- How that compiler runs on the three files in memory. -/
def seedingRun : Option Ending × Record × Memory :=
  World.run (seeding.run seedingHost seedingStage.say 9) (({} : Record), chain)

/-- The file of a module that a listener has added before the walk is not read, although a module
that the walk adds mentions it. -/
theorem run_reads_once_seeding :
    (World.run (Graph.expand Graph.mentions none 4
      (Graph.mentionsTwice (.ofRooted "/b"))) chain).1.isSome ∧
    seeding.registry.Confined (· ≠ .read) ∧
    ∃ ending r t before after found, seedingRun = (some ending, r, t) ∧
      seeding.ExpandsGraph seedingHost seedingStage 9 (({} : Record), chain) (.ofRooted "/a") before
        after ∧
      r.sources.Nodup ∧ r.sources = (ModuleId.ofRooted "/a" :: found).map ModuleId.path ∧
      after.ids = before.ids ++ found ∧ r.sources = ["/a", "/b"] ∧
      ending.compilation?.map (·.graph.ids) =
        some [.ofRooted "/a", .ofRooted "/c", .ofRooted "/b", .ofRooted "/d"] := by
  obtain ⟨hends, hruns⟩ := run_reads_once (m := StateM Memory) (σ := Memory)
  have hr : seeding.registry.Confined (· ≠ .read) := by
    apply Hook.Registry.forall_taps
    intro e he tap htap
    have hentries : seeding.registry.hooks.entries =
        [(Hook.compilation, ⟨.sync, [⟨"early",
            .sync (.insert ⟨.ofRooted "/c", .empty, ""⟩ fun _ => .succeed)⟩]⟩),
          (Hook.make, ⟨.asyncParallel, [⟨"late",
            .async (.insert ⟨.ofRooted "/d", .empty, ""⟩ fun _ => .succeed)⟩]⟩),
          (Hook.emit, ⟨.asyncSeries, []⟩), (Hook.afterEmit, ⟨.asyncSeries, []⟩)] := rfl
    simp only [hentries, List.mem_cons, List.not_mem_nil, or_false] at he
    obtain rfl | rfl | rfl | rfl := he
    · obtain rfl := List.mem_singleton.1 htap
      exact trivial
    · obtain rfl := List.mem_singleton.1 htap
      exact fun _ => trivial
    · cases htap
    · cases htap
  obtain ⟨before, after, hexpands⟩ : ∃ before after, seeding.ExpandsGraph seedingHost seedingStage
      9 (({} : Record), chain) (.ofRooted "/a") before after :=
    ⟨_, _, _, _, _, _, _, _, _, _, _, _, rfl, rfl, rfl, rfl, rfl, rfl, rfl⟩
  have hsome : seedingRun.1.isSome = true := by decide +kernel
  have hsources : seedingRun.2.1.sources = ["/a", "/b"] := by decide +kernel
  have hids : seedingRun.1.bind (fun ending => ending.compilation?.map (·.graph.ids)) =
      some [.ofRooted "/a", .ofRooted "/c", .ofRooted "/b", .ofRooted "/d"] := by decide +kernel
  refine ⟨hends Graph.mentions none _ chain 4 rfl (by decide), hr, ?_⟩
  rcases hrun : seedingRun with ⟨_ | ending, r, t⟩
  all_goals rw [hrun] at hsome hsources hids
  · cases hsome
  · obtain ⟨hnodup, hkeys⟩ := (hruns seeding Memory.host (fun _ => none) (fun _ => pure ()) 9
      chain).1 _ r t hr hrun
    obtain ⟨early, found, -, hfound, hread, -⟩ := hkeys _ before after hexpands
    exact ⟨ending, r, t, before, after, found, rfl, hexpands, hnodup, hread, hfound, hsources,
      hids⟩

end Run

end Compiler

end ModuleBundler
