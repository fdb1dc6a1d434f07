import ModuleBundler.Plugin.Builtin
import ModuleBundler.Proofs.Compiler.Artifact
import ModuleBundler.Proofs.Hook.Registry

/-!
# What a manifest lists

The listener of `manifest` looks at the graph when it is called, which may have grown since the
artifact was written, or may still grow before. A manifest that is older than the artifact lists the
first of its modules. One that is younger lists all of them first, and nothing else as long as no
module has been added since.
-/

namespace ModuleBundler

open FileSystem (Host Memory Record)
open FileSystem.Record (writing)
open ModuleBundler.Graph (Extends)
open Compiler (Meets writeBundle_meets)
open Hook (Along Grows)

namespace Hook

variable {path : String}

/-- A task that does not write to `path`. -/
def Task.Spares (path : String) {waits : Bool} : Task waits → Prop
  | .finish _ => True
  | .look next => ∀ c, (next c).Spares path
  | .insert _ next => ∀ result, (next result).Spares path
  | .say _ next => next.Spares path
  | .invokeSync _ next => ∀ result, (next result).Spares path
  | .pause _ next => next.Spares path
  | .invoke _ _ next => ∀ result, (next result).Spares path
  | .read _ _ next => ∀ result, (next result).Spares path
  | .write _ target _ next => target ≠ path ∧ ∀ result, (next result).Spares path

/-- A listener that does not write to `path`. One that does not wait cannot. -/
def Listener.Spares (path : String) : Listener → Prop
  | .sync _ => True
  | .async task => task.Spares path

theorem Task.spares_lift (t : Task false) : t.lift.Spares path := by
  induction t with
  | finish outcome => trivial
  | look next ih => exact ih
  | insert m next ih => exact ih
  | say note next ih => exact ih
  | invokeSync hook next ih => exact ih
  | pause h next ih => cases h
  | invoke h hook next ih => cases h
  | read h path next ih => cases h
  | write h path bytes next ih => cases h

theorem Listener.Spares.task {l : Listener} (h : l.Spares path) : l.task.Spares path := by
  cases l with
  | sync run => exact run.spares_lift
  | async task => exact h

end Hook

namespace Plugin

/-- The bytes of the manifest for a compilation as it is. -/
def manifestFile (c : Compilation) : Text.Bytes := Text.encode (manifestJson c).pretty

/-- No listener writes to `path` but that of `manifest`. -/
def Reserved (path : String) (r : Hook.Registry) : Prop :=
  ∀ hook, ∀ tap ∈ r.taps hook,
    tap.listener = .async writeManifest ∨ tap.listener.Spares path

/-- Whatever is written to `path` is the manifest of a graph between `first` and that of `last`. -/
def Manifests (path : String) (first : Graph) (last : Compilation)
    (writes : List (String × Text.Bytes)) : Prop :=
  ∀ bytes, (path, bytes) ∈ writes → path = manifestPath last ∧
    ∃ graph, Extends first graph ∧ Extends graph last.graph ∧
      bytes = manifestFile { last with graph }

variable {path : String} {first : Graph} {b c : Compilation}
variable {writes more : List (String × Text.Bytes)}

theorem manifestFile_congr (hentry : b.entry = c.entry) (houtput : b.output = c.output)
    (graph : Graph) : manifestFile { b with graph } = manifestFile { c with graph } := by
  simp [manifestFile, manifestJson, Compilation.outputPath, hentry, houtput]

namespace Manifests

theorem nil : Manifests path first c [] := by
  simp [Manifests]

theorem append (h : Manifests path first c writes) (hmore : Manifests path first c more) :
    Manifests path first c (writes ++ more) := by
  intro bytes hbytes
  exact (List.mem_append.1 hbytes).elim (h bytes) (hmore bytes)

/-- What was a manifest remains one when the graph grows. -/
theorem later (h : Manifests path first b writes) (hentry : c.entry = b.entry)
    (houtput : c.output = b.output) (hgraph : Extends b.graph c.graph) :
    Manifests path first c writes := by
  intro bytes hbytes
  obtain ⟨hpath, graph, hfirst, hlast, hfile⟩ := h bytes hbytes
  have hsame := manifestFile_congr hentry.symm houtput.symm graph
  refine ⟨?_, graph, hfirst, hlast.trans hgraph, hfile.trans hsame⟩
  rw [hpath, manifestPath, manifestPath, houtput]

theorem earlier {g : Graph} (h : Manifests path first c writes) (hg : Extends g first) :
    Manifests path g c writes := by
  intro bytes hbytes
  obtain ⟨hpath, graph, hfirst, hlast, hfile⟩ := h bytes hbytes
  exact ⟨hpath, graph, hg.trans hfirst, hlast, hfile⟩

/-- When the graph has not grown at all, there is only one manifest. -/
theorem eq_of_size (h : Manifests path first c writes) (hsize : c.graph.size = first.size)
    {bytes : Text.Bytes} (hbytes : (path, bytes) ∈ writes) :
    bytes = manifestFile { c with graph := first } := by
  obtain ⟨-, graph, hfirst, hlast, hfile⟩ := h bytes hbytes
  have hle : graph.size ≤ first.size := hsize ▸ hlast.length_le
  have hmodules : first.modules = graph.modules := hfirst.eq_of_length_le hle
  rw [hfile]
  simp [manifestFile, manifestJson, Compilation.outputPath, hmodules]

end Manifests

section Steps

variable {m : Type → Type} [Monad m] {σ : Type} [World m σ]
variable {s t u : Compilation × Record × σ}

/-- Nothing but the graph of a compilation has changed between two states, it has grown, and
whatever was written to `path` meanwhile is the manifest of a graph in between. -/
structure Describes (path : String) (s t : Compilation × Record × σ) : Prop where
  grows : Grows (fun _ : Record × σ => ()) s t
  writes : ∃ new, t.2.1.writes = s.2.1.writes ++ new ∧ Manifests path s.1.graph t.1 new

namespace Describes

theorem of_writes (hgrows : Grows (fun _ : Record × σ => ()) s t)
    (hwrites : t.2.1.writes = s.2.1.writes) : Describes path s t :=
  ⟨hgrows, [], by rw [hwrites, List.append_nil], .nil⟩

@[refl] theorem refl (s : Compilation × Record × σ) : Describes path s s :=
  of_writes (.refl s) rfl

theorem trans (hst : Describes path s t) (htu : Describes path t u) : Describes path s u := by
  obtain ⟨new, hnew, hold⟩ := hst.writes
  obtain ⟨newer, hnewer, hyoung⟩ := htu.writes
  have hgrows := htu.grows
  refine ⟨hst.grows.trans hgrows, new ++ newer, by rw [hnewer, hnew, List.append_assoc], ?_⟩
  exact (hold.later hgrows.entry hgrows.output hgrows.graph).append (hyoung.earlier hst.grows.graph)

instance : IsPreorder (Compilation × Record × σ) (Describes path) where
  refl := .refl
  trans _ _ _ := .trans

theorem enter (h : Describes path s t) (phase : Phase) :
    Describes path s ({ t.1 with phase }, t.2) :=
  h.trans (of_writes ⟨rfl, rfl, rfl, .refl _, rfl⟩ rfl)

theorem withGraph (h : Describes path s t) {graph : Graph} (hgraph : Extends t.1.graph graph) :
    Describes path s ({ t.1 with graph }, t.2) :=
  h.trans (of_writes ⟨rfl, rfl, rfl, hgraph, rfl⟩ rfl)

/-- An action of the host that writes nothing. -/
theorem inHost {α : Type} (h : Describes path s t) {x : StateT Record m α}
    (hx : Preserves (writing (σ := σ)) x) : Describes path s (t.1, (World.run x t.2).2) :=
  h.trans (of_writes ⟨rfl, rfl, rfl, .refl _, rfl⟩ (congrArg Prod.snd (hx t.2)))

/-- What may be written while the compilation is as it is. -/
theorem write (h : Host m) (refuse : FileSystem.Request → Option String) (target : String)
    (bytes : Text.Bytes) (s : Compilation × Record × σ)
    (hfile : target = path → target = manifestPath s.1 ∧ bytes = manifestFile s.1) :
    Describes path s (s.1, (World.run ((Record.host h refuse).write target bytes) s.2).2) := by
  obtain ⟨answer, t, hrun, ht⟩ := Record.run_write h refuse target bytes s.2
  rw [hrun]
  refine ⟨⟨rfl, rfl, rfl, .refl _, rfl⟩, _, congrArg Prod.snd ht, fun old hold => ?_⟩
  cases answer with
  | error e => cases hold
  | ok _ =>
    cases List.mem_singleton.1 hold
    obtain ⟨hpath, hbytes⟩ := hfile rfl
    exact ⟨hpath, s.1.graph, .refl _, .refl _, hbytes⟩

end Describes

variable {h : Host m} {refuse : FileSystem.Request → Option String}
variable {stage : Hook.Stage (StateT Record m)}
variable {nested : String → Hook.Action (StateT Record m) (Except Hook.Error Unit)}

/-- A task is that of `manifest` as a whole, or what is left of one that writes elsewhere. -/
def Kept (path : String) (t : Hook.Task true) : Prop :=
  t = writeManifest ∨ t.Spares path

theorem Reserved.builtin : Reserved path .builtin := by
  simp [Reserved, Hook.Registry.taps_builtin]

/-- A path remains reserved when the listener of `manifest` is registered, or ones that spare it. -/
theorem Reserved.tapAll {r : Hook.Registry} {name : String} {taps : List (String × Hook.Listener)}
    (hr : Reserved path r) (htaps : ∀ p ∈ taps, p.2 = .async writeManifest ∨ p.2.Spares path) :
    Reserved path (tapAll name r taps).registry :=
  forall_tapAll (P := fun l => l = .async writeManifest ∨ l.Spares path) hr htaps

theorem Reserved.kept {r : Hook.Registry} (hr : Reserved path r) : r.All (Kept path) := by
  intro hook tap htap
  obtain hl | hl := hr hook tap htap
  · exact .inl (by rw [hl]; rfl)
  · exact .inr hl.task

theorem advance_spares (hhost : stage.host = Record.host h refuse)
    (hsay : ∀ note, Preserves (writing (σ := σ)) (stage.say note))
    (hn : ∀ hook, Along (Describes (σ := σ) path) (fun _ => True) (nested hook))
    {t : Hook.Task true} (ht : t.Spares path) :
    Along (Describes (σ := σ) path) (Hook.Stop.All (Kept path)) (Hook.advance stage nested t) := by
  induction t with
  | finish outcome => exact .pure trivial
  | look next ih => exact .bind .look fun c _ => ih c (ht c)
  | insert m next ih =>
    refine .bind (.insertModule m fun c graph t hg => ?_) fun r _ => ih r (ht r)
    exact (Describes.refl _).withGraph (.of_insert hg)
  | say note next ih =>
    exact .bind (.host fun c t => (Describes.refl _).inHost (hsay note)) fun _ _ => ih ht
  | invokeSync hook next ih => exact .bind (hn hook) fun r _ => ih r (ht r)
  | pause hw next ih => exact .pure (.inr ht)
  | invoke hw hook next ih => exact .pure fun r => .inr (ht r)
  | read hw file next ih =>
    refine .bind (.host fun c t => (Describes.refl _).inHost ?_) fun r _ => ih r (ht r)
    rw [hhost]
    exact Record.host_leaves.read file
  | write hw target bytes next ih =>
    refine .bind (.host fun c t => ?_) fun r _ => ih r (ht.2 r)
    rw [hhost]
    exact .write h refuse target bytes (c, t) fun heq => absurd heq ht.1

/-- The listener of `manifest` writes what it has looked at, as nothing comes in between. -/
theorem advance_writeManifest (hhost : stage.host = Record.host h refuse) :
    Along (Describes (σ := σ) path) (Hook.Stop.All (Kept path))
      (Hook.advance stage nested writeManifest) := by
  intro s
  have hwrite : Describes path s (s.1,
      (World.run ((Record.host h refuse).write (manifestPath s.1) (manifestFile s.1)) s.2).2) :=
    .write h refuse _ _ s fun _ => ⟨rfl, rfl⟩
  have hend (outcome : Hook.Outcome) : Along (Describes (σ := σ) path) (Hook.Stop.All (Kept path))
      (Hook.advance stage nested (.finish outcome)) := .pure trivial
  rw [writeManifest, Hook.advance, Hook.Framed.run_bind, Hook.Framed.run_look]
  simp only [Hook.advance]
  rw [Hook.Framed.run_bind, Hook.Framed.run_host, hhost]
  rw [manifestFile] at hwrite
  cases hanswer : World.run ((Record.host h refuse).write (manifestPath s.1)
      (Text.encode (manifestJson s.1).pretty)) s.2 with
  | mk answer t =>
    rw [hanswer] at hwrite
    cases answer with
    | ok _ =>
      obtain ⟨hdone, hstop⟩ := hend (.ok ()) (s.1, t)
      exact ⟨hwrite.trans hdone, hstop⟩
    | error e =>
      obtain ⟨hdone, hstop⟩ := hend (.error ⟨e.message, []⟩) (s.1, t)
      exact ⟨hwrite.trans hdone, hstop⟩

/-- Listeners let the graph grow, and whatever they write to a reserved path is a manifest. -/
theorem keeps_describes (hhost : stage.host = Record.host h refuse)
    (hsay : ∀ note, Preserves (writing (σ := σ)) (stage.say note))
    (hr : Reserved path stage.registry) :
    stage.Keeps (Describes (σ := σ) path) (Kept path) where
  registry := hr.kept
  insert m := .insertModule m fun c graph t hg => (Describes.refl _).withGraph (.of_insert hg)
  say note := .host fun c t => (Describes.refl _).inHost (hsay note)
  advance {nested} hn {t} ht := by
    obtain rfl | ht := ht
    · exact advance_writeManifest hhost
    · exact advance_spares hhost hsay hn ht

end Steps

section Stages

variable {m : Type → Type} [Monad m] {σ : Type} [World m σ]
variable {c : Compiler} {h : Host m} {refuse : FileSystem.Request → Option String}
variable {stage : Hook.Stage (StateT Record m)} {path : String} {a : Compilation × Record × σ}

theorem buildEntry_describes (hs : stage.Keeps (Describes (σ := σ) path) (Kept path))
    (hleaves : stage.host.Leaves (writing (σ := σ))) :
    Meets (Describes path a) (c.buildEntry stage.host) (fun _ => Describes path a)
      (fun _ => Describes path a) := by
  have hbuilder : (c.builder stage.host).host.Leaves (writing (σ := σ)) := hleaves
  refine .bind (Q := fun _ => Describes path a) (.enter fun s hs => hs.enter _) fun _ => ?_
  refine .bind .get fun now => ?_
  refine .bind (Q := fun _ => Describes path a)
    (.inHost fun s hs => hs.1.inHost (Builder.build_preserves hbuilder _)) fun result => ?_
  refine .bind (Q := fun _ => Describes path a)
    (.check (fun _ _ _ hs => hs) fun _ _ _ hs => hs) fun built => ?_
  refine .bind (Q := fun _ => Describes path a)
    (.along (hs.insert built) fun _ _ _ hs _ hst => hs.trans hst) fun result => ?_
  refine .bind (Q := fun _ => Describes path a)
    (.check (fun _ _ _ hs => hs) fun _ _ _ hs => hs) fun _ => ?_
  exact .pure fun _ hs => hs

theorem callCompilation_describes (hs : stage.Keeps (Describes (σ := σ) path) (Kept path))
    (fuel : Nat) :
    Meets (Describes path a) (c.callCompilation stage fuel) (fun _ => Describes path a)
      (fun _ => Describes path a) := by
  refine .bind (Q := fun _ => Describes path a) (.enter fun s hs => hs.enter _) fun _ => ?_
  refine .bind (Q := fun _ => Describes path a)
    (.along (Hook.invokeSync_along hs fuel c.registry _) fun _ _ _ hs _ hst => hs.trans hst)
    fun result => ?_
  exact .check (fun _ _ _ hs => hs) fun _ _ _ hs => hs

theorem makeGraph_describes (hs : stage.Keeps (Describes (σ := σ) path) (Kept path))
    (hr : c.registry.All (Kept path)) (hleaves : stage.host.Leaves (writing (σ := σ))) (fuel : Nat)
    (built : Module) :
    Meets (Describes path a) (c.makeGraph stage fuel built) (fun _ => Describes path a)
      (fun _ => Describes path a) := by
  have hbuilder : (c.builder stage.host).host.Leaves (writing (σ := σ)) := hleaves
  refine .bind (Q := fun _ => Describes path a) (.enter fun s hs => hs.enter _) fun _ => ?_
  refine .bind .get fun now => ?_
  refine .bind (Q := fun o s => Describes path a s ∧
      ∀ outcome, o = some outcome → Extends s.1.graph outcome.graph) (.inHost ?_) fun o => ?_
  · rintro s ⟨hs, rfl⟩
    exact ⟨hs.inHost (Graph.expandInto_preserves hbuilder),
      fun outcome ho => Graph.expandInto_extends ho⟩
  cases o with
  | none =>
    have hnone : Along (Describes (σ := σ) path) (fun _ => False)
        (Hook.outOfFuel : Hook.Action (StateT Record m) Unit) := .none
    exact .along hnone fun _ _ _ _ h _ => h.elim
  | some outcome =>
    refine .bind (Q := fun _ => Describes path a)
      (.modifying fun s hs => hs.1.withGraph (hs.2 outcome rfl)) fun _ => ?_
    refine .bind (Q := fun _ => Describes path a)
      (.check (fun _ _ _ hs => hs) fun _ _ _ hs => hs) fun _ => ?_
    refine .bind (Q := fun _ => Describes path a)
      (.along (Hook.invoke_along hs fuel hr _) fun _ _ _ hs _ hst => hs.trans hst) fun result => ?_
    refine .bind (Q := fun _ => Describes path a)
      (.check (fun _ _ _ hs => hs) fun _ _ _ hs => hs) fun _ => ?_
    exact .bind .get fun now => .check (fun _ _ _ hs => hs.1) fun _ _ _ hs => hs.1

/-- Until the artifact is written, whatever is written to the path is a manifest. -/
theorem assemble_describes (hs : stage.Keeps (Describes (σ := σ) path) (Kept path))
    (hr : c.registry.All (Kept path)) (hleaves : stage.host.Leaves (writing (σ := σ)))
    (fuel : Nat) :
    Meets (Describes path a) (c.assemble stage fuel) (fun _ => Describes path a)
      (fun _ => Describes path a) :=
  .bind (buildEntry_describes hs hleaves) fun built =>
    .bind (callCompilation_describes hs fuel) fun _ =>
      makeGraph_describes hs hr hleaves fuel built

/-- The artifact of `now` is written. Before that the writes to `path` were manifests of graphs
that `now` extends, and since then they are manifests of graphs that extend `now`. -/
structure Accounts (c : Compiler) (path : String) (now : Compilation)
    (t : Compilation × Record × σ) : Prop where
  entry : t.1.entry = now.entry
  output : t.1.output = now.output
  artifact : t.1.artifact? = some (c.recorded now)
  graph : Extends now.graph t.1.graph
  writes : ∃ before after, t.2.1.writes = before ++ (now.outputPath, c.bundleOf now) :: after ∧
    Manifests path .empty now before ∧ Manifests path now.graph t.1 after

theorem accounts_of_describes {now : Compilation} {s t : Compilation × Record × σ}
    {before : List (String × Text.Bytes)} (hbefore : Manifests path .empty now before)
    (hs : s.1 = c.withArtifact now)
    (hwrites : s.2.1.writes = before ++ [(now.outputPath, c.bundleOf now)])
    (hst : Describes path s t) : Accounts c path now t := by
  obtain ⟨after, hafter, hmanifests⟩ := hst.writes
  have hgrows := hst.grows
  refine ⟨by rw [hgrows.entry, hs]; rfl, by rw [hgrows.output, hs]; rfl,
    by rw [hgrows.artifact, hs]; rfl, ?_, before, after, ?_, hbefore, ?_⟩
  · have hgraph := hgrows.graph
    rwa [hs] at hgraph
  · rw [hafter, hwrites, List.append_assoc]
    rfl
  · rwa [hs] at hmanifests

/-- From the compilation `now` on, with `before` written, the artifact is written and accounted for,
or else nothing more is. -/
theorem conclude_describes {now : Compilation} {before : List (String × Text.Bytes)}
    (hs : stage.Keeps (Describes (σ := σ) path) (Kept path)) (hr : c.registry.All (Kept path))
    (ho : now.output.Sound) (hhost : stage.host = Record.host h refuse) (fuel : Nat)
    (hbefore : Manifests path .empty now before) :
    Meets (fun s => s.1 = now ∧ s.2.1.writes = before) (c.conclude stage fuel)
      (fun _ => Accounts (σ := σ) c path now)
      (fun _ t => Accounts c path now t ∨
        t.1 = { now with phase := .generate } ∧ t.2.1.writes = before) := by
  let Q : Compilation × Record × σ → Prop := fun t => ∃ u, u.1 = c.withArtifact now ∧
    u.2.1.writes = before ++ [(now.outputPath, c.bundleOf now)] ∧ Describes path u t
  have haccounts : ∀ t, Q t → Accounts c path now t := fun t ⟨_, hu, hwrites, hut⟩ =>
    accounts_of_describes hbefore hu hwrites hut
  refine .bind (Q := fun _ => Q) ?_ fun artifact => ?_
  · intro s hstart
    refine (writeBundle_meets ho hhost).weaken (fun _ ht => ht) (fun _ t ht => ?_)
      (fun _ t ht => .inr ⟨ht.2.1, ?_⟩) s ⟨hstart.1, rfl⟩
    · exact ⟨t, ht.2.1, hstart.2 ▸ congrArg Prod.snd ht.2.2, .refl t⟩
    · exact ht.2.2.2.trans hstart.2
  have hafter (phase : Phase) (hook : String) :
      Meets Q (c.callAfterWriting stage fuel artifact phase hook) (fun _ => Q)
        (fun _ t => Accounts c path now t ∨
          t.1 = { now with phase := .generate } ∧ t.2.1.writes = before) := by
    refine .bind (Q := fun _ => Q)
      (.enter fun s ⟨u, hu, hwrites, hus⟩ => ⟨u, hu, hwrites, hus.enter _⟩) fun _ => ?_
    refine .bind (Q := fun _ => Q) (.along (Hook.invoke_along hs fuel hr hook)
      fun _ _ _ ⟨u, hu, hwrites, hus⟩ _ hst => ⟨u, hu, hwrites, hus.trans hst⟩) fun result => ?_
    exact .check (fun _ _ _ ht => ht) fun _ t _ ht => .inl (haccounts t ht)
  refine .bind (hafter .emit _) fun _ => .bind (hafter .afterEmit _) fun _ => ?_
  refine .bind (Q := fun _ => Q)
    (.enter fun s ⟨u, hu, hwrites, hus⟩ => ⟨u, hu, hwrites, hus.enter _⟩) fun _ => ?_
  exact .bind .get fun _ => .pure fun t ht => haccounts t ht.1

/-- The stages came to write the artifact of a compilation that is accounted for, or else wrote no
artifact, and nothing to `path` but manifests. -/
def Settles (c : Compiler) (path : String) (stage : Hook.Stage (StateT Record m)) (fuel : Nat)
    (s t : Compilation × Record × σ) : Prop :=
  (t.1.artifact? = none ∧ Manifests path .empty t.1 t.2.1.writes) ∨
    ∃ now, (World.run ((c.assemble stage fuel).run.run.run s.1) s.2).1 = (some (.ok ()), now) ∧
      Accounts c path now t

theorem stages_settles (h : Host m) (refuse : FileSystem.Request → Option String)
    {say : String → StateT Record m Unit} (hsay : ∀ note, Preserves (writing (σ := σ)) (say note))
    (hr : Reserved path c.registry) (fuel : Nat) {s : Compilation × Record × σ} (ho : s.1.output.Sound)
    (hgraph : s.1.graph = .empty) (hartifact : s.1.artifact? = none) (hwrites : s.2.1.writes = []) :
    Meets (fun t => t = s) (c.stages (Record.host h refuse) say fuel)
      (fun _ => Settles c path ⟨Record.host h refuse, say, c.registry⟩ fuel s)
      (fun _ => Settles c path ⟨Record.host h refuse, say, c.registry⟩ fuel s) := by
  have hkeeps : (Hook.Stage.mk (Record.host h refuse) say c.registry).Keeps
      (Describes (σ := σ) path) (Kept path) := keeps_describes rfl hsay hr
  have hmanifests {t : Compilation × Record × σ} (ht : Describes path s t) :
      Manifests path .empty t.1 t.2.1.writes := by
    obtain ⟨new, hnew, hmanifests⟩ := ht.writes
    rw [hnew, hwrites, List.nil_append]
    exact hgraph ▸ hmanifests
  have hassemble := assemble_describes (a := s) (c := c) hkeeps hr.kept Record.host_leaves fuel
  refine .bind ((hassemble.exact (.refl s)).weaken (fun _ ht => ht) (fun _ _ ht => ht)
    fun _ t ht => .inl ⟨ht.grows.artifact.trans hartifact, hmanifests ht⟩) fun _ => ?_
  rintro t ⟨ht, hrun⟩
  have hreached : (World.run ((c.assemble ⟨Record.host h refuse, say, c.registry⟩
      fuel).run.run.run s.1) s.2).1 = (some (.ok ()), t.1) := by
    rw [World.run_stateT] at hrun
    obtain ⟨hvalue, hstate⟩ := Prod.mk.inj hrun
    exact Prod.ext hvalue (congrArg Prod.fst hstate)
  have hsound : t.1.output.Sound := by
    rw [ht.grows.output]
    exact ho
  refine (conclude_describes hkeeps hr.kept hsound rfl fuel (hmanifests ht)).weaken
    (fun _ hu => hu) (fun _ u hu => .inr ⟨t.1, hreached, hu⟩) (fun _ u hu => ?_) t ⟨rfl, rfl⟩
  obtain hu | ⟨hu, huw⟩ := hu
  · exact .inr ⟨t.1, hreached, hu⟩
  · refine .inl ⟨?_, ?_⟩
    · rw [hu]
      exact ht.grows.artifact.trans hartifact
    · rw [huw]
      refine (hmanifests ht).later ?_ ?_ ?_
      · rw [hu]
      · rw [hu]
      · rw [hu]

end Stages

section Run

variable {m : Type → Type} [Monad m] {σ : Type} [World m σ]
variable {c : Compiler} {h : Host m} {refuse : FileSystem.Request → Option String} {path : String}
variable {say : String → m Unit} {fuel : Nat} {s : σ}

theorem run_settles (hname : Path.IsName c.settings.output.filename)
    (hr : Reserved path c.registry)
    (hcwd : ∀ d, (World.run h.workingDirectory s).1 = .ok d → Path.isRooted d = true)
    {ending : Compiler.Ending} {r : Record} {t : σ}
    (hrun : World.run (c.run (Record.host h refuse) (fun note => liftM (say note)) fuel)
      (({} : Record), s) = (some ending, r, t)) {final : Compilation}
    (hfinal : ending.compilation? = some final) :
    (final.artifact? = none ∧ Manifests path .empty final r.writes) ∨
      ∃ now, c.ReachesWriting (Record.host h refuse) (fun note => liftM (say note)) fuel
        (({} : Record), s) now ∧ Accounts c path now (final, r, t) := by
  obtain ⟨e, rfl, -, -⟩ | ⟨start, u, last, hbegins, hlast, hstages⟩ :=
    Compiler.run_begins hname hcwd hrun
  · cases hfinal
  obtain rfl : last = final := Option.some.inj (hlast.symm.trans hfinal)
  obtain ⟨directory, hwd, hstart⟩ := hbegins.directory
  have hsettles := stages_settles h refuse (fun note => Record.lift_preserves (say note)) hr fuel
    (s := (start, u)) hbegins.output hbegins.graph hbegins.artifact
    (congrArg Prod.snd hbegins.idle) (start, u) rfl
  rw [hstages] at hsettles
  have hsettled : Settles c path ⟨Record.host h refuse, fun note => liftM (say note), c.registry⟩
      fuel (start, u) (last, r, t) := by
    cases hresult : ending.result with
    | error e => simpa only [hresult] using hsettles
    | ok success => simpa only [hresult] using hsettles
  obtain hnone | ⟨now, hnow, haccounts⟩ := hsettled
  · exact .inl hnone
  · exact .inr ⟨now, ⟨directory, start, u, hwd, hstart, hnow⟩, haccounts⟩

/-- Whatever a run writes to a path that only the listener of `manifest` writes to is a manifest of
its entry and its output path. Before the artifact is written, such a manifest lists the first of
the artifact's modules; afterwards it lists all of them and then those that were added since, so
that it lists the artifact's modules and no others when none was added. -/
theorem manifest_follows_artifact {config : Compiler.Config} {c : Compiler} {notes : List String}
    (hc : Compiler.ofConfig config = (notes, .ok c)) {path : String}
    (hr : Reserved path c.registry) {h : Host m} {s : σ}
    (hcwd : ∀ d, (World.run h.workingDirectory s).1 = .ok d → Path.isRooted d = true)
    (refuse : FileSystem.Request → Option String) (say : String → m Unit) (fuel : Nat)
    {ending : Compiler.Ending} {r : Record} {t : σ}
    (hrun : World.run (c.run (Record.host h refuse) (fun note => liftM (say note)) fuel)
      (({} : Record), s) = (some ending, r, t)) {final : Compilation}
    (hfinal : ending.compilation? = some final) :
    (final.artifact? = none → Manifests path .empty final r.writes) ∧
    ∀ artifact, final.artifact? = some artifact → ∃ now before after,
      c.ReachesWriting (Record.host h refuse) (fun note => liftM (say note)) fuel
        (({} : Record), s) now ∧
      final.entry = now.entry ∧ final.outputPath = artifact.path ∧
      artifact.moduleCount = now.graph.size ∧
      r.writes = before ++ (artifact.path,
        Text.encode (Bundle.render config.output.banner? now.graph now.entry)) :: after ∧
      Manifests path .empty now before ∧ Manifests path now.graph final after ∧
      (final.graph.size = artifact.moduleCount →
        ∀ bytes, (path, bytes) ∈ after → bytes = manifestFile now) := by
  obtain ⟨hsettings, hname⟩ := Compiler.ofConfig_ok hc
  have hbanner : config.output.banner? = c.settings.output.banner? := by rw [hsettings]
  obtain ⟨hnone, hmanifests⟩ | ⟨now, hreaches, haccounts⟩ :=
    run_settles hname hr hcwd hrun hfinal
  · refine ⟨fun _ => hmanifests, fun artifact hartifact => ?_⟩
    rw [hnone] at hartifact
    cases hartifact
  · have hartifact := haccounts.artifact
    obtain ⟨before, after, hwrites, hbefore, hafter⟩ := haccounts.writes
    refine ⟨fun hnone => ?_, fun artifact hsome => ?_⟩
    · rw [hnone] at hartifact
      cases hartifact
    · rw [hartifact] at hsome
      cases hsome
      refine ⟨now, before, after, hreaches, haccounts.entry, ?_, rfl, ?_, hbefore, hafter, ?_⟩
      · rw [Compilation.outputPath, haccounts.output]
        rfl
      · rw [hwrites, hbanner]
        rfl
      · intro hsize bytes hbytes
        rw [hafter.eq_of_size hsize hbytes]
        exact manifestFile_congr haccounts.entry haccounts.output now.graph

/-- A listener that adds a module once the artifact is written. -/
def lateTaps : List (String × Hook.Listener) :=
  [(Hook.emit, .async (.insert ⟨.ofRooted "/late", .empty, ""⟩ fun _ => .succeed))]

def latecomer : Compiler.Plugin where
  name := "late"
  apply _ r := tapAll "late" r lateTaps

/-- One file, taken as it is, with a manifest for the bundle. -/
def described : Compiler.Config :=
  { Compiler.spoiled with plugins := [latecomer, manifest] }

/-- The compiler of that configuration. -/
def describedCompiler : Compiler :=
  ⟨described.toSettings,
    (tapAll "manifest" (tapAll "late" .builtin lateTaps).registry
      [(Hook.afterEmit, .async writeManifest)]).registry,
    ["late", "manifest"]⟩

/-- How that compiler runs on one file in memory. -/
def describedRun : Option Compiler.Ending × Record × Memory :=
  World.run (describedCompiler.run (Record.host Memory.host fun _ => none)
    (fun _ => liftM (pure () : StateM Memory Unit)) 20) (({} : Record), Compiler.oneFile)

/-- The manifest of that run is one of a graph that extends the one of the artifact. -/
theorem manifest_follows_artifact_late : ∃ (final now : Compilation)
    (after : List (String × Text.Bytes)),
    describedRun.1.bind (·.compilation?) = some final ∧
    describedRun.2.1.writes = ("/dist/main.js",
      Text.encode (Bundle.render none now.graph now.entry)) :: after ∧
    after.map Prod.fst = ["/dist/main.js.manifest.json"] ∧
    Manifests "/dist/main.js.manifest.json" now.graph final after := by
  have hc : Compiler.ofConfig described = ([], .ok describedCompiler) := rfl
  have hr : Reserved "/dist/main.js.manifest.json" describedCompiler.registry := by
    refine (Reserved.builtin.tapAll ?_).tapAll ?_
    · simp [lateTaps, Hook.Listener.Spares, Hook.Task.Spares, Hook.Task.succeed]
    · simp
  have hcwd : ∀ d, (World.run Memory.host.workingDirectory Compiler.oneFile).1 = .ok d →
      Path.isRooted d = true := by
    rintro _ h
    cases h
    decide
  have hshape : (describedRun.1.bind (·.compilation?)).map (fun final =>
      (final.artifact?.map (·.path), describedRun.2.1.writes.map Prod.fst)) =
      some (some "/dist/main.js", ["/dist/main.js", "/dist/main.js.manifest.json"]) := by
    decide +kernel
  rcases hrun : describedRun with ⟨ending?, r, t⟩
  rw [hrun] at hshape
  obtain ⟨final, hfinal, hfacts⟩ := Option.map_eq_some_iff.1 hshape
  obtain ⟨ending, rfl, hcompilation⟩ := Option.bind_eq_some_iff.1 hfinal
  simp only [Prod.mk.injEq, Option.map_eq_some_iff] at hfacts
  obtain ⟨⟨artifact, hartifact, hpath⟩, hpaths⟩ := hfacts
  obtain ⟨-, hsome⟩ :=
    manifest_follows_artifact hc hr hcwd (fun _ => none) (fun _ => pure ()) 20 hrun hcompilation
  obtain ⟨now, before, after, -, -, -, -, hwrites, -, hafter, -⟩ := hsome artifact hartifact
  have hbefore : before = [] := by
    rw [hwrites, hpath] at hpaths
    rcases before with _ | ⟨p, before⟩
    · rfl
    · rcases before with _ | ⟨q, before⟩ <;> simp at hpaths
  rw [hbefore, hpath, List.nil_append] at hwrites
  rw [hwrites] at hpaths
  exact ⟨final, now, after, hfinal, hwrites, (List.cons.inj hpaths).2, hafter⟩

/-- The manifest lists a module that the artifact, of one module, does not have. -/
theorem manifest_lists_latecomer : manifest ∈ described.plugins ∧
    Compiler.ofConfig described = ([], .ok describedCompiler) ∧
    ∃ ending final artifact, describedRun.1 = some ending ∧ ending.compilation? = some final ∧
    final.artifact? = some artifact ∧ artifact.moduleCount = 1 ∧
    final.graph.ids.map ModuleId.path = ["/a", "/late"] ∧
    (manifestPath final, manifestFile final) ∈ describedRun.2.1.writes := by
  have hlisted : (describedRun.1.bind (·.compilation?)).map (fun final =>
      (final.artifact?.map (·.moduleCount), final.graph.ids.map ModuleId.path,
        decide ((manifestPath final, manifestFile final) ∈ describedRun.2.1.writes))) =
      some (some 1, ["/a", "/late"], true) := by decide +kernel
  obtain ⟨final, hfinal, hfacts⟩ := Option.map_eq_some_iff.1 hlisted
  obtain ⟨ending, hending, hcompilation⟩ := Option.bind_eq_some_iff.1 hfinal
  simp only [Prod.mk.injEq, Option.map_eq_some_iff, decide_eq_true_eq] at hfacts
  obtain ⟨⟨artifact, hartifact, hcount⟩, hids, hwritten⟩ := hfacts
  exact ⟨by simp [described], rfl, ending, final, artifact, hending, hcompilation, hartifact, hcount,
    hids, hwritten⟩

end Run

end Plugin

end ModuleBundler
