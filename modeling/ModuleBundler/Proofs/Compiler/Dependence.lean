import ModuleBundler.Proofs.Compiler.Plain
import ModuleBundler.Proofs.FileSystem.Memory

/-!
# What the artifact depends on

Without plugins a run is determined by the answers to what it asks. Files that it neither reads nor
probes do not matter, and in memory it can be repeated, unless it has looked at its own artifact.
-/

namespace ModuleBundler.Compiler

open FileSystem (Host Memory Record Request SameAnswer)
open FileSystem.Record (of)

variable {m n : Type → Type} [Monad m] [Monad n] {σ τ : Type} [World m σ] [World n τ]

/-- Before it writes, a run does nothing but read and probe in its working directory. -/
theorem plainPrepare_coupled {K : Coupling m n} (c : Compiler) {h : Host m} {h' : Host n}
    (hreads : K.Reads h h') (hcwd : K.Rel h.workingDirectory h'.workingDirectory) (fuel : Nat) :
    K.Rel (c.plainPrepare h fuel) (c.plainPrepare h' fuel) := by
  have hbuilder : K.Reads (c.builder h).host h' := hreads
  apply K.bind (workingDirectory_coupled hcwd)
  intro answer
  cases answer with
  | error e => exact K.pure _
  | ok directory =>
    simp only
    cases c.compilationIn directory with
    | error e => exact K.pure _
    | ok start =>
      apply K.bind (Builder.build_coupled hbuilder start.entry)
      intro answer
      cases answer with
      | error e => exact K.pure _
      | ok built =>
        simp only
        cases start.graph.insert built with
        | error e => exact K.pure _
        | ok graph =>
          exact K.bind (Graph.expandInto_coupled hbuilder _ fuel built graph) fun _ => K.pure _

theorem plainRun_coupled {K : Coupling m n} (c : Compiler) {h : Host m} {h' : Host n}
    (hreads : K.Reads h h') (hwrites : K.Writes h h')
    (hcwd : K.Rel h.workingDirectory h'.workingDirectory) (fuel : Nat) :
    K.Rel (c.plainRun h fuel) (c.plainRun h' fuel) := by
  apply K.bind (plainPrepare_coupled c hreads hcwd fuel)
  intro prepared
  cases prepared with
  | error stop => exact K.pure _
  | ok now =>
    refine K.bind (K.bind (Bundle.writeArtifact_coupled hwrites _ _ _) fun written => ?_)
      fun _ => K.pure _
    cases written with
    | error e => exact K.pure _
    | ok path => exact K.pure _

section Retraces

variable {asked : List Request} {P : σ → τ → Prop} {h : Host m} {h' : Host n}

theorem plainConclude_retraces {c : Compiler} (hname : Path.IsName c.settings.output.filename)
    (hh : Host.AgreeOn asked P h h') (now : Compilation) :
    Retraces asked P (fun _ _ => True) (c.plainConclude (of h) now)
      (c.plainConclude (of h') now) := by
  refine (Bundle.writeArtifact_retraces hh now.output.directory hname _).bind fun written => ?_
  cases written with
  | error e => exact .pure _ fun _ _ _ => trivial
  | ok path => exact .pure _ fun _ _ _ => trivial

/-- Where two hosts agree on what a run asks of the one, the run goes the same way in the other. -/
theorem plainRun_retraces {c : Compiler} (hname : Path.IsName c.settings.output.filename)
    (hh : Host.AgreeOn asked P h h') (fuel : Nat) :
    Retraces asked P (fun _ _ => True) (c.plainRun (of h) fuel) (c.plainRun (of h') fuel) := by
  have hprepare : Retraces asked P P (c.plainPrepare (of h) fuel) (c.plainPrepare (of h') fuel) :=
    plainPrepare_coupled c (Record.reads_of hh) (Record.workingDirectory_retraces hh) fuel
  refine hprepare.bind fun prepared => ?_
  cases prepared with
  | error stop => exact .pure _ fun _ _ _ => trivial
  | ok now =>
    exact (plainConclude_retraces hname hh now).bind fun _ => .pure _ fun _ _ _ => trivial

end Retraces

section InMemory

/-- A store is as it was, or a file was written into a directory that was created for it. -/
inductive Stored (s : Memory) : Option String → Memory → Prop
  | same : Stored s none s
  | written (directory path : String) (bytes : Text.Bytes) :
    Stored s (some path) ((s.withDirectory directory).withFile path bytes)

/-- The path of the artifact that a run ends with. -/
def Ending.path? (e : Ending) : Option String :=
  e.result.toOption.map fun success => success.artifact.path

theorem Ending.of_path? {e : Ending} {path : String} (h : e.path? = some path) :
    ∃ success, e.result = .ok success ∧ success.artifact.path = path := by
  obtain ⟨e | success, final?⟩ := e
  · cases h
  · exact ⟨success, rfl, Option.some_inj.1 h⟩

/-- Writing an artifact into memory fails only when its path does. -/
theorem writeArtifact_stored (directory : String) {filename : String}
    (hname : Path.IsName filename) (code : String) (r : Record) (s : Memory) :
    Stored s
      (World.run (Bundle.writeArtifact (of Memory.host) directory filename code) (r, s)).1.toOption
      (World.run (Bundle.writeArtifact (of Memory.host) directory filename code) (r, s)).2.2 := by
  unfold Bundle.writeArtifact
  simp only
  cases houtput : Bundle.outputPath (Path.clean directory) filename with
  | error e => exact .same
  | ok target =>
    simp only
    rw [World.run_bind, Record.run_createDirectory_of, Memory.run_createDirectory]
    simp only
    rw [World.run_bind, Record.run_write_of, Memory.run_write_withDirectory hname houtput]
    exact .written _ target _

theorem plainConclude_stored {c : Compiler} (hname : Path.IsName c.settings.output.filename)
    (now : Compilation) (r : Record) (s : Memory) :
    Stored s (World.run (c.plainConclude (of Memory.host) now) (r, s)).1.path?
      (World.run (c.plainConclude (of Memory.host) now) (r, s)).2.2 := by
  have hstored := writeArtifact_stored now.output.directory hname
    (Bundle.render c.settings.output.banner? now.graph now.entry) r s
  rw [plainConclude]
  simp only
  rw [World.run_bind]
  rcases hwritten : World.run (Bundle.writeArtifact (of Memory.host) now.output.directory
    c.settings.output.filename (Bundle.render c.settings.output.banner? now.graph now.entry)) (r, s)
    with ⟨e | path, v⟩
  all_goals
    rw [hwritten] at hstored
    exact hstored

/-- Asking a recorded store does not change it. -/
theorem host_unchanged : (of Memory.host).Leaves (Prod.snd : Record × Memory → Memory) where
  read path := fun ⟨r, s⟩ => by
    rw [Record.run_read_of]
    rfl
  isFile path := fun ⟨r, s⟩ => by
    rw [Record.run_isFile]
    rfl

/-- In memory a run writes its artifact or nothing. -/
theorem plainRun_stored {c : Compiler} (hname : Path.IsName c.settings.output.filename)
    (fuel : Nat) (v : Record × Memory) :
    Stored v.2 ((World.run (c.plainRun (of Memory.host) fuel) v).1.bind Ending.path?)
      (World.run (c.plainRun (of Memory.host) fuel) v).2.2 := by
  have hcwd : Preserves (Prod.snd : Record × Memory → Memory)
      (of Memory.host).workingDirectory := fun ⟨r, s⟩ => by
    rw [Record.run_workingDirectory_of]
    rfl
  have hprepare := plainPrepare_coupled c host_unchanged.reads hcwd fuel v
  rw [plainRun, World.run_bind]
  rcases hprepared : World.run (c.plainPrepare (of Memory.host) fuel) v
    with ⟨(_ | stop) | now, r, s⟩
  all_goals
    rw [hprepared] at hprepare
    obtain rfl : s = v.2 := hprepare
  · exact .same
  · exact .same
  · exact plainConclude_stored hname now r v.2

end InMemory

/-- Where two hosts agree on what a run asks of the one, a run in the other ends alike and asks for
the same. -/
theorem run_eq_of_agreeOn {c : Compiler} (hr : c.registry = .builtin)
    (hname : Path.IsName c.settings.output.filename) {h : Host m} {h' : Host n}
    {P : σ → τ → Prop} {say : String → StateT Record m Unit} (say' : String → StateT Record n Unit)
    {fuel : Nat} {s : σ} {t : τ} {ending? : Option Ending} {r : Record} {u : σ}
    (hrun : World.run (c.run (of h) say fuel) (({} : Record), s) = (ending?, r, u))
    (hh : Host.AgreeOn r.requests P h h') (hst : P s t) :
    ∃ v, World.run (c.run (of h') say' fuel) (({} : Record), t) = (ending?, r, v) := by
  rw [run_plain hr] at hrun
  have hfollows := (plainRun_retraces hname hh fuel).follows {} s t hst
  rw [hrun] at hfollows
  obtain ⟨v, hv, -⟩ := hfollows (List.Subset.refl _)
  rw [run_plain hr]
  exact ⟨v, hv⟩

/-- A run without plugins does not depend on being recorded. -/
theorem run_recorded {c : Compiler} (hr : c.registry = .builtin) (h : Host m)
    (say : String → m Unit) (say' : String → StateT Record m Unit) (fuel : Nat) (r : Record)
    (s : σ) : World.run (c.run h say fuel) s =
      ((World.run (c.run (of h) say' fuel) (r, s)).1,
        (World.run (c.run (of h) say' fuel) (r, s)).2.2) := by
  have hhost := Record.host_mirrored h
  rw [run_plain hr, run_plain hr]
  exact plainRun_coupled c hhost.reads hhost.writes hhost.workingDirectory fuel (r, s)

/-- A run without plugins depends on what it looks at. In another world with the same working
directory, where the artifact can be written, it ends alike and writes the same as soon as the paths
that were read hold the same, and those that were probed are there or not as before. In memory the
artifact can always be written, so that files at other paths do not matter; and a run can be repeated
in the store that it has left if it has not looked at the place of its artifact. That a record is
kept of what it asks does not matter to the run. -/
theorem run_depends_on_looks {config : Config} {notes : List String} {c : Compiler}
    (hc : ofConfig config = (notes, .ok c)) (hplain : config.plugins = []) (fuel : Nat) :
    (∀ (h : Host m) (say : String → m Unit) (say' : String → StateT Record m Unit) (s : σ),
      World.run (c.run h say fuel) s =
        ((World.run (c.run (of h) say' fuel) (({} : Record), s)).1,
          (World.run (c.run (of h) say' fuel) (({} : Record), s)).2.2)) ∧
    (∀ (h : Host m) (h' : Host n) (say : String → StateT Record m Unit)
      (say' : String → StateT Record n Unit) (I : σ → Prop) (J : τ → Prop) (s : σ) (t : τ)
      (ending? : Option Ending) (r : Record) (u : σ), I s → J t →
      World.run (c.run (of h) say fuel) (({} : Record), s) = (ending?, r, u) →
      SameAnswer I J h.workingDirectory h'.workingDirectory →
      (∀ path ∈ r.sources, SameAnswer I J (h.read path) (h'.read path)) →
      (∀ path ∈ r.probes, SameAnswer I J (h.isFile path) (h'.isFile path)) →
      h.Admits I r.requests → h'.Admits J r.requests →
      ∃ v, World.run (c.run (of h') say' fuel) (({} : Record), t) = (ending?, r, v)) ∧
    ∀ (say say' : String → StateT Record (StateM Memory) Unit) (s : Memory)
      (ending? : Option Ending) (r : Record) (u : Memory),
      World.run (c.run (of Memory.host) say fuel) (({} : Record), s) = (ending?, r, u) →
      (∀ t : Memory, s.workingDirectory = t.workingDirectory →
        (∀ path ∈ r.sources, s.read path = t.read path) →
        (∀ path ∈ r.probes, s.isFile path = t.isFile path) →
        ∃ v, World.run (c.run (of Memory.host) say' fuel) (({} : Record), t) = (ending?, r, v)) ∧
      ((∀ ending success, ending? = some ending → ending.result = .ok success →
          ∀ path ∈ r.sources ++ r.probes, s.locate path ≠ s.locate success.artifact.path) →
        ∃ v, World.run (c.run (of Memory.host) say' fuel) (({} : Record), u) =
          (ending?, r, v)) := by
  have hr := ofConfig_plain hc hplain
  obtain ⟨-, hname⟩ := ofConfig_ok hc
  refine ⟨fun h say say' s => run_recorded hr h say say' fuel _ s,
    fun h h' say say' I J s t ending? r u hs ht hrun hcwd hread hprobe hadmits hadmits' =>
    run_eq_of_agreeOn hr hname say' hrun
      (.of_admits hcwd hread hprobe hadmits hadmits') ⟨hs, ht⟩,
    fun say say' s ending? r u hrun => ?_⟩
  have hother (t : Memory) (hcwd : s.workingDirectory = t.workingDirectory)
      (hread : ∀ path ∈ r.sources, s.read path = t.read path)
      (hprobe : ∀ path ∈ r.probes, s.isFile path = t.isFile path) :
      ∃ v, World.run (c.run (of Memory.host) say' fuel) (({} : Record), t) = (ending?, r, v) :=
    run_eq_of_agreeOn hr hname say' hrun (Memory.agreeOn hcwd hread hprobe) ⟨rfl, rfl⟩
  refine ⟨hother, fun hlook => ?_⟩
  have hleft : Stored s (ending?.bind Ending.path?) u := by
    have hleft := plainRun_stored hname fuel (({} : Record), s)
    rw [← run_plain hr, hrun] at hleft
    exact hleft
  generalize hpath : ending?.bind Ending.path? = path? at hleft
  cases hleft with
  | same => exact hother s rfl (fun _ _ => rfl) fun _ _ => rfl
  | written directory path bytes =>
    obtain ⟨ending, hending, hended⟩ := Option.bind_eq_some_iff.1 hpath
    obtain ⟨success, hresult, rfl⟩ := Ending.of_path? hended
    have hcwd : s.workingDirectory =
        ((s.withDirectory directory).withFile success.artifact.path bytes).workingDirectory := by
      rw [Memory.workingDirectory_withFile, Memory.workingDirectory_withDirectory]
    have hsame : ∀ p ∈ r.sources ++ r.probes, s.get? p =
        ((s.withDirectory directory).withFile success.artifact.path bytes).get? p := fun p hp =>
      (Memory.get?_written bytes (hlook ending success hending hresult p hp)).symm
    refine hother _ hcwd (fun p hp => ?_) fun p hp => ?_
    · exact Memory.read_congr hcwd (hsame p (List.mem_append_left _ hp))
    · rw [Memory.isFile_eq_isSome, Memory.isFile_eq_isSome, hsame p (List.mem_append_right _ hp)]

/-- A file mentions a file whose name lacks its extension. -/
def probing : Config where
  entry := "/a"
  extensions := ["js"]
  transformer := ⟨fun text _ => .ok ⟨.ofList [(text, text)], text⟩⟩

/-- The compiler of that configuration. -/
def probingCompiler : Compiler := ⟨probing.toSettings, .builtin, []⟩

def twoFiles : Memory :=
  .ofFiles "/" [("/a", Text.encode "./b"), ("/b.js", Text.encode "./a")]

/-- The same with a file that nothing mentions. -/
def threeFiles : Memory :=
  .ofFiles "/" [("/c", Text.encode "./b"), ("/a", Text.encode "./b"), ("/b.js", Text.encode "./a")]

/-- How that compiler runs in memory. -/
def probingRun (s : Memory) : Option Ending × Record × Memory :=
  World.run (probingCompiler.run (of Memory.host) (fun _ => pure ()) 9) (({} : Record), s)

/-- Memory does not refuse that artifact. -/
theorem admits_probing {asked : List Request} (hdirectory : ∀ directory,
      .createDirectory directory true ∈ asked → directory = "/dist")
    (hpath : ∀ path, .write path ∈ asked → path = "/dist/main.js") (s : Memory) :
    Memory.host.Admits (fun t => t = s) asked where
  createDirectory path _ := by
    rintro _ rfl
    rw [Memory.run_createDirectory]
  write directory path bytes hasked hasked' := by
    rintro _ rfl
    have hname : Path.IsName "main.js" := by decide
    have houtput : Bundle.outputPath "/dist" "main.js" = .ok "/dist/main.js" := by decide
    rw [hdirectory directory hasked, hpath path hasked', Memory.run_createDirectory,
      Memory.run_write_withDirectory hname houtput]

/-- The run does not see the third file, and it can be repeated. -/
theorem run_depends_on_looks_twoFiles : ofConfig probing = ([], .ok probingCompiler) ∧
    probing.plugins = [] ∧ ∃ ending r u,
    probingRun twoFiles = (some ending, r, u) ∧ r.sources = ["/a", "/b.js"] ∧
    r.probes = ["/b", "/b.js", "/a"] ∧ r.writes.map Prod.fst = ["/dist/main.js"] ∧
    (∃ v, probingRun threeFiles = (some ending, r, v)) ∧
    ∃ v, probingRun u = (some ending, r, v) := by
  have hc : ofConfig probing = ([], .ok probingCompiler) := rfl
  obtain ⟨-, hhosts, hmemory⟩ :=
    run_depends_on_looks (m := StateM Memory) (n := StateM Memory) hc rfl 9
  have hsome : (probingRun twoFiles).1.isSome = true := by decide +kernel
  have hrequests : (probingRun twoFiles).2.1.requests =
      [.workingDirectory, .read "/a", .isFile "/b" false, .isFile "/b.js" true, .read "/b.js",
        .isFile "/a" true, .createDirectory "/dist" true, .write "/dist/main.js"] := by
    decide +kernel
  have hwrites : (probingRun twoFiles).2.1.writes.map Prod.fst = ["/dist/main.js"] := by
    decide +kernel
  have hpath : (probingRun twoFiles).1.bind Ending.path? = some "/dist/main.js" := by
    decide +kernel
  rcases hrun : probingRun twoFiles with ⟨_ | ending, r, u⟩
  all_goals rw [hrun] at hsome hrequests hwrites hpath
  · cases hsome
  have hsources : r.sources = ["/a", "/b.js"] := congrArg (List.filterMap Request.source?) hrequests
  have hprobes : r.probes = ["/b", "/b.js", "/a"] :=
    congrArg (List.filterMap Request.probe?) hrequests
  have hasked : r.requests = _ := hrequests
  have hadmits : ∀ s, Memory.host.Admits (fun t => t = s) r.requests :=
    admits_probing (fun directory hmem => by simpa [hasked] using hmem)
      fun path hmem => by simpa [hasked] using hmem
  have hcwd : twoFiles.workingDirectory = threeFiles.workingDirectory := by decide +kernel
  have hread : ∀ path ∈ r.sources, twoFiles.read path = threeFiles.read path := by
    rw [hsources]
    decide +kernel
  have hprobe : ∀ path ∈ r.probes, twoFiles.isFile path = threeFiles.isFile path := by
    rw [hprobes]
    decide +kernel
  have hlook : ∀ path ∈ r.sources ++ r.probes,
      twoFiles.locate path ≠ twoFiles.locate "/dist/main.js" := by
    rw [hsources, hprobes]
    decide +kernel
  refine ⟨hc, rfl, ending, r, u, rfl, hsources, hprobes, hwrites, ?_, ?_⟩
  · exact hhosts Memory.host Memory.host (fun _ => pure ()) (fun _ => pure ())
      (fun t => t = twoFiles) (fun t => t = threeFiles) twoFiles threeFiles (some ending) r u rfl rfl
      hrun (Memory.sameAnswer_workingDirectory hcwd)
      (fun path hmem => Memory.sameAnswer_read (hread path hmem))
      (fun path hmem => Memory.sameAnswer_isFile (hprobe path hmem)) (hadmits _) (hadmits _)
  · refine (hmemory (fun _ => pure ()) (fun _ => pure ()) twoFiles (some ending) r u hrun).2 ?_
    intro ending' success hending hresult path hmem
    obtain rfl : ending = ending' := Option.some_inj.1 hending
    have hartifact : some success.artifact.path = some "/dist/main.js" := by
      rw [← hpath, Option.bind_some, Ending.path?, hresult]
      rfl
    rw [Option.some_inj.1 hartifact]
    exact hlook path hmem

end ModuleBundler.Compiler
