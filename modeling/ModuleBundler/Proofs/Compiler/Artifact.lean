import ModuleBundler.FileSystem.Memory
import ModuleBundler.Proofs.Compiler.Step
import ModuleBundler.Proofs.FileSystem.Record
import ModuleBundler.Proofs.Path

/-!
# When the artifact is written

A run asks at most once for a file to be written, and what is written is the bundle of a valid
graph. The result of the run tells whether that happened.
-/

namespace ModuleBundler

open FileSystem (Host Record Memory)
open FileSystem.Record (writing)
open ModuleBundler.Graph (Extends)
open Hook (Framed Grows)

/-- Where an accepted configuration has its artifact written: directly in a folded directory. -/
structure OutputTarget.Sound (o : OutputTarget) : Prop where
  directory : ∃ names, (∀ n ∈ names, Path.IsName n) ∧ o.directory = Path.ofNames names
  filename : Path.IsName o.filename

/-- The path at which a sound target is written is the one that it announces. -/
theorem OutputTarget.Sound.outputPath {o : OutputTarget} (h : o.Sound) :
    Bundle.outputPath (Path.clean o.directory) o.filename = .ok o.path ∧
      Path.clean o.directory = o.directory := by
  obtain ⟨names, hnames, hdir⟩ := h.directory
  have hne : o.filename.isEmpty = false := by
    rw [String.isEmpty_eq_false_iff]
    exact h.filename.1
  have hclean : Path.clean o.directory = o.directory := by
    rw [hdir, Path.clean_ofNames hnames]
  have hall : ∀ n ∈ names ++ [o.filename], Path.IsName n := by
    intro n hn
    rcases List.mem_append.1 hn with hn | hn
    · exact hnames n hn
    · exact List.mem_singleton.1 hn ▸ h.filename
  have htarget : Path.clean (Path.join o.directory o.filename) = o.path := by
    rw [OutputTarget.path, hdir, Path.join_ofNames hnames h.filename, Path.clean_ofNames hall]
  have hparent : Path.parent? o.path = some o.directory := by
    rw [OutputTarget.path, hdir, Path.join_ofNames hnames h.filename,
      Path.parent?_ofNames hnames h.filename]
  refine ⟨?_, hclean⟩
  simp only [Bundle.outputPath, hne, hclean, htarget, hparent, if_true]
  rfl

namespace Compiler

theorem isName_of_plain {name : String} (h : isPlainFileName name = true) : Path.IsName name := by
  simp only [isPlainFileName, Bool.and_eq_true, beq_iff_eq, Bool.not_eq_true',
    List.any_eq_false] at h
  apply Path.isName_of_fileName? h.1
  intro hslash
  simpa using h.2 '/' hslash

theorem plain_of_validate {s : Settings} (h : s.validate = .ok ()) :
    isPlainFileName s.output.filename = true := by
  by_contra hplain
  rw [Bool.not_eq_true] at hplain
  unfold Settings.validate at h
  cases he : s.entry.isEmpty with
  | true =>
    simp only [he, if_true] at h
    cases h
  | false =>
    cases hf : s.output.filename.isEmpty with
    | true =>
      simp only [he, hf, Bool.false_eq_true, if_false, if_true] at h
      cases h
    | false =>
      simp only [he, hf, hplain, Bool.false_eq_true, Bool.not_false, if_false, if_true] at h
      cases h

variable {config : Config} {c : Compiler} {notes : List String}

theorem ofConfig_ok (h : ofConfig config = (notes, .ok c)) :
    c.settings = config.toSettings ∧ Path.IsName c.settings.output.filename := by
  unfold ofConfig at h
  cases hv : config.validate with
  | error e =>
    rw [hv] at h
    cases h
  | ok u =>
    rw [hv] at h
    rcases happly : applyPlugins config.toSettings [] .builtin config.plugins with ⟨said, e | r⟩
    · rw [happly] at h
      cases h
    · rw [happly] at h
      cases h
      exact ⟨rfl, isName_of_plain (plain_of_validate hv)⟩

/-- In a rooted working directory the compilation has a sound target. -/
theorem compilationIn_ok {directory : String} {start : Compilation}
    (hname : Path.IsName c.settings.output.filename) (hdir : Path.isRooted directory = true)
    (h : c.compilationIn directory = .ok start) :
    start.output.Sound ∧ start.graph = .empty ∧ start.artifact? = none := by
  obtain ⟨entry, -, rfl⟩ := start_of_compilationIn h
  exact ⟨⟨Path.exists_clean_eq (Path.isRooted_join hdir), hname⟩, rfl, rfl⟩

section Stages

/-- What a run keeps while its listeners are called. -/
structure Held {σ : Type} (entry : ModuleId) (output : OutputTarget) (artifact? : Option Artifact)
    (shown : List String × List (String × Text.Bytes)) (s : Compilation × Record × σ) : Prop where
  entry : s.1.entry = entry
  output : s.1.output = output
  artifact : s.1.artifact? = artifact?
  shown : writing s.2 = shown

/-- The error tells that no artifact was written, and does not blame the output path. -/
def Early (e : Bundle.Error) : Prop :=
  e.isArtifactWritten = false ∧ ∀ reason, e ≠ .invalidOutputPath reason

variable {m : Type → Type} [Monad m] {σ : Type} [World m σ]
variable {entry : ModuleId} {output : OutputTarget} {artifact? : Option Artifact}
variable {shown : List String × List (String × Text.Bytes)} {s t : Compilation × Record × σ}

theorem Held.grows (h : Held entry output artifact? shown s) (hst : Grows writing s t) :
    Held entry output artifact? shown t where
  entry := hst.entry.trans h.entry
  output := hst.output.trans h.output
  artifact := hst.artifact.trans h.artifact
  shown := hst.rest.trans h.shown

theorem Held.enter (h : Held entry output artifact? shown s) (phase : Phase) :
    Held entry output artifact? shown ({ s.1 with phase }, s.2) :=
  ⟨h.entry, h.output, h.artifact, h.shown⟩

theorem head?_of_extends {a b : Graph} {id : ModuleId} (h : Extends a b)
    (ha : a.ids.head? = some id) : b.ids.head? = some id := by
  obtain ⟨more, hmore⟩ := h
  rw [Graph.ids, ← hmore, List.map_append, List.head?_append]
  change (a.ids.head?).or _ = _
  rw [ha]
  rfl

variable {c : Compiler} {h : Host m} {refuse : FileSystem.Request → Option String}

/-- No module has been read so far. -/
def Opening (entry : ModuleId) (output : OutputTarget)
    (shown : List String × List (String × Text.Bytes)) (s : Compilation × Record × σ) : Prop :=
  Held entry output none shown s ∧ s.1.graph = .empty

theorem ids_of_insert_empty {built : Module} {graph : Graph}
    (hg : Graph.empty.insert built = .ok graph) : graph.ids = [built.id] := by
  simp only [Graph.insert] at hg
  split at hg
  · cases hg
  · cases hg
    rw [Graph.ids_push]
    rfl

/-- The entry becomes the first module of the graph. -/
theorem buildEntry_meets :
    Meets (Opening entry output shown)
      (c.buildEntry (Record.host h refuse))
      (fun _ s => Held entry output none shown s ∧ s.1.graph.ids.head? = some entry)
      (fun e s => writing s.2 = shown ∧ Early e) := by
  have hleaves : (c.builder (Record.host h refuse)).host.Leaves (writing (σ := σ)) :=
    Record.host_leaves
  refine .bind (Q := fun _ => Opening entry output shown)
    (.enter fun s hs => ⟨hs.1.enter _, hs.2⟩) fun _ => ?_
  refine .bind (Q := fun now s => Opening entry output shown s ∧ now.entry = entry)
    (.weaken .get (fun _ hs => hs) (fun now s hs => ⟨hs.1, hs.2 ▸ hs.1.1.entry⟩) fun _ _ hE => hE)
    fun now => ?_
  refine .bind (Q := fun r s => Opening entry output shown s ∧
      ∀ built, r = .ok built → built.id = entry)
    (.inHost fun s hs => ⟨⟨⟨hs.1.1.entry, hs.1.1.output, hs.1.1.artifact, ?_⟩, hs.1.2⟩,
      fun built hbuilt => ?_⟩) fun r => ?_
  · rw [Builder.build_preserves hleaves]
    exact hs.1.1.shown
  · rw [← hs.2]
    exact Builder.id_of_built hbuilt
  refine .bind (Q := fun built s => Opening entry output shown s ∧ built.id = entry)
    (.check (fun built s hr hs => ⟨hs.1, hs.2 built hr⟩)
      fun e s _ hs => ⟨hs.1.1.shown, rfl, fun _ => by simp⟩) fun built => ?_
  refine .bind (Q := fun r s => writing s.2 = shown ∧ (r = .ok () →
    Held entry output none shown s ∧ s.1.graph.ids.head? = some entry)) (.action ?_) fun r => ?_
  · intro s hs r hr
    rw [Framed.run_insertModule, hs.1.2] at hr ⊢
    cases hg : Graph.empty.insert built with
    | error e =>
      rw [hg] at hr
      cases hr
      exact ⟨hs.1.1.shown, fun h => by cases h⟩
    | ok graph =>
      rw [ids_of_insert_empty hg, hs.2]
      exact ⟨hs.1.1.shown, fun _ => ⟨⟨hs.1.1.entry, hs.1.1.output, hs.1.1.artifact,
        hs.1.1.shown⟩, rfl⟩⟩
  · refine .bind (Q := fun _ s => Held entry output none shown s ∧
      s.1.graph.ids.head? = some entry)
      (.check (fun _ s hr hs => hs.2 hr) fun e s _ hs => ⟨hs.1, rfl, fun _ => by simp⟩) fun _ => ?_
    exact .pure fun _ hs => hs

/-- The graph of a state starts with the entry, and nothing is written so far. -/
structure Growing (entry : ModuleId) (output : OutputTarget)
    (shown : List String × List (String × Text.Bytes)) (s : Compilation × Record × σ) : Prop where
  held : Held entry output none shown s
  head : s.1.graph.ids.head? = some entry

theorem Growing.grows (hs : Growing entry output shown s) (hst : Grows writing s t) :
    Growing entry output shown t :=
  ⟨hs.held.grows hst, head?_of_extends hst.graph hs.head⟩

variable {stage : Hook.Stage (StateT Record m)}

theorem callCompilation_meets (hq : stage.Quiet (writing (σ := σ))) (fuel : Nat) :
    Meets (Growing entry output shown) (c.callCompilation stage fuel)
      (fun _ => Growing entry output shown) (fun e s => writing s.2 = shown ∧ Early e) := by
  refine .bind (Q := fun _ => Growing entry output shown)
    (.enter fun s hs => ⟨hs.held.enter _, hs.head⟩) fun _ => ?_
  refine .bind (Q := fun _ => Growing entry output shown)
    (.withHooks (Hook.invokeSync_framed hq.confined fuel c.registry _)
      fun _ s t hs _ hst => hs.grows hst) fun r => ?_
  exact .check (fun _ s _ hs => hs) fun e s _ hs => ⟨hs.held.shown, rfl, fun _ => by simp⟩

theorem makeGraph_meets (hq : stage.Quiet (writing (σ := σ))) (hr : c.registry.Quiet)
    (hleaves : stage.host.Leaves (writing (σ := σ))) (fuel : Nat) (built : Module) :
    Meets (Growing entry output shown) (c.makeGraph stage fuel built)
      (fun _ s => Growing entry output shown s ∧ s.1.graph.validate entry = .ok ())
      (fun e s => writing s.2 = shown ∧ Early e) := by
  have hbuilder : (c.builder stage.host).host.Leaves (writing (σ := σ)) := hleaves
  refine .bind (Q := fun _ => Growing entry output shown)
    (.enter fun s hs => ⟨hs.held.enter _, hs.head⟩) fun _ => ?_
  refine .bind .get fun now => ?_
  refine .bind (Q := fun o s => Growing entry output shown s ∧
    ∀ outcome, o = some outcome → Extends s.1.graph outcome.graph)
    (.inHost fun s hs => ⟨⟨⟨hs.1.held.entry, hs.1.held.output, hs.1.held.artifact, ?_⟩,
      hs.1.head⟩, fun outcome ho => ?_⟩) fun o => ?_
  · rw [Graph.expandInto_preserves hbuilder]
    exact hs.1.held.shown
  · rw [← hs.2]
    exact Graph.expandInto_extends ho
  cases o with
  | none =>
    have hnone : Framed (writing (σ := σ)) (fun _ => False)
        (Hook.outOfFuel : Hook.Action (StateT Record m) Unit) := .none
    exact .withHooks hnone fun _ _ _ _ h _ => h.elim
  | some outcome =>
    refine .bind (Q := fun _ => Growing entry output shown)
      (.modifying fun s hs => ⟨⟨hs.1.held.entry, hs.1.held.output, hs.1.held.artifact,
        hs.1.held.shown⟩, head?_of_extends (hs.2 outcome rfl) hs.1.head⟩) fun _ => ?_
    refine .bind (Q := fun _ => Growing entry output shown)
      (.check (fun _ _ _ hs => hs) fun e s _ hs => ⟨hs.held.shown, rfl, fun _ => by simp⟩)
      fun _ => ?_
    refine .bind (Q := fun _ => Growing entry output shown)
      (.withHooks (Hook.invoke_framed hq.confined fuel hr.confined _)
        fun _ s t hs _ hst => hs.grows hst) fun r => ?_
    refine .bind (Q := fun _ => Growing entry output shown)
      (.check (fun _ _ _ hs => hs) fun e s _ hs => ⟨hs.held.shown, rfl, fun _ => by simp⟩)
      fun _ => ?_
    refine .bind .get fun now => ?_
    refine .check (fun u s hu hs => ⟨hs.1, ?_⟩)
      fun e s _ hs => ⟨hs.1.held.shown, rfl, fun _ => by simp⟩
    rw [hs.2, hs.1.held.entry] at hu
    exact hu

/-- Before the artifact is written nothing is, and a run that ends there says so. -/
theorem assemble_meets (hq : stage.Quiet (writing (σ := σ))) (hr : c.registry.Quiet)
    (hhost : stage.host = Record.host h refuse) (fuel : Nat) :
    Meets (Opening entry output shown) (c.assemble stage fuel)
      (fun _ s => Growing entry output shown s ∧ s.1.graph.validate entry = .ok ())
      (fun e s => writing s.2 = shown ∧ Early e) := by
  have hleaves : stage.host.Leaves (writing (σ := σ)) := hhost ▸ Record.host_leaves
  refine .bind (Q := fun _ => Growing entry output shown) ?_ fun built => ?_
  · rw [hhost]
    exact .weaken buildEntry_meets (fun _ hs => hs) (fun _ _ hs => ⟨hs.1, hs.2⟩) fun _ _ hE => hE
  · exact .bind (callCompilation_meets hq fuel) fun _ => makeGraph_meets hq hr hleaves fuel built

/-- What the record shows once `bytes` are written to `path`. -/
def written (path : String) (bytes : Text.Bytes) : List String × List (String × Text.Bytes) :=
  ([path], [(path, bytes)])

/-- Writing the bundle asks once for the file to be written. -/
theorem writeArtifact_run (h : Host m) (refuse : FileSystem.Request → Option String)
    (ho : output.Sound) (code : String) (s : Record × σ) :
    ∃ r t, World.run (Bundle.writeArtifact (Record.host h refuse) output.directory
        output.filename code) s = (r, t) ∧
      ((r = .ok output.path ∧ writing t =
          (s.1.targets ++ [output.path], s.1.writes ++ [(output.path, Text.encode code)])) ∨
        ∃ reason, r = .error (.writeFailure reason) ∧
          (writing t).1.length ≤ s.1.targets.length + 1 ∧ (writing t).2 = s.1.writes) := by
  obtain ⟨hpath, hclean⟩ := ho.outputPath
  simp only [Bundle.writeArtifact, hpath]
  rw [World.run_bind]
  have hcreate : Preserves (writing (σ := σ))
      ((Record.host h refuse).createDirectory (Path.clean output.directory) true) :=
    Record.createDirectory_preserves h refuse _ _
  have hcreate := hcreate s
  rcases hr : World.run
    ((Record.host h refuse).createDirectory (Path.clean output.directory) true) s with ⟨e | u, t⟩
  · rw [hr] at hcreate
    have hlength : (writing t).1.length ≤ s.1.targets.length + 1 := by
      rw [congrArg Prod.fst hcreate]
      exact Nat.le_succ _
    exact ⟨_, _, World.run_pure _ _, .inr ⟨_, rfl, hlength, congrArg Prod.snd hcreate⟩⟩
  · rw [hr] at hcreate
    obtain ⟨htargets, hwrites⟩ := Prod.mk.inj hcreate
    obtain ⟨answer, v, hrun, hv⟩ := Record.run_write h refuse output.path (Text.encode code) t
    simp only
    rw [World.run_bind, hrun]
    rw [htargets, hwrites] at hv
    cases answer with
    | error e => exact ⟨_, _, World.run_pure _ _, .inr ⟨_, rfl, by simp [hv], by simp [hv]⟩⟩
    | ok _ => exact ⟨_, _, World.run_pure _ _, .inl ⟨rfl, hv⟩⟩

theorem length_encode (text : String) : (Text.encode text).length = text.utf8ByteSize := by
  obtain ⟨l, rfl⟩ : ∃ l, text = String.ofList l := ⟨text.toList, by simp⟩
  rw [← String.size_toByteArray, String.toByteArray_ofList, List.utf8Encode, Text.encode,
    String.toList_ofList, List.size_toByteArray]

/-- What the run recorded about an artifact. -/
def recorded (c : Compiler) (now : Compilation) : Artifact :=
  let code := Bundle.render c.settings.output.banner? now.graph now.entry
  ⟨now.outputPath, code.utf8ByteSize, now.graph.size⟩

/-- The bytes of the bundle of a compilation. -/
def bundleOf (c : Compiler) (now : Compilation) : Text.Bytes :=
  Text.encode (Bundle.render c.settings.output.banner? now.graph now.entry)

/-- The compilation right after the artifact of `now` is written. -/
def withArtifact (c : Compiler) (now : Compilation) : Compilation :=
  { now with phase := .generate, artifact? := some (c.recorded now) }

/-- The artifact of `now` is written and nothing else; the graph may have grown since. -/
structure Written (c : Compiler) (now : Compilation) (s : Compilation × Record × σ) : Prop where
  held : Held now.entry now.output (some (c.recorded now))
    (written now.outputPath (c.bundleOf now)) s
  graph : Extends now.graph s.1.graph

theorem Written.grows {now : Compilation} (hs : Written c now s) (hst : Grows writing s t) :
    Written c now t :=
  ⟨hs.held.grows hst, hs.graph.trans hst.graph⟩

/-- Writing the bundle of `now` appends it to what is written, or else fails and writes nothing. -/
theorem writeBundle_meets {now : Compilation} (ho : now.output.Sound)
    (hhost : stage.host = Record.host h refuse) :
    Meets (fun s => s.1 = now ∧ writing s.2 = shown) (c.writeBundle stage.host)
      (fun artifact s => artifact = c.recorded now ∧ s.1 = c.withArtifact now ∧ writing s.2 =
        (shown.1 ++ [now.outputPath], shown.2 ++ [(now.outputPath, c.bundleOf now)]))
      (fun e s => Early e ∧ s.1 = { now with phase := .generate } ∧
        (writing s.2).1.length ≤ shown.1.length + 1 ∧ (writing s.2).2 = shown.2) := by
  let P : Compilation × Record × σ → Prop :=
    fun s => s.1 = { now with phase := .generate } ∧ writing s.2 = shown
  let after := (shown.1 ++ [now.outputPath], shown.2 ++ [(now.outputPath, c.bundleOf now)])
  rw [hhost]
  refine .bind (Q := fun _ => P) (.enter fun s hs => ⟨by rw [hs.1], hs.2⟩) fun _ => ?_
  refine .bind (Q := fun seen s => P s ∧ seen = { now with phase := .generate })
    (.weaken .get (fun _ hs => hs) (fun seen s hs => ⟨hs.1, hs.2.trans hs.1.1⟩) fun _ _ hE => hE)
    fun seen => ?_
  refine .bind (Q := fun r s => seen = { now with phase := .generate } ∧ s.1 = seen ∧
      ((r = .ok now.outputPath ∧ writing s.2 = after) ∨
        ∃ reason, r = .error (.writeFailure reason) ∧
          (writing s.2).1.length ≤ shown.1.length + 1 ∧ (writing s.2).2 = shown.2))
    (.inHost fun s hs => ?_) fun r => ?_
  · obtain ⟨⟨hnow, rfl⟩, rfl⟩ := hs
    obtain ⟨r, t, hrun, hrt⟩ := writeArtifact_run h refuse ho
      (Bundle.render c.settings.output.banner? now.graph now.entry) s.2
    rw [hrun]
    exact ⟨rfl, hnow, hrt⟩
  refine .bind (Q := fun path s => seen = { now with phase := .generate } ∧ s.1 = seen ∧
      path = now.outputPath ∧ writing s.2 = after)
    (.check ?_ ?_) fun path => ?_
  · rintro path s rfl ⟨hseen, hs, ⟨hpath, hw⟩ | ⟨reason, hr, -⟩⟩
    · cases hpath
      exact ⟨hseen, hs, rfl, hw⟩
    · cases hr
  · rintro e s rfl ⟨hseen, hs, ⟨hpath, hw⟩ | ⟨reason, hr, hlen, hnil⟩⟩
    · cases hpath
    · cases hr
      exact ⟨⟨rfl, fun _ => by simp⟩, hs.trans hseen, hlen, hnil⟩
  refine .bind (Q := fun _ s => (s.1 = c.withArtifact now ∧ writing s.2 = after) ∧
      seen = { now with phase := .generate } ∧ path = now.outputPath) (.modifying ?_) fun _ => ?_
  · rintro s ⟨rfl, hs, rfl, hw⟩
    exact ⟨⟨by rw [hs]; rfl, hw⟩, rfl, rfl⟩
  · refine .pure ?_
    rintro s ⟨hs, rfl, rfl⟩
    exact ⟨rfl, hs⟩

theorem written_of_withArtifact {now : Compilation} (hs : s.1 = c.withArtifact now)
    (hw : writing s.2 = written now.outputPath (c.bundleOf now)) : Written c now s :=
  ⟨⟨by rw [hs]; rfl, by rw [hs]; rfl, by rw [hs]; rfl, hw⟩, by rw [hs]; exact .refl _⟩

/-- Listeners that are called for the artifact leave it as it is; their failure says where it is. -/
theorem callAfterWriting_meets (now : Compilation) (hq : stage.Quiet (writing (σ := σ)))
    (hr : c.registry.Quiet) (fuel : Nat) (artifact : Artifact) (phase : Phase) (hook : String) :
    Meets (Written c now) (c.callAfterWriting stage fuel artifact phase hook)
      (fun _ => Written c now)
      (fun e s => (∃ cause, e = .postProcess artifact.path cause) ∧ Written c now s) := by
  refine .bind (Q := fun _ => Written c now)
    (.enter fun s hs => ⟨hs.held.enter _, hs.graph⟩) fun _ => ?_
  refine .bind (Q := fun _ => Written c now)
    (.withHooks (Hook.invoke_framed hq.confined fuel hr.confined hook)
      fun _ s t hs _ hst => hs.grows hst) fun r => ?_
  exact .check (fun _ s _ hs => hs) fun e s _ hs => ⟨⟨e, rfl⟩, hs⟩

theorem conclude_meets {now : Compilation} (hq : stage.Quiet (writing (σ := σ)))
    (hr : c.registry.Quiet) (ho : now.output.Sound) (hhost : stage.host = Record.host h refuse)
    (fuel : Nat) :
    Meets (fun s => s.1 = now ∧ writing s.2 = ([], [])) (c.conclude stage fuel)
      (fun success s => success.artifact = c.recorded now ∧ Written c now s)
      (fun e s => (Early e ∧ (writing s.2).1.length ≤ 1 ∧ (writing s.2).2 = []) ∨
        (∃ cause, e = .postProcess now.outputPath cause) ∧ Written c now s) := by
  refine .bind (Q := fun artifact s => artifact = c.recorded now ∧ Written c now s)
    (.weaken (writeBundle_meets ho hhost) (fun _ hs => hs)
      (fun _ _ hs => ⟨hs.1, written_of_withArtifact hs.2.1 hs.2.2⟩)
      fun _ _ hE => .inl ⟨hE.1, hE.2.2⟩) fun artifact => ?_
  have hafter : ∀ phase hook, Meets (fun s => artifact = c.recorded now ∧ Written c now s)
      (c.callAfterWriting stage fuel artifact phase hook)
      (fun _ s => artifact = c.recorded now ∧ Written c now s)
      (fun e s => (Early e ∧ (writing s.2).1.length ≤ 1 ∧ (writing s.2).2 = []) ∨
        (∃ cause, e = .postProcess now.outputPath cause) ∧ Written c now s) := by
    intro phase hook s hs
    have hcall := callAfterWriting_meets now hq hr fuel artifact phase hook
    refine hcall.weaken (fun _ ht => ht) (fun _ _ ht => ⟨hs.1, ht⟩) (fun e t ht => ?_) s hs.2
    obtain ⟨⟨cause, rfl⟩, ht⟩ := ht
    exact .inr ⟨⟨cause, by rw [hs.1]; rfl⟩, ht⟩
  refine .bind (hafter .emit _) fun _ => .bind (hafter .afterEmit _) fun _ => ?_
  refine .bind (Q := fun _ s => artifact = c.recorded now ∧ Written c now s)
    (.enter fun s hs => ⟨hs.1, hs.2.held.enter _, hs.2.graph⟩) fun _ => ?_
  exact .bind .get fun _ => .pure fun _ hs => hs.1

/-- The stages of a run come to the writing of the artifact with the compilation `now`. -/
structure Assembled (c : Compiler) (stage : Hook.Stage (StateT Record m)) (fuel : Nat)
    (s : Compilation × Record × σ) (now : Compilation) : Prop where
  reached : (World.run ((c.assemble stage fuel).run.run.run s.1) s.2).1 = (some (.ok ()), now)
  valid : now.graph.validate now.entry = .ok ()
  head : now.graph.ids.head? = some now.entry

/-- From the compilation that a run starts with, the stages write the artifact and keep it, or end
without it, or end with an error that tells where it is. -/
theorem stages_meets {say : String → StateT Record m Unit}
    (hq : (Hook.Stage.mk (Record.host h refuse) say c.registry).Quiet (writing (σ := σ)))
    (hr : c.registry.Quiet) (fuel : Nat) {s : Compilation × Record × σ} (ho : s.1.output.Sound)
    (hgraph : s.1.graph = .empty) (hartifact : s.1.artifact? = none)
    (hs : writing s.2 = ([], [])) :
    Meets (fun t => t = s) (c.stages (Record.host h refuse) say fuel)
      (fun success t => ∃ now, c.Assembled ⟨Record.host h refuse, say, c.registry⟩ fuel s now ∧
        success.artifact = c.recorded now ∧ Written c now t)
      (fun e t => (Early e ∧ (writing t.2).1.length ≤ 1 ∧ (writing t.2).2 = []) ∨
        ∃ now cause, c.Assembled ⟨Record.host h refuse, say, c.registry⟩ fuel s now ∧
          e = .postProcess now.outputPath cause ∧ Written c now t) := by
  have hheld : Opening s.1.entry s.1.output ([], []) s :=
    ⟨⟨rfl, rfl, hartifact, hs⟩, hgraph⟩
  have hassemble := (assemble_meets (h := h) hq hr rfl fuel).exact hheld
  refine .bind (hassemble.weaken (fun _ ht => ht) (fun _ _ ht => ht) fun e t hE => .inl ?_)
    fun _ => ?_
  · rw [hE.1]
    exact ⟨hE.2, by simp, rfl⟩
  · intro t ⟨⟨ht, hvalid⟩, hrun⟩
    have hentry := ht.held.entry
    have hnow : c.Assembled ⟨Record.host h refuse, say, c.registry⟩ fuel s t.1 := by
      refine ⟨?_, hentry ▸ hvalid, hentry ▸ ht.head⟩
      rw [World.run_stateT] at hrun
      obtain ⟨hvalue, hstate⟩ := Prod.mk.inj hrun
      exact Prod.ext hvalue (congrArg Prod.fst hstate)
    have hsound : t.1.output.Sound := by
      rw [ht.held.output]
      exact ho
    refine (conclude_meets hq hr hsound rfl fuel).weaken (fun _ hs => hs)
      (fun success u hu => ⟨t.1, hnow, hu⟩) (fun e u hu => ?_) t ⟨rfl, ht.held.shown⟩
    obtain hearly | ⟨⟨cause, he⟩, hu⟩ := hu
    · exact .inl hearly
    · exact .inr ⟨t.1, cause, hnow, he, hu⟩

end Stages

section Run

variable {m : Type → Type} [Monad m] {σ : Type} [World m σ]

/-- A run that starts in the state `s` comes to write its artifact, with the compilation `now`. -/
def ReachesWriting (c : Compiler) (h : Host m) (say : String → m Unit) (fuel : Nat) (s : σ)
    (now : Compilation) : Prop :=
  ∃ directory start t, World.run (c.workingDirectory h) s = (.ok directory, t) ∧
    c.compilationIn directory = .ok start ∧
    (World.run ((c.assemble ⟨h, say, c.registry⟩ fuel).run.run.run start) t).1 =
      (some (.ok ()), now)

/-- Whether the result of a run tells that the artifact was written. -/
def Ending.isWritten (e : Ending) : Bool :=
  match e.result with
  | .ok _ => true
  | .error error => error.isArtifactWritten

section WorkingDirectory

variable {c : Compiler} {h : Host m} {s : σ} {directory : String}

/-- When the host works in a rooted directory, so does a run. -/
theorem workingDirectory_rooted
    (hcwd : ∀ d, (World.run h.workingDirectory s).1 = .ok d → Path.isRooted d = true)
    (hd : (World.run (c.workingDirectory h) s).1 = .ok directory) :
    Path.isRooted directory = true := by
  unfold workingDirectory at hd
  cases hset : c.settings.workingDirectory? with
  | none =>
    rw [hset, World.run_bind] at hd
    cases hw : (World.run h.workingDirectory s).1 with
    | error e =>
      rw [hw, World.run_pure] at hd
      cases hd
    | ok d =>
      have hrooted := hcwd d hw
      rw [hw] at hd
      simp only [hrooted, if_true] at hd
      rw [World.run_pure] at hd
      cases hd
      exact hrooted
  | some d =>
    rw [hset] at hd
    by_cases hrooted : Path.isRooted d = true
    · simp only [hrooted, if_true] at hd
      rw [World.run_pure] at hd
      cases hd
      exact hrooted
    · simp only [hrooted, Bool.false_eq_true, if_false] at hd
      rw [World.run_bind, World.run_pure] at hd
      cases hw : (World.run h.workingDirectory s).1 with
      | error e =>
        rw [hw] at hd
        cases hd
      | ok base =>
        rw [hw] at hd
        cases hd
        exact Path.isRooted_join (hcwd base hw)

end WorkingDirectory

section Outcome

variable {c : Compiler} {h : Host m} {refuse : FileSystem.Request → Option String}
variable {say : String → m Unit} {fuel : Nat} {s : σ} {ending : Ending} {r : Record} {t : σ}

/-- A run ends without an artifact, and says so. -/
structure EndsWithout (ending : Ending) (r : Record) : Prop where
  targets : r.targets.length ≤ 1
  writes : r.writes = []
  early : ∃ e, ending.result = .error e ∧ Early e

theorem endsWithout {e : Bundle.Error} (he : Early e) (hresult : ending.result = .error e)
    (hlength : (writing (r, t)).1.length ≤ 1) (hnil : (writing (r, t)).2 = []) :
    EndsWithout ending r :=
  ⟨hlength, hnil, e, hresult, he⟩

/-- Nothing was written before the run failed. -/
theorem endsWithout_idle {e : Bundle.Error} (he : Early e) (hresult : ending.result = .error e)
    (hshown : writing (r, t) = ([], [])) : EndsWithout ending r := by
  apply endsWithout he hresult
  · rw [hshown]
    exact Nat.zero_le 1
  · rw [hshown]

/-- A run ends with the artifact of `now`, and says so. -/
structure EndsWith (c : Compiler) (now : Compilation) (ending : Ending) (r : Record) (t : σ) :
    Prop where
  valid : now.graph.validate now.entry = .ok ()
  head : now.graph.ids.head? = some now.entry
  result : (∃ success, ending.result = .ok success ∧ success.artifact = c.recorded now) ∨
    ∃ cause, ending.result = .error (.postProcess now.outputPath cause)
  final : ∃ final, ending.compilation? = some final ∧ Written c now (final, r, t)

/-- A run gets as far as its stages, which it begins with `start` in the state `u`. -/
structure Begins (c : Compiler) (h : Host (StateT Record m)) (s : Record × σ)
    (start : Compilation) (u : Record × σ) : Prop where
  directory : ∃ directory, World.run (c.workingDirectory h) s = (.ok directory, u) ∧
    c.compilationIn directory = .ok start
  output : start.output.Sound
  graph : start.graph = .empty
  artifact : start.artifact? = none
  idle : writing u = ([], [])

/-- A run fails before its stages, with nothing written, or ends as its stages do. -/
theorem run_begins (hname : Path.IsName c.settings.output.filename)
    (hcwd : ∀ d, (World.run h.workingDirectory s).1 = .ok d → Path.isRooted d = true)
    {note : String → StateT Record m Unit}
    (hrun : World.run (c.run (Record.host h refuse) note fuel) (({} : Record), s) =
      (some ending, r, t)) :
    (∃ e, ending = ⟨.error e, none⟩ ∧ Early e ∧ writing (r, t) = ([], [])) ∨
      ∃ start u final, c.Begins (Record.host h refuse) (({} : Record), s) start u ∧
        ending.compilation? = some final ∧
        World.run (c.stages (Record.host h refuse) note fuel).run.run (start, u) =
          (some ending.result, final, r, t) := by
  have hstay := workingDirectory_preserves (c := c)
    (Record.workingDirectory_preserves h refuse) (({} : Record), s)
  change World.run (c.runIn (c.workingDirectory (Record.host h refuse))
    (c.stages (Record.host h refuse) note fuel)) _ = _ at hrun
  rw [run_runIn] at hrun
  rcases hwd : World.run (c.workingDirectory (Record.host h refuse)) (({} : Record), s)
    with ⟨e | directory, u⟩
  · rw [hwd] at hrun hstay
    cases hrun
    exact .inl ⟨_, rfl, ⟨rfl, fun _ => by simp⟩, hstay⟩
  rw [hwd] at hrun hstay
  cases hstart : c.compilationIn directory with
  | error e =>
    simp only [hstart] at hrun
    cases hrun
    exact .inl ⟨_, rfl, ⟨rfl, fun _ => by simp⟩, hstay⟩
  | ok start =>
    have hrooted : Path.isRooted directory = true :=
      workingDirectory_rooted (fun d hd => hcwd d (Record.workingDirectory_ok hd))
        (congrArg Prod.fst hwd)
    obtain ⟨ho, hgraph, hartifact⟩ := compilationIn_ok hname hrooted hstart
    simp only [hstart] at hrun
    rcases hstages : World.run (c.stages (Record.host h refuse) note fuel).run.run (start, u)
      with ⟨_ | result, final, v⟩
    · rw [hstages] at hrun
      cases hrun
    · rw [hstages] at hrun
      cases hrun
      exact .inr ⟨start, u, final, ⟨⟨directory, hwd, hstart⟩, ho, hgraph, hartifact, hstay⟩, rfl,
        hstages⟩

/-- A run ends in one of these two ways. -/
theorem run_outcome (hname : Path.IsName c.settings.output.filename) (hr : c.registry.Quiet)
    (hcwd : ∀ d, (World.run h.workingDirectory s).1 = .ok d → Path.isRooted d = true)
    (hrun : World.run (c.run (Record.host h refuse) (fun note => liftM (say note)) fuel)
      (({} : Record), s) = (some ending, r, t)) :
    EndsWithout ending r ∨ ∃ now, c.ReachesWriting (Record.host h refuse)
      (fun note => liftM (say note)) fuel (({} : Record), s) now ∧
      EndsWith c now ending r t := by
  have hq : (Hook.Stage.mk (Record.host h refuse) (fun note => liftM (say note))
      c.registry).Quiet (writing (σ := σ)) :=
    ⟨hr, fun note => Record.lift_preserves (say note), fun path => Record.host_leaves.read path⟩
  obtain ⟨e, rfl, he, hshown⟩ | ⟨start, u, final, hbegins, hfinal, hstages⟩ :=
    run_begins hname hcwd hrun
  · exact .inl (endsWithout_idle he rfl hshown)
  obtain ⟨directory, hwd, hstart⟩ := hbegins.directory
  have hmeets := stages_meets hq hr fuel (s := (start, u)) hbegins.output hbegins.graph
    hbegins.artifact hbegins.idle (start, u) rfl
  rw [hstages] at hmeets
  cases hresult : ending.result with
  | error e =>
    rw [hresult] at hmeets
    obtain ⟨he, hlength, hnil⟩ | ⟨now, cause, hnow, he, hwritten⟩ := hmeets
    · exact .inl (endsWithout he hresult hlength hnil)
    · exact .inr ⟨now, ⟨directory, start, u, hwd, hstart, hnow.reached⟩, hnow.valid, hnow.head,
        .inr ⟨cause, hresult.trans (congrArg Except.error he)⟩, final, hfinal, hwritten⟩
  | ok success =>
    rw [hresult] at hmeets
    obtain ⟨now, hnow, hartifact, hwritten⟩ := hmeets
    exact .inr ⟨now, ⟨directory, start, u, hwd, hstart, hnow.reached⟩, hnow.valid, hnow.head,
      .inl ⟨success, hresult, hartifact⟩, final, hfinal, hwritten⟩

end Outcome

/-- A run asks at most once for a file to be written. The request succeeds exactly when the result
tells so; what is written then is the bundle of the graph as it was at that time, which is valid and
starts with the entry, and the artifact that is recorded describes it. -/
theorem run_artifact {config : Config} {c : Compiler} {notes : List String}
    (hc : ofConfig config = (notes, .ok c)) (hr : c.registry.Quiet) {h : Host m} {s : σ}
    (hcwd : ∀ d, (World.run h.workingDirectory s).1 = .ok d → Path.isRooted d = true)
    (refuse : FileSystem.Request → Option String) (say : String → m Unit) (fuel : Nat)
    {ending : Ending} {r : Record} {t : σ}
    (hrun : World.run (c.run (Record.host h refuse) (fun note => liftM (say note)) fuel)
      (({} : Record), s) = (some ending, r, t)) :
    r.targets.length ≤ 1 ∧ (r.writes ≠ [] ↔ ending.isWritten = true) ∧
    (∀ reason, ending.result ≠ .error (.invalidOutputPath reason)) ∧
    (r.writes ≠ [] → ∃ now final,
      c.ReachesWriting (Record.host h refuse) (fun note => liftM (say note)) fuel
        (({} : Record), s) now ∧
      ending.compilation? = some final ∧
      now.graph.validate now.entry = .ok () ∧ now.graph.ids.head? = some now.entry ∧
      r.writes = [(final.outputPath,
        Text.encode (Bundle.render config.output.banner? now.graph now.entry))] ∧
      final.artifact? = some ⟨final.outputPath,
        (Text.encode (Bundle.render config.output.banner? now.graph now.entry)).length,
        now.graph.size⟩ ∧
      final.entry = now.entry ∧ Extends now.graph final.graph) := by
  obtain ⟨hsettings, hname⟩ := ofConfig_ok hc
  obtain hwithout | ⟨now, hreaches, hwith⟩ := run_outcome hname hr hcwd hrun
  · obtain ⟨e, hresult, hwritten, hpath⟩ := hwithout.early
    have hnil := hwithout.writes
    refine ⟨hwithout.targets, ?_, ?_, fun h => absurd hnil h⟩
    · simp [hnil, Ending.isWritten, hresult, hwritten]
    · intro reason h
      rw [hresult] at h
      exact hpath reason (Except.error.inj h)
  · obtain ⟨final, hfinal, hheld, hgraph⟩ := hwith.final
    have htargets : r.targets = [now.outputPath] := congrArg Prod.fst hheld.shown
    have hwrites : r.writes = [(now.outputPath, c.bundleOf now)] := congrArg Prod.snd hheld.shown
    have hout : final.outputPath = now.outputPath := by
      rw [Compilation.outputPath, hheld.output]
      rfl
    have hsome : r.writes ≠ [] := by simp [hwrites]
    have hwritten : ending.isWritten = true := by
      obtain ⟨success, hresult, -⟩ | ⟨cause, hresult⟩ := hwith.result
      · simp [Ending.isWritten, hresult]
      · simp [Ending.isWritten, hresult, Bundle.Error.isArtifactWritten]
    refine ⟨by simp [htargets], ⟨fun _ => hwritten, fun _ => hsome⟩, ?_, fun _ => ?_⟩
    · intro reason h
      obtain ⟨success, hresult, -⟩ | ⟨cause, hresult⟩ := hwith.result
      · rw [hresult] at h
        cases h
      · rw [hresult] at h
        cases h
    · have hbanner : config.output.banner? = c.settings.output.banner? := by rw [hsettings]
      refine ⟨now, final, hreaches, hfinal, hwith.valid, hwith.head, ?_, ?_, hheld.entry, hgraph⟩
      · rw [hwrites, hout, hbanner]
        rfl
      · rw [hheld.artifact, hout, hbanner, length_encode]
        rfl

/-- A plugin whose only listener fails once the artifact is written. -/
def spoiler : Plugin where
  name := "spoiler"
  apply _ r :=
    match r.register Hook.emit "late" (.async (.fail "too late")) with
    | .ok registry => { registry }
    | .error e => { registry := r, outcome := .error e.toCause }

/-- One file, taken as it is. -/
def spoiled : Config where
  entry := "/a"
  transformer := ⟨fun text _ => .ok ⟨.empty, text⟩⟩
  plugins := [spoiler]

/-- The compiler of that configuration. -/
def spoiledCompiler : Compiler :=
  ⟨spoiled.toSettings, (spoiler.apply spoiled.toSettings .builtin).registry, ["spoiler"]⟩

def oneFile : Memory := .ofFiles "/" [("/a", Text.encode "1")]

/-- How that compiler runs on one file in memory. -/
def spoiledRun : Option Ending × Record × Memory :=
  World.run (spoiledCompiler.run (Record.host Memory.host fun _ => none)
    (fun _ => liftM (pure () : StateM Memory Unit)) 20) (({} : Record), oneFile)

/-- The artifact is written although the run fails, and the error tells so. -/
theorem run_artifact_spoiled : ∃ ending r t, spoiledRun = (some ending, r, t) ∧
    r.targets.length ≤ 1 ∧ r.writes ≠ [] ∧ ending.isWritten = true := by
  have hc : ofConfig spoiled = ([], .ok spoiledCompiler) := rfl
  have hr : spoiledCompiler.registry.Quiet := by
    apply Hook.Registry.quiet_of_entries
    intro e he tap htap
    have hentries : spoiledCompiler.registry.hooks.entries =
        [(Hook.compilation, ⟨.sync, []⟩), (Hook.make, ⟨.asyncParallel, []⟩),
          (Hook.emit, ⟨.asyncSeries, [⟨"late", .async (.fail "too late")⟩]⟩),
          (Hook.afterEmit, ⟨.asyncSeries, []⟩)] := rfl
    simp only [hentries, List.mem_cons, List.not_mem_nil, or_false] at he
    obtain rfl | rfl | rfl | rfl := he
    · cases htap
    · cases htap
    · obtain rfl := List.mem_singleton.1 htap
      exact trivial
    · cases htap
  have hcwd : ∀ d, (World.run Memory.host.workingDirectory oneFile).1 = .ok d →
      Path.isRooted d = true := by
    rintro _ h
    cases h
    decide
  have hsome : spoiledRun.1.isSome = true := by decide +kernel
  have hwrites : spoiledRun.2.1.writes ≠ [] := by decide +kernel
  rcases hrun : spoiledRun with ⟨_ | ending, r, t⟩
  · rw [hrun] at hsome
    cases hsome
  · rw [hrun] at hwrites
    obtain ⟨hlength, hiff, -⟩ :=
      run_artifact hc hr hcwd (fun _ => none) (fun _ => pure ()) 20 hrun
    exact ⟨ending, r, t, rfl, hlength, hwrites, hiff.1 hwrites⟩

end Run

end Compiler

end ModuleBundler
