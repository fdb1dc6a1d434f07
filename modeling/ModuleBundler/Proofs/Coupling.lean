import ModuleBundler.Compiler.Run

/-!
# Actions in two worlds

Two hosts may answer in different monads. A relation between actions of the one and of the other that
goes along with sequencing relates what building, walking and writing do with the two hosts, as soon
as it relates the requests that these make.
-/

namespace ModuleBundler

open FileSystem (Host)

/-- A relation between the actions of two monads that goes along with sequencing. -/
structure Coupling (m n : Type → Type) [Monad m] [Monad n] where
  Rel {α : Type} : m α → n α → Prop
  pure {α : Type} (a : α) : Rel (Pure.pure a) (Pure.pure a)
  bind {α β : Type} {x : m α} {y : n α} {f : α → m β} {g : α → n β} :
    Rel x y → (∀ a, Rel (f a) (g a)) → Rel (x >>= f) (y >>= g)

variable {m n : Type → Type} [Monad m] [Monad n] {K : Coupling m n} {h : Host m} {h' : Host n}

/-- Requests for what files hold, and whether they are there, are related. -/
structure Coupling.Reads (K : Coupling m n) (h : Host m) (h' : Host n) : Prop where
  read (path : String) : K.Rel (h.read path) (h'.read path)
  isFile (path : String) : K.Rel (h.isFile path) (h'.isFile path)

/-- Requests to change something are related. -/
structure Coupling.Writes (K : Coupling m n) (h : Host m) (h' : Host n) : Prop where
  write (path : String) (bytes : Text.Bytes) : K.Rel (h.write path bytes) (h'.write path bytes)
  createDirectory (path : String) (all : Bool) :
    K.Rel (h.createDirectory path all) (h'.createDirectory path all)

namespace Builder

/-- The builder with another host. -/
def withHost (b : Builder m) (h' : Host n) : Builder n where
  host := h'
  loaders := b.loaders
  transformer := b.transformer
  extensions := b.extensions

variable {b : Builder m}

theorem firstFile_coupled (hprobe : ∀ path, K.Rel (h.isFile path) (h'.isFile path)) (otherwise : String) (paths : List String) :
    K.Rel (firstFile h otherwise paths) (firstFile h' otherwise paths) := by
  induction paths with
  | nil => exact K.pure _
  | cons path paths ih =>
    apply K.bind (hprobe path)
    intro found
    cases found with
    | true => exact K.pure _
    | false => exact ih

theorem resolve_coupled (hprobe : ∀ path, K.Rel (b.host.isFile path) (h'.isFile path))
    (importer : ModuleId) (path : String) :
    K.Rel (b.resolve importer path) ((b.withHost h').resolve importer path) := by
  unfold resolve
  cases importer.joinSpecifier path with
  | error e => exact K.pure _
  | ok exact =>
    change K.Rel (if b.extensions.isEmpty then _ else _) (if b.extensions.isEmpty then _ else _)
    split
    · exact K.pure _
    · exact K.bind (firstFile_coupled hprobe _ _) fun _ => K.pure _

theorem resolveAll_coupled (hprobe : ∀ path, K.Rel (b.host.isFile path) (h'.isFile path))
    (importer : ModuleId) (found : Dependencies) (paths : List (String × String)) :
    K.Rel (b.resolveAll importer found paths)
      ((b.withHost h').resolveAll importer found paths) := by
  induction paths generalizing found with
  | nil => exact K.pure _
  | cons p paths ih =>
    apply K.bind (resolve_coupled hprobe importer p.2)
    intro target
    cases target with
    | error e => exact K.pure _
    | ok id => exact ih _

theorem build_coupled (hb : K.Reads b.host h') (id : ModuleId) :
    K.Rel (b.build id) ((b.withHost h').build id) := by
  apply K.bind (hb.read id.path)
  intro bytes
  cases bytes with
  | error e => exact K.pure _
  | ok bytes =>
    have hcompile : (b.withHost h').compile id.path bytes = b.compile id.path bytes := rfl
    simp only [hcompile]
    cases b.compile id.path bytes with
    | error e => exact K.pure _
    | ok output =>
      apply K.bind (resolveAll_coupled hb.isFile id .empty output.dependencies.entries)
      intro targets
      cases targets with
      | error e => exact K.pure _
      | ok d => exact K.pure _

end Builder

namespace Graph

namespace Walk

variable {build : ModuleId → m (Except BuildError Module)}
variable {build' : ModuleId → n (Except BuildError Module)} {limit : Option Nat}

theorem step_coupled (hbuild : ∀ id, K.Rel (build id) (build' id)) (w : Walk) (id : ModuleId) :
    K.Rel (step build limit w id) (step build' limit w id) := by
  unfold step
  cases checkLimit limit w.graph with
  | error e => exact K.pure _
  | ok _ =>
    apply K.bind (hbuild id)
    intro built
    cases built with
    | error e => exact K.pure _
    | ok built => exact K.pure _

theorem run_coupled (hbuild : ∀ id, K.Rel (build id) (build' id)) (fuel : Nat) (w : Walk) :
    K.Rel (run build limit fuel w) (run build' limit fuel w) := by
  induction fuel generalizing w with
  | zero =>
    unfold run
    cases w.next? with
    | none => exact K.pure _
    | some p => exact K.pure _
  | succ fuel ih =>
    unfold run
    cases w.next? with
    | none => exact K.pure _
    | some p =>
      apply K.bind (step_coupled hbuild p.2 p.1)
      intro r
      cases r with
      | error e => exact K.pure _
      | ok w' => exact ih w'

end Walk

theorem expandInto_coupled {b : Builder m} (hb : K.Reads b.host h') (limit : Option Nat)
    (fuel : Nat) (entry : Module) (g : Graph) :
    K.Rel (expandInto b limit fuel entry g) (expandInto (b.withHost h') limit fuel entry g) := by
  unfold expandInto
  cases Walk.start limit g entry with
  | error e => exact K.pure _
  | ok w => exact Walk.run_coupled (Builder.build_coupled hb) fuel w

end Graph

theorem Bundle.writeArtifact_coupled (hh : K.Writes h h') (directory filename code : String) :
    K.Rel (writeArtifact h directory filename code)
      (writeArtifact h' directory filename code) := by
  unfold writeArtifact
  simp only
  cases outputPath (Path.clean directory) filename with
  | error e => exact K.pure _
  | ok target =>
    apply K.bind (hh.createDirectory _ true)
    intro created
    cases created with
    | error e => exact K.pure _
    | ok _ =>
      apply K.bind (hh.write target _)
      intro written
      cases written with
      | error e => exact K.pure _
      | ok _ => exact K.pure _

theorem Compiler.workingDirectory_coupled {c : Compiler}
    (hcwd : K.Rel h.workingDirectory h'.workingDirectory) :
    K.Rel (c.workingDirectory h) (c.workingDirectory h') := by
  unfold workingDirectory
  cases c.settings.workingDirectory? with
  | none =>
    apply K.bind hcwd
    intro answer
    cases answer with
    | error e => exact K.pure _
    | ok directory =>
      simp only
      split
      · exact K.pure _
      · exact K.bind hcwd fun _ => K.pure _
  | some directory =>
    simp only
    split
    · exact K.pure _
    · exact K.bind hcwd fun _ => K.pure _

end ModuleBundler
