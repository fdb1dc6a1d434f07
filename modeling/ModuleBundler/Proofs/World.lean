import ModuleBundler.FileSystem.Memory
import ModuleBundler.Proofs.Coupling

/-!
# Worlds

A world is a monad whose actions run from a state to an answer and a state. Whatever a host keeps
behind its answers is such a state. While the answers about files stay the same, building a module
is a function of its identity.
-/

namespace ModuleBundler

open FileSystem (Host Memory)

/-- A monad that runs on states of type `σ`. -/
class World (m : Type → Type) [Monad m] (σ : outParam Type) where
  run {α : Type} : m α → σ → α × σ
  run_pure {α : Type} (a : α) (s : σ) : run (pure a) s = (a, s)
  run_bind {α β : Type} (x : m α) (f : α → m β) (s : σ) :
    run (x >>= f) s = run (f (run x s).1) (run x s).2

namespace World

attribute [simp] run_pure run_bind

instance {σ : Type} : World (StateM σ) σ where
  run x s := x s
  run_pure _ _ := rfl
  run_bind _ _ _ := rfl

private def regroup {α ρ σ : Type} (r : (α × ρ) × σ) : α × ρ × σ := (r.1.1, r.1.2, r.2)

/-- A world with one more piece of state. -/
instance {ρ σ : Type} {m : Type → Type} [Monad m] [World m σ] : World (StateT ρ m) (ρ × σ) where
  run x s := regroup (run (x s.1) s.2)
  run_pure a s := by
    change regroup (run (pure (a, s.1) : m _) s.2) = _
    rw [run_pure]
    rfl
  run_bind x f s := by
    change regroup (run (x s.1 >>= fun p => f p.1 p.2) s.2) = _
    rw [run_bind]
    rfl

section StateT

variable {ρ σ : Type} {m : Type → Type} [Monad m] [World m σ] {α : Type}

theorem run_stateT (x : StateT ρ m α) (s : ρ × σ) :
    run x s = ((run (x s.1) s.2).1.1, (run (x s.1) s.2).1.2, (run (x s.1) s.2).2) :=
  rfl

theorem run_run (x : StateT ρ m α) (r : ρ) (s : σ) :
    run (x.run r) s = (((run x (r, s)).1, (run x (r, s)).2.1), (run x (r, s)).2.2) :=
  rfl

@[simp] theorem run_get (s : ρ × σ) : run (get : StateT ρ m ρ) s = (s.1, s) := by
  change regroup (run (pure (s.1, s.1) : m _) s.2) = _
  rw [run_pure]
  rfl

@[simp] theorem run_set (r : ρ) (s : ρ × σ) :
    run (set r : StateT ρ m PUnit) s = (⟨⟩, r, s.2) := by
  change regroup (run (pure (PUnit.unit, r) : m _) s.2) = _
  rw [run_pure]
  rfl

@[simp] theorem run_modify (f : ρ → ρ) (s : ρ × σ) :
    run (modify f : StateT ρ m PUnit) s = (⟨⟩, f s.1, s.2) := by
  change regroup (run (pure (PUnit.unit, f s.1) : m _) s.2) = _
  rw [run_pure]
  rfl

@[simp] theorem run_lift (x : m α) (s : ρ × σ) :
    run (StateT.lift x : StateT ρ m α) s = ((run x s.2).1, s.1, (run x s.2).2) := by
  change regroup (run (x >>= fun a => pure (a, s.1)) s.2) = _
  rw [run_bind, run_pure]
  rfl

end StateT

end World

variable {m : Type → Type} [Monad m] {σ : Type} [World m σ]

/-- While `I` holds, the action gives the answer `a` and keeps `I`. -/
def Gives (I : σ → Prop) {α : Type} (x : m α) (a : α) : Prop :=
  ∀ s, I s → (World.run x s).1 = a ∧ I (World.run x s).2

namespace Gives

variable {I : σ → Prop} {α β : Type}

theorem pure (a : α) : Gives I (Pure.pure a : m α) a := by
  intro s hs
  simp [hs]

theorem bind {x : m α} {f : α → m β} {a : α} {b : β} (hx : Gives I x a) (hf : Gives I (f a) b) :
    Gives I (x >>= f) b := by
  intro s hs
  obtain ⟨ha, hs'⟩ := hx s hs
  rw [World.run_bind, ha]
  exact hf _ hs'

end Gives

/-- The action does not change what `view` shows of a state. -/
def Preserves {β : Type} (view : σ → β) {α : Type} (x : m α) : Prop :=
  ∀ s, view (World.run x s).2 = view s

namespace Preserves

variable {β : Type} {view : σ → β} {α γ : Type}

theorem pure (a : α) : Preserves view (Pure.pure a : m α) := by
  intro s
  rw [World.run_pure]

theorem bind {x : m α} {f : α → m γ} (hx : Preserves view x) (hf : ∀ a, Preserves view (f a)) :
    Preserves view (x >>= f) := by
  intro s
  rw [World.run_bind, hf _ _, hx]

end Preserves

/-- What the host says about files does not change while `I` holds. -/
structure FileSystem.Host.Steady (h : Host m) (I : σ → Prop) : Prop where
  read (path : String) : ∃ answer, Gives I (h.read path) answer
  isFile (path : String) : ∃ answer, Gives I (h.isFile path) answer

/-- Asking the host does not change what `view` shows. -/
structure FileSystem.Host.Leaves (h : Host m) {β : Type} (view : σ → β) : Prop where
  read (path : String) : Preserves view (h.read path)
  isFile (path : String) : Preserves view (h.isFile path)

/-- Leaving what a view shows goes along with sequencing. The second of two actions does not matter
here. -/
def Preserves.coupling {β : Type} (view : σ → β) : Coupling m m where
  Rel x _ := Preserves view x
  pure := .pure
  bind := .bind

theorem FileSystem.Host.Leaves.reads {β : Type} {view : σ → β} (hh : h.Leaves view) :
    (Preserves.coupling view : Coupling m m).Reads h h :=
  ⟨hh.read, hh.isFile⟩

/-- Asking the store in memory does not change it. -/
theorem FileSystem.Memory.host_steady (s : Memory) : Memory.host.Steady fun t => t = s where
  read path := ⟨s.read path, by rintro _ rfl; exact ⟨rfl, rfl⟩⟩
  isFile path := ⟨s.isFile path, by rintro _ rfl; exact ⟨rfl, rfl⟩⟩

namespace Builder

variable {I : σ → Prop} {b : Builder m}

theorem firstFile_steady (hb : b.host.Steady I) (otherwise : String) (paths : List String) :
    ∃ path, Gives I (firstFile b.host otherwise paths) path := by
  induction paths with
  | nil => exact ⟨_, .pure _⟩
  | cons path paths ih =>
    obtain ⟨found, hfound⟩ := hb.isFile path
    cases found with
    | true => exact ⟨path, hfound.bind (.pure _)⟩
    | false =>
      obtain ⟨p, hp⟩ := ih
      exact ⟨p, hfound.bind hp⟩

theorem resolve_steady (hb : b.host.Steady I) (importer : ModuleId) (path : String) :
    ∃ target, Gives I (b.resolve importer path) target := by
  unfold resolve
  split
  · exact ⟨_, .pure _⟩
  · split
    · exact ⟨_, .pure _⟩
    · obtain ⟨p, hp⟩ := firstFile_steady hb _ _
      exact ⟨_, hp.bind (.pure _)⟩

theorem resolveAll_steady (hb : b.host.Steady I) (importer : ModuleId) (found : Dependencies)
    (paths : List (String × String)) :
    ∃ targets, Gives I (b.resolveAll importer found paths) targets := by
  induction paths generalizing found with
  | nil => exact ⟨_, .pure _⟩
  | cons p paths ih =>
    obtain ⟨target, htarget⟩ := resolve_steady hb importer p.2
    cases target with
    | error e => exact ⟨_, htarget.bind (.pure _)⟩
    | ok id =>
      obtain ⟨targets, h⟩ := ih (found.insert p.1 id)
      exact ⟨targets, htarget.bind h⟩

theorem build_steady (hb : b.host.Steady I) (id : ModuleId) :
    ∃ r, Gives I (b.build id) r := by
  obtain ⟨bytes, hbytes⟩ := hb.read id.path
  cases bytes with
  | error e => exact ⟨_, hbytes.bind (.pure _)⟩
  | ok bytes =>
    cases h : b.compile id.path bytes with
    | error e =>
      refine ⟨.error e, hbytes.bind ?_⟩
      simp only [h]
      exact .pure _
    | ok output =>
      obtain ⟨targets, ht⟩ := resolveAll_steady hb id .empty output.dependencies.entries
      cases targets with
      | error e =>
        refine ⟨.error (.invalidId e), hbytes.bind ?_⟩
        simp only [h]
        exact ht.bind (.pure _)
      | ok d =>
        refine ⟨.ok ⟨id, d, output.code⟩, hbytes.bind ?_⟩
        simp only [h]
        exact ht.bind (.pure _)

section Preserves

variable {β : Type} {view : σ → β}

theorem resolveAll_preserves (hprobe : ∀ path, Preserves view (b.host.isFile path))
    (importer : ModuleId) (found : Dependencies) (paths : List (String × String)) :
    Preserves view (b.resolveAll importer found paths) := by
  have hcoupled : ∀ path, (Preserves.coupling view : Coupling m m).Rel (b.host.isFile path)
      (b.host.isFile path) := hprobe
  exact resolveAll_coupled hcoupled importer found paths

theorem build_preserves (hb : b.host.Leaves view) (id : ModuleId) : Preserves view (b.build id) :=
  build_coupled hb.reads id

end Preserves

/-- What building gives when it starts in state `s`. -/
def built (b : Builder m) (s : σ) (id : ModuleId) : Except BuildError Module :=
  (World.run (b.build id) s).1

/-- While the host's answers stay, building is a function of the identity. -/
theorem gives_built (hb : b.host.Steady I) {s : σ} (hs : I s) (id : ModuleId) :
    Gives I (b.build id) (b.built s id) := by
  obtain ⟨r, hr⟩ := build_steady hb id
  rw [built, (hr s hs).1]
  exact hr

/-- A module is built under the identity that was asked for. -/
theorem id_of_built {s : σ} {id : ModuleId} {built : Module} (h : b.built s id = .ok built) :
    built.id = id := by
  unfold Builder.built build at h
  rw [World.run_bind] at h
  split at h
  · simp at h
  · split at h
    · simp at h
    · rw [World.run_bind] at h
      split at h
      · simp at h
      · simp only [World.run_pure, Except.ok.injEq] at h
        rw [← h]

/-- Why what a file holds makes no module. -/
theorem compile_error {m : Type → Type} {b : Builder m} {path : String} {bytes : Text.Bytes}
    {e : BuildError} (h : b.compile path bytes = .error e) :
    e = .notText path ∨ (∃ f, e = .loaderFailed path f) ∨ ∃ r, e = .rejected path r := by
  unfold compile at h
  cases htext : Text.decode? bytes with
  | none =>
    rw [htext] at h
    cases h
    exact .inl rfl
  | some text =>
    rw [htext] at h
    cases hload : b.loaders.apply path text with
    | error failure =>
      simp only [hload] at h
      cases h
      exact .inr (.inl ⟨failure, rfl⟩)
    | ok loaded =>
      simp only [hload] at h
      change (b.transformer.transform loaded path).mapError _ = _ at h
      cases htransform : b.transformer.transform loaded path with
      | error r =>
        rw [htransform] at h
        cases h
        exact .inr (.inr ⟨r, rfl⟩)
      | ok output =>
        rw [htransform] at h
        cases h

/-- Why a module is not built. -/
theorem built_error {s : σ} {id : ModuleId} {e : BuildError} (h : b.built s id = .error e) :
    (∃ cause, (World.run (b.host.read id.path) s).1 = .error cause ∧ e = readError id.path cause) ∨
      e = .notText id.path ∨ (∃ f, e = .loaderFailed id.path f) ∨ (∃ r, e = .rejected id.path r) ∨
      ∃ cause, e = .invalidId cause := by
  unfold built build at h
  rw [World.run_bind] at h
  split at h
  · rename_i cause hread
    rw [World.run_pure] at h
    cases h
    exact .inl ⟨cause, hread, rfl⟩
  · split at h
    · rename_i hcompile
      rw [World.run_pure] at h
      cases h
      obtain hcause | hcause | hcause := compile_error hcompile
      · exact .inr (.inl hcause)
      · exact .inr (.inr (.inl hcause))
      · exact .inr (.inr (.inr (.inl hcause)))
    · rw [World.run_bind] at h
      split at h
      · rename_i cause _
        rw [World.run_pure] at h
        cases h
        exact .inr (.inr (.inr (.inr ⟨cause, rfl⟩)))
      · rw [World.run_pure] at h
        cases h

end Builder

end ModuleBundler
