import ModuleBundler.Proofs.Coupling
import ModuleBundler.Proofs.World

/-!
# Worlds that keep more

An action can also be taken in a world that keeps something besides, such as a log. What building,
walking and writing do does not depend on it.
-/

namespace ModuleBundler

open FileSystem (Host)

variable {m n : Type → Type} [Monad m] [Monad n] {σ τ : Type} [World m σ] [World n τ]

/-- The action `y` does what `x` does, and besides changes only what `forget` drops. -/
def Mirrors (forget : τ → σ) {α : Type} (x : m α) (y : n α) : Prop :=
  ∀ t, World.run x (forget t) = Prod.map id forget (World.run y t)

namespace Mirrors

variable {forget : τ → σ} {α γ : Type}

theorem pure (a : α) : Mirrors forget (Pure.pure a : m α) (Pure.pure a : n α) := by
  intro t
  rw [World.run_pure, World.run_pure]
  rfl

theorem bind {x : m α} {y : n α} {f : α → m γ} {g : α → n γ} (hx : Mirrors forget x y)
    (hf : ∀ a, Mirrors forget (f a) (g a)) : Mirrors forget (x >>= f) (y >>= g) := by
  intro t
  rw [World.run_bind, World.run_bind, hx t]
  exact hf _ _

end Mirrors

/-- The second host does what the first does. -/
structure FileSystem.Host.MirroredBy (forget : τ → σ) (h : Host m) (h' : Host n) : Prop where
  read (path : String) : Mirrors forget (h.read path) (h'.read path)
  write (path : String) (bytes : Text.Bytes) :
    Mirrors forget (h.write path bytes) (h'.write path bytes)
  createDirectory (path : String) (all : Bool) :
    Mirrors forget (h.createDirectory path all) (h'.createDirectory path all)
  isFile (path : String) : Mirrors forget (h.isFile path) (h'.isFile path)
  workingDirectory : Mirrors forget h.workingDirectory h'.workingDirectory

variable {forget : τ → σ} {h : Host m} {h' : Host n}

/-- Mirroring goes along with sequencing. -/
def Mirrors.coupling (forget : τ → σ) : Coupling m n where
  Rel := Mirrors forget
  pure := .pure
  bind := .bind

theorem FileSystem.Host.MirroredBy.reads (hh : h.MirroredBy forget h') :
    (Mirrors.coupling forget).Reads h h' :=
  ⟨hh.read, hh.isFile⟩

theorem FileSystem.Host.MirroredBy.writes (hh : h.MirroredBy forget h') :
    (Mirrors.coupling forget).Writes h h' :=
  ⟨hh.write, hh.createDirectory⟩

theorem Builder.build_mirrors {b : Builder m} (hb : b.host.MirroredBy forget h') (id : ModuleId) :
    Mirrors forget (b.build id) ((b.withHost h').build id) :=
  build_coupled hb.reads id

theorem Graph.expandInto_mirrors {b : Builder m} (hb : b.host.MirroredBy forget h')
    (limit : Option Nat) (fuel : Nat) (entry : Module) (g : Graph) :
    Mirrors forget (expandInto b limit fuel entry g)
      (expandInto (b.withHost h') limit fuel entry g) :=
  expandInto_coupled hb.reads limit fuel entry g

theorem Bundle.writeArtifact_mirrors (hh : h.MirroredBy forget h')
    (directory filename code : String) :
    Mirrors forget (writeArtifact h directory filename code)
      (writeArtifact h' directory filename code) :=
  writeArtifact_coupled hh.writes directory filename code

end ModuleBundler
