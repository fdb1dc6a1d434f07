import ModuleBundler.Graph.Walk
import ModuleBundler.Proofs.World

/-!
# Graphs only grow

Whatever a walk does to a graph, the modules that were there stay where they were, and the walk asks
its host and nothing else.
-/

namespace ModuleBundler.Graph

/-- `b` is `a` with modules added at its end. -/
def Extends (a b : Graph) : Prop := a.modules <+: b.modules

namespace Extends

@[refl] theorem refl (g : Graph) : Extends g g := List.prefix_rfl

theorem trans {a b c : Graph} (hab : Extends a b) (hbc : Extends b c) : Extends a c :=
  List.IsPrefix.trans hab hbc

theorem of_insert {a b : Graph} {m : Module} (h : a.insert m = .ok b) : Extends a b := by
  unfold insert at h
  split at h
  · cases h
  · cases h
    exact List.prefix_append _ _

end Extends

namespace Walk

variable {limit : Option Nat} {w : Walk}

theorem add_extends {n : Module} {w' : Walk} (h : w.add limit n = .ok w') :
    Extends w.graph w'.graph := by
  unfold add at h
  cases hl : checkLimit limit w.graph with
  | error e =>
    rw [hl] at h
    cases h
  | ok _ =>
    cases hg : w.graph.insert n with
    | error e =>
      rw [hl, hg] at h
      cases h
    | ok g =>
      rw [hl, hg] at h
      cases h
      exact .of_insert hg

theorem start_extends {g : Graph} {entry : Module} (h : start limit g entry = .ok w) :
    Extends g w.graph := by
  unfold start at h
  simp only at h
  split at h
  · cases h
    rfl
  · exact add_extends h

theorem next?_graph {id : ModuleId} {w' : Walk} (h : w.next? = some (id, w')) :
    w'.graph = w.graph := by
  unfold next? at h
  split at h
  · cases h
  · cases h
    rfl

variable {m : Type → Type} [Monad m] {σ : Type} [World m σ]
variable {build : ModuleId → m (Except BuildError Module)}

theorem step_extends {id : ModuleId} {w' : Walk} {s : σ}
    (h : (World.run (step build limit w id) s).1 = .ok w') : Extends w.graph w'.graph := by
  unfold step at h
  cases hl : checkLimit limit w.graph with
  | error e =>
    rw [hl, World.run_pure] at h
    cases h
  | ok _ =>
    rw [hl, World.run_bind] at h
    cases hb : (World.run (build id) s).1 with
    | error e =>
      rw [hb, World.run_pure] at h
      cases h
    | ok built =>
      rw [hb, World.run_pure] at h
      exact add_extends (w := enqueue w _) h

/-- However a walk ends, its graph extends the one that it started with. -/
theorem run_extends {fuel : Nat} {s : σ} {o : Outcome}
    (h : (World.run (run build limit fuel w) s).1 = some o) : Extends w.graph o.graph := by
  induction fuel generalizing w s with
  | zero =>
    unfold run at h
    cases hn : w.next? with
    | none =>
      rw [hn, World.run_pure] at h
      cases h
      rfl
    | some p =>
      rw [hn, World.run_pure] at h
      cases h
  | succ fuel ih =>
    unfold run at h
    cases hn : w.next? with
    | none =>
      rw [hn, World.run_pure] at h
      cases h
      rfl
    | some p =>
      rw [hn, World.run_bind] at h
      have hgraph : p.2.graph = w.graph := next?_graph hn
      cases hs : (World.run (step build limit p.2 p.1) s).1 with
      | error e =>
        rw [hs, World.run_pure] at h
        cases h
        rw [hgraph]
      | ok w' =>
        rw [hs] at h
        have hstep := step_extends hs
        rw [hgraph] at hstep
        exact hstep.trans (ih h)

end Walk

section Expand

variable {m : Type → Type} [Monad m] {σ : Type} [World m σ] {b : Builder m} {limit : Option Nat}
variable {fuel : Nat} {entry : Module} {g : Graph}

theorem expandInto_preserves {β : Type} {view : σ → β} (hb : b.host.Leaves view) :
    Preserves view (expandInto b limit fuel entry g) :=
  expandInto_coupled hb.reads limit fuel entry g

theorem expandInto_extends {s : σ} {o : Walk.Outcome}
    (h : (World.run (expandInto b limit fuel entry g) s).1 = some o) : Extends g o.graph := by
  unfold expandInto at h
  split at h
  · rw [World.run_pure] at h
    cases h
    rfl
  · rename_i w hw
    exact (Walk.start_extends hw).trans (Walk.run_extends h)

end Expand

end ModuleBundler.Graph
