import ModuleBundler.Proofs.Graph.Expansion

/-!
# The course of a walk

A step of a walk in a world builds the identity that is next, and takes the module that comes out.
Whatever such steps keep holds where the walk stops, and there are four ways in which it can stop.
-/

namespace ModuleBundler.Graph

namespace Walk

variable {m : Type → Type} [Monad m] {σ : Type} [World m σ]
variable {build : ModuleId → m (Except BuildError Module)} {limit : Option Nat}
variable {w : Walk} {s : σ} {fuel : Nat}

/-- The identities that count as visited are those in the graph. -/
def Tracked (w : Walk) : Prop := ∀ id, id ∈ w.visited ↔ id ∈ w.graph.ids

/-- The walk with one more module, whose unseen dependencies wait. -/
def take (w : Walk) (n : Module) (h : n.id ∉ w.graph.ids) : Walk :=
  ⟨w.graph.push n h, n.id :: w.visited,
    w.queue ++ n.dependencyIds.filter fun d => !(n.id :: w.visited).contains d, w.added + 1⟩

theorem Tracked.take (hw : w.Tracked) {n : Module} {queue : List ModuleId}
    (h : n.id ∉ w.graph.ids) : (take { w with queue } n h).Tracked := by
  intro id
  rw [Walk.take, ids_push, List.mem_cons, hw id, List.mem_append, List.mem_singleton, or_comm]

/-- Of what was not seen, the queue loses only the identity that is next. -/
theorem mem_queue_iff {id d : ModuleId} {queue : List ModuleId}
    (hnext : w.next? = some (id, { w with queue })) (hd : d ∉ w.visited) :
    d ∈ w.queue ↔ d = id ∨ d ∈ queue := by
  obtain ⟨rest, hrest, -, hqueue⟩ := next?_some hnext
  cases hrest
  have hmem : d ∈ w.queue.removeAll w.visited ↔ d ∈ id :: queue.removeAll w.visited := by
    rw [hqueue]
  rw [Breadth.mem_removeAll_iff, List.mem_cons, Breadth.mem_removeAll_iff] at hmem
  simpa [hd] using hmem

@[simp] theorem size_take {n : Module} {h : n.id ∉ w.graph.ids} :
    (w.take n h).graph.size = w.graph.size + 1 := by
  simp [take, push, size]

section Limit

theorem checkLimit_none {g : Graph} : checkLimit none g = .ok () := rfl

theorem checkLimit_ok {g : Graph} {most : Nat} :
    checkLimit (some most) g = .ok () ↔ g.size < most := by
  unfold checkLimit
  simp only
  split
  · rename_i h
    exact ⟨fun hok => (nomatch hok), fun hlt => absurd h (Nat.not_le.2 hlt)⟩
  · rename_i h
    exact ⟨fun _ => Nat.not_le.1 h, fun _ => rfl⟩

theorem checkLimit_error {g : Graph} {e : BuildError} (h : checkLimit limit g = .error e) :
    ∃ most, limit = some most ∧ most ≤ g.size ∧ e = .tooManyModules (g.size + 1) most := by
  cases limit with
  | none => cases h
  | some most =>
    unfold checkLimit at h
    simp only at h
    split at h
    · rename_i hle
      cases h
      exact ⟨most, rfl, hle, rfl⟩
    · cases h

theorem checkLimit_full {g : Graph} {most : Nat} (h : most ≤ g.size) :
    checkLimit (some most) g = .error (.tooManyModules (g.size + 1) most) := by
  simp [checkLimit, h]

end Limit

section Steps

variable {id : ModuleId} {w' : Walk}

theorem runs_idle (h : w.next? = none) :
    World.run (run build limit fuel w) s = (some ⟨w.graph, .ok w.added⟩, s) := by
  unfold run
  rw [h]
  exact World.run_pure _ _

theorem runs_out {p : ModuleId × Walk} (h : w.next? = some p) :
    World.run (run build limit 0 w) s = (none, s) := by
  unfold run
  rw [h]
  exact World.run_pure _ _

theorem runs_on (h : w.next? = some (id, w')) :
    World.run (run build limit (fuel + 1) w) s =
      match World.run (step build limit w' id) s with
      | (.error e, t) => (some ⟨w'.graph, .error e⟩, t)
      | (.ok v, t) => World.run (run build limit fuel v) t := by
  rw [run, h]
  simp only
  rw [World.run_bind]
  rcases World.run (step build limit w' id) s with ⟨e | v, t⟩
  · exact World.run_pure _ _
  · rfl

theorem run_step_full {e : BuildError} (h : checkLimit limit w.graph = .error e) :
    World.run (step build limit w id) s = (.error e, s) := by
  unfold step
  rw [h]
  exact World.run_pure _ _

theorem run_step_failed {e : BuildError} {t : σ} (h : checkLimit limit w.graph = .ok ())
    (hbuild : World.run (build id) s = (.error e, t)) :
    World.run (step build limit w id) s = (.error e, t) := by
  unfold step
  rw [h]
  simp only
  rw [World.run_bind, hbuild]
  exact World.run_pure _ _

theorem run_step_take {n : Module} {t : σ} (h : checkLimit limit w.graph = .ok ())
    (hbuild : World.run (build n.id) s = (.ok n, t)) (hnew : n.id ∉ w.graph.ids) :
    World.run (step build limit w n.id) s = (.ok (w.take n hnew), t) := by
  unfold step
  rw [h]
  simp only
  rw [World.run_bind, hbuild]
  simp only
  rw [World.run_pure, add, enqueue, h, insert, dif_neg hnew]
  rfl

end Steps

/-- How a run comes out that stops at `w` in the state `s`. -/
inductive Ends (build : ModuleId → m (Except BuildError Module)) (limit : Option Nat) (w : Walk)
    (s : σ) : Option Outcome → σ → Prop
  /-- Nothing waits any more. -/
  | idle (hnext : w.next? = none) : Ends build limit w s (some ⟨w.graph, .ok w.added⟩) s
  /-- One more module would go past the limit. -/
  | full {p : ModuleId × Walk} {e : BuildError} (hnext : w.next? = some p)
    (hlimit : checkLimit limit w.graph = .error e) :
    Ends build limit w s (some ⟨w.graph, .error e⟩) s
  /-- The next module does not build. -/
  | failed {id : ModuleId} {queue : List ModuleId} {e : BuildError} {t : σ}
    (hnext : w.next? = some (id, { w with queue })) (hlimit : checkLimit limit w.graph = .ok ())
    (hbuild : World.run (build id) s = (.error e, t)) :
    Ends build limit w s (some ⟨w.graph, .error e⟩) t
  /-- Fuel is lacking. -/
  | unfinished {p : ModuleId × Walk} (hnext : w.next? = some p) : Ends build limit w s none s

/-- What every step keeps holds where a run stops. A run that lacks fuel has used all of it for
modules. -/
theorem run_ends (hid : ∀ id s n, (World.run (build id) s).1 = .ok n → n.id = id)
    {P : Walk → σ → Prop}
    (hstep : ∀ (w : Walk) (n : Module) (h : n.id ∉ w.graph.ids) (queue : List ModuleId) (s t : σ),
      w.Tracked → P w s → w.next? = some (n.id, { w with queue }) →
      checkLimit limit w.graph = .ok () → World.run (build n.id) s = (.ok n, t) →
      P (take { w with queue } n h) t)
    (hw : w.Tracked) (hP : P w s) {result : Option Outcome} {t : σ}
    (hrun : World.run (run build limit fuel w) s = (result, t)) :
    ∃ v u, v.Tracked ∧ P v u ∧ Ends build limit v u result t ∧
      (result = none → v.graph.size = w.graph.size + fuel) := by
  induction fuel generalizing w s with
  | zero =>
    cases hnext : w.next? with
    | none =>
      rw [runs_idle hnext] at hrun
      cases hrun
      exact ⟨w, _, hw, hP, .idle hnext, fun h => by cases h⟩
    | some p =>
      rw [runs_out hnext] at hrun
      cases hrun
      exact ⟨w, _, hw, hP, .unfinished hnext, fun _ => rfl⟩
  | succ fuel ih =>
    cases hnext : w.next? with
    | none =>
      rw [runs_idle hnext] at hrun
      cases hrun
      exact ⟨w, _, hw, hP, .idle hnext, fun h => by cases h⟩
    | some p =>
      obtain ⟨id, w'⟩ := p
      obtain ⟨queue, rfl, hunseen, -⟩ := next?_some hnext
      rw [hw id] at hunseen
      rw [runs_on hnext] at hrun
      cases hlimit : checkLimit limit w.graph with
      | error e =>
        rw [run_step_full (w := { w with queue }) hlimit] at hrun
        cases hrun
        exact ⟨w, _, hw, hP, .full hnext hlimit, fun h => by cases h⟩
      | ok _ =>
        rcases hbuild : World.run (build id) s with ⟨e | n, u⟩
        · rw [run_step_failed (w := { w with queue }) hlimit hbuild] at hrun
          cases hrun
          exact ⟨w, _, hw, hP, .failed hnext hlimit hbuild, fun h => by cases h⟩
        · obtain rfl := hid id s n (by rw [hbuild])
          rw [run_step_take (w := { w with queue }) hlimit hbuild hunseen] at hrun
          obtain ⟨v, x, hv, hPv, hends, hsize⟩ :=
            ih (hw.take hunseen) (hstep w n hunseen queue s u hw hP hnext hlimit hbuild) hrun
          refine ⟨v, x, hv, hPv, hends, fun hnone => ?_⟩
          rw [hsize hnone, size_take, Nat.add_assoc, Nat.add_comm 1]

section Start

variable {g : Graph} {entry : Module}

/-- The walk from an entry that the graph holds already. -/
def along (g : Graph) (entry : Module) : Walk := ⟨g, g.ids, entry.dependencyIds, 0⟩

/-- The walk from an entry that is new to the graph. -/
def beyond (g : Graph) (entry : Module) (h : entry.id ∉ g.ids) : Walk :=
  ⟨g.push entry h, entry.id :: g.ids, entry.dependencyIds, 1⟩

theorem start_along (h : entry.id ∈ g.ids) : start limit g entry = .ok (along g entry) := by
  simp only [start, contains, decide_eq_true h, if_true]
  rfl

theorem start_beyond (h : entry.id ∉ g.ids) (hlimit : checkLimit limit g = .ok ()) :
    start limit g entry = .ok (beyond g entry h) := by
  simp only [start, contains, decide_eq_false h, Bool.false_eq_true, if_false]
  rw [add, enqueue, ofGraph, hlimit, insert, dif_neg h]
  rfl

theorem start_full {e : BuildError} (h : entry.id ∉ g.ids)
    (hlimit : checkLimit limit g = .error e) : start limit g entry = .error e := by
  simp only [start, contains, decide_eq_false h, Bool.false_eq_true, if_false]
  rw [add, enqueue, ofGraph, hlimit]
  rfl

theorem tracked_along : (along g entry).Tracked := fun _ => Iff.rfl

theorem tracked_beyond (h : entry.id ∉ g.ids) : (beyond g entry h).Tracked := by
  intro id
  rw [beyond, ids_push, List.mem_cons, List.mem_append, List.mem_singleton, or_comm]

end Start

end Walk

end ModuleBundler.Graph
