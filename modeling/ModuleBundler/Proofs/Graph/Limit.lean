import ModuleBundler.Proofs.FileSystem.Reading
import ModuleBundler.Proofs.Graph.Course
import ModuleBundler.Proofs.Graph.Growth
import Mathlib.Data.Set.Card

/-!
# Walks with a limit

A walk with a limit is the walk without one, cut off where it would go past the limit. Up to there
both take the same steps in the same order, in whatever world they take them.
-/

namespace ModuleBundler.Graph

open FileSystem (Host Record Memory)
open FileSystem.Record (reading)

namespace Walk

section Pursue

variable {m : Type → Type} [Monad m]

/-- The course of a walk without a limit until it has added `k` modules. When it ends before that,
or nothing waits then, this gives its outcome; else it gives the walk, for which something waits. -/
def pursue (build : ModuleId → m (Except BuildError Module)) :
    Nat → Walk → m (Except Outcome Walk)
  | k, w =>
    match w.next? with
    | none => return .error ⟨w.graph, .ok w.added⟩
    | some (id, w') =>
      match k with
      | 0 => return .ok w
      | k + 1 => do
        match ← step build none w' id with
        | .error e => return .error ⟨w'.graph, .error e⟩
        | .ok v => pursue build k v

variable {σ : Type} [World m σ] {build : ModuleId → m (Except BuildError Module)}
variable {limit : Option Nat} {w v : Walk} {s t : σ} {id : ModuleId} {k most : Nat}

theorem pursue_idle (h : w.next? = none) :
    World.run (pursue build k w) s = (.error ⟨w.graph, .ok w.added⟩, s) := by
  unfold pursue
  rw [h]
  exact World.run_pure _ _

theorem pursue_zero {p : ModuleId × Walk} (h : w.next? = some p) :
    World.run (pursue build 0 w) s = (.ok w, s) := by
  unfold pursue
  rw [h]
  exact World.run_pure _ _

theorem pursue_succ (h : w.next? = some (id, v)) :
    World.run (pursue build (k + 1) w) s =
      match World.run (step build none v id) s with
      | (.error e, t) => (.error ⟨v.graph, .error e⟩, t)
      | (.ok v, t) => World.run (pursue build k v) t := by
  rw [pursue, h]
  simp only
  rw [World.run_bind]
  rcases World.run (step build none v id) s with ⟨e | v, t⟩
  · exact World.run_pure _ _
  · rfl

/-- A walk without a limit goes on from where its course has led. -/
theorem run_eq_pursue (n : Nat) :
    World.run (run build none (k + n) w) s =
      match World.run (pursue build k w) s with
      | (.error o, t) => (some o, t)
      | (.ok v, t) => World.run (run build none n v) t := by
  induction k generalizing w s with
  | zero =>
    rw [Nat.zero_add]
    cases hnext : w.next? with
    | none => rw [runs_idle hnext, pursue_idle hnext]
    | some p => rw [pursue_zero hnext]
  | succ k ih =>
    cases hnext : w.next? with
    | none => rw [runs_idle hnext, pursue_idle hnext]
    | some p =>
      rw [Nat.add_right_comm, runs_on hnext, pursue_succ hnext]
      rcases World.run (step build none p.2 p.1) s with ⟨e | v, t⟩
      · rfl
      · exact ih

/-- While there is room, a step does not depend on the limit. -/
theorem step_of_room (h : checkLimit limit w.graph = .ok ()) :
    step build limit w id = step build none w id := by
  have hadd : ∀ ids n, (w.enqueue ids).add limit n = (w.enqueue ids).add none n := by
    intro ids n
    rw [add, add, enqueue, h, checkLimit_none]
  unfold step
  rw [h, checkLimit_none]
  simp only [hadd]

theorem size_of_add {n : Module} (h : w.add limit n = .ok v) :
    v.graph.size = w.graph.size + 1 := by
  unfold add at h
  cases hlimit : checkLimit limit w.graph with
  | error e =>
    rw [hlimit] at h
    cases h
  | ok _ =>
    rw [hlimit, insert] at h
    split at h
    · cases h
    · cases h
      simp [push, size]

/-- A step that succeeds adds one module. -/
theorem size_of_step (h : World.run (step build limit w id) s = (.ok v, t)) :
    v.graph.size = w.graph.size + 1 := by
  unfold step at h
  cases hlimit : checkLimit limit w.graph with
  | error e =>
    rw [hlimit, World.run_pure] at h
    cases h
  | ok _ =>
    rw [hlimit] at h
    simp only at h
    rw [World.run_bind] at h
    cases hbuild : (World.run (build id) s).1 with
    | error e =>
      rw [hbuild, World.run_pure] at h
      cases h
    | ok built =>
      rw [hbuild, World.run_pure] at h
      exact size_of_add (w := enqueue w _) (congrArg Prod.fst h)

/-- A walk with a limit follows the course without one until the graph is full. It fails there when
something waits. -/
theorem run_limited_eq_pursue {fuel : Nat} (hk : k = most - w.graph.size) (hfuel : k < fuel) :
    World.run (run build (some most) fuel w) s =
      match World.run (pursue build k w) s with
      | (.error o, t) => (some o, t)
      | (.ok v, t) => (some ⟨v.graph, .error (.tooManyModules (v.graph.size + 1) most)⟩, t) := by
  induction k generalizing w s fuel with
  | zero =>
    cases hnext : w.next? with
    | none => rw [runs_idle hnext, pursue_idle hnext]
    | some p =>
      obtain ⟨fuel, rfl⟩ := Nat.exists_eq_add_of_lt hfuel
      have hfull : most ≤ p.2.graph.size := by
        rw [next?_graph hnext]
        omega
      rw [pursue_zero hnext, runs_on hnext, run_step_full (checkLimit_full hfull),
        next?_graph hnext]
  | succ k ih =>
    cases hnext : w.next? with
    | none => rw [runs_idle hnext, pursue_idle hnext]
    | some p =>
      obtain ⟨fuel, rfl⟩ := Nat.exists_eq_add_of_lt hfuel
      have hroom : checkLimit (some most) p.2.graph = .ok () := by
        rw [checkLimit_ok, next?_graph hnext]
        omega
      rw [runs_on hnext, pursue_succ hnext, step_of_room hroom]
      rcases hstep : World.run (step build none p.2 p.1) s with ⟨e | v, t⟩
      · rfl
      · have hsize := size_of_step hstep
        rw [next?_graph hnext] at hsize
        exact ih (by omega) (by omega)

/-- Where the course of a walk has led after `k` modules, something waits. -/
theorem of_pursue_ok (h : World.run (pursue build k w) s = (.ok v, t)) :
    v.graph.size = w.graph.size + k ∧ v.next?.isSome := by
  induction k generalizing w s with
  | zero =>
    cases hnext : w.next? with
    | none =>
      rw [pursue_idle hnext] at h
      cases h
    | some p =>
      rw [pursue_zero hnext] at h
      cases h
      exact ⟨rfl, hnext ▸ rfl⟩
  | succ k ih =>
    cases hnext : w.next? with
    | none =>
      rw [pursue_idle hnext] at h
      cases h
    | some p =>
      rw [pursue_succ hnext] at h
      rcases hstep : World.run (step build none p.2 p.1) s with ⟨e | x, u⟩
      · rw [hstep] at h
        cases h
      · rw [hstep] at h
        obtain ⟨hsize, hwaits⟩ := ih h
        rw [size_of_step hstep, next?_graph hnext] at hsize
        exact ⟨by omega, hwaits⟩

/-- A walk that ends before it goes past the limit has not filled the graph further than that, and
not that far when it fails. -/
theorem of_pursue_error {o : Outcome} (hk : k = most - w.graph.size)
    (h : World.run (pursue build k w) s = (.error o, t)) :
    o.graph.size ≤ max most w.graph.size ∧ ∀ e, o.result = .error e → o.graph.size < most := by
  induction k generalizing w s with
  | zero =>
    cases hnext : w.next? with
    | none =>
      rw [pursue_idle hnext] at h
      cases h
      exact ⟨le_max_right _ _, fun e he => nomatch he⟩
    | some p =>
      rw [pursue_zero hnext] at h
      cases h
  | succ k ih =>
    cases hnext : w.next? with
    | none =>
      rw [pursue_idle hnext] at h
      cases h
      exact ⟨le_max_right _ _, fun e he => nomatch he⟩
    | some p =>
      rw [pursue_succ hnext] at h
      rcases hstep : World.run (step build none p.2 p.1) s with ⟨e | x, u⟩
      · rw [hstep] at h
        cases h
        rw [next?_graph hnext]
        exact ⟨le_max_right _ _, fun _ _ => by change w.graph.size < most; omega⟩
      · have hsize := size_of_step hstep
        rw [next?_graph hnext] at hsize
        rw [hstep] at h
        obtain ⟨hle, hlt⟩ := ih (by omega) h
        exact ⟨by omega, hlt⟩

/-- A walk without a limit for which something waits fails, or adds more. -/
theorem size_lt_of_run {fuel n : Nat} {g : Graph} (hwaits : w.next?.isSome)
    (h : World.run (run build none fuel w) s = (some ⟨g, .ok n⟩, t)) : w.graph.size < g.size := by
  obtain ⟨p, hnext⟩ := Option.isSome_iff_exists.1 hwaits
  cases fuel with
  | zero =>
    rw [runs_out hnext] at h
    cases h
  | succ fuel =>
    rw [runs_on hnext] at h
    rcases hstep : World.run (step build none p.2 p.1) s with ⟨e | x, u⟩
    · rw [hstep] at h
      cases h
    · rw [hstep] at h
      have hsize := size_of_step hstep
      have hextends : Extends x.graph g := run_extends (congrArg Prod.fst h)
      have hle : x.graph.size ≤ g.size := hextends.length_le
      rw [next?_graph hnext] at hsize
      omega

end Pursue

section Reading

variable {m : Type → Type} [Monad m] {σ : Type} [World m σ] {h : Host m}
variable {refuse : FileSystem.Request → Option String} {b : Builder (StateT Record m)}

/-- A step without a limit builds one module. -/
theorem reading_step (hb : b.host = Record.host h refuse) (w : Walk) (id : ModuleId)
    (s : Record × σ) :
    reading (World.run (step b.build none w id) s).2 = reading s ++ [id.path] := by
  unfold step
  rw [checkLimit_none]
  simp only
  rw [World.run_bind, ← Builder.reading_build hb id s]
  cases (World.run (b.build id) s).1 with
  | error e => rw [World.run_pure]
  | ok built => rw [World.run_pure]

theorem length_reading_pursue (hb : b.host = Record.host h refuse) (k : Nat) (w : Walk)
    (s : Record × σ) :
    (reading (World.run (pursue b.build k w) s).2).length ≤ (reading s).length + k := by
  induction k generalizing w s with
  | zero =>
    cases hnext : w.next? with
    | none => rw [pursue_idle hnext, Nat.add_zero]
    | some p => rw [pursue_zero hnext, Nat.add_zero]
  | succ k ih =>
    cases hnext : w.next? with
    | none =>
      rw [pursue_idle hnext]
      exact Nat.le_add_right _ _
    | some p =>
      have hread := reading_step hb p.2 p.1 s
      rw [pursue_succ hnext]
      rcases hstep : World.run (step b.build none p.2 p.1) s with ⟨e | v, t⟩
      · rw [hstep] at hread
        rw [hread, List.length_append, List.length_singleton]
        omega
      · rw [hstep] at hread
        have hle := ih v t
        rw [hread, List.length_append, List.length_singleton] at hle
        exact le_trans hle (by omega)

end Reading

section Start

variable {g : Graph} {entry : Module} {limit : Option Nat}

/-- The walk from an entry, when nothing keeps it from being added. -/
def initial (g : Graph) (entry : Module) : Walk :=
  if h : entry.id ∈ g.ids then along g entry else beyond g entry h

theorem start_initial (h : entry.id ∈ g.ids ∨ checkLimit limit g = .ok ()) :
    start limit g entry = .ok (initial g entry) := by
  by_cases hold : entry.id ∈ g.ids
  · rw [start_along hold, initial, dif_pos hold]
  · rw [start_beyond hold (h.resolve_left hold), initial, dif_neg hold]

theorem size_initial (h : entry.id ∉ g.ids) : (initial g entry).graph.size = g.size + 1 := by
  rw [initial, dif_neg h]
  simp [beyond, push, size]

theorem size_initial_le_max {most : Nat} (h : entry.id ∈ g.ids ∨ g.size < most) :
    (initial g entry).graph.size ≤ max most g.size := by
  by_cases hold : entry.id ∈ g.ids
  · rw [initial, dif_pos hold]
    exact le_max_right _ _
  · rw [size_initial hold]
    exact le_max_of_le_left (h.resolve_left hold)

theorem size_initial_le : g.size ≤ (initial g entry).graph.size := by
  unfold initial
  split
  · exact le_rfl
  · simp [beyond, push, size]

end Start

end Walk

section Expand

variable {m : Type → Type} [Monad m] {σ : Type} [World m σ]

/-- How the expansion with a limit compares to the one without. -/
structure CutOff (b : Builder m) (most : Nat) (entry : Module) (g : Graph) (s : σ) : Prop where
  /-- An entry that is new to a full graph is refused before anything is built. -/
  refused : entry.id ∉ g.ids → most ≤ g.size → ∀ fuel,
    World.run (expandInto b (some most) fuel entry g) s =
      (some ⟨g, .error (.tooManyModules (g.size + 1) most)⟩, s)
  /-- Otherwise both follow one course until the graph is full. When the one without a limit has
  come to its end by then, the other comes to the same end. -/
  alike : entry.id ∈ g.ids ∨ g.size < most → ∀ o t,
    World.run (Walk.pursue b.build (most - (Walk.initial g entry).graph.size)
      (Walk.initial g entry)) s = (.error o, t) → ∀ fuel, most < fuel →
    World.run (expandInto b (some most) fuel entry g) s = (some o, t) ∧
      World.run (expandInto b none fuel entry g) s = (some o, t)
  /-- When it would add one more, the other fails where it stands, and leaves what was added. -/
  cut : entry.id ∈ g.ids ∨ g.size < most → ∀ v t,
    World.run (Walk.pursue b.build (most - (Walk.initial g entry).graph.size)
      (Walk.initial g entry)) s = (.ok v, t) →
    v.next?.isSome ∧ most ≤ v.graph.size ∧ (∀ fuel, most < fuel →
      World.run (expandInto b (some most) fuel entry g) s =
        (some ⟨v.graph, .error (.tooManyModules (v.graph.size + 1) most)⟩, t)) ∧
      ∀ n, World.run (expandInto b none (most - (Walk.initial g entry).graph.size + n) entry g) s =
        World.run (Walk.run b.build none n v) t

variable {b : Builder m} {limit : Option Nat} {most fuel : Nat} {entry : Module} {g : Graph}
variable {s : σ}

theorem expandInto_refused {e : BuildError} (h : entry.id ∉ g.ids)
    (hlimit : Walk.checkLimit limit g = .error e) :
    World.run (expandInto b limit fuel entry g) s = (some ⟨g, .error e⟩, s) := by
  rw [expandInto, Walk.start_full h hlimit]
  exact World.run_pure _ _

theorem expandInto_initial (h : entry.id ∈ g.ids ∨ Walk.checkLimit limit g = .ok ()) :
    expandInto b limit fuel entry g = Walk.run b.build limit fuel (Walk.initial g entry) := by
  rw [expandInto, Walk.start_initial h]

theorem cutOff : CutOff b most entry g s where
  refused hnew hfull fuel := expandInto_refused hnew (Walk.checkLimit_full hfull)
  alike hroom o t hpursue fuel hfuel := by
    have hroom' := hroom.imp_right Walk.checkLimit_ok.2
    obtain ⟨n, hn⟩ := Nat.exists_eq_add_of_le
      (Nat.le_of_lt (Nat.lt_of_le_of_lt (Nat.sub_le most (Walk.initial g entry).graph.size) hfuel))
    refine ⟨?_, ?_⟩
    · rw [expandInto_initial hroom', Walk.run_limited_eq_pursue rfl (by omega), hpursue]
    · rw [expandInto_initial (.inr Walk.checkLimit_none), hn, Walk.run_eq_pursue, hpursue]
  cut hroom v t hpursue := by
    have hroom' := hroom.imp_right Walk.checkLimit_ok.2
    obtain ⟨hsize, hwaits⟩ := Walk.of_pursue_ok hpursue
    refine ⟨hwaits, by omega, fun fuel hfuel => ?_, fun n => ?_⟩
    · rw [expandInto_initial hroom', Walk.run_limited_eq_pursue rfl (by omega), hpursue]
    · rw [expandInto_initial (.inr Walk.checkLimit_none), Walk.run_eq_pursue, hpursue]

/-- An expansion asks for no more files than there is room for in the graph. -/
theorem length_reading_expandInto (b : Builder m) (hfuel : most < fuel) :
    (World.run (expandInto b.recorded (some most) fuel entry g)
      (({} : Record), s)).2.1.sources.length ≤ most - g.size := by
  by_cases hroom : entry.id ∈ g.ids ∨ g.size < most
  · have hle : (Walk.initial g entry).graph.size ≥ g.size := Walk.size_initial_le
    have hlength := Walk.length_reading_pursue (b := b.recorded) rfl
      (most - (Walk.initial g entry).graph.size) (Walk.initial g entry) (({} : Record), s)
    rw [expandInto_initial (hroom.imp_right Walk.checkLimit_ok.2),
      Walk.run_limited_eq_pursue rfl (by omega)]
    rcases hpursue : World.run (Walk.pursue b.recorded.build
      (most - (Walk.initial g entry).graph.size) (Walk.initial g entry)) (({} : Record), s)
      with ⟨o | v, t⟩
    all_goals
      rw [hpursue] at hlength
      refine le_trans hlength ?_
      change 0 + _ ≤ _
      omega
  · rw [not_or, Nat.not_lt] at hroom
    rw [expandInto_refused hroom.1 (Walk.checkLimit_full hroom.2)]
    exact Nat.zero_le _

/-- Either both expansions end alike, or the one with a limit fails at a full graph and the one
without fails there too or fills it further. -/
theorem expandInto_limited_cases (b : Builder m) (entry : Module) (g : Graph) (s : σ)
    (hfuel : most < fuel) :
    (∃ o t, World.run (expandInto b (some most) fuel entry g) s = (some o, t) ∧
      World.run (expandInto b none fuel entry g) s = (some o, t) ∧
      o.graph.size ≤ max most g.size ∧ ∀ e, o.result = .error e → o.graph.size < most) ∨
    (∃ (full : Graph) (t : σ), World.run (expandInto b (some most) fuel entry g) s =
        (some ⟨full, .error (.tooManyModules (full.size + 1) most)⟩, t) ∧
      most ≤ full.size ∧ ∀ (last : Graph) (n : Nat) (u : σ),
        World.run (expandInto b none fuel entry g) s = (some ⟨last, .ok n⟩, u) →
          full.size < last.size) := by
  have hcut : CutOff b most entry g s := cutOff
  have hfree : expandInto b none fuel entry g = Walk.run b.build none fuel (Walk.initial g entry) :=
    expandInto_initial (.inr Walk.checkLimit_none)
  by_cases hroom : entry.id ∈ g.ids ∨ g.size < most
  · rcases hpursue : World.run (Walk.pursue b.build (most - (Walk.initial g entry).graph.size)
      (Walk.initial g entry)) s with ⟨o | v, t⟩
    · obtain ⟨hlimited, hunlimited⟩ := hcut.alike hroom o t hpursue fuel hfuel
      obtain ⟨hsize, herror⟩ := Walk.of_pursue_error rfl hpursue
      have hinitial := Walk.size_initial_le_max hroom
      exact .inl ⟨o, t, hlimited, hunlimited, by omega, herror⟩
    · obtain ⟨hwaits, hfull, hlimited, hunlimited⟩ := hcut.cut hroom v t hpursue
      refine .inr ⟨v.graph, t, hlimited fuel hfuel, hfull, fun last n u hrun => ?_⟩
      obtain ⟨k, hk⟩ : ∃ k, fuel = most - (Walk.initial g entry).graph.size + k :=
        Nat.exists_eq_add_of_le (by omega)
      rw [hk, hunlimited k] at hrun
      exact Walk.size_lt_of_run hwaits hrun
  · rw [not_or, Nat.not_lt] at hroom
    refine .inr ⟨g, s, hcut.refused hroom.1 hroom.2 fuel, hroom.2, fun last n u hrun => ?_⟩
    rw [hfree] at hrun
    have hsize : (Walk.initial g entry).graph.size = g.size + 1 := Walk.size_initial hroom.1
    have hle : (Walk.initial g entry).graph.size ≤ last.size :=
      (Walk.run_extends (congrArg Prod.fst hrun)).length_le
    omega

end Expand

section Steady

variable {m : Type → Type} [Monad m] {σ : Type} [World m σ] {I : σ → Prop} {b : Builder m}
variable {limit : Option Nat} {most fuel : Nat} {entry : Module} {s : σ}

theorem run_expand :
    (World.run (expand b limit fuel entry) s).1 =
      (World.run (expandInto b limit fuel entry empty) s).1.map
        fun o => o.result.map fun _ => o.graph := by
  rw [expand, World.run_bind, World.run_pure]

/-- What can be reached from an entry is counted by the graph of a walk that is over. -/
theorem Walk.Sound.ncard {f : ModuleId → Except BuildError Module} {w : Walk}
    (hw : Walk.Sound f entry w) (hnext : w.next? = none) :
    {id | Reachable f entry id}.Finite ∧ {id | Reachable f entry id}.ncard = w.graph.size := by
  have hset : {id | Reachable f entry id} = ↑w.graph.ids.toFinset := by
    ext id
    rw [List.coe_toFinset]
    exact (hw.closed hnext).symm
  refine ⟨hset ▸ Finset.finite_toSet _, ?_⟩
  rw [hset, Set.ncard_coe_finset, card_ids]

theorem expandInto_gives (hb : b.host.Steady I) (hs : I s) :
    (World.run (expandInto b none fuel entry empty) s).1 =
      Walk.run (m := Id) (b.built s) none fuel (Walk.first entry) := by
  have hnew : entry.id ∉ empty.ids := by simp [empty, ids]
  have hinitial : Walk.initial empty entry = Walk.first entry := dif_neg hnew
  rw [expandInto_initial (.inr Walk.checkLimit_none), hinitial]
  exact (Walk.run_gives (fun id => Builder.gives_built hb hs id) none fuel _ s hs).1

/-- What an expansion without a limit has collected in the end is all that can be reached. -/
theorem sound_of_expandInto (hb : b.host.Steady I) (hs : I s) {o : Walk.Outcome} {n : Nat}
    (hrun : (World.run (expandInto b none fuel entry empty) s).1 = some o)
    (hresult : o.result = .ok n) :
    ∃ w, Walk.Sound (b.built s) entry w ∧ w.next? = none ∧ w.graph = o.graph := by
  have hid : ∀ id m, b.built s id = .ok m → m.id = id := fun _ _ => Builder.id_of_built
  have hfirst : Walk.Sound (b.built s) entry (Walk.first entry) := .first
  rw [expandInto_gives hb hs] at hrun
  obtain ⟨hnone, -⟩ | ⟨w, hw, hnext, hend⟩ | ⟨w, id, w', e, -, -, -, hend⟩ :=
    Walk.run_of_sound hid fuel hfirst
  · cases hrun.symm.trans hnone
  · cases hrun.symm.trans hend
    exact ⟨w, hw, hnext, rfl⟩
  · cases hrun.symm.trans hend
    cases hresult

/-- From an empty graph the expansion with a limit succeeds just when no more can be reached than
the limit allows, and all of it builds. -/
theorem expand_limited_iff (hb : b.host.Steady I) (hs : I s) (hfuel : most < fuel) :
    (∃ g, (World.run (expand b (some most) fuel entry) s).1 = some (.ok g)) ↔
      {id | Reachable (b.built s) entry id}.Finite ∧
      {id | Reachable (b.built s) entry id}.ncard ≤ most ∧
      ∀ id, Reachable (b.built s) entry id → id ≠ entry.id → ∃ m, b.built s id = .ok m := by
  rw [run_expand]
  constructor
  · rintro ⟨g, hg⟩
    obtain ⟨o, ho, hresult⟩ := Option.map_eq_some_iff.1 hg
    obtain ⟨n, hn⟩ : ∃ n, o.result = .ok n := by
      cases hr : o.result with
      | ok n => exact ⟨n, rfl⟩
      | error e =>
        rw [hr] at hresult
        cases hresult
    obtain ⟨o', t, hlimited, hfree, hsize, -⟩ | ⟨full, t, hlimited, -⟩ :=
      expandInto_limited_cases b entry empty s hfuel
    · rw [hlimited] at ho
      cases ho
      obtain ⟨w, hw, hnext, hgraph⟩ := sound_of_expandInto hb hs (congrArg Prod.fst hfree) hn
      obtain ⟨hfin, hcard⟩ := hw.ncard hnext
      refine ⟨hfin, ?_, fun id hreach hne => hw.builds ((hw.closed hnext).2 hreach) hne⟩
      rw [hcard, hgraph]
      exact hsize.trans (Nat.max_le.2 ⟨le_rfl, Nat.zero_le _⟩)
    · rw [hlimited] at ho
      cases ho
      cases hn
  · rintro ⟨hfin, hcard, hall⟩
    have hid : ∀ id m, b.built s id = .ok m → m.id = id := fun _ _ => Builder.id_of_built
    obtain ⟨w, hw, hnext, hrun⟩ := Walk.run_of_finite hid hfin hall
    rw [Set.ncard_eq_toFinset_card _ hfin] at hcard
    have hfree : (World.run (expandInto b none fuel entry empty) s).1 =
        some ⟨w.graph, .ok w.added⟩ := by
      rw [expandInto_gives hb hs]
      exact Walk.run_mono hrun (by omega)
    obtain ⟨o, t, hlimited, hunlimited, -⟩ | ⟨full, t, -, hfull, hmore⟩ :=
      expandInto_limited_cases b entry empty s hfuel
    · rw [hunlimited] at hfree
      cases hfree
      exact ⟨w.graph, by rw [hlimited]; rfl⟩
    · have hlt : full.size < w.graph.size := hmore w.graph w.added _ (Prod.ext hfree rfl)
      have hle := hw.size_le_of_finite hfin
      omega

/-- An expansion with a limit is the one without, cut off where it would go past the limit. It asks
for no more files than there is room for, and an error of a module that lies beyond the limit is
never reported. -/
theorem expandInto_limited (b : Builder m) (entry : Module) (s : σ) (hfuel : most < fuel) :
    (∀ g, CutOff b most entry g s ∧ CutOff b.recorded most entry g (({} : Record), s)) ∧
    (∀ g, (World.run (expandInto b.recorded (some most) fuel entry g)
      (({} : Record), s)).2.1.sources.length ≤ most - g.size) ∧
    (∀ g o t e, World.run (expandInto b (some most) fuel entry g) s = (some o, t) →
      o.result = .error e →
        e = .tooManyModules (o.graph.size + 1) most ∧ most ≤ o.graph.size ∨
          o.graph.size < most) ∧
    ∀ I : σ → Prop, b.host.Steady I → I s →
      ((∃ g, (World.run (expand b (some most) fuel entry) s).1 = some (.ok g)) ↔
        {id | Reachable (b.built s) entry id}.Finite ∧
        {id | Reachable (b.built s) entry id}.ncard ≤ most ∧
        ∀ id, Reachable (b.built s) entry id → id ≠ entry.id → ∃ m, b.built s id = .ok m) := by
  refine ⟨fun g => ⟨cutOff, cutOff⟩, fun g => length_reading_expandInto b hfuel,
    fun g o t e hrun he => ?_, fun I hb hs => expand_limited_iff hb hs hfuel⟩
  obtain ⟨o', u, hlimited, -, -, herror⟩ | ⟨full, u, hlimited, hfull, -⟩ :=
    expandInto_limited_cases b entry g s hfuel
  · rw [hlimited] at hrun
    cases hrun
    exact .inr (herror e he)
  · rw [hlimited] at hrun
    cases hrun
    cases he
    exact .inl ⟨rfl, hfull⟩

/-- An entry and two files that mention each other do not fit into a graph of two modules. -/
theorem expandInto_limited_mentions :
    2 < 3 ∧ CutOff mentions 2 (mentionsTwice (.ofRooted "/b")) empty threeFiles ∧
    (World.run (expandInto mentions (some 2) 3 (mentionsTwice (.ofRooted "/b")) empty)
      threeFiles).1.map (fun o => (o.graph.ids, o.result)) =
        some ([.ofRooted "/a", .ofRooted "/b"], .error (.tooManyModules 3 2)) ∧
    ¬({id | Reachable (mentions.built threeFiles) (mentionsTwice (.ofRooted "/b")) id}.Finite ∧
      {id | Reachable (mentions.built threeFiles) (mentionsTwice (.ofRooted "/b")) id}.ncard ≤ 2 ∧
      ∀ id, Reachable (mentions.built threeFiles) (mentionsTwice (.ofRooted "/b")) id →
        id ≠ .ofRooted "/a" → ∃ m, mentions.built threeFiles id = .ok m) := by
  have hfails : (World.run (expandInto mentions (some 2) 3 (mentionsTwice (.ofRooted "/b")) empty)
      threeFiles).1.map (fun o => (o.graph.ids, o.result)) =
        some ([.ofRooted "/a", .ofRooted "/b"], .error (.tooManyModules 3 2)) := by decide
  have hfuel : 2 < 3 := by decide
  obtain ⟨hcut, -, -, hfits⟩ :=
    expandInto_limited mentions (mentionsTwice (.ofRooted "/b")) threeFiles hfuel
  refine ⟨hfuel, (hcut empty).1, hfails, fun hall => ?_⟩
  obtain ⟨g, hg⟩ := (hfits _ (Memory.host_steady threeFiles) rfl).2 hall
  rw [run_expand] at hg
  obtain ⟨o, ho, hresult⟩ := Option.map_eq_some_iff.1 hg
  rw [ho] at hfails
  have hend : o.result = .error (.tooManyModules 3 2) :=
    congrArg Prod.snd (Option.some.inj hfails)
  rw [hend] at hresult
  cases hresult

end Steady

end ModuleBundler.Graph
