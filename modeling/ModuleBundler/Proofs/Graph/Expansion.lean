import ModuleBundler.Graph.Walk
import ModuleBundler.FileSystem.Memory
import ModuleBundler.Proofs.Graph.Breadth
import ModuleBundler.Proofs.Graph.Store
import ModuleBundler.Proofs.World
import Mathlib.Data.Set.Finite.Basic
import Mathlib.Data.Set.Finite.List

/-!
# What an expansion collects

Expanding an entry gives the graph of all that can be reached from it, or the failure that comes
first in breadth-first order. A walk keeps the graph, the visited identities and the queue in step:
the graph opens the breadth-first order, and what waits is what comes next.
-/

namespace ModuleBundler.Graph

open Breadth

/-- The modules that an identity depends on; those of the entry are the ones it came with. -/
def successors (f : ModuleId → Except BuildError Module) (entry : Module) (id : ModuleId) :
    List ModuleId :=
  if id = entry.id then entry.dependencyIds
  else match f id with
    | .ok m => m.dependencyIds
    | .error _ => []

/-- What the entry depends on, directly or through others, and the entry itself. -/
def Reachable (f : ModuleId → Except BuildError Module) (entry : Module) : ModuleId → Prop :=
  Reach (successors f entry) entry.id

/-- `id` does not build, and whatever comes before it in breadth-first order does. -/
def FirstFailure (f : ModuleId → Except BuildError Module) (entry : Module) (id : ModuleId)
    (e : BuildError) : Prop :=
  ∃ n before after, within (successors f entry) entry.id n = before ++ id :: after ∧
    id ≠ entry.id ∧ f id = .error e ∧ ∀ x ∈ before, x ≠ entry.id → ∃ m, f x = .ok m

section Lookup

theorem get?_of_mem {g : Graph} {m : Module} (h : m ∈ g.modules) : g.get? m.id = some m := by
  have hinj := List.inj_on_of_nodup_map g.nodup
  unfold get?
  cases hf : g.modules.find? fun n => n.id == m.id with
  | none =>
    have := List.find?_eq_none.1 hf m h
    simp at this
  | some n =>
    have hid : n.id = m.id := by simpa using List.find?_some hf
    rw [hinj (List.mem_of_find?_eq_some hf) h hid]

theorem mem_ids_iff {g : Graph} {id : ModuleId} : id ∈ g.ids ↔ ∃ m ∈ g.modules, m.id = id := by
  simp [ids]

theorem length_ids (g : Graph) : g.ids.length = g.size := List.length_map ..

theorem card_ids (g : Graph) : g.ids.toFinset.card = g.size := by
  have hnodup : g.ids.Nodup := g.nodup
  rw [List.toFinset_card_of_nodup hnodup, length_ids]

end Lookup

namespace Walk

section Order

variable {w : Walk}

/-- Passing over visited identities does not change what is new in the queue. -/
theorem removeAll_dropWhile (l visited : List ModuleId) :
    (l.dropWhile fun id => visited.contains id).removeAll visited = l.removeAll visited := by
  induction l with
  | nil => rfl
  | cons a l ih =>
    by_cases h : a ∈ visited
    · rw [List.dropWhile_cons, if_pos (by simpa using h), ih, List.cons_removeAll]
      simp [h]
    · simp [List.cons_removeAll, h]

theorem next?_none (h : w.next? = none) : w.queue.removeAll w.visited = [] := by
  unfold next? at h
  split at h
  · rename_i hq
    rw [← removeAll_dropWhile, hq]
    rfl
  · simp at h

theorem next?_some {id : ModuleId} {w' : Walk} (h : w.next? = some (id, w')) :
    ∃ queue, w' = { w with queue } ∧ id ∉ w.visited ∧
      w.queue.removeAll w.visited = id :: queue.removeAll w.visited := by
  unfold next? at h
  split at h
  · simp at h
  · rename_i x queue hq
    simp only [Option.some.injEq, Prod.mk.injEq] at h
    obtain ⟨rfl, rfl⟩ := h
    have hx : x ∉ w.visited := by
      have := List.head?_dropWhile_not (fun id => w.visited.contains id) w.queue
      rw [hq] at this
      simpa using this
    refine ⟨queue, rfl, hx, ?_⟩
    rw [← removeAll_dropWhile, hq, List.cons_removeAll]
    simp [hx]

end Order

section Lift

variable {m : Type → Type} [Monad m] {σ : Type} [World m σ] {I : σ → Prop}
variable {build : ModuleId → m (Except BuildError Module)}
variable {f : ModuleId → Except BuildError Module}

theorem step_gives (hf : ∀ id, Gives I (build id) (f id)) (limit : Option Nat) (w : Walk)
    (id : ModuleId) : Gives I (step build limit w id) (step (m := Id) f limit w id) := by
  unfold step
  cases checkLimit limit w.graph with
  | error e => exact .pure _
  | ok _ =>
    apply (hf id).bind
    change Gives I _ (Id.run _)
    cases f id with
    | error e => exact .pure _
    | ok built => exact .pure _

/-- A walk in a world gives what the same walk gives with a function for a builder. -/
theorem run_gives (hf : ∀ id, Gives I (build id) (f id)) (limit : Option Nat) (fuel : Nat)
    (w : Walk) : Gives I (run build limit fuel w) (run (m := Id) f limit fuel w) := by
  induction fuel generalizing w with
  | zero =>
    unfold run
    cases w.next? with
    | none => exact .pure _
    | some p => exact .pure _
  | succ fuel ih =>
    unfold run
    cases w.next? with
    | none => exact .pure _
    | some p =>
      apply (step_gives hf limit p.2 p.1).bind
      change Gives I _ (Id.run _)
      cases hs : step (m := Id) f limit p.2 p.1 with
      | error e => exact .pure _
      | ok w' => exact ih w'

end Lift

/-- The walk with which an expansion starts: the entry is in the graph, its dependencies wait. -/
def first (entry : Module) : Walk :=
  ⟨empty.push entry (by simp [empty, ids]), [entry.id], entry.dependencyIds, 1⟩

/-- What holds before every step of an unlimited walk from an entry. The graph holds the entry and
what was built; its identities open the breadth-first order, and those that wait are the next. -/
structure Sound (f : ModuleId → Except BuildError Module) (entry : Module) (w : Walk) : Prop where
  visited : ∀ id, id ∈ w.visited ↔ id ∈ w.graph.ids
  holds : entry ∈ w.graph.modules
  built : ∀ m ∈ w.graph.modules, m = entry ∨ m.id ≠ entry.id ∧ f m.id = .ok m
  opening : Opening (successors f entry) entry.id w.graph.ids
  waiting : (entry.id :: w.graph.ids.flatMap (successors f entry)).eraseDups =
    w.graph.ids ++ (w.queue.removeAll w.graph.ids).eraseDups

variable {f : ModuleId → Except BuildError Module} {entry : Module} {w : Walk}

namespace Sound

theorem entry_mem (hw : Sound f entry w) : entry.id ∈ w.graph.ids :=
  mem_ids_iff.2 ⟨entry, hw.holds, rfl⟩

theorem builds (hw : Sound f entry w) {id : ModuleId} (h : id ∈ w.graph.ids)
    (hne : id ≠ entry.id) : ∃ m, f id = .ok m := by
  obtain ⟨m, hm, rfl⟩ := mem_ids_iff.1 h
  obtain rfl | ⟨-, hm⟩ := hw.built m hm
  · exact absurd rfl hne
  · exact ⟨m, hm⟩

theorem get?_entry (hw : Sound f entry w) : w.graph.get? entry.id = some entry :=
  get?_of_mem hw.holds

theorem get?_other (hw : Sound f entry w) {id : ModuleId} (h : id ∈ w.graph.ids)
    (hne : id ≠ entry.id) : ∃ m, f id = .ok m ∧ w.graph.get? id = some m := by
  obtain ⟨m, hm, rfl⟩ := mem_ids_iff.1 h
  obtain rfl | ⟨-, hf⟩ := hw.built m hm
  · exact absurd rfl hne
  · exact ⟨m, hf, get?_of_mem hm⟩

theorem successors_of_mem (hw : Sound f entry w) {m : Module} (hm : m ∈ w.graph.modules) :
    successors f entry m.id = m.dependencyIds := by
  obtain rfl | ⟨hne, hf⟩ := hw.built m hm
  · simp [successors]
  · simp [successors, hne, hf]

/-- The queue, less what was seen, may be read off the graph as well as off the visited list. -/
theorem removeAll_visited (hw : Sound f entry w) (l : List ModuleId) :
    l.removeAll w.visited = l.removeAll w.graph.ids :=
  removeAll_congr fun id _ => hw.visited id

theorem first : Sound f entry (first entry) := by
  have hids : (Walk.first entry).graph.ids = [entry.id] := rfl
  have hsucc : successors f entry entry.id = entry.dependencyIds := by simp [successors]
  refine ⟨fun id => by rw [hids, Walk.first], List.mem_singleton_self entry, fun m hm => ?_, ?_, ?_⟩
  · exact .inl (List.mem_singleton.1 hm)
  · exact .singleton
  · rw [hids, List.flatMap_singleton, hsucc, Walk.first, ← List.singleton_append,
      List.eraseDups_append]
    rfl

/-- What comes first in the queue, seen identities apart, is next in order. -/
theorem opening_next (hw : Sound f entry w) {id : ModuleId} {queue : List ModuleId}
    (hnext : w.queue.removeAll w.graph.ids = id :: queue.removeAll w.graph.ids) :
    Opening (successors f entry) entry.id (w.graph.ids ++ [id]) := by
  have hsplit : (id :: queue.removeAll w.graph.ids).eraseDups =
      id :: ((queue.removeAll w.graph.ids).filter fun d => !d == id).eraseDups :=
    List.eraseDups_cons
  have hall := hw.waiting
  rw [hnext, hsplit] at hall
  exact hw.opening.snoc hall

/-- A module that was next in order and has been built is added without a duplicate, and the walk
stays sound. -/
theorem add_next (hw : Sound f entry w) {m : Module} {queue : List ModuleId}
    (hnew : m.id ∉ w.graph.ids) (hf : f m.id = .ok m)
    (hnext : w.queue.removeAll w.graph.ids = m.id :: queue.removeAll w.graph.ids) :
    Sound f entry ⟨w.graph.push m hnew, m.id :: w.visited,
      queue ++ m.dependencyIds.filter fun d => !(m.id :: w.visited).contains d, w.added + 1⟩ where
  visited id := by
    rw [ids_push, List.mem_cons, hw.visited, List.mem_append, List.mem_singleton, or_comm]
  holds := by simp [push, hw.holds]
  built n hn := by
    rw [push, List.mem_append, List.mem_singleton] at hn
    rcases hn with hn | rfl
    · exact hw.built n hn
    · exact .inr ⟨fun h => hnew (h ▸ hw.entry_mem), hf⟩
  opening := by
    rw [ids_push]
    exact hw.opening_next hnext
  waiting := by
    have hne : m.id ≠ entry.id := fun h => hnew (h ▸ hw.entry_mem)
    have hsucc : successors f entry m.id = m.dependencyIds := by simp [successors, hne, hf]
    have hfresh : (m.dependencyIds.filter fun d => !(m.id :: w.visited).contains d) =
        m.dependencyIds.removeAll (w.graph.ids ++ [m.id]) := by
      apply removeAll_congr
      intro d _
      rw [List.mem_cons, hw.visited, List.mem_append, List.mem_singleton, or_comm]
    rw [ids_push, List.flatMap_append, List.flatMap_singleton, hsucc, hfresh, ← List.cons_append]
    exact eraseDups_next hw.waiting hnext _

end Sound

section Steps

variable {id : ModuleId} {w' : Walk} {limit : Option Nat} {fuel : Nat}

theorem add_unlimited {m : Module} (h : m.id ∉ w.graph.ids) :
    w.add none m = .ok ⟨w.graph.push m h, m.id :: w.visited, w.queue, w.added + 1⟩ := by
  simp only [add, checkLimit, insert, dif_neg h]
  rfl

theorem step_error {e : BuildError} (h : f id = .error e) :
    step (m := Id) f none w id = .error e := by
  simp only [step, checkLimit]
  rw [h]
  rfl

theorem step_ok {m : Module} (h : f id = .ok m) :
    step (m := Id) f none w id =
      (w.enqueue (m.dependencyIds.filter fun d => !(id :: w.visited).contains d)).add none m := by
  simp only [step, checkLimit]
  rw [h]
  rfl

theorem run_idle (h : w.next? = none) :
    run (m := Id) f limit fuel w = some ⟨w.graph, .ok w.added⟩ := by
  unfold run
  rw [h]
  rfl

theorem run_exhausted {p : ModuleId × Walk} (h : w.next? = some p) :
    run (m := Id) f limit 0 w = none := by
  unfold run
  rw [h]
  rfl

theorem run_error (h : w.next? = some (id, w')) {e : BuildError}
    (hs : step (m := Id) f limit w' id = .error e) :
    run (m := Id) f limit (fuel + 1) w = some ⟨w'.graph, .error e⟩ := by
  have hstep : step (m := Id) f limit w' id = pure (.error e) := hs
  rw [run, h]
  simp only
  rw [hstep, pure_bind]
  rfl

theorem run_ok (h : w.next? = some (id, w')) {w'' : Walk}
    (hs : step (m := Id) f limit w' id = .ok w'') :
    run (m := Id) f limit (fuel + 1) w = run (m := Id) f limit fuel w'' := by
  have hstep : step (m := Id) f limit w' id = pure (.ok w'') := hs
  rw [run, h]
  simp only
  rw [hstep, pure_bind]

end Steps

/-- A step builds the identity that is next. It fails with the build error, or adds the module. -/
theorem step_of_sound (hf : ∀ id m, f id = .ok m → m.id = id) (hw : Sound f entry w)
    {id : ModuleId} {w' : Walk} (hnext : w.next? = some (id, w')) :
    (∃ e, f id = .error e ∧ step (m := Id) f none w' id = .error e) ∨
      ∃ w'', step (m := Id) f none w' id = .ok w'' ∧ Sound f entry w'' ∧
        w''.graph.size = w.graph.size + 1 := by
  obtain ⟨queue, rfl, hid, hqueue⟩ := next?_some hnext
  rw [hw.removeAll_visited, hw.removeAll_visited] at hqueue
  rw [hw.visited] at hid
  cases h : f id with
  | error e => exact .inl ⟨e, rfl, step_error h⟩
  | ok m =>
    obtain rfl := hf id m h
    refine .inr ⟨_, ?_, hw.add_next hid h hqueue, by simp [push, size]⟩
    rw [step_ok h]
    exact add_unlimited (w := enqueue ⟨w.graph, w.visited, queue, w.added⟩ _) hid

/-- How an unlimited walk can end: it has run out of fuel after as many modules, nothing waits any
more, or the identity that is next does not build. -/
theorem run_of_sound (hf : ∀ id m, f id = .ok m → m.id = id) (fuel : Nat)
    (hw : Sound f entry w) :
    (run (m := Id) f none fuel w = none ∧
      ∃ w', Sound f entry w' ∧ w'.graph.size = w.graph.size + fuel) ∨
    (∃ w', Sound f entry w' ∧ w'.next? = none ∧
      run (m := Id) f none fuel w = some ⟨w'.graph, .ok w'.added⟩) ∨
    (∃ w' id w'' e, Sound f entry w' ∧ w'.next? = some (id, w'') ∧ f id = .error e ∧
      run (m := Id) f none fuel w = some ⟨w'.graph, .error e⟩) := by
  induction fuel generalizing w with
  | zero =>
    cases hnext : w.next? with
    | none => exact .inr (.inl ⟨w, hw, hnext, run_idle hnext⟩)
    | some p => exact .inl ⟨run_exhausted hnext, w, hw, rfl⟩
  | succ fuel ih =>
    cases hnext : w.next? with
    | none => exact .inr (.inl ⟨w, hw, hnext, run_idle hnext⟩)
    | some p =>
      obtain ⟨id, w'⟩ := p
      obtain ⟨e, he, hstep⟩ | ⟨w'', hstep, hw'', hsize⟩ := step_of_sound hf hw hnext
      · have hgraph : w'.graph = w.graph := by
          obtain ⟨queue, rfl, -⟩ := next?_some hnext
          rfl
        exact .inr (.inr ⟨w, id, w', e, hw, hnext, he, hgraph ▸ run_error hnext hstep⟩)
      · rw [run_ok hnext hstep]
        obtain ⟨hnone, v, hv, hvsize⟩ | hdone := ih hw''
        · exact .inl ⟨hnone, v, hv, by omega⟩
        · exact .inr hdone

namespace Sound

theorem closed (hw : Sound f entry w) (hnext : w.next? = none) {id : ModuleId} :
    id ∈ w.graph.ids ↔ Reachable f entry id := by
  refine ⟨fun h => hw.opening.reach h, fun h => mem_of_reach hw.entry_mem ?_ h⟩
  intro a ha b hb
  have hall := hw.waiting
  rw [← hw.removeAll_visited, next?_none hnext, List.eraseDups_nil, List.append_nil] at hall
  rw [← hall, List.mem_eraseDups]
  exact List.mem_cons_of_mem _ (List.mem_flatMap.2 ⟨a, ha, hb⟩)

theorem validate (hw : Sound f entry w) (hnext : w.next? = none) :
    w.graph.validate entry.id = .ok () := by
  refine validate_eq_ok.2 ⟨hw.entry_mem, fun m hm d hd => ?_⟩
  rw [← hw.successors_of_mem hm] at hd
  exact (hw.closed hnext).2 (.step ((hw.closed hnext).1 (mem_ids_iff.2 ⟨m, hm, rfl⟩)) hd)

/-- When the identity that is next does not build, it is the first that does not. -/
theorem firstFailure (hw : Sound f entry w) {id : ModuleId} {w' : Walk}
    (hnext : w.next? = some (id, w')) {e : BuildError} (he : f id = .error e) :
    FirstFailure f entry id e := by
  obtain ⟨queue, rfl, hid, hqueue⟩ := next?_some hnext
  rw [hw.removeAll_visited, hw.removeAll_visited] at hqueue
  rw [hw.visited] at hid
  obtain ⟨n, after, hn⟩ := hw.opening_next hqueue
  refine ⟨n, w.graph.ids, after, by rw [← hn, List.append_assoc, List.singleton_append], ?_, he,
    fun x hx hne => hw.builds hx hne⟩
  rintro rfl
  exact hid hw.entry_mem

/-- A sound walk has not gone past an identity that fails. -/
theorem size_le_of_failure (hw : Sound f entry w) {x : ModuleId} {e : BuildError} {n : Nat}
    (hx : x ∈ within (successors f entry) entry.id n) (hne : x ≠ entry.id)
    (hfail : f x = .error e) :
    w.graph.size ≤ (within (successors f entry) entry.id n).length := by
  obtain hpre | hpre := hw.opening.comparable ⟨n, List.prefix_rfl⟩
  · exact length_ids w.graph ▸ hpre.length_le
  · obtain ⟨m, hm⟩ := hw.builds (hpre.subset hx) hne
    rw [hfail] at hm
    cases hm

theorem size_le_of_finite (hw : Sound f entry w) (hfin : {id | Reachable f entry id}.Finite) :
    w.graph.size ≤ hfin.toFinset.card := by
  rw [← card_ids]
  apply Finset.card_le_card
  intro id hid
  rw [Set.Finite.mem_toFinset]
  exact hw.opening.reach (List.mem_toFinset.1 hid)

end Sound

/-- More fuel does not change how a walk ends. -/
theorem run_mono {limit : Option Nat} {n fuel : Nat} {o : Outcome}
    (h : run (m := Id) f limit n w = some o) (hle : n ≤ fuel) :
    run (m := Id) f limit fuel w = some o := by
  induction n generalizing w fuel with
  | zero =>
    cases hnext : w.next? with
    | none =>
      rw [run_idle hnext] at h ⊢
      exact h
    | some p =>
      rw [run_exhausted hnext] at h
      cases h
  | succ n ih =>
    obtain ⟨fuel, rfl⟩ := Nat.exists_eq_add_of_le' (Nat.lt_of_lt_of_le n.succ_pos hle)
    cases hnext : w.next? with
    | none =>
      rw [run_idle hnext] at h ⊢
      exact h
    | some p =>
      cases hs : step (m := Id) f limit p.2 p.1 with
      | error e =>
        rw [run_error hnext hs] at h ⊢
        exact h
      | ok w' =>
        rw [run_ok hnext hs] at h ⊢
        exact ih h (Nat.le_of_succ_le_succ hle)

/-- A walk through finitely many modules that build ends when nothing waits. -/
theorem run_of_finite (hf : ∀ id m, f id = .ok m → m.id = id)
    (hfin : {id | Reachable f entry id}.Finite)
    (hall : ∀ id, Reachable f entry id → id ≠ entry.id → ∃ m, f id = .ok m) :
    ∃ w, Sound f entry w ∧ w.next? = none ∧
      run (m := Id) f none hfin.toFinset.card (first entry) = some ⟨w.graph, .ok w.added⟩ := by
  obtain ⟨-, w, hw, hsize⟩ | ⟨w, hw, hnext, hrun⟩ | ⟨w, id, w', e, hw, hnext, he, -⟩ :=
    run_of_sound hf hfin.toFinset.card Sound.first
  · have hle := hw.size_le_of_finite hfin
    have : (first entry).graph.size = 1 := rfl
    omega
  · exact ⟨w, hw, hnext, hrun⟩
  · obtain ⟨n, before, after, hn, hne, -, -⟩ := hw.firstFailure hnext he
    obtain ⟨m, hm⟩ := hall id (reach_of_mem_within (n := n) (by rw [hn]; simp)) hne
    rw [he] at hm
    cases hm

/-- A walk from which a failing module can be reached ends at the first such module. -/
theorem run_of_failure (hf : ∀ id m, f id = .ok m → m.id = id) {x : ModuleId} {err : BuildError}
    (hreach : Reachable f entry x) (hne : x ≠ entry.id) (herr : f x = .error err) :
    ∃ w id w' e, Sound f entry w ∧ w.next? = some (id, w') ∧ f id = .error e ∧
      ∃ n, run (m := Id) f none n (first entry) = some ⟨w.graph, .error e⟩ := by
  obtain ⟨k, hk⟩ := exists_mem_within hreach
  obtain ⟨-, w, hw, hsize⟩ | ⟨w, hw, hnext, -⟩ | ⟨w, id, w', e, hw, hnext, he, hrun⟩ :=
    run_of_sound hf (within (successors f entry) entry.id k).length Sound.first
  · have hle := hw.size_le_of_failure hk hne herr
    have : (first entry).graph.size = 1 := rfl
    omega
  · obtain ⟨m, hm⟩ := hw.builds ((hw.closed hnext).2 hreach) hne
    rw [herr] at hm
    cases hm
  · exact ⟨w, id, w', e, hw, hnext, he, _, hrun⟩

end Walk

section Expand

variable {m : Type → Type} [Monad m] {σ : Type} [World m σ] {I : σ → Prop} {b : Builder m}

/-- An expansion is a walk with what the builder gives in the present state. -/
theorem expand_gives (hb : b.host.Steady I) {s : σ} (hs : I s) (fuel : Nat) (entry : Module) :
    (World.run (expand b none fuel entry) s).1 =
      (Walk.run (m := Id) (b.built s) none fuel (Walk.first entry)).map
        fun o => o.result.map fun _ => o.graph := by
  have hstart : Walk.start none empty entry = .ok (Walk.first entry) := by
    have hnew : empty.contains entry.id = false := by simp [contains, empty, ids]
    simp only [Walk.start, hnew]
    rfl
  rw [expand, expandInto, hstart, World.run_bind,
    (Walk.run_gives (fun id => Builder.gives_built hb hs id) none fuel _ s hs).1, World.run_pure]

/-- Without a limit, expanding an entry gives the graph of exactly what can be reached from it, when
that is finite and all of it builds, and otherwise the first failure in breadth-first order. -/
theorem expand_reachable (hb : b.host.Steady I) {s : σ} (hs : I s) (entry : Module) :
    ({id | Reachable (b.built s) entry id}.Finite →
      (∀ id, Reachable (b.built s) entry id → id ≠ entry.id → ∃ m, b.built s id = .ok m) →
      ∃ g : Graph, (∃ n, ∀ fuel, n ≤ fuel →
          (World.run (expand b none fuel entry) s).1 = some (.ok g)) ∧
        (∀ id, id ∈ g.ids ↔ Reachable (b.built s) entry id) ∧ g.ids.Nodup ∧
        g.get? entry.id = some entry ∧
        (∀ id, Reachable (b.built s) entry id → id ≠ entry.id →
          ∃ m, b.built s id = .ok m ∧ g.get? id = some m) ∧
        g.validate entry.id = .ok ()) ∧
    ((∃ id e, Reachable (b.built s) entry id ∧ id ≠ entry.id ∧ b.built s id = .error e) →
      ∃ id e, FirstFailure (b.built s) entry id e ∧ ∃ n, ∀ fuel, n ≤ fuel →
        (World.run (expand b none fuel entry) s).1 = some (.error e)) := by
  have hid : ∀ id m, b.built s id = .ok m → m.id = id := fun _ _ => Builder.id_of_built
  simp only [expand_gives hb hs]
  refine ⟨fun hfin hall => ?_, fun ⟨id, e, hreach, hne, he⟩ => ?_⟩
  · obtain ⟨w, hw, hnext, hrun⟩ := Walk.run_of_finite hid hfin hall
    refine ⟨w.graph, ⟨hfin.toFinset.card, fun fuel hfuel => ?_⟩, fun id => hw.closed hnext,
      hw.opening.nodup, hw.get?_entry, fun id hreach hne => hw.get?_other ((hw.closed hnext).2 hreach) hne,
      hw.validate hnext⟩
    rw [Walk.run_mono hrun hfuel]
    rfl
  · obtain ⟨w, id, w', e, hw, hnext, he, n, hrun⟩ := Walk.run_of_failure hid hreach hne he
    refine ⟨id, e, hw.firstFailure hnext he, n, fun fuel hfuel => ?_⟩
    rw [Walk.run_mono hrun hfuel]
    rfl

end Expand

section Mentions

open FileSystem (Memory)

/-- A builder for which the text of a file is the one path that the file mentions. -/
def mentions : Builder (StateM Memory) where
  host := Memory.host
  transformer := ⟨fun text _ => .ok ⟨.ofList [(text, text)], text⟩⟩

/-- Three files, of which one mentions a file that is not there. -/
def threeFiles : Memory :=
  .ofFiles "/" [("/b", Text.encode "./c"), ("/c", Text.encode "./b"), ("/d", Text.encode "./e")]

/-- A module that mentions the same file under two specifiers. -/
def mentionsTwice (target : ModuleId) : Module :=
  ⟨.ofRooted "/a", .ofList [("./x", target), ("y", target)], ""⟩

/-- Two files that mention each other are collected once each; a missing file is reported. -/
theorem expand_mentions :
    Memory.host.Steady (fun t => t = threeFiles) ∧
    (∃ g : Graph, (∃ n, ∀ fuel, n ≤ fuel → (World.run (expand mentions none fuel
        (mentionsTwice (.ofRooted "/b"))) threeFiles).1 = some (.ok g)) ∧
      ∀ id, id ∈ g.ids ↔ Reachable (mentions.built threeFiles)
        (mentionsTwice (.ofRooted "/b")) id) ∧
    ∃ n, ∀ fuel, n ≤ fuel → (World.run (expand mentions none fuel
      (mentionsTwice (.ofRooted "/d"))) threeFiles).1 = some (.error (.fileNotFound "/e")) := by
  have hb : mentions.built threeFiles (.ofRooted "/b") =
      .ok ⟨.ofRooted "/b", .ofList [("./c", .ofRooted "/c")], "./c"⟩ := by decide
  have hc : mentions.built threeFiles (.ofRooted "/c") =
      .ok ⟨.ofRooted "/c", .ofList [("./b", .ofRooted "/b")], "./b"⟩ := by decide
  have hd : mentions.built threeFiles (.ofRooted "/d") =
      .ok ⟨.ofRooted "/d", .ofList [("./e", .ofRooted "/e")], "./e"⟩ := by decide
  have he : mentions.built threeFiles (.ofRooted "/e") = .error (.fileNotFound "/e") := by decide
  have hsteady := Memory.host_steady threeFiles
  have hfrom_b : ∀ id, Reachable (mentions.built threeFiles) (mentionsTwice (.ofRooted "/b")) id →
      id ∈ [ModuleId.ofRooted "/a", .ofRooted "/b", .ofRooted "/c"] := by
    intro id h
    exact mem_of_reach (by decide) (by decide) h
  have hfrom_d : ∀ id, Reachable (mentions.built threeFiles) (mentionsTwice (.ofRooted "/d")) id →
      id ∈ [ModuleId.ofRooted "/a", .ofRooted "/d", .ofRooted "/e"] := by
    intro id h
    exact mem_of_reach (by decide) (by decide) h
  refine ⟨hsteady, ?_, ?_⟩
  · have hall : ∀ id, Reachable (mentions.built threeFiles) (mentionsTwice (.ofRooted "/b")) id →
        id ≠ (mentionsTwice (.ofRooted "/b")).id → ∃ m, mentions.built threeFiles id = .ok m := by
      intro id h hne
      have hmem := hfrom_b id h
      simp only [List.mem_cons, List.not_mem_nil, or_false] at hmem
      obtain rfl | rfl | rfl := hmem
      · exact absurd rfl hne
      · exact ⟨_, hb⟩
      · exact ⟨_, hc⟩
    obtain ⟨g, hg, hids, -⟩ := (expand_reachable (b := mentions) hsteady rfl
      (mentionsTwice (.ofRooted "/b"))).1 ((List.finite_toSet _).subset hfrom_b) hall
    exact ⟨g, hg, hids⟩
  · have hreach : Reachable (mentions.built threeFiles) (mentionsTwice (.ofRooted "/d"))
        (.ofRooted "/e") :=
      .step (.step .root (by decide : ModuleId.ofRooted "/d" ∈ _)) (by decide)
    obtain ⟨id, e, ⟨n, before, after, hw, hne, hfail, -⟩, hrun⟩ :=
      (expand_reachable (b := mentions) hsteady rfl (mentionsTwice (.ofRooted "/d"))).2
        ⟨_, _, hreach, by decide, he⟩
    have hmem := hfrom_d id (reach_of_mem_within (n := n) (by rw [hw]; simp))
    simp only [List.mem_cons, List.not_mem_nil, or_false] at hmem
    obtain rfl | rfl | rfl := hmem
    · exact absurd rfl hne
    · rw [hd] at hfail
      cases hfail
    · rw [he] at hfail
      cases hfail
      exact hrun

end Mentions

end ModuleBundler.Graph
