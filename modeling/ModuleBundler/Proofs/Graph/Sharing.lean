import ModuleBundler.Proofs.FileSystem.Reading
import ModuleBundler.Proofs.Graph.Course
import ModuleBundler.Proofs.Graph.Growth
import ModuleBundler.Proofs.Path
import Mathlib.Data.Set.Card

/-!
# Walking into a shared graph

A graph may hold modules before an entry is expanded into it. These are passed over together with
whatever only they depend on, and all else that the entry leads to is added. Nothing that the graph
held is read, and nothing is added twice.
-/

namespace ModuleBundler.Graph

open Breadth
open FileSystem (Host Record Memory)
open FileSystem.Record (reading)

/-- The least set of identities outside `g` that holds the entry, what the entry depends on, and
what any other member depends on once it is built. -/
inductive Missing (f : ModuleId → Except BuildError Module) (g : Graph) (entry : Module) :
    ModuleId → Prop
  | entry (hnew : entry.id ∉ g.ids) : Missing f g entry entry.id
  | mentioned {d : ModuleId} (hd : d ∈ entry.dependencyIds) (hnew : d ∉ g.ids) :
    Missing f g entry d
  | further {id d : ModuleId} {m : Module} (hid : Missing f g entry id) (hne : id ≠ entry.id)
    (hbuild : f id = .ok m) (hd : d ∈ m.dependencyIds) (hnew : d ∉ g.ids) : Missing f g entry d

/-- The files of some modules, but for the entry, which is there before a walk. -/
def sourcesOf (entry : Module) (added : List Module) : List String :=
  (added.filter fun m => m.id ≠ entry.id).map fun m => m.id.path

/-- A graph that comes from `g` by adding modules that were missing. -/
structure Adds (f : ModuleId → Except BuildError Module) (g : Graph) (entry : Module)
    (added : List Module) (after : Graph) : Prop where
  graph : after.modules = g.modules ++ added
  missing : ∀ m ∈ added, Missing f g entry m.id
  built : ∀ m ∈ added, m = entry ∨ m.id ≠ entry.id ∧ f m.id = .ok m

/-- How an expansion of an entry into `g` came out, which added some modules and asked for the files
at `paths`. -/
structure Filled (f : ModuleId → Except BuildError Module) (limit : Option Nat) (g : Graph)
    (entry : Module) (o : Walk.Outcome) (added : List Module) (paths : List String) : Prop
    extends Adds f g entry added o.graph where
  /-- What is counted in the end is all that was missing. -/
  count : ∀ n, o.result = .ok n → n = added.length ∧ n = {id | Missing f g entry id}.ncard
  complete : ∀ n, o.result = .ok n → ∀ id, Missing f g entry id → ∃ m ∈ added, m.id = id
  closed : ∀ n, o.result = .ok n →
    ∀ m, m = entry ∨ m ∈ added → ∀ d ∈ m.dependencyIds, d ∈ o.graph.ids
  /-- A dependency that dangles in what becomes of the graph is one of a module that the walk did
  not add. -/
  dangling : ∀ n, o.result = .ok n → ∀ later root source specifier target,
    Extends o.graph later → later.validate root = .error (.dangling source specifier target) →
      source ∈ g.ids ∨ source ∉ o.graph.ids
  /-- A walk fails at something that is missing and was not added, or at the limit. -/
  failure : ∀ e, o.result = .error e →
    (∃ id, Missing f g entry id ∧ id ∉ o.graph.ids ∧ f id = .error e ∧
      paths = sourcesOf entry added ++ [id.path]) ∨
    (∃ most, limit = some most ∧ most ≤ o.graph.size ∧
      e = .tooManyModules (o.graph.size + 1) most ∧ paths = sourcesOf entry added)
  read : ∀ n, o.result = .ok n → paths = sourcesOf entry added
  unread : ∀ id ∈ g.ids, id.path ∉ paths
  noDuplicate : ∀ e, o.result ≠ .error (.graph e)

theorem Missing.not_mem {f : ModuleId → Except BuildError Module} {g : Graph} {entry : Module}
    {id : ModuleId} (h : Missing f g entry id) : id ∉ g.ids := by
  cases h with
  | entry hnew => exact hnew
  | mentioned _ hnew => exact hnew
  | further _ _ _ _ hnew => exact hnew

namespace Adds

variable {f : ModuleId → Except BuildError Module} {g after : Graph} {entry : Module}
variable {added : List Module}

theorem mem_ids (h : Adds f g entry added after) {id : ModuleId} :
    id ∈ after.ids ↔ id ∈ g.ids ∨ ∃ m ∈ added, m.id = id := by
  simp [ids, h.graph]

/-- What was added has another path than what the graph held. -/
theorem not_mem_sourcesOf (h : Adds f g entry added after) {id : ModuleId} (hid : id ∈ g.ids) :
    id.path ∉ sourcesOf entry added := by
  intro hmem
  obtain ⟨m, hm, hpath⟩ := List.mem_map.1 hmem
  have hsame := ModuleId.path_injective hpath
  exact (h.missing m (List.mem_filter.1 hm).1).not_mem (hsame ▸ hid)

end Adds

/-- A dependency that dangles is one of a module in the graph, and leads out of the graph. -/
theorem dangling_of_validate {g : Graph} {root source target : ModuleId} {specifier : String}
    (h : g.validate root = .error (.dangling source specifier target)) :
    ∃ m ∈ g.modules, m.id = source ∧ target ∈ m.dependencyIds ∧ target ∉ g.ids := by
  by_cases hroot : root ∈ g.ids
  · obtain ⟨before, m, after, early, _, _, late, hmodules, -, hentries, -, hout, he⟩ :=
      (validate_eq_error hroot).1 h
    cases he
    refine ⟨m, by simp [hmodules], rfl, ?_, hout⟩
    simp [Module.dependencyIds, OrderedMap.values, hentries]
  · rw [validate_of_not_mem hroot] at h
    cases h

/-- Building never finds that a module is in a graph already. -/
theorem built_ne_graph {m : Type → Type} [Monad m] {σ : Type} [World m σ] {b : Builder m} {s : σ}
    {id : ModuleId} {e : Graph.Error} : b.built s id ≠ .error (.graph e) := by
  intro h
  obtain ⟨cause, -, hcause⟩ | h | ⟨_, h⟩ | ⟨_, h⟩ | ⟨_, h⟩ := Builder.built_error h
  · cases cause <;> cases hcause
  all_goals cases h

/-- What an expansion adds up to a failure is part of what was missing. -/
theorem Adds.filled_short {g after : Graph} {entry : Module} {added : List Module}
    {m : Type → Type} [Monad m] {σ : Type} [World m σ] {b : Builder m} {s : σ} {limit : Option Nat}
    (h : Adds (b.built s) g entry added after) {e : BuildError}
    {paths : List String}
    (hfailure : (∃ id, Missing (b.built s) g entry id ∧ id ∉ after.ids ∧
        b.built s id = .error e ∧ paths = sourcesOf entry added ++ [id.path]) ∨
      (∃ most, limit = some most ∧ most ≤ after.size ∧
        e = .tooManyModules (after.size + 1) most ∧ paths = sourcesOf entry added)) :
    Filled (b.built s) limit g entry ⟨after, .error e⟩ added paths where
  toAdds := h
  count n hn := nomatch hn
  complete n hn := nomatch hn
  closed n hn := nomatch hn
  dangling n hn := nomatch hn
  failure e' he := by
    cases he
    exact hfailure
  read n hn := nomatch hn
  unread id hid hmem := by
    rcases hfailure with ⟨x, hx, -, -, rfl⟩ | ⟨_, -, -, -, rfl⟩
    · rcases List.mem_append.1 hmem with hmem | hmem
      · exact h.not_mem_sourcesOf hid hmem
      · have hsame := ModuleId.path_injective (List.mem_singleton.1 hmem)
        exact hx.not_mem (hsame ▸ hid)
    · exact h.not_mem_sourcesOf hid hmem
  noDuplicate e' he := by
    cases he
    rcases hfailure with ⟨x, -, -, hbuilt, -⟩ | ⟨_, -, -, he, -⟩
    · exact built_ne_graph hbuilt
    · cases he

namespace Walk

variable {f : ModuleId → Except BuildError Module} {g : Graph} {entry : Module}
variable {added : List Module} {w : Walk}

/-- What holds before every step of a walk into `g`: behind what `g` held, the graph has modules
that were missing, and all that they depend on is there, or waits. -/
structure Filling (f : ModuleId → Except BuildError Module) (g : Graph) (entry : Module)
    (added : List Module) (w : Walk) : Prop extends Adds f g entry added w.graph where
  count : w.added = added.length
  holds : entry.id ∈ w.graph.ids
  waiting : ∀ d ∈ w.queue, d ∈ g.ids ∨ Missing f g entry d
  covered : ∀ m, m = entry ∨ m ∈ added → ∀ d ∈ m.dependencyIds, d ∈ w.graph.ids ∨ d ∈ w.queue

namespace Filling

theorem along (h : entry.id ∈ g.ids) : Filling f g entry [] (along g entry) where
  graph := (List.append_nil _).symm
  count := rfl
  missing m hm := nomatch hm
  built m hm := nomatch hm
  holds := h
  waiting d hd := by
    by_cases hnew : d ∈ g.ids
    · exact .inl hnew
    · exact .inr (.mentioned hd hnew)
  covered m hm d hd := by
    obtain rfl | hm := hm
    · exact .inr hd
    · cases hm

theorem beyond (h : entry.id ∉ g.ids) : Filling f g entry [entry] (beyond g entry h) where
  graph := rfl
  count := rfl
  missing m hm := by
    obtain rfl := List.mem_singleton.1 hm
    exact .entry h
  built m hm := .inl (List.mem_singleton.1 hm)
  holds := by simp [Walk.beyond]
  waiting d hd := by
    by_cases hnew : d ∈ g.ids
    · exact .inl hnew
    · exact .inr (.mentioned hd hnew)
  covered m hm d hd := by
    have hm : m = entry := hm.elim id List.mem_singleton.1
    exact .inr (hm ▸ hd)

/-- The identity that is next is missing. -/
theorem next_missing (hw : Filling f g entry added w) {id : ModuleId} {queue : List ModuleId}
    (hnew : id ∉ w.graph.ids) (ht : w.Tracked)
    (hnext : w.next? = some (id, { w with queue })) : Missing f g entry id := by
  have hunseen : id ∉ w.visited := fun h => hnew ((ht id).1 h)
  obtain hold | hmissing := hw.waiting id ((mem_queue_iff hnext hunseen).2 (.inl rfl))
  · exact absurd (hw.mem_ids.2 (.inl hold)) hnew
  · exact hmissing

section Take

variable {n : Module} {queue : List ModuleId}

/-- What waits after a step was there before the walk, or is missing. -/
theorem waiting_take (hw : Filling f g entry added w) (ht : w.Tracked) (h : n.id ∉ w.graph.ids)
    (hnext : w.next? = some (n.id, { w with queue })) (hbuild : f n.id = .ok n) {d : ModuleId}
    (hd : d ∈ (Walk.take { w with queue } n h).queue) : d ∈ g.ids ∨ Missing f g entry d := by
  by_cases hold : d ∈ g.ids
  · exact .inl hold
  · rcases List.mem_append.1 hd with hd | hd
    · by_cases hseen : d ∈ w.visited
      · obtain hd | ⟨m, hm, rfl⟩ := hw.mem_ids.1 ((ht d).1 hseen)
        · exact .inl hd
        · exact .inr (hw.missing m hm)
      · exact hw.waiting d ((mem_queue_iff hnext hseen).2 (.inr hd))
    · have hne : n.id ≠ entry.id := fun heq => h (heq ▸ hw.holds)
      exact .inr (.further (hw.next_missing h ht hnext) hne hbuild (List.mem_filter.1 hd).1 hold)

/-- After a step the dependencies of all that was added are there, or wait. -/
theorem covered_take (hw : Filling f g entry added w) (ht : w.Tracked) (h : n.id ∉ w.graph.ids)
    (hnext : w.next? = some (n.id, { w with queue })) {m : Module}
    (hm : m = entry ∨ m ∈ added ++ [n]) {d : ModuleId} (hd : d ∈ m.dependencyIds) :
    d ∈ (Walk.take { w with queue } n h).graph.ids ∨
      d ∈ (Walk.take { w with queue } n h).queue := by
  have hgrown : d ∈ (Walk.take { w with queue } n h).graph.ids ↔ d ∈ w.graph.ids ∨ d = n.id := by
    rw [Walk.take, ids_push, List.mem_append, List.mem_singleton]
  by_cases hin : d ∈ (Walk.take { w with queue } n h).graph.ids
  · exact .inl hin
  · rw [hgrown, not_or] at hin
    have hunseen : d ∉ w.visited := fun hseen => hin.1 ((ht d).1 hseen)
    refine .inr (List.mem_append.2 ?_)
    rcases or_assoc.2 (hm.imp_right List.mem_append.1) with hm | hm
    · have hd := (hw.covered m hm d hd).resolve_left hin.1
      exact .inl (((mem_queue_iff hnext hunseen).1 hd).resolve_left hin.2)
    · obtain rfl := List.mem_singleton.1 hm
      refine .inr (List.mem_filter.2 ⟨hd, ?_⟩)
      simpa using ⟨hin.2, hunseen⟩

/-- A step adds what was missing and is built, and keeps the rest. -/
theorem take (hw : Filling f g entry added w) (ht : w.Tracked) (h : n.id ∉ w.graph.ids)
    (hnext : w.next? = some (n.id, { w with queue })) (hbuild : f n.id = .ok n) :
    Filling f g entry (added ++ [n]) (Walk.take { w with queue } n h) where
  graph := by
    change w.graph.modules ++ [n] = _
    rw [hw.graph, List.append_assoc]
  count := by
    change w.added + 1 = _
    rw [hw.count, List.length_append, List.length_singleton]
  missing m hm := by
    rcases List.mem_append.1 hm with hm | hm
    · exact hw.missing m hm
    · exact List.mem_singleton.1 hm ▸ hw.next_missing h ht hnext
  built m hm := by
    rcases List.mem_append.1 hm with hm | hm
    · exact hw.built m hm
    · obtain rfl := List.mem_singleton.1 hm
      exact .inr ⟨fun heq => h (heq ▸ hw.holds), hbuild⟩
  holds := by
    rw [Walk.take, ids_push]
    exact List.mem_append_left _ hw.holds
  waiting _ hd := hw.waiting_take ht h hnext hbuild hd
  covered _ hm _ hd := hw.covered_take ht h hnext hm hd

end Take

/-- When nothing waits, whatever was missing has been added. -/
theorem closed (hw : Filling f g entry added w) (ht : w.Tracked) (hnext : w.next? = none) :
    ∀ m, m = entry ∨ m ∈ added → ∀ d ∈ m.dependencyIds, d ∈ w.graph.ids := by
  intro m hm d hd
  obtain hd | hd := hw.covered m hm d hd
  · exact hd
  · by_contra hnew
    have hwaits : d ∈ w.queue.removeAll w.visited :=
      mem_removeAll_iff.2 ⟨hd, fun hseen => hnew ((ht d).1 hseen)⟩
    rw [next?_none hnext] at hwaits
    cases hwaits

theorem complete (hw : Filling f g entry added w) (ht : w.Tracked) (hnext : w.next? = none)
    {id : ModuleId} (h : Missing f g entry id) : ∃ m ∈ added, m.id = id := by
  have hclosed := hw.closed ht hnext
  induction h with
  | entry hnew => exact (hw.mem_ids.1 hw.holds).resolve_left hnew
  | mentioned hd hnew => exact (hw.mem_ids.1 (hclosed entry (.inl rfl) _ hd)).resolve_left hnew
  | @further _ _ m _ hne hbuild hd hnew ih =>
    obtain ⟨n, hn, rfl⟩ := ih
    obtain heq | ⟨-, hbuilt⟩ := hw.built n hn
    · exact absurd (congrArg Module.id heq) hne
    · have hsame : n = m := Except.ok.inj (hbuilt.symm.trans hbuild)
      exact (hw.mem_ids.1 (hclosed n (.inr hn) _ (hsame ▸ hd))).resolve_left hnew

/-- What was added is counted once each. -/
theorem ncard_missing (hw : Filling f g entry added w) (ht : w.Tracked) (hnext : w.next? = none) :
    {id | Missing f g entry id}.ncard = added.length := by
  have hnodup : (added.map Module.id).Nodup := by
    have := w.graph.nodup
    rw [hw.graph, List.map_append] at this
    exact (List.nodup_append.1 this).2.1
  have hset : {id | Missing f g entry id} = ↑(added.map Module.id).toFinset := by
    ext id
    rw [List.coe_toFinset]
    change Missing f g entry id ↔ id ∈ added.map Module.id
    rw [List.mem_map]
    refine ⟨hw.complete ht hnext, ?_⟩
    rintro ⟨m, hm, rfl⟩
    exact hw.missing m hm
  rw [hset, Set.ncard_coe_finset, List.toFinset_card_of_nodup hnodup, List.length_map]

/-- The walk has read what it added, the entry apart. -/
theorem sourcesOf_snoc (hw : Filling f g entry added w) {n : Module} (h : n.id ∉ w.graph.ids) :
    sourcesOf entry (added ++ [n]) = sourcesOf entry added ++ [n.id.path] := by
  have hne : n.id ≠ entry.id := fun heq => h (heq ▸ hw.holds)
  simp [sourcesOf, List.filter_append, hne]

end Filling

section Ends

variable {m : Type → Type} [Monad m] {σ : Type} [World m σ] {I : σ → Prop} {b : Builder m}
variable {limit : Option Nat} {fuel : Nat} {s : σ}

/-- A walk into `g` that nothing waits for any more has added all that was missing. -/
theorem Filling.filled_idle (hw : Filling (b.built s) g entry added w) (ht : w.Tracked)
    (hnext : w.next? = none) :
    Filled (b.built s) limit g entry ⟨w.graph, .ok w.added⟩ added (sourcesOf entry added) where
  toAdds := hw.toAdds
  count n hn := by
    cases hn
    exact ⟨hw.count, by rw [hw.ncard_missing ht hnext, hw.count]⟩
  complete _ _ _ := hw.complete ht hnext
  closed _ _ := hw.closed ht hnext
  dangling _ _ later root source specifier target hlater hvalidate := by
    obtain ⟨m, hm, rfl, htarget, hout⟩ := dangling_of_validate hvalidate
    by_cases hin : m.id ∈ w.graph.ids
    · obtain hold | ⟨n, hn, hid⟩ := hw.mem_ids.1 hin
      · exact .inl hold
      · have hsame : n = m := by
          apply List.inj_on_of_nodup_map later.nodup _ hm hid
          exact hlater.subset (hw.graph ▸ List.mem_append_right _ hn)
        have hkept : target ∈ w.graph.ids := hw.closed ht hnext n (.inr hn) _ (hsame ▸ htarget)
        exact absurd ((List.IsPrefix.map _ hlater).subset hkept) hout
    · exact .inr hin
  failure e he := nomatch he
  read _ _ := rfl
  unread _ hid := hw.not_mem_sourcesOf hid
  noDuplicate e he := nomatch he

/-- What holds of a walk and its world before every step, with a record of what was read. -/
def Reads (I : σ → Prop) (f : ModuleId → Except BuildError Module) (g : Graph) (entry : Module)
    (w : Walk) (s : Record × σ) : Prop :=
  I s.2 ∧ ∃ added, Filling f g entry added w ∧ reading s = sourcesOf entry added

/-- While the host's answers stay, a builder with a record gives what the builder gives. -/
theorem gives_recorded (hb : b.host.Steady I) (hs : I s) {u : Record × σ} (hu : I u.2)
    {id : ModuleId} {result : Except BuildError Module} {t : Record × σ}
    (hrun : World.run (b.recorded.build id) u = (result, t)) :
    b.built s id = result ∧ I t.2 ∧ reading t = reading u ++ [id.path] := by
  obtain ⟨r, hrecorded, hr⟩ := b.run_recorded_build id u
  obtain ⟨hgives, hI⟩ := Builder.gives_built hb hs id u.2 hu
  rw [hrun] at hrecorded
  cases hrecorded
  exact ⟨hgives.symm, hI, hr⟩

/-- From where it stands, a walk goes on to add what is missing. -/
theorem run_fills (hb : b.host.Steady I) (hs : I s) (ht : w.Tracked) {u : Record × σ}
    (hw : Reads I (b.built s) g entry w u) {o : Outcome} {t : Record × σ}
    (hrun : World.run (run b.recorded.build limit fuel w) u = (some o, t)) :
    ∃ added, Filled (b.built s) limit g entry o added (reading t) := by
  have hid : ∀ id u n, (World.run (b.recorded.build id) u).1 = .ok n → n.id = id :=
    fun _ u _ h => Builder.id_of_built (b := b.recorded) (s := u) h
  have hstep : ∀ (w : Walk) (n : Module) (h : n.id ∉ w.graph.ids) (queue : List ModuleId)
      (u t : Record × σ), w.Tracked → Reads I (b.built s) g entry w u →
      w.next? = some (n.id, { w with queue }) → checkLimit limit w.graph = .ok () →
      World.run (b.recorded.build n.id) u = (.ok n, t) →
      Reads I (b.built s) g entry (take { w with queue } n h) t := by
    intro w n h queue u t ht ⟨hu, added, hfill, hread⟩ hnext _ hbuild
    obtain ⟨hbuilt, hI, hread'⟩ := gives_recorded hb hs hu hbuild
    refine ⟨hI, added ++ [n], hfill.take ht h hnext hbuilt, ?_⟩
    rw [hread', hread, hfill.sourcesOf_snoc h]
  obtain ⟨v, x, hv, ⟨hx, added, hfill, hread⟩, hends, -⟩ := run_ends hid hstep ht hw hrun
  refine ⟨added, ?_⟩
  cases hends with
  | idle hnext =>
    rw [hread]
    exact hfill.filled_idle hv hnext
  | full hnext hlimit =>
    obtain ⟨most, rfl, hle, rfl⟩ := checkLimit_error hlimit
    exact hfill.toAdds.filled_short (.inr ⟨most, rfl, hle, rfl, hread⟩)
  | failed hnext hlimit hbuild =>
    obtain ⟨hbuilt, -, hread'⟩ := gives_recorded hb hs hx hbuild
    obtain ⟨queue, hqueue, hunseen, -⟩ := next?_some hnext
    have hnew := fun hin => hunseen ((hv _).2 hin)
    refine hfill.toAdds.filled_short (.inl ⟨_, hfill.next_missing hnew hv hnext, hnew, hbuilt, ?_⟩)
    rw [hread', hread]

end Ends

end Walk

section Expand

variable {m : Type → Type} [Monad m] {σ : Type} [World m σ] {I : σ → Prop} {b : Builder m}

/-- Expanding an entry into a graph adds exactly what is missing, or part of it up to a failure. It
asks for the files of what it adds and, when it fails at one, for that; the files of what the graph
held are left alone. -/
theorem expandInto_fills (hb : b.host.Steady I) {s t : σ} (hs : I s) {limit : Option Nat}
    {fuel : Nat} {entry : Module} {g : Graph} {o : Walk.Outcome}
    (hrun : World.run (expandInto b limit fuel entry g) s = (some o, t)) :
    ∃ added r,
      World.run (expandInto b.recorded limit fuel entry g) (({} : Record), s) = (some o, r, t) ∧
      Filled (b.built s) limit g entry o added r.sources := by
  obtain ⟨r, hrecorded⟩ : ∃ r, World.run (expandInto b.recorded limit fuel entry g)
      (({} : Record), s) = (some o, r, t) := by
    have hmirror := expandInto_mirrors (Record.host_mirrored b.host) limit fuel entry g ({}, s)
    rw [hrun] at hmirror
    rcases hr : World.run (expandInto b.recorded limit fuel entry g) (({} : Record), s)
      with ⟨result, r, u⟩
    rw [show b.withHost (Record.host b.host fun _ => none) = b.recorded from rfl, hr] at hmirror
    cases hmirror
    exact ⟨r, rfl⟩
  suffices hfilled : ∃ added, Filled (b.built s) limit g entry o added r.sources by
    obtain ⟨added, hfilled⟩ := hfilled
    exact ⟨added, r, hrecorded, hfilled⟩
  by_cases hold : entry.id ∈ g.ids
  · rw [expandInto, Walk.start_along hold] at hrecorded
    exact Walk.run_fills hb hs Walk.tracked_along ⟨hs, [], .along hold, rfl⟩ hrecorded
  · cases hlimit : Walk.checkLimit limit g with
    | error e =>
      rw [expandInto, Walk.start_full hold hlimit] at hrecorded
      simp only at hrecorded
      rw [World.run_pure] at hrecorded
      cases hrecorded
      obtain ⟨most, rfl, hle, rfl⟩ := Walk.checkLimit_error hlimit
      have hnothing : Adds (b.built s) g entry [] g :=
        ⟨(List.append_nil _).symm, fun _ hm => absurd hm List.not_mem_nil,
          fun _ hm => absurd hm List.not_mem_nil⟩
      exact ⟨[], hnothing.filled_short (.inr ⟨most, rfl, hle, rfl, rfl⟩)⟩
    | ok _ =>
      rw [expandInto, Walk.start_beyond hold hlimit] at hrecorded
      refine Walk.run_fills hb hs (Walk.tracked_beyond hold) ⟨hs, [entry], .beyond hold, ?_⟩
        hrecorded
      simp [reading, Record.sources, sourcesOf]

end Expand

/-- A graph that holds one module of three, with other code than the file has. -/
def seeded : Graph := empty.push ⟨.ofRooted "/c", .empty, "ready"⟩ (by simp [empty, ids])

/-- A walk from `/a` into a graph that holds `/c` adds `/a` and `/b`, and asks for `/b` only. -/
theorem expandInto_fills_seeded :
    Memory.host.Steady (fun t => t = threeFiles) ∧
    ∃ o added r, World.run (expandInto mentions (some 3) 1 (mentionsTwice (.ofRooted "/b")) seeded)
        threeFiles = (some o, threeFiles) ∧
      Filled (mentions.built threeFiles) (some 3) seeded (mentionsTwice (.ofRooted "/b")) o added
        (Record.sources r) ∧
      o.graph.ids = [.ofRooted "/c", .ofRooted "/a", .ofRooted "/b"] ∧
      Record.sources r = ["/b"] := by
  have hsteady := Memory.host_steady threeFiles
  have hids : (World.run (expandInto mentions (some 3) 1 (mentionsTwice (.ofRooted "/b")) seeded)
      threeFiles).1.map (fun o => o.graph.ids) =
        some [.ofRooted "/c", .ofRooted "/a", .ofRooted "/b"] := by decide
  have hread : (World.run (expandInto mentions.recorded (some 3) 1
      (mentionsTwice (.ofRooted "/b")) seeded) (({} : Record), threeFiles)).2.1.sources =
        ["/b"] := by decide
  have hleaves : mentions.host.Leaves fun s : Memory => s := ⟨fun _ _ => rfl, fun _ _ => rfl⟩
  obtain ⟨o, ho, hids⟩ := Option.map_eq_some_iff.1 hids
  have hrun : World.run (expandInto mentions (some 3) 1 (mentionsTwice (.ofRooted "/b")) seeded)
      threeFiles = (some o, threeFiles) :=
    Prod.ext ho (expandInto_preserves hleaves threeFiles)
  obtain ⟨added, r, hrecorded, hfilled⟩ :=
    expandInto_fills (b := mentions) (I := fun t => t = threeFiles) hsteady rfl hrun
  rw [hrecorded] at hread
  exact ⟨hsteady, o, added, r, hrun, hfilled, hids, hread⟩

end ModuleBundler.Graph
