import ModuleBundler.Proofs.Graph.Course
import Mathlib.Data.Prod.Lex

/-!
# The order of discovery

An expansion lists modules in the order in which it finds them, and this order can be read off the
graph that comes out: nearer modules stand first, and of two modules the one that is mentioned first
does. Nothing is asked of the host, which may answer otherwise in the course of the walk.
-/

namespace ModuleBundler.Graph

open Breadth

section Occurrences

variable {α : Type} [DecidableEq α] {x y : α}

theorem idxOf_filter_lt {p : α → Bool} {l : List α} (hx : p x = true) (hy : p y = true) :
    (l.filter p).idxOf x < (l.filter p).idxOf y ↔ l.idxOf x < l.idxOf y := by
  induction l with
  | nil => simp
  | cons a l ih =>
    by_cases hax : a = x
    · subst hax
      by_cases hay : a = y
      · simp [hay]
      · simp [hx, List.idxOf_cons_ne _ hay]
    · by_cases hay : a = y
      · subst hay
        simp [hy]
      · cases hp : p a <;> simp [hp, List.idxOf_cons_ne _ hax, List.idxOf_cons_ne _ hay, ih]

/-- Erasing repetitions keeps the order of first occurrences. -/
theorem idxOf_eraseDups_lt (l : List α) :
    l.eraseDups.idxOf x < l.eraseDups.idxOf y ↔ l.idxOf x < l.idxOf y := by
  match l with
  | [] => simp
  | a :: l =>
    have hlt : (l.filter fun b => !b == a).length < l.length + 1 :=
      Nat.lt_succ_of_le (List.length_filter_le _ _)
    rw [List.eraseDups_cons]
    by_cases hax : a = x
    · subst hax
      by_cases hay : a = y
      · simp [hay]
      · simp [List.idxOf_cons_ne _ hay]
    · by_cases hay : a = y
      · subst hay
        simp
      · rw [List.idxOf_cons_ne _ hax, List.idxOf_cons_ne _ hay, List.idxOf_cons_ne _ hax,
          List.idxOf_cons_ne _ hay, Nat.succ_lt_succ_iff, Nat.succ_lt_succ_iff,
          idxOf_eraseDups_lt, idxOf_filter_lt]
        · simpa using Ne.symm hax
        · simpa using Ne.symm hay
termination_by l.length

/-- Where an element is first found in some lists: the position of the list, and that in the
list. -/
def firstPlace (ls : List (List α)) (x : α) : Nat × Nat :=
  (ls.findIdx fun l => decide (x ∈ l),
    ((ls.find? fun l => decide (x ∈ l)).getD []).idxOf x)

theorem firstPlace_of_mem {l : List α} {ls : List (List α)} (h : x ∈ l) :
    firstPlace (l :: ls) x = (0, l.idxOf x) := by
  simp [firstPlace, h, List.findIdx_cons]

theorem firstPlace_of_not_mem {l : List α} {ls : List (List α)} (h : x ∉ l) :
    firstPlace (l :: ls) x = ((firstPlace ls x).1 + 1, (firstPlace ls x).2) := by
  simp [firstPlace, h, List.findIdx_cons]

theorem idxOf_flatten_lt (ls : List (List α)) (hx : x ∈ ls.flatten) (hy : y ∈ ls.flatten) :
    ls.flatten.idxOf x < ls.flatten.idxOf y ↔
      toLex (firstPlace ls x) < toLex (firstPlace ls y) := by
  induction ls with
  | nil => cases hx
  | cons l ls ih =>
    rw [List.flatten_cons, List.mem_append] at hx hy
    rw [List.flatten_cons, Prod.Lex.toLex_lt_toLex]
    by_cases hxl : x ∈ l
    · have hlength := List.idxOf_lt_length_of_mem hxl
      by_cases hyl : y ∈ l
      · rw [firstPlace_of_mem hxl, firstPlace_of_mem hyl, List.idxOf_append_of_mem hxl,
          List.idxOf_append_of_mem hyl]
        simp
      · rw [firstPlace_of_mem hxl, firstPlace_of_not_mem hyl, List.idxOf_append_of_mem hxl,
          List.idxOf_append_of_notMem hyl]
        simp only [Nat.zero_lt_succ, true_or, iff_true]
        omega
    · by_cases hyl : y ∈ l
      · have hlength := List.idxOf_lt_length_of_mem hyl
        rw [firstPlace_of_not_mem hxl, firstPlace_of_mem hyl, List.idxOf_append_of_notMem hxl,
          List.idxOf_append_of_mem hyl]
        simp only [Nat.not_lt_zero, Nat.succ_ne_zero, false_and, or_self, iff_false]
        omega
      · have hrest := ih (hx.resolve_left hxl) (hy.resolve_left hyl)
        rw [Prod.Lex.toLex_lt_toLex] at hrest
        rw [firstPlace_of_not_mem hxl, firstPlace_of_not_mem hyl,
          List.idxOf_append_of_notMem hxl, List.idxOf_append_of_notMem hyl]
        simp only [Nat.add_lt_add_iff_left, Nat.add_right_cancel_iff, Nat.add_lt_add_iff_right,
          hrest]

end Occurrences

/-- What the module of an identity depends on in a graph. -/
def dependenciesOf (g : Graph) (id : ModuleId) : List ModuleId :=
  ((g.get? id).map Module.dependencyIds).getD []

/-- A path of `n` dependencies leads from one module of a graph to another. -/
def Leads (g : Graph) (root : ModuleId) (n : Nat) (id : ModuleId) : Prop :=
  Breadth.Leads g.dependenciesOf root n id

/-- The length of a shortest path of dependencies. -/
noncomputable def distance (g : Graph) (root id : ModuleId) : Nat := sInf {n | g.Leads root n id}

/-- Where an identity is first mentioned in a graph: the position of the first module that depends
on it, and its first position among what this module depends on. -/
def firstMention (g : Graph) (id : ModuleId) : Nat × Nat :=
  firstPlace (g.modules.map Module.dependencyIds) id

variable {g : Graph} {entry : Module}

theorem dependenciesOf_of_mem {m : Module} (h : m ∈ g.modules) :
    g.dependenciesOf m.id = m.dependencyIds := by
  rw [dependenciesOf, get?_of_mem h]
  rfl

theorem flatMap_dependenciesOf (g : Graph) :
    g.ids.flatMap g.dependenciesOf = g.modules.flatMap Module.dependencyIds := by
  rw [ids, List.flatMap_map]
  exact List.flatMap_congr fun m hm => dependenciesOf_of_mem hm

/-- A module that is added takes no dependency away. -/
theorem dependenciesOf_push {n : Module} (h : n.id ∉ g.ids) (id : ModuleId) :
    g.dependenciesOf id ⊆ (g.push n h).dependenciesOf id := by
  by_cases hid : id ∈ g.ids
  · obtain ⟨m, hm, rfl⟩ := mem_ids_iff.1 hid
    have hpush : m ∈ (g.push n h).modules := List.mem_append_left _ hm
    rw [dependenciesOf_of_mem hm, dependenciesOf_of_mem hpush]
    exact List.Subset.refl _
  · have hnone : g.get? id = none := by
      rw [get?, List.find?_eq_none]
      intro m hm hsame
      exact hid (mem_ids_iff.2 ⟨m, hm, by simpa using hsame⟩)
    rw [dependenciesOf, hnone]
    exact List.nil_subset _

namespace Walk

variable {w : Walk}

/-- What holds before every step of a walk from an entry: the modules, and behind them those that
wait, are what the graph mentions, in the order of first mentions, and all of them can be reached
in the graph. -/
structure Ranked (entry : Module) (w : Walk) : Prop where
  order : (entry.id :: w.graph.modules.flatMap Module.dependencyIds).eraseDups =
    w.graph.ids ++ (w.queue.removeAll w.graph.ids).eraseDups
  reach : ∀ id, id ∈ w.graph.ids ∨ id ∈ w.queue → Reach w.graph.dependenciesOf entry.id id

theorem Ranked.beyond (h : entry.id ∉ empty.ids) : Ranked entry (beyond empty entry h) where
  order := by
    change (entry.id :: [entry].flatMap Module.dependencyIds).eraseDups = [entry.id] ++ _
    rw [List.flatMap_singleton, ← List.singleton_append, List.eraseDups_append]
    rfl
  reach id hid := by
    have hmem : entry ∈ (empty.push entry h).modules := List.mem_singleton_self entry
    rcases hid with hid | hid
    · have hid : id ∈ [entry.id] := hid
      obtain rfl := List.mem_singleton.1 hid
      exact .root
    · refine .step .root ?_
      change id ∈ (empty.push entry h).dependenciesOf entry.id
      rw [dependenciesOf_of_mem hmem]
      exact hid

theorem Ranked.take {n : Module} {queue : List ModuleId} (hw : Ranked entry w) (ht : w.Tracked)
    (h : n.id ∉ w.graph.ids) (hnext : w.next? = some (n.id, { w with queue })) :
    Ranked entry (Walk.take { w with queue } n h) where
  order := by
    obtain ⟨_, hqueue, -, hsplit⟩ := next?_some hnext
    cases hqueue
    rw [removeAll_congr fun id _ => ht id, removeAll_congr fun id _ => ht id] at hsplit
    have hfresh : (n.dependencyIds.filter fun d => !(n.id :: w.visited).contains d) =
        n.dependencyIds.removeAll (w.graph.ids ++ [n.id]) := by
      apply removeAll_congr
      intro d _
      rw [List.mem_cons, ht d, List.mem_append, List.mem_singleton, or_comm]
    rw [Walk.take, ids_push, hfresh]
    change (entry.id :: (w.graph.modules ++ [n]).flatMap Module.dependencyIds).eraseDups = _
    rw [List.flatMap_append, List.flatMap_singleton, ← List.cons_append]
    exact eraseDups_next hw.order hsplit _
  reach id hid := by
    have hgrown : ∀ id, Reach w.graph.dependenciesOf entry.id id →
        Reach (w.graph.push n h).dependenciesOf entry.id id := by
      intro id hreach
      induction hreach with
      | root => exact .root
      | step _ hb ih => exact ih.step (dependenciesOf_push h _ hb)
    have hn : Reach (w.graph.push n h).dependenciesOf entry.id n.id := by
      have hunseen : n.id ∉ w.visited := fun hseen => h ((ht _).1 hseen)
      exact hgrown _ (hw.reach _ (.inr ((mem_queue_iff hnext hunseen).2 (.inl rfl))))
    rcases hid with hid | hid
    · rw [Walk.take, ids_push, List.mem_append, List.mem_singleton] at hid
      rcases hid with hid | rfl
      · exact hgrown id (hw.reach id (.inl hid))
      · exact hn
    · rcases List.mem_append.1 hid with hid | hid
      · refine hgrown id (hw.reach id ?_)
        by_cases hseen : id ∈ w.visited
        · exact .inl ((ht id).1 hseen)
        · exact .inr ((mem_queue_iff hnext hseen).2 (.inr hid))
      · have hmem : n ∈ (w.graph.push n h).modules := List.mem_append_right _ (by simp)
        refine hn.step ?_
        rw [dependenciesOf_of_mem hmem]
        exact (List.mem_filter.1 hid).1

end Walk

section Expand

variable {m : Type → Type} [Monad m] {σ : Type} [World m σ] {b : Builder m} {s : σ}
variable {limit : Option Nat} {fuel : Nat}

/-- An expansion that succeeds ends with a ranked walk in which nothing waits. -/
theorem ranked_of_expand (h : (World.run (expand b limit fuel entry) s).1 = some (.ok g)) :
    ∃ w : Walk, w.Tracked ∧ w.Ranked entry ∧ w.next? = none ∧ w.graph = g := by
  have hnew : entry.id ∉ empty.ids := by simp [empty, ids]
  rw [expand, World.run_bind, World.run_pure] at h
  obtain ⟨o, ho, hresult⟩ := Option.map_eq_some_iff.1 h
  rw [expandInto] at ho
  cases hlimit : Walk.checkLimit limit empty with
  | error e =>
    rw [Walk.start_full hnew hlimit, World.run_pure] at ho
    cases ho
    cases hresult
  | ok _ =>
    rw [Walk.start_beyond hnew hlimit] at ho
    obtain ⟨v, t, hv, hranked, hends, -⟩ := Walk.run_ends
      (P := fun w _ => Walk.Ranked entry w) (fun _ _ _ => Builder.id_of_built)
      (fun w n hn queue _ _ ht hw hnext _ _ => hw.take ht hn hnext)
      (Walk.tracked_beyond hnew) (.beyond hnew) (Prod.ext ho rfl)
    cases hends with
    | idle hnext =>
      cases hresult
      exact ⟨v, hv, hranked, hnext, rfl⟩
    | full => cases hresult
    | failed => cases hresult

/-- Expanding an entry lists the modules in breadth-first order. The entry is the first; the
shortest paths from it do not get shorter along the list; and whatever else is listed stands in the
order of first mentions. -/
theorem expand_breadthFirst (h : (World.run (expand b limit fuel entry) s).1 = some (.ok g)) :
    g.ids.head? = some entry.id ∧
    (∀ id ∈ g.ids, g.Leads entry.id (g.distance entry.id id) id) ∧
    (g.ids.map (g.distance entry.id)).Pairwise (· ≤ ·) ∧
    (∀ id ∈ g.ids, id ≠ entry.id → ∃ m ∈ g.modules, id ∈ m.dependencyIds) ∧
    ∀ x ∈ g.ids, ∀ y ∈ g.ids, x ≠ entry.id → y ≠ entry.id →
      (g.ids.idxOf x < g.ids.idxOf y ↔ toLex (g.firstMention x) < toLex (g.firstMention y)) := by
  obtain ⟨w, ht, hw, hnext, rfl⟩ := ranked_of_expand h
  have hids : (entry.id :: w.graph.modules.flatMap Module.dependencyIds).eraseDups =
      w.graph.ids := by
    rw [hw.order, ← removeAll_congr fun id _ => ht id, Walk.next?_none hnext, List.eraseDups_nil,
      List.append_nil]
  have hreach : ∀ id ∈ w.graph.ids, Reach w.graph.dependenciesOf entry.id id :=
    fun id hid => hw.reach id (.inl hid)
  have hmentioned : ∀ id ∈ w.graph.ids, id ≠ entry.id →
      id ∈ (w.graph.modules.map Module.dependencyIds).flatten := by
    intro id hid hne
    rw [← hids, List.mem_eraseDups, List.mem_cons] at hid
    exact hid.resolve_left hne
  refine ⟨?_, fun id hid => (hreach id hid).leads_distance, ?_, ?_, ?_⟩
  · rw [← hids, List.eraseDups_cons]
    rfl
  · refine pairwise_distance ?_ hreach
    rw [flatMap_dependenciesOf, hids]
  · intro id hid hne
    exact List.mem_flatMap.1 (hmentioned id hid hne)
  · intro x hx y hy hne hne'
    rw [← hids, idxOf_eraseDups_lt, List.idxOf_cons_ne _ (Ne.symm hne),
      List.idxOf_cons_ne _ (Ne.symm hne'), Nat.succ_lt_succ_iff]
    exact idxOf_flatten_lt _ (hmentioned x hx hne) (hmentioned y hy hne')

end Expand

section Letters

open FileSystem (Memory)

/-- A builder for which every letter of a file mentions the file of that name. -/
def letters : Builder (StateM Memory) where
  host := Memory.host
  transformer := ⟨fun text _ =>
    .ok ⟨.ofList (text.toList.map fun c => ("./" ++ c.toString, "./" ++ c.toString)), text⟩⟩

/-- Four files that mention each other in circles. -/
def fourFiles : Memory :=
  .ofFiles "/" [("/a", Text.encode "cb"), ("/b", Text.encode "a"), ("/c", Text.encode "bdc"),
    ("/d", Text.encode "b")]

def moduleA : Module :=
  ⟨.ofRooted "/a", .ofList [("./c", .ofRooted "/c"), ("./b", .ofRooted "/b")], "cb"⟩

/-- From `/a` two modules are found at distance one, and behind them the one at distance two. -/
theorem expand_breadthFirst_letters :
    ∃ g : Graph, (World.run (expand letters (some 4) 4 moduleA) fourFiles).1 = some (.ok g) ∧
      g.ids = [.ofRooted "/a", .ofRooted "/c", .ofRooted "/b", .ofRooted "/d"] ∧
      (g.ids.map (g.distance moduleA.id)).Pairwise (· ≤ ·) ∧
      toLex (g.firstMention (.ofRooted "/b")) < toLex (g.firstMention (.ofRooted "/d")) := by
  have hids : ((World.run (expand letters (some 4) 4 moduleA) fourFiles).1.map
      fun r => r.map Graph.ids) =
        some (.ok [.ofRooted "/a", .ofRooted "/c", .ofRooted "/b", .ofRooted "/d"]) := by
    decide +kernel
  obtain ⟨r, hr, hg⟩ := Option.map_eq_some_iff.1 hids
  cases r with
  | error e => cases hg
  | ok g =>
    have hg : g.ids = [.ofRooted "/a", .ofRooted "/c", .ofRooted "/b", .ofRooted "/d"] :=
      Except.ok.inj hg
    obtain ⟨-, -, hpairwise, -, horder⟩ := expand_breadthFirst hr
    refine ⟨g, hr, hg, hpairwise, (horder _ ?_ _ ?_ (by decide) (by decide)).1 ?_⟩
    · simp [hg]
    · simp [hg]
    · rw [hg]
      decide

end Letters

end ModuleBundler.Graph
