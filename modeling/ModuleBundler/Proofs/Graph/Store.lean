import Mathlib.Data.List.Induction
import ModuleBundler.Graph.Shared

/-!
# What a shared graph holds

Of all modules that are inserted under one identity, the first stays. A graph that several parties
extend lists these first modules in order, and is closed exactly when `validate` accepts it.
-/

namespace ModuleBundler.Graph

section Validity

variable {g : Graph} {entry : ModuleId} {m : Module} {e : Error}

/-- The error names the first dependency that leads out of the graph: of the first module that has
one, under its first such specifier. -/
def FirstDangling (g : Graph) (e : Error) : Prop :=
  ∃ before m after early specifier target late,
    g.modules = before ++ m :: after ∧ (∀ n ∈ before, ∀ d ∈ n.dependencyIds, d ∈ g.ids) ∧
    m.dependencies.entries = early ++ (specifier, target) :: late ∧ (∀ d ∈ early, d.2 ∈ g.ids) ∧
    target ∉ g.ids ∧ e = .dangling m.id specifier target

theorem danglingIn?_eq_none : g.danglingIn? m = none ↔ ∀ d ∈ m.dependencyIds, d ∈ g.ids := by
  rw [danglingIn?, Option.map_eq_none_iff, List.find?_eq_none]
  simp only [contains, Bool.not_eq_true', decide_eq_false_iff_not, not_not, Module.dependencyIds,
    OrderedMap.values, List.forall_mem_map]

theorem danglingIn?_eq_some : g.danglingIn? m = some e ↔ ∃ early specifier target late,
    m.dependencies.entries = early ++ (specifier, target) :: late ∧ (∀ d ∈ early, d.2 ∈ g.ids) ∧
    target ∉ g.ids ∧ e = .dangling m.id specifier target := by
  rw [danglingIn?, Option.map_eq_some_iff]
  constructor
  · rintro ⟨⟨specifier, target⟩, hfind, rfl⟩
    obtain ⟨hout, early, late, hsplit, hearly⟩ := List.find?_eq_some_iff_append.1 hfind
    refine ⟨early, specifier, target, late, hsplit, fun d hd => ?_, ?_, rfl⟩
    · simpa [contains] using hearly d hd
    · simpa [contains] using hout
  · rintro ⟨early, specifier, target, late, hsplit, hearly, hout, rfl⟩
    refine ⟨(specifier, target), List.find?_eq_some_iff_append.2 ⟨?_, early, late, hsplit, ?_⟩, rfl⟩
    · simpa [contains] using hout
    · intro d hd
      simpa [contains] using hearly d hd

theorem validate_of_not_mem (h : entry ∉ g.ids) :
    g.validate entry = .error (.missingEntry entry) := by
  simp [validate, contains, h]

theorem validate_of_mem (h : entry ∈ g.ids) :
    g.validate entry = match g.modules.findSome? g.danglingIn? with
      | some e => .error e
      | none => .ok () := by
  rw [validate, contains, decide_eq_true h]
  rfl

/-- A graph is accepted when the entry is in it and every dependency leads to a module of it. -/
theorem validate_eq_ok : g.validate entry = .ok () ↔
    entry ∈ g.ids ∧ ∀ m ∈ g.modules, ∀ d ∈ m.dependencyIds, d ∈ g.ids := by
  by_cases hentry : entry ∈ g.ids
  · rw [validate_of_mem hentry]
    have hclosed : g.modules.findSome? g.danglingIn? = none ↔
        ∀ m ∈ g.modules, ∀ d ∈ m.dependencyIds, d ∈ g.ids := by
      rw [List.findSome?_eq_none_iff]
      exact forall₂_congr fun m _ => danglingIn?_eq_none
    rw [← hclosed]
    cases g.modules.findSome? g.danglingIn? <;> simp [hentry]
  · simp [validate_of_not_mem hentry, hentry]

theorem validate_eq_error (hentry : entry ∈ g.ids) :
    g.validate entry = .error e ↔ g.FirstDangling e := by
  have hfirst : g.modules.findSome? g.danglingIn? = some e ↔ g.FirstDangling e := by
    rw [List.findSome?_eq_some_iff]
    constructor
    · rintro ⟨before, m, after, hsplit, hm, hbefore⟩
      obtain ⟨early, specifier, target, late, hentries, hearly, hout, he⟩ :=
        danglingIn?_eq_some.1 hm
      exact ⟨before, m, after, early, specifier, target, late, hsplit,
        fun n hn => danglingIn?_eq_none.1 (hbefore n hn), hentries, hearly, hout, he⟩
    · rintro ⟨before, m, after, early, specifier, target, late, hsplit, hbefore, hm⟩
      exact ⟨before, m, after, hsplit, danglingIn?_eq_some.2 ⟨early, specifier, target, late, hm⟩,
        fun n hn => danglingIn?_eq_none.2 (hbefore n hn)⟩
  rw [validate_of_mem hentry, ← hfirst]
  cases g.modules.findSome? g.danglingIn? <;> simp

end Validity

section First

variable {id : ModuleId} {m : Module} {ms : List Module}

/-- The first module for each identity, in order. -/
def firsts : List Module → List Module
  | [] => []
  | m :: ms => m :: (firsts ms).filter fun n => n.id != m.id

theorem ids_firsts : id ∈ (firsts ms).map Module.id ↔ id ∈ ms.map Module.id := by
  induction ms with
  | nil => rfl
  | cons n ms ih =>
    by_cases hid : id = n.id
    · simp [firsts, hid]
    · have hfilter : id ∈ ((firsts ms).filter fun k => k.id != n.id).map Module.id ↔
          id ∈ (firsts ms).map Module.id := by
        simp only [List.mem_map, List.mem_filter, bne_iff_ne]
        exact ⟨fun ⟨k, hk, heq⟩ => ⟨k, hk.1, heq⟩,
          fun ⟨k, hk, heq⟩ => ⟨k, ⟨hk, fun hsame => hid (heq.symm.trans hsame)⟩, heq⟩⟩
      rw [firsts, List.map_cons, List.map_cons, List.mem_cons, List.mem_cons, hfilter, ih]

/-- One more module counts unless its identity was there before. -/
theorem firsts_snoc : firsts (ms ++ [m]) =
    if m.id ∈ ms.map Module.id then firsts ms else firsts ms ++ [m] := by
  induction ms with
  | nil => simp [firsts]
  | cons n ms ih =>
    by_cases hsame : m.id = n.id
    · have hdrop : ((firsts (ms ++ [m])).filter fun k => k.id != n.id) =
          (firsts ms).filter fun k => k.id != n.id := by
        rw [ih]
        split
        · rfl
        · simp [hsame]
      simp only [List.cons_append, firsts, hdrop, List.map_cons, List.mem_cons, hsame, true_or,
        if_true]
    · simp only [List.cons_append, firsts, ih, List.map_cons, List.mem_cons, hsame, false_or]
      split
      · rfl
      · simp [hsame]

theorem firsts_prefix (more : List Module) : firsts ms <+: firsts (ms ++ more) := by
  induction more generalizing ms with
  | nil => simp
  | cons m more ih =>
    have hone : firsts ms <+: firsts (ms ++ [m]) := by
      rw [firsts_snoc]
      split
      · exact List.prefix_rfl
      · exact List.prefix_append _ _
    rw [List.append_cons]
    exact hone.trans ih

/-- What is found under an identity is the first module that came with it. -/
theorem find?_firsts : (firsts ms).find? (fun n => n.id == id) = ms.find? fun n => n.id == id := by
  induction ms with
  | nil => rfl
  | cons n ms ih =>
    by_cases hid : n.id = id
    · simp [firsts, hid]
    · have hother : (fun k : Module => decide ((k.id != n.id) = true ∧ (k.id == id) = true)) =
          fun k => k.id == id := by
        funext k
        by_cases hk : k.id = id
        · simp [hk, Ne.symm hid]
        · simp [hk]
      rw [firsts, List.find?_cons_of_neg (by simpa using hid),
        List.find?_cons_of_neg (by simpa using hid), List.find?_filter, hother, ih]

end First

namespace Heap

variable {s : Heap} {h k : Handle} {m : Module}

theorem behind_eq (hcell : k.cell = h.cell) : s.behind k = s.behind h := by
  rw [behind, hcell, behind]

theorem behind_put {g : Graph} : (s.put h g).behind k = if k.cell = h.cell then g else s.behind k :=
  rfl

/-- Inserts modules in the order in which this is asked, each through the handle given with it. -/
def insertAll (s : Heap) (asked : List (Handle × Module)) : Heap :=
  asked.foldl (fun s p => (p.1.insert p.2 s).2) s

/-- The modules that were to be inserted into the graph of a handle. -/
def through (h : Handle) (asked : List (Handle × Module)) : List Module :=
  (asked.filter fun p => p.1.cell = h.cell).map Prod.snd

theorem insert_of_mem (hm : m.id ∈ (s.behind k).ids) :
    k.insert m s = (.error (.duplicate m.id), s) := by
  rw [Handle.insert, Graph.insert, dif_pos hm]

theorem insert_of_not_mem (hm : m.id ∉ (s.behind k).ids) :
    k.insert m s = (.ok (), s.put k ((s.behind k).push m hm)) := by
  rw [Handle.insert, Graph.insert, dif_neg hm]

theorem insertAll_append (asked more : List (Handle × Module)) :
    s.insertAll (asked ++ more) = (s.insertAll asked).insertAll more :=
  List.foldl_append

theorem through_append (asked more : List (Handle × Module)) :
    through h (asked ++ more) = through h asked ++ through h more := by
  simp [through]

theorem through_singleton : through h [(k, m)] = if k.cell = h.cell then [m] else [] := by
  by_cases hcell : k.cell = h.cell <;> simp [through, hcell]

/-- One insert through any handle of any graph. -/
theorem behind_insert : ((k.insert m s).2.behind h).modules =
    if k.cell = h.cell ∧ m.id ∉ (s.behind h).ids then (s.behind h).modules ++ [m]
    else (s.behind h).modules := by
  by_cases hm : m.id ∈ (s.behind k).ids
  · rw [insert_of_mem hm, if_neg]
    rintro ⟨hcell, hnew⟩
    exact hnew (behind_eq hcell ▸ hm)
  · rw [insert_of_not_mem hm, behind_put]
    by_cases hcell : k.cell = h.cell
    · rw [if_pos hcell.symm, if_pos ⟨hcell, behind_eq hcell ▸ hm⟩, ← behind_eq hcell, push]
    · rw [if_neg (Ne.symm hcell), if_neg fun hboth => hcell hboth.1]

/-- A graph that was empty at first holds the first module for each identity. -/
theorem modules_insertAll (hempty : s.behind h = .empty) (asked : List (Handle × Module)) :
    ((s.insertAll asked).behind h).modules = firsts (through h asked) := by
  induction asked using List.reverseRecOn with
  | nil =>
    change (s.behind h).modules = _
    rw [hempty]
    rfl
  | append_singleton asked p ih =>
    obtain ⟨k, m⟩ := p
    rw [insertAll_append, through_append, through_singleton]
    change ((k.insert m (s.insertAll asked)).2.behind h).modules = _
    rw [behind_insert, Graph.ids, ih]
    by_cases hcell : k.cell = h.cell
    · rw [if_pos hcell, firsts_snoc]
      by_cases hm : m.id ∈ (through h asked).map Module.id
      · rw [if_pos hm, if_neg fun hboth => hboth.2 (ids_firsts.2 hm)]
      · rw [if_neg hm, if_pos ⟨hcell, fun hmem => hm (ids_firsts.1 hmem)⟩]
    · rw [if_neg fun hboth => hcell hboth.1, if_neg hcell, List.append_nil]

/-- Nothing that is asked later takes away, replaces or moves what a graph holds. -/
theorem modules_prefix (hempty : s.behind h = .empty) (asked more : List (Handle × Module)) :
    ((s.insertAll asked).behind h).modules <+: ((s.insertAll (asked ++ more)).behind h).modules := by
  rw [modules_insertAll hempty, modules_insertAll hempty, through_append]
  exact firsts_prefix _

end Heap

open Heap

/-- The first module with an identity is there to stay. However many handles lead to a graph that is
empty at first, and in whatever order modules are inserted through them, at every moment the graph
lists the first module for each identity, and finds it under this identity. Another insert through
any of the handles succeeds exactly when the identity is new, and then adds the module at the end; or
else it is refused and changes nothing. What was seen of the graph before is the beginning of what
is seen later. The graph is accepted exactly when the entry and all that its modules depend on are
in it, and otherwise it is said what is missing first. -/
theorem first_insert_wins {s : Heap} {h : Handle} (hempty : s.behind h = .empty)
    (asked : List (Handle × Module)) :
    let now := s.insertAll asked
    let earlier := through h asked
    let g := now.behind h
    g.modules = firsts earlier ∧
    (∀ (k : Handle) id, k.cell = h.cell → (k.get? id now).1 = earlier.find? fun m => m.id == id) ∧
    (∀ (k : Handle) m, k.cell = h.cell → m.id ∈ earlier.map Module.id →
      k.insert m now = (.error (.duplicate m.id), now)) ∧
    (∀ (k : Handle) m, k.cell = h.cell → m.id ∉ earlier.map Module.id →
      (k.insert m now).1 = .ok () ∧ ((k.insert m now).2.behind h).modules = g.modules ++ [m]) ∧
    (∀ (k later : Handle) more, k.cell = h.cell → later.cell = h.cell →
      (k.snapshot now).1.modules <+:
        (later.snapshot (s.insertAll (asked ++ more))).1.modules) ∧
    ∀ (k : Handle) entry, k.cell = h.cell →
      ((k.validate entry now).1 = .ok () ↔
        entry ∈ g.ids ∧ ∀ m ∈ g.modules, ∀ d ∈ m.dependencyIds, d ∈ g.ids) ∧
      (entry ∉ g.ids → (k.validate entry now).1 = .error (.missingEntry entry)) ∧
      (entry ∈ g.ids → ∀ e, (k.validate entry now).1 = .error e ↔ g.FirstDangling e) := by
  intro now earlier g
  have hmodules : g.modules = firsts earlier := modules_insertAll hempty asked
  have hbehind : ∀ k : Handle, k.cell = h.cell → now.behind k = g := fun k => behind_eq
  have hids : ∀ id, id ∈ g.ids ↔ id ∈ earlier.map Module.id := by
    intro id
    rw [Graph.ids, hmodules, ids_firsts]
  have hvalidate : ∀ (k : Handle) entry, k.cell = h.cell →
      (k.validate entry now).1 = g.validate entry := by
    intro k entry hcell
    change (now.behind k).validate entry = _
    rw [hbehind k hcell]
  refine ⟨hmodules, fun k id hcell => ?_, fun k m hcell hm => insert_of_mem ?_,
    fun k m hcell hm => ⟨?_, ?_⟩, fun k later more hcell hlater => ?_, fun k entry hcell => ?_⟩
  · change (now.behind k).get? id = _
    rw [hbehind k hcell, Graph.get?, hmodules, find?_firsts]
  · rw [hbehind k hcell]
    exact (hids _).2 hm
  · rw [insert_of_not_mem]
    rw [hbehind k hcell]
    exact fun hmem => hm ((hids _).1 hmem)
  · rw [behind_insert, if_pos ⟨hcell, fun hmem => hm ((hids _).1 hmem)⟩]
  · change (now.behind k).modules <+: ((s.insertAll (asked ++ more)).behind later).modules
    rw [behind_eq hcell, behind_eq hlater]
    exact modules_prefix hempty asked more
  · rw [hvalidate k entry hcell]
    exact ⟨validate_eq_ok, validate_of_not_mem, fun hentry _ => validate_eq_error hentry⟩

/-- Two modules under one identity, inserted through two handles; what the first depends on is never
inserted. -/
def rivals : List (Handle × Module) :=
  let id : ModuleId := ⟨["rival"], by decide⟩
  [(⟨0⟩, ⟨id, ⟨[("./missing", ⟨["missing"], by decide⟩)], by simp⟩, "one"⟩),
    (Handle.clone ⟨0⟩, ⟨id, .empty, "two"⟩)]

theorem first_insert_wins_of_rivals :
    ((Heap.empty.insertAll rivals).behind ⟨0⟩).modules.map Module.code = ["one"] ∧
    ((Handle.clone ⟨0⟩).validate ⟨["rival"], by decide⟩ (Heap.empty.insertAll rivals)).1 =
      .error (.dangling ⟨["rival"], by decide⟩ "./missing" ⟨["missing"], by decide⟩) := by
  obtain ⟨hmodules, -, -, -, -, hvalidate⟩ :=
    first_insert_wins (s := Heap.empty) (h := ⟨0⟩) rfl rivals
  obtain ⟨-, -, hdangling⟩ := hvalidate (Handle.clone ⟨0⟩) ⟨["rival"], by decide⟩ rfl
  refine ⟨by rw [hmodules]; decide, (hdangling ?_ _).2 ?_⟩
  · rw [Graph.ids, hmodules]
    decide
  · have hout : (⟨["missing"], by decide⟩ : ModuleId) ∉
        ((Heap.empty.insertAll rivals).behind ⟨0⟩).ids := by
      rw [Graph.ids, hmodules]
      decide
    exact ⟨[], _, [], [], "./missing", _, [], hmodules, by simp, rfl, by simp, hout, rfl⟩

end ModuleBundler.Graph
