import Mathlib.Data.List.Basic
import Mathlib.Data.List.Nodup
import Mathlib.Order.Lattice.Nat

/-!
# Breadth-first order

What can be reached from a root by a successor function, listed by distance. The list of what is at
most `n` steps away grows at its end only, and it is the list of all successors of its
predecessor, each taken once. A list that is made of the successors of its own elements in this way
is ordered by distance.
-/

namespace ModuleBundler.Graph.Breadth

variable {α : Type} [DecidableEq α] (next : α → List α) (root : α)

/-- The least set that holds the root and the successors of its members. -/
inductive Reach : α → Prop
  | root : Reach root
  | step {a b : α} : Reach a → b ∈ next a → Reach b

/-- What is at most `n` steps away, nearest first. Nodes of one distance stand in the order in which
the nodes before them mention them. -/
def within : Nat → List α
  | 0 => [root]
  | n + 1 => within n ++ (((within n).flatMap next).removeAll (within n)).eraseDups

omit [DecidableEq α] in
theorem mem_removeAll_iff [BEq α] [LawfulBEq α] {x : α} {l m : List α} :
    x ∈ l.removeAll m ↔ x ∈ l ∧ x ∉ m := by
  simp [List.removeAll]

omit [DecidableEq α] in
theorem removeAll_congr [BEq α] [LawfulBEq α] {l m m' : List α}
    (h : ∀ x ∈ l, x ∈ m ↔ x ∈ m') : l.removeAll m = l.removeAll m' := by
  unfold List.removeAll
  apply List.filter_congr
  intro x hx
  simp [h x hx]

theorem nodup_eraseDups (l : List α) : l.eraseDups.Nodup := by
  match l with
  | [] => simp
  | a :: l =>
    have hl : (l.filter fun b => !b == a).length < l.length + 1 :=
      Nat.lt_succ_of_le (List.length_filter_le _ _)
    rw [List.eraseDups_cons, List.nodup_cons]
    exact ⟨by simp, nodup_eraseDups _⟩
termination_by l.length

theorem eraseDups_le {l m : List α} (h : l <+: m) : l.eraseDups <+: m.eraseDups := by
  obtain ⟨r, rfl⟩ := h
  rw [List.eraseDups_append]
  exact List.prefix_append _ _

/-- When `seen` stands for the front of `l` and a queue for the rest, the first new element of the
queue may be moved to `seen`, with more elements at the end of both lists. -/
theorem eraseDups_next {l seen queue rest : List α} {x : α}
    (hl : l.eraseDups = seen ++ (queue.removeAll seen).eraseDups)
    (hx : queue.removeAll seen = x :: rest.removeAll seen) (more : List α) :
    (l ++ more).eraseDups = seen ++ [x] ++
      ((rest ++ more.removeAll (seen ++ [x])).removeAll (seen ++ [x])).eraseDups := by
  have hrest : (queue.removeAll seen).eraseDups =
      x :: (rest.removeAll (seen ++ [x])).eraseDups := by
    rw [hx, List.eraseDups_cons]
    congr 2
    rw [List.removeAll, List.filter_filter]
    apply List.filter_congr
    intro y _
    simp [Bool.and_comm, beq_eq_decide]
  have hmem : ∀ y, y ∈ l ↔ y ∈ seen ++ [x] ∨ y ∈ rest.removeAll (seen ++ [x]) := by
    intro y
    rw [← List.mem_eraseDups, hl, hrest]
    simp [or_assoc]
  have hmore : ((more.removeAll (seen ++ [x])).removeAll (seen ++ [x])).removeAll
      (rest.removeAll (seen ++ [x])) = more.removeAll l := by
    simp only [List.removeAll, List.filter_filter]
    apply List.filter_congr
    intro y _
    have := hmem y
    simp only [List.removeAll] at this
    grind
  have hqueue : (rest ++ more.removeAll (seen ++ [x])).removeAll (seen ++ [x]) =
      rest.removeAll (seen ++ [x]) ++ (more.removeAll (seen ++ [x])).removeAll (seen ++ [x]) :=
    List.filter_append _ _
  rw [List.eraseDups_append, hl, hrest, hqueue, List.eraseDups_append, hmore, List.append_cons,
    List.append_assoc]

/-- One round lists the root and all successors, each where it is first mentioned. -/
theorem within_succ (n : Nat) :
    within next root (n + 1) = (root :: (within next root n).flatMap next).eraseDups := by
  induction n with
  | zero =>
    change [root] ++ _ = ([root] ++ _).eraseDups
    rw [List.eraseDups_append]
    rfl
  | succ n ih =>
    -- a round finds nothing new among the successors of what the round before it has seen
    have hseen : ∀ x, x ∈ within next root (n + 1) ↔
        x ∈ root :: (within next root n).flatMap next := by
      intro x
      rw [ih, List.mem_eraseDups]
    have hnew : within next root (n + 1) =
        within next root n ++ (((within next root n).flatMap next).removeAll
          (within next root n)).eraseDups := rfl
    set new := (((within next root n).flatMap next).removeAll (within next root n)).eraseDups
    have hold : ((within next root n).flatMap next).removeAll (within next root (n + 1)) = [] := by
      rw [List.eq_nil_iff_forall_not_mem]
      intro x hx
      obtain ⟨hx, hx'⟩ := mem_removeAll_iff.1 hx
      exact hx' ((hseen x).2 (List.mem_cons_of_mem _ hx))
    have hflat : (within next root (n + 1)).flatMap next =
        (within next root n).flatMap next ++ new.flatMap next := by
      rw [hnew, List.flatMap_append]
    calc within next root (n + 2)
        = within next root (n + 1) ++
            (((within next root (n + 1)).flatMap next).removeAll
              (within next root (n + 1))).eraseDups := rfl
      _ = within next root (n + 1) ++
            ((new.flatMap next).removeAll (within next root (n + 1))).eraseDups := by
          rw [hflat, List.removeAll, List.filter_append]
          change _ ++ (List.removeAll _ _ ++ List.removeAll _ _).eraseDups = _
          rw [hold, List.nil_append]
      _ = (root :: (within next root n).flatMap next).eraseDups ++
            ((new.flatMap next).removeAll
              (root :: (within next root n).flatMap next)).eraseDups := by
          rw [← ih, removeAll_congr fun x _ => hseen x]
      _ = (root :: (within next root (n + 1)).flatMap next).eraseDups := by
          rw [← List.eraseDups_append, hflat, List.cons_append]

theorem within_le_succ (n : Nat) : within next root n <+: within next root (n + 1) :=
  List.prefix_append _ _

theorem within_le {m n : Nat} (h : m ≤ n) : within next root m <+: within next root n := by
  induction h with
  | refl => exact List.prefix_rfl
  | step _ ih => exact ih.trans (within_le_succ next root _)

theorem nodup_within (n : Nat) : (within next root n).Nodup := by
  cases n with
  | zero => simp [within]
  | succ n =>
    rw [within_succ]
    exact nodup_eraseDups _

variable {next root}

theorem reach_of_mem_within {n : Nat} {x : α} (h : x ∈ within next root n) :
    Reach next root x := by
  induction n generalizing x with
  | zero =>
    rw [within, List.mem_singleton] at h
    exact h ▸ .root
  | succ n ih =>
    rw [within_succ, List.mem_eraseDups, List.mem_cons, List.mem_flatMap] at h
    rcases h with rfl | ⟨y, hy, hxy⟩
    · exact .root
    · exact .step (ih hy) hxy

theorem exists_mem_within {x : α} (h : Reach next root x) : ∃ n, x ∈ within next root n := by
  induction h with
  | root => exact ⟨0, by simp [within]⟩
  | @step a b _ hb ih =>
    obtain ⟨n, hn⟩ := ih
    refine ⟨n + 1, ?_⟩
    rw [within_succ, List.mem_eraseDups]
    exact List.mem_cons_of_mem _ (List.mem_flatMap.2 ⟨a, hn, hb⟩)

/-- A list is an opening when the order starts with it. -/
def Opening (next : α → List α) (root : α) (l : List α) : Prop :=
  ∃ n, l <+: within next root n

namespace Opening

theorem singleton : Opening next root [root] := ⟨0, List.prefix_rfl⟩

/-- What comes first among the successors of an opening, the opening apart, is next in order. -/
theorem snoc {l r : List α} {x : α} (h : Opening next root l)
    (hx : (root :: l.flatMap next).eraseDups = l ++ x :: r) : Opening next root (l ++ [x]) := by
  obtain ⟨n, hn⟩ := h
  refine ⟨n + 1, ?_⟩
  have hflat : root :: l.flatMap next <+: root :: (within next root n).flatMap next := by
    obtain ⟨t, ht⟩ := hn
    exact ⟨t.flatMap next, by rw [← ht, List.flatMap_append, List.cons_append]⟩
  have hpre := eraseDups_le hflat
  rw [hx, ← within_succ] at hpre
  exact List.IsPrefix.trans ⟨r, by simp⟩ hpre

theorem comparable {l m : List α} (hl : Opening next root l) (hm : Opening next root m) :
    l <+: m ∨ m <+: l := by
  obtain ⟨i, hi⟩ := hl
  obtain ⟨j, hj⟩ := hm
  exact List.prefix_or_prefix_of_prefix
    (hi.trans (within_le next root (Nat.le_max_left i j)))
    (hj.trans (within_le next root (Nat.le_max_right i j)))

theorem nodup {l : List α} (h : Opening next root l) : l.Nodup := by
  obtain ⟨n, hn⟩ := h
  exact (nodup_within next root n).sublist hn.sublist

theorem reach {l : List α} (h : Opening next root l) {x : α} (hx : x ∈ l) : Reach next root x := by
  obtain ⟨n, hn⟩ := h
  exact reach_of_mem_within (hn.subset hx)

end Opening

omit [DecidableEq α] in
/-- A list that holds the root and all successors of its members holds all that can be reached. -/
theorem mem_of_reach {l : List α} (hroot : root ∈ l) (hnext : ∀ a ∈ l, ∀ b ∈ next a, b ∈ l)
    {x : α} (h : Reach next root x) : x ∈ l := by
  induction h with
  | root => exact hroot
  | step _ hb ih => exact hnext _ ih _ hb

/-! ## Distance -/

/-- A path of `n` steps leads from the root to a node. -/
inductive Leads (next : α → List α) (root : α) : Nat → α → Prop
  | root : Leads next root 0 root
  | step {n : Nat} {a b : α} : Leads next root n a → b ∈ next a → Leads next root (n + 1) b

/-- The length of a shortest path from the root. -/
noncomputable def distance (next : α → List α) (root x : α) : Nat :=
  sInf {n | Leads next root n x}

omit [DecidableEq α] in
theorem Reach.exists_leads {x : α} (h : Reach next root x) : ∃ n, Leads next root n x := by
  induction h with
  | root => exact ⟨0, .root⟩
  | step _ hb ih =>
    obtain ⟨n, hn⟩ := ih
    exact ⟨n + 1, hn.step hb⟩

omit [DecidableEq α] in
theorem Reach.leads_distance {x : α} (h : Reach next root x) :
    Leads next root (distance next root x) x :=
  Nat.sInf_mem h.exists_leads

theorem mem_within_iff {n : Nat} {x : α} :
    x ∈ within next root n ↔ ∃ k ≤ n, Leads next root k x := by
  induction n generalizing x with
  | zero =>
    rw [within, List.mem_singleton]
    constructor
    · rintro rfl
      exact ⟨0, le_rfl, .root⟩
    · rintro ⟨k, hk, h⟩
      obtain rfl := Nat.le_zero.1 hk
      cases h
      rfl
  | succ n ih =>
    rw [within_succ, List.mem_eraseDups, List.mem_cons, List.mem_flatMap]
    constructor
    · rintro (rfl | ⟨a, ha, hx⟩)
      · exact ⟨0, Nat.zero_le _, .root⟩
      · obtain ⟨k, hk, h⟩ := ih.1 ha
        exact ⟨k + 1, Nat.succ_le_succ hk, h.step hx⟩
    · rintro ⟨k, hk, h⟩
      cases h with
      | root => exact .inl rfl
      | step ha hx => exact .inr ⟨_, ih.2 ⟨_, Nat.le_of_succ_le_succ hk, ha⟩, hx⟩

/-- A round lists what is as near as its number says. -/
theorem mem_within_iff_distance {n : Nat} {x : α} (h : Reach next root x) :
    x ∈ within next root n ↔ distance next root x ≤ n := by
  rw [mem_within_iff]
  exact ⟨fun ⟨_, hk, hx⟩ => (Nat.sInf_le hx).trans hk, fun hle => ⟨_, hle, h.leads_distance⟩⟩

/-- Every round opens a list that is made of the root and the successors of its elements. -/
theorem within_prefix {l : List α} (hl : (root :: l.flatMap next).eraseDups = l) (n : Nat) :
    within next root n <+: l := by
  induction n with
  | zero =>
    rw [← hl, List.eraseDups_cons]
    exact ⟨_, rfl⟩
  | succ n ih =>
    obtain ⟨more, hmore⟩ := ih
    rw [within_succ, ← hl]
    apply eraseDups_le
    rw [List.prefix_cons_inj]
    exact ⟨more.flatMap next, by rw [← List.flatMap_append, hmore]⟩

/-- Such a list is ordered by distance. -/
theorem pairwise_distance {l : List α} (hl : (root :: l.flatMap next).eraseDups = l)
    (hreach : ∀ x ∈ l, Reach next root x) : (l.map (distance next root)).Pairwise (· ≤ ·) := by
  have hnodup : l.Nodup := hl ▸ nodup_eraseDups _
  rw [List.pairwise_map, List.pairwise_iff_getElem]
  intro i j hi hj hij
  -- the round that lists the later element lists all that stands before it
  have hround := within_prefix hl (distance next root l[j])
  have hmem : l[j] ∈ within next root (distance next root l[j]) :=
    (mem_within_iff_distance (hreach _ (List.getElem_mem hj))).2 le_rfl
  obtain ⟨k, hk, hkj⟩ := List.getElem_of_mem hmem
  rw [hround.getElem hk] at hkj
  obtain rfl : k = j := (hnodup.getElem_inj_iff).1 hkj
  have hx : l[i] ∈ within next root (distance next root l[k]) := by
    rw [← hround.getElem (hij.trans hk)]
    exact List.getElem_mem _
  exact (mem_within_iff_distance (hreach _ (List.getElem_mem hi))).1 hx

end ModuleBundler.Graph.Breadth
