import Mathlib.Data.List.Nodup
import ModuleBundler.Proofs.Hook.Fuel
import ModuleBundler.Proofs.Hook.Schedule

/-!
# The listeners of a parallel hook

The listeners of a parallel hook get their turns in any order, and what else there is in the world
may change in between. In whatever order they end, each of them has been called once and has come to
its end before the hook gives its result, and the result is that of the first failure to occur. An
invocation is such a race, in which the listeners take turns in rotation.
-/

namespace ModuleBundler.Hook

/-- A turn of a listener: what was left of it before, and what the turn came to. -/
structure Move where
  place : Nat
  left : Running
  turn : Turn Running Outcome

/-- How the listeners of a parallel hook stand, in some state of the world. -/
structure Standing (St : Type) where
  waiting : List Runner
  failure? : Option Error
  world : St

section Race

variable {St : Type}

/-- The result of the hook, once no listener is waited for. -/
def Standing.result? (c : Standing St) : Option (Except Error Unit) :=
  match c.waiting, c.failure? with
  | [], none => some (.ok ())
  | [], some e => some (.error e)
  | _ :: _, _ => none

/-- From one standing to another by turns in any order; `T` says what a turn may come to. What is
left of a listener that pauses is waited for again. -/
inductive Race (T : Running → St → Turn Running Outcome → St → Prop) (hook : String)
    (a : Standing St) : List Move → Standing St → Prop
  | start : Race T hook a [] a
  /-- The world changes by itself. -/
  | drift {moves : List Move} {b : Standing St} (h : Race T hook a moves b) (world : St) :
    Race T hook a moves { b with world }
  | paused {moves : List Move} {front back : List Runner} {r : Runner} {failure? : Option Error}
    {u v : St} {left : Running} (h : Race T hook a moves ⟨front ++ r :: back, failure?, u⟩)
    (ht : T r.left u (.paused left) v) :
    Race T hook a (moves ++ [⟨r.place, r.left, .paused left⟩])
      ⟨front ++ back ++ [{ r with left, called := true }], failure?, v⟩
  | ended {moves : List Move} {front back : List Runner} {r : Runner} {failure? : Option Error}
    {u v : St} {outcome : Outcome} (h : Race T hook a moves ⟨front ++ r :: back, failure?, u⟩)
    (ht : T r.left u (.ended outcome) v) :
    Race T hook a (moves ++ [⟨r.place, r.left, .ended outcome⟩])
      ⟨front ++ back, firstFailure hook r.name outcome failure?, v⟩

/-- Turns of one listener, from `start` on, each where the one before has paused; and what the last
one came to. After its end there are no more. -/
inductive Course (start : Running) : List Move → Turn Running Outcome → Prop
  | none : Course start [] (.paused start)
  | move {moves : List Move} {place : Nat} {left : Running} {turn : Turn Running Outcome}
    (h : Course start moves (.paused left)) : Course start (moves ++ [⟨place, left, turn⟩]) turn

/-- The turns of the listener at a place. -/
def own (place : Nat) (moves : List Move) : List Move := moves.filter fun m => m.place = place

/-- The listener at a place has been called and has come to its end. -/
def EndedAs (taps : List Tap) (moves : List Move) (place : Nat) (outcome : Outcome) : Prop :=
  ∃ tap, taps[place]? = some tap ∧
    Course (.task tap.listener.task) (own place moves) (.ended outcome)

/-- The error is that of the first failure to occur, under the name of the listener that failed. -/
def FirstFailed (hook : String) (taps : List Tap) (moves : List Move) (e : Error) : Prop :=
  ∃ before m after cause tap, moves = before ++ m :: after ∧ m.turn = .ended (.error cause) ∧
    taps[m.place]? = some tap ∧ e = .listener hook tap.name cause ∧
    ∀ n ∈ before, ∀ other, n.turn ≠ .ended (.error other)

/-- Every listener is called once and followed to its end; the result is there when all have come to
their ends and not before, and is that of the first failure, if there is any. -/
structure LosesNothing (T : Running → St → Turn Running Outcome → St → Prop) (hook : String)
    (taps : List Tap) (moves : List Move) (c : Standing St) : Prop where
  turns : ∀ m ∈ moves, m.place < taps.length ∧ ∃ u v, T m.left u m.turn v
  once : ∀ place tap, taps[place]? = some tap →
    ∃ t, Course (.task tap.listener.task) (own place moves) t
  returns : c.result?.isSome ↔ ∀ place < taps.length, ∃ outcome, EndedAs taps moves place outcome
  ok : c.result? = some (.ok ()) ↔ ∀ place < taps.length, EndedAs taps moves place (.ok ())
  error (e : Error) : c.result? = some (.error e) ↔
    (∀ place < taps.length, ∃ outcome, EndedAs taps moves place outcome) ∧
      FirstFailed hook taps moves e

/-! ## Races -/

variable {T : Running → St → Turn Running Outcome → St → Prop} {hook : String} {taps : List Tap}
variable {moves : List Move} {place : Nat} {a b c : Standing St}

theorem own_snoc (m : Move) :
    own place (moves ++ [m]) = if m.place = place then own place moves ++ [m] else own place moves := by
  rw [own, List.filter_append]
  by_cases h : m.place = place <;> simp [own, h]

/-- Turns have come to what the last one came to. -/
theorem Course.eq {start : Running} {t : Turn Running Outcome} (h : Course start moves t) :
    t = (moves.getLast?.map Move.turn).getD (.paused start) := by
  cases h with
  | none => rfl
  | move => simp

theorem Course.unique {start : Running} {t t' : Turn Running Outcome} (h : Course start moves t)
    (h' : Course start moves t') : t = t' := h.eq.trans h'.eq.symm

/-- The failure that a move brings. -/
def Move.failure? (hook : String) (taps : List Tap) (m : Move) : Option Error :=
  match m.turn with
  | .ended (.error cause) => taps[m.place]?.map fun tap => .listener hook tap.name cause
  | _ => none

theorem firstFailure_eq {tap : Tap} (h : taps[place]? = some tap) (left : Running)
    (outcome : Outcome) (failure? : Option Error) :
    firstFailure hook tap.name outcome failure? =
      failure?.or (Move.failure? hook taps ⟨place, left, .ended outcome⟩) := by
  cases failure? with
  | some e => rfl
  | none =>
    cases outcome with
    | ok _ => rfl
    | error cause => simp only [firstFailure, Move.failure?, h, Option.map_some, Option.none_or]

/-- What holds of the listeners at every moment of a race. -/
structure Kept (T : Running → St → Turn Running Outcome → St → Prop) (hook : String)
    (taps : List Tap) (moves : List Move) (c : Standing St) : Prop where
  places : (c.waiting.map Runner.place).Nodup
  waits : ∀ r ∈ c.waiting, ∃ tap, taps[r.place]? = some tap ∧ r.name = tap.name ∧
    Course (.task tap.listener.task) (own r.place moves) (.paused r.left)
  through : ∀ place tap, taps[place]? = some tap → (∀ r ∈ c.waiting, r.place ≠ place) →
    ∃ outcome, Course (.task tap.listener.task) (own place moves) (.ended outcome)
  steps : ∀ m ∈ moves, m.place < taps.length ∧ ∃ u v, T m.left u m.turn v
  failure : c.failure? = moves.findSome? (Move.failure? hook taps)

namespace Kept

theorem map_place_runnersFrom (place : Nat) (taps : List Tap) :
    (runnersFrom place taps).map Runner.place = List.range' place taps.length := by
  induction taps generalizing place with
  | nil => rfl
  | cons tap taps ih => rw [runnersFrom, List.map_cons, ih, List.length_cons, List.range'_succ]

theorem exists_tap {r : Runner} (h : r ∈ runnersFrom place taps) :
    ∃ i tap, taps[i]? = some tap ∧ r = ⟨place + i, tap.name, .task tap.listener.task, false⟩ := by
  induction taps generalizing place with
  | nil => cases h
  | cons tap taps ih =>
    rcases List.mem_cons.1 h with rfl | h
    · exact ⟨0, tap, rfl, rfl⟩
    · obtain ⟨i, tap', htap', rfl⟩ := ih h
      exact ⟨i + 1, tap', htap', by rw [Nat.add_assoc, Nat.add_comm 1]⟩

theorem start (u : St) : Kept T hook taps [] ⟨runnersFrom 0 taps, none, u⟩ where
  places := by
    rw [map_place_runnersFrom]
    exact List.nodup_range'
  waits r hr := by
    obtain ⟨i, tap, htap, rfl⟩ := exists_tap hr
    rw [Nat.zero_add]
    exact ⟨tap, htap, rfl, .none⟩
  through place tap htap hnone := by
    have hlt : place < taps.length := (List.getElem?_eq_some_iff.1 htap).1
    have hmem : place ∈ (runnersFrom 0 taps).map Runner.place := by
      rw [map_place_runnersFrom, List.mem_range'_1]
      omega
    obtain ⟨r, hr, hplace⟩ := List.mem_map.1 hmem
    exact absurd hplace (hnone r hr)
  steps := by simp
  failure := rfl

section Turn

variable {front back : List Runner} {r : Runner} {failure? : Option Error} {u v : St}
variable {t : Turn Running Outcome}

theorem nodup_cons (h : Kept T hook taps moves ⟨front ++ r :: back, failure?, u⟩) :
    (r.place :: (front ++ back).map Runner.place).Nodup := by
  rw [List.map_append, ← List.nodup_middle, ← List.map_cons, ← List.map_append]
  exact h.places

theorem place_ne (h : Kept T hook taps moves ⟨front ++ r :: back, failure?, u⟩) :
    ∀ r' ∈ front ++ back, r'.place ≠ r.place :=
  fun _ hr' hplace => (List.nodup_cons.1 h.nodup_cons).1 (hplace ▸ List.mem_map_of_mem hr')

/-- The listener that gets a turn goes on where it has paused. -/
theorem turned (h : Kept T hook taps moves ⟨front ++ r :: back, failure?, u⟩) :
    ∃ tap, taps[r.place]? = some tap ∧ r.name = tap.name ∧
      Course (.task tap.listener.task) (own r.place (moves ++ [⟨r.place, r.left, t⟩])) t := by
  obtain ⟨tap, htap, hname, hcourse⟩ := h.waits r (by simp)
  rw [own_snoc, if_pos rfl]
  exact ⟨tap, htap, hname, hcourse.move⟩

/-- The others stay as they are. -/
theorem others (h : Kept T hook taps moves ⟨front ++ r :: back, failure?, u⟩) :
    ∀ r' ∈ front ++ back, ∃ tap, taps[r'.place]? = some tap ∧ r'.name = tap.name ∧
      Course (.task tap.listener.task) (own r'.place (moves ++ [⟨r.place, r.left, t⟩]))
        (.paused r'.left) := by
  intro r' hr'
  rw [own_snoc, if_neg (Ne.symm (h.place_ne r' hr'))]
  refine h.waits r' ?_
  rcases List.mem_append.1 hr' with hr' | hr'
  · exact List.mem_append_left _ hr'
  · exact List.mem_append_right _ (List.mem_cons_of_mem _ hr')

theorem through_others (h : Kept T hook taps moves ⟨front ++ r :: back, failure?, u⟩) {tap : Tap}
    (htap : taps[place]? = some tap) (hr : r.place ≠ place)
    (hnone : ∀ r' ∈ front ++ back, r'.place ≠ place) :
    ∃ outcome, Course (.task tap.listener.task)
      (own place (moves ++ [⟨r.place, r.left, t⟩])) (.ended outcome) := by
  rw [own_snoc, if_neg hr]
  refine h.through place tap htap fun r' hr' => ?_
  rcases List.mem_append.1 hr' with hr' | hr'
  · exact hnone r' (List.mem_append_left _ hr')
  rcases List.mem_cons.1 hr' with rfl | hr'
  · exact hr
  · exact hnone r' (List.mem_append_right _ hr')

theorem steps_snoc (h : Kept T hook taps moves ⟨front ++ r :: back, failure?, u⟩)
    (ht : T r.left u t v) : ∀ m ∈ moves ++ [⟨r.place, r.left, t⟩],
      m.place < taps.length ∧ ∃ u v, T m.left u m.turn v := by
  intro m hm
  rcases List.mem_append.1 hm with hm | hm
  · exact h.steps m hm
  · obtain ⟨tap, htap, -⟩ := h.waits r (by simp)
    rw [List.mem_singleton.1 hm]
    exact ⟨(List.getElem?_eq_some_iff.1 htap).1, u, v, ht⟩

theorem paused {left : Running} (h : Kept T hook taps moves ⟨front ++ r :: back, failure?, u⟩)
    (ht : T r.left u (.paused left) v) :
    Kept T hook taps (moves ++ [⟨r.place, r.left, .paused left⟩])
      ⟨front ++ back ++ [{ r with left, called := true }], failure?, v⟩ where
  places := by
    rw [List.map_append]
    exact (List.perm_append_singleton ..).nodup_iff.2 h.nodup_cons
  waits r' hr' := by
    rcases List.mem_append.1 hr' with hr' | hr'
    · exact h.others r' hr'
    · rw [List.mem_singleton.1 hr']
      exact h.turned
  through place tap htap hnone := by
    refine h.through_others htap (hnone { r with left, called := true } (by simp)) fun r' hr' => ?_
    exact hnone r' (List.mem_append_left _ hr')
  steps := h.steps_snoc ht
  failure := by
    rw [List.findSome?_append, ← h.failure]
    exact (Option.or_none ..).symm

theorem ended {outcome : Outcome} (h : Kept T hook taps moves ⟨front ++ r :: back, failure?, u⟩)
    (ht : T r.left u (.ended outcome) v) :
    Kept T hook taps (moves ++ [⟨r.place, r.left, .ended outcome⟩])
      ⟨front ++ back, firstFailure hook r.name outcome failure?, v⟩ where
  places := (List.nodup_cons.1 h.nodup_cons).2
  waits := h.others
  through place tap htap hnone := by
    by_cases hr : r.place = place
    · subst hr
      obtain ⟨tap', htap', -, hcourse⟩ := h.turned (t := .ended outcome)
      cases htap.symm.trans htap'
      exact ⟨outcome, hcourse⟩
    · exact h.through_others htap hr hnone
  steps := h.steps_snoc ht
  failure := by
    obtain ⟨tap, htap, hname, -⟩ := h.turned (t := .ended outcome)
    rw [List.findSome?_append, ← h.failure, hname, firstFailure_eq htap r.left]
    simp only [List.findSome?_cons, List.findSome?_nil]
    cases Move.failure? hook taps _ <;> rfl

end Turn

/-- By induction on the turns of a race. -/
theorem of_race {u : St} (h : Race T hook ⟨runnersFrom 0 taps, none, u⟩ moves c) :
    Kept T hook taps moves c := by
  induction h with
  | start => exact .start u
  | drift _ world ih => exact ⟨ih.places, ih.waits, ih.through, ih.steps, ih.failure⟩
  | paused _ ht ih => exact ih.paused ht
  | ended _ ht ih => exact ih.ended ht

/-- No listener is waited for when all have ended, and only then. -/
theorem waiting_eq_nil (h : Kept T hook taps moves c) : c.waiting = [] ↔
    ∀ place < taps.length, ∃ outcome, EndedAs taps moves place outcome := by
  constructor
  · intro hnil place hplace
    have htap := List.getElem?_eq_getElem hplace
    obtain ⟨outcome, hcourse⟩ := h.through place _ htap (by simp [hnil])
    exact ⟨outcome, _, htap, hcourse⟩
  · intro hall
    refine List.eq_nil_iff_forall_not_mem.2 fun r hr => ?_
    obtain ⟨tap, htap, -, hpaused⟩ := h.waits r hr
    obtain ⟨outcome, tap', htap', hended⟩ := hall r.place (List.getElem?_eq_some_iff.1 htap).1
    cases htap.symm.trans htap'
    cases hpaused.unique hended

end Kept

/-- A turn that comes to an end is the last. -/
theorem Course.ended_of_mem {start : Running} {t : Turn Running Outcome} {m : Move}
    {outcome : Outcome} (h : Course start moves t) (hm : m ∈ moves) (hend : m.turn = .ended outcome) :
    t = .ended outcome := by
  induction h with
  | none => cases hm
  | move _ ih =>
    rcases List.mem_append.1 hm with hm | hm
    · cases ih hm
    · rw [List.mem_singleton.1 hm] at hend
      exact hend

theorem Course.exists_ended {start : Running} {outcome : Outcome}
    (h : Course start moves (.ended outcome)) : ∃ m ∈ moves, m.turn = .ended outcome := by
  cases h with
  | move => exact ⟨_, List.mem_append_right _ (List.mem_singleton_self _), rfl⟩

theorem Move.failure?_eq_some {m : Move} {e : Error} : m.failure? hook taps = some e ↔
    ∃ cause tap, m.turn = .ended (.error cause) ∧ taps[m.place]? = some tap ∧
      e = .listener hook tap.name cause := by
  obtain ⟨place, left, _ | cause | _⟩ := m
  · simp [Move.failure?]
  · simp [Move.failure?, @eq_comm _ e]
  · simp [Move.failure?]

theorem Move.failure?_eq_none {m : Move} (hm : m.place < taps.length) :
    m.failure? hook taps = none ↔ ∀ cause, m.turn ≠ .ended (.error cause) := by
  obtain ⟨place, left, _ | cause | _⟩ := m
  · simp [Move.failure?]
  · simpa [Move.failure?] using hm
  · simp [Move.failure?]

namespace Standing

theorem isSome_result? : c.result?.isSome ↔ c.waiting = [] := by
  obtain ⟨_ | ⟨r, waiting⟩, _ | e, world⟩ := c <;> simp [result?]

theorem result?_eq_ok : c.result? = some (.ok ()) ↔ c.waiting = [] ∧ c.failure? = none := by
  obtain ⟨_ | ⟨r, waiting⟩, _ | e, world⟩ := c <;> simp [result?]

theorem result?_eq_error {e : Error} :
    c.result? = some (.error e) ↔ c.waiting = [] ∧ c.failure? = some e := by
  obtain ⟨_ | ⟨r, waiting⟩, _ | e, world⟩ := c <;> simp [result?]

end Standing

namespace Kept

theorem failure_eq_none (h : Kept T hook taps moves c) :
    c.failure? = none ↔ ∀ m ∈ moves, ∀ cause, m.turn ≠ .ended (.error cause) := by
  rw [h.failure, List.findSome?_eq_none_iff]
  exact forall₂_congr fun m hm => Move.failure?_eq_none (h.steps m hm).1

theorem failure_eq_some (h : Kept T hook taps moves c) {e : Error} :
    c.failure? = some e ↔ FirstFailed hook taps moves e := by
  rw [h.failure, List.findSome?_eq_some_iff]
  constructor
  · rintro ⟨before, m, after, hsplit, hm, hbefore⟩
    obtain ⟨cause, tap, hturn, htap, he⟩ := Move.failure?_eq_some.1 hm
    refine ⟨before, m, after, cause, tap, hsplit, hturn, htap, he, fun n hn => ?_⟩
    exact (Move.failure?_eq_none (h.steps n (by simp [hsplit, hn])).1).1 (hbefore n hn)
  · rintro ⟨before, m, after, cause, tap, hsplit, hturn, htap, he, hbefore⟩
    refine ⟨before, m, after, hsplit, Move.failure?_eq_some.2 ⟨cause, tap, hturn, htap, he⟩,
      fun n hn => ?_⟩
    exact (Move.failure?_eq_none (h.steps n (by simp [hsplit, hn])).1).2 (hbefore n hn)

theorem exists_course (h : Kept T hook taps moves c) {tap : Tap} (htap : taps[place]? = some tap) :
    ∃ t, Course (.task tap.listener.task) (own place moves) t := by
  by_cases hwaits : ∃ r ∈ c.waiting, r.place = place
  · obtain ⟨r, hr, rfl⟩ := hwaits
    obtain ⟨tap', htap', -, hcourse⟩ := h.waits r hr
    cases htap.symm.trans htap'
    exact ⟨_, hcourse⟩
  · obtain ⟨outcome, hcourse⟩ := h.through place tap htap fun r hr hp => hwaits ⟨r, hr, hp⟩
    exact ⟨_, hcourse⟩

/-- All have ended without a failure exactly when all have ended well. -/
theorem all_well (h : Kept T hook taps moves c) : c.waiting = [] ∧ c.failure? = none ↔
    ∀ place < taps.length, EndedAs taps moves place (.ok ()) := by
  rw [h.waiting_eq_nil, h.failure_eq_none]
  constructor
  · rintro ⟨hall, hwell⟩ place hplace
    obtain ⟨outcome, tap, htap, hcourse⟩ := hall place hplace
    cases outcome with
    | ok => exact ⟨tap, htap, hcourse⟩
    | error cause =>
      obtain ⟨m, hm, hturn⟩ := hcourse.exists_ended
      exact absurd hturn (hwell m (List.mem_of_mem_filter hm) cause)
  · intro hall
    refine ⟨fun place hplace => ⟨_, hall place hplace⟩, fun m hm cause hturn => ?_⟩
    obtain ⟨tap, -, hcourse⟩ := hall m.place (h.steps m hm).1
    have hown : m ∈ own m.place moves := List.mem_filter.2 ⟨hm, by simp⟩
    cases hcourse.ended_of_mem hown hturn

end Kept

theorem Race.losesNothing {u : St} (h : Race T hook ⟨runnersFrom 0 taps, none, u⟩ moves c) :
    LosesNothing T hook taps moves c := by
  have hkept := Kept.of_race h
  exact {
    turns := hkept.steps
    once := fun _ _ => hkept.exists_course
    returns := Standing.isSome_result?.trans hkept.waiting_eq_nil
    ok := Standing.result?_eq_ok.trans hkept.all_well
    error := fun _ => Standing.result?_eq_error.trans
      (and_congr hkept.waiting_eq_nil hkept.failure_eq_some) }

/-! ## Turns in rotation -/

/-- From one standing to another when always the first that is waited for gets the turn. -/
inductive InTurn (T : Running → St → Turn Running Outcome → St → Prop) (hook : String) :
    Standing St → Standing St → Prop
  | done (a : Standing St) : InTurn T hook a a
  | paused {back : List Runner} {r : Runner} {failure? : Option Error} {u v : St} {left : Running}
    {b : Standing St} (ht : T r.left u (.paused left) v)
    (h : InTurn T hook ⟨back ++ [{ r with left, called := true }], failure?, v⟩ b) :
    InTurn T hook ⟨r :: back, failure?, u⟩ b
  | ended {back : List Runner} {r : Runner} {failure? : Option Error} {u v : St}
    {outcome : Outcome} {b : Standing St} (ht : T r.left u (.ended outcome) v)
    (h : InTurn T hook ⟨back, firstFailure hook r.name outcome failure?, v⟩ b) :
    InTurn T hook ⟨r :: back, failure?, u⟩ b

theorem InTurn.trans (hab : InTurn T hook a b) (hbc : InTurn T hook b c) : InTurn T hook a c := by
  induction hab with
  | done => exact hbc
  | paused ht _ ih => exact .paused ht (ih hbc)
  | ended ht _ ih => exact .ended ht (ih hbc)

/-- Turns in rotation are a race. -/
theorem Race.after (h : Race T hook a moves b) (hbc : InTurn T hook b c) :
    ∃ more, Race T hook a (moves ++ more) c := by
  induction hbc generalizing moves with
  | done => exact ⟨[], by rwa [List.append_nil]⟩
  | paused ht _ ih =>
    have hfront : Race T hook a moves ⟨[] ++ _ :: _, _, _⟩ := h
    obtain ⟨more, hmore⟩ := ih (hfront.paused ht)
    exact ⟨_, by rwa [List.append_assoc] at hmore⟩
  | ended ht _ ih =>
    have hfront : Race T hook a moves ⟨[] ++ _ :: _, _, _⟩ := h
    obtain ⟨more, hmore⟩ := ih (hfront.ended ht)
    exact ⟨_, by rwa [List.append_assoc] at hmore⟩

end Race

section Invocation

variable {m : Type → Type} [Monad m] {σ : Type} [World m σ]
variable {s : Stage m} {hook : String} {taps : List Tap} {runners : List Runner}
variable {failure? : Option Error} {u v : Compilation × σ} {fuel paused : Nat}

/-- What a turn of a listener may come to, if it is given enough fuel. -/
def Turned (s : Stage m) (r : Running) (u : Compilation × σ) (t : Turn Running Outcome)
    (v : Compilation × σ) : Prop :=
  ∃ fuel, World.run (turn s fuel r).run u = (some t, v)

/-- What an invocation's turns have come to. -/
def Standing.turn {St : Type} (c : Standing St) (hook : String) :
    Turn Invocation (Except Error Unit) :=
  match c.result? with
  | some result => .ended result
  | none => .paused (.parallel hook (c.waiting.map Runner.pending) c.failure?)

theorem run_turns_nil (failure? : Option Error) (u : Compilation × σ) :
    World.run (turns s (fuel + 1) (.parallel hook [] failure?) paused).run u =
      (some (Standing.turn ⟨[], failure?, u⟩ hook), u) := by
  unfold turns
  cases failure? <;> exact Framed.run_pure _ _

/-- The first of the listeners gets a turn. When it pauses, the hook may pause with it. -/
theorem run_turns_cons (r : Runner) (back : List Runner) (failure? : Option Error)
    (u : Compilation × σ) :
    World.run (turns s (fuel + 1) (.parallel hook ((r :: back).map Runner.pending) failure?)
      paused).run u =
      match World.run (turn s fuel r.left).run u with
      | (none, v) => (none, v)
      | (some (.paused left), v) =>
        let i : Invocation :=
          .parallel hook ((back ++ [{ r with left, called := true }]).map Runner.pending) failure?
        if 2 ≤ paused + 1 ∨ back.length + 1 ≤ paused + 1 then (some (.paused i), v)
        else World.run (turns s fuel i (paused + 1)).run v
      | (some (.ended outcome), v) =>
        World.run (turns s fuel (.parallel hook (back.map Runner.pending)
          (firstFailure hook r.name outcome failure?)) 0).run v := by
  have hpending : r.pending = (r.name, r.left) := rfl
  conv_lhs => unfold turns
  simp only [List.map_cons, hpending]
  rw [Framed.run_bind]
  rcases World.run (turn s fuel r.left).run u with ⟨_ | left | outcome, v⟩
  · rfl
  · have hmap : back.map Runner.pending ++ [(r.name, left)] =
        (back ++ [{ r with left, called := true }]).map Runner.pending := by
      rw [List.map_append]
      rfl
    simp only [hmap, List.length_map, List.length_append, List.length_singleton]
    split
    · exact Framed.run_pure _ _
    · rfl
  · rfl

/-- A turn of a parallel hook is made of turns of its listeners, in rotation. -/
theorem turns_inTurn {t : Turn Invocation (Except Error Unit)}
    (h : World.run (turns s fuel (.parallel hook (runners.map Runner.pending) failure?) paused).run u
      = (some t, v)) :
    ∃ c, InTurn (Turned s) hook ⟨runners, failure?, u⟩ c ∧ c.world = v ∧ c.turn hook = t := by
  induction fuel generalizing runners failure? paused u with
  | zero =>
    rw [turns, Framed.run_outOfFuel] at h
    cases h
  | succ fuel ih =>
    cases runners with
    | nil =>
      rw [List.map_nil, run_turns_nil] at h
      cases h
      exact ⟨_, .done _, rfl, rfl⟩
    | cons r back =>
      rw [run_turns_cons] at h
      rcases hturn : World.run (turn s fuel r.left).run u with ⟨_ | left | outcome, w⟩
      · rw [hturn] at h
        cases h
      · rw [hturn] at h
        simp only at h
        split at h
        · cases h
          refine ⟨_, .paused ⟨fuel, hturn⟩ (.done _), rfl, ?_⟩
          cases back <;> rfl
        · obtain ⟨c, hc, hworld, hshown⟩ := ih h
          exact ⟨c, .paused ⟨fuel, hturn⟩ hc, hworld, hshown⟩
      · rw [hturn] at h
        obtain ⟨c, hc, hworld, hshown⟩ := ih h
        exact ⟨c, .ended ⟨fuel, hturn⟩ hc, hworld, hshown⟩

/-- The turns of an invocation that is waited for, up to its result. -/
theorem complete_inTurn {result : Except Error Unit}
    (h : World.run (complete s fuel (.parallel hook (runners.map Runner.pending) failure?)).run u
      = (some result, v)) :
    ∃ c, InTurn (Turned s) hook ⟨runners, failure?, u⟩ c ∧ c.world = v ∧
      c.result? = some result := by
  induction fuel generalizing runners failure? u with
  | zero =>
    rw [complete, Framed.run_outOfFuel] at h
    cases h
  | succ fuel ih =>
    rw [complete, Framed.run_bind] at h
    rcases hturns : World.run (turns s fuel (.parallel hook (runners.map Runner.pending)
      failure?) 0).run u with ⟨_ | t, w⟩
    · rw [hturns] at h
      cases h
    · rw [hturns] at h
      obtain ⟨b, hb, rfl, rfl⟩ := turns_inTurn hturns
      cases hresult : b.result? with
      | some given =>
        simp only [Standing.turn, hresult] at h
        rw [Framed.run_pure] at h
        cases h
        exact ⟨b, hb, rfl, hresult⟩
      | none =>
        simp only [Standing.turn, hresult] at h
        obtain ⟨c, hc, hworld, hgiven⟩ := ih h
        exact ⟨c, hb.trans hc, hworld, hgiven⟩

/-- The rest of an invocation, `paused` of whose listeners have paused since one last ended. -/
def drive (s : Stage m) (fuel more : Nat) (i : Invocation) (paused : Nat) :
    Action m (Except Error Unit) := do
  match ← turns s fuel i paused with
  | .paused i => complete s more i
  | .ended result => return result

theorem complete_succ (i : Invocation) : complete s (fuel + 1) i = drive s fuel fuel i 0 := by
  rw [complete]
  rfl

theorem drive_below {fuel' more more' : Nat} (hfuel : fuel ≤ fuel') (hmore : more ≤ more')
    (i : Invocation) (paused : Nat) :
    Below (drive s fuel more i paused) (drive s fuel' more' i paused) := by
  refine .bind (turns_below hfuel i paused) fun t => ?_
  cases t with
  | paused i => exact complete_below hmore i
  | ended result => exact .refl _

theorem run_drive_cons (r : Runner) (back : List Runner) (failure? : Option Error)
    (u : Compilation × σ) (more : Nat) :
    World.run (drive s (fuel + 1) more (.parallel hook ((r :: back).map Runner.pending) failure?)
      paused).run u =
      match World.run (turn s fuel r.left).run u with
      | (none, v) => (none, v)
      | (some (.paused left), v) =>
        let i : Invocation :=
          .parallel hook ((back ++ [{ r with left, called := true }]).map Runner.pending) failure?
        if 2 ≤ paused + 1 ∨ back.length + 1 ≤ paused + 1 then World.run (complete s more i).run v
        else World.run (drive s fuel more i (paused + 1)).run v
      | (some (.ended outcome), v) =>
        World.run (drive s fuel more (.parallel hook (back.map Runner.pending)
          (firstFailure hook r.name outcome failure?)) 0).run v := by
  rw [drive, Framed.run_bind, run_turns_cons]
  rcases World.run (turn s fuel r.left).run u with ⟨_ | left | outcome, v⟩
  · rfl
  · by_cases hpause : 2 ≤ paused + 1 ∨ back.length + 1 ≤ paused + 1
    · simp only [if_pos hpause]
    · simp only [if_neg hpause]
      rw [drive, Framed.run_bind]
  · simp only
    rw [drive, Framed.run_bind]

/-- When the listeners come to their ends in rotation, enough fuel gives the result, however many
have paused before. -/
theorem exists_drive {a c : Standing (Compilation × σ)} {result : Except Error Unit}
    (h : InTurn (Turned s) hook a c) (hresult : c.result? = some result) (paused : Nat) :
    ∃ fuel, World.run (drive s fuel fuel (.parallel hook (a.waiting.map Runner.pending) a.failure?)
      paused).run a.world = (some result, c.world) := by
  induction h generalizing paused with
  | done a =>
    refine ⟨1, ?_⟩
    obtain ⟨_ | ⟨r, waiting⟩, failure?, world⟩ := a
    · rw [drive, Framed.run_bind, List.map_nil, run_turns_nil]
      simp only [Standing.turn, hresult]
      exact Framed.run_pure _ _
    · cases hresult
  | @paused back r failure? u v left b ht _ ih =>
    obtain ⟨k, hk⟩ := ht
    obtain ⟨first, hfirst⟩ := ih hresult 0
    obtain ⟨second, hsecond⟩ := ih hresult (paused + 1)
    -- The fuel has to do whether or not the hook pauses together with the listener.
    let fuel := k + first + second
    refine ⟨fuel + 1, ?_⟩
    have hturn := turn_below (s := s) (by omega : k ≤ fuel) r.left u _ v hk
    rw [run_drive_cons, hturn]
    simp only
    split
    · rw [complete_succ]
      exact drive_below (by omega) (by omega) _ _ _ _ _ hfirst
    · exact drive_below (by omega) (by omega) _ _ _ _ _ hsecond
  | @ended back r failure? u v outcome b ht _ ih =>
    obtain ⟨k, hk⟩ := ht
    obtain ⟨rest, hrest⟩ := ih hresult 0
    refine ⟨k + rest + 1, ?_⟩
    have hturn := turn_below (s := s) (by omega : k ≤ k + rest) r.left u _ v hk
    rw [run_drive_cons, hturn]
    exact drive_below (by omega) (by omega) _ _ _ _ _ hrest

/-- To invoke a parallel hook is to give its listeners turns in rotation until all have ended. -/
theorem invoke_iff_inTurn {r : Registry} (hd : r.hooks.get? hook = some ⟨.asyncParallel, taps⟩)
    {result : Except Error Unit} :
    (∃ fuel, World.run (invoke s fuel r hook).run u = (some result, v)) ↔
      ∃ c, InTurn (Turned s) hook ⟨runnersFrom 0 taps, none, u⟩ c ∧ c.world = v ∧
        c.result? = some result := by
  have hinvoke : ∀ fuel, invoke s fuel r hook =
      complete s fuel (.parallel hook ((runnersFrom 0 taps).map Runner.pending) none) := by
    intro fuel
    rw [invoke, begin_, hd, map_runnersFrom]
  constructor
  · rintro ⟨fuel, h⟩
    rw [hinvoke] at h
    exact complete_inTurn h
  · rintro ⟨c, hc, rfl, hresult⟩
    obtain ⟨fuel, h⟩ := exists_drive hc hresult 0
    exact ⟨fuel + 1, by rw [hinvoke, complete_succ]; exact h⟩

/-- Parallel hooks lose nothing. Whatever the listeners of a hook are and in whatever order they get
their turns and end, `LosesNothing` holds of what they have done so far. To invoke the hook is one
such race, in which the listeners take turns in rotation: it gives a result, with enough fuel, when
all have ended, and no other result. The same goes for an invocation that a listener waits for, each
of whose turns is made of turns of the hook's listeners. -/
theorem parallel_loses_nothing (hook : String) (taps : List Tap) :
    (∀ (St : Type) (T : Running → St → Turn Running Outcome → St → Prop) (u : St) (moves : List Move)
      (c : Standing St), Race T hook ⟨runnersFrom 0 taps, none, u⟩ moves c →
        LosesNothing T hook taps moves c) ∧
    (∀ (s : Stage m) (r : Registry) (u v : Compilation × σ) (result : Except Error Unit),
      r.hooks.get? hook = some ⟨.asyncParallel, taps⟩ →
      ((∃ fuel, World.run (invoke s fuel r hook).run u = (some result, v)) ↔
        ∃ c, InTurn (Turned s) hook ⟨runnersFrom 0 taps, none, u⟩ c ∧ c.world = v ∧
          c.result? = some result)) ∧
    (∀ (s : Stage m) (fuel : Nat) (runners : List Runner) (failure? : Option Error) (paused : Nat)
      (u v : Compilation × σ) (t : Turn Invocation (Except Error Unit)),
      World.run (turns s fuel (.parallel hook (runners.map Runner.pending) failure?) paused).run u =
        (some t, v) →
      ∃ c, InTurn (Turned s) hook ⟨runners, failure?, u⟩ c ∧ c.world = v ∧ c.turn hook = t) ∧
    ∀ (s : Stage m) (a b c : Standing (Compilation × σ)) (moves : List Move),
      Race (Turned s) hook a moves b → InTurn (Turned s) hook b c →
        ∃ more, Race (Turned s) hook a (moves ++ more) c :=
  ⟨fun _ _ _ _ _ h => h.losesNothing, fun _ _ _ _ _ hd => invoke_iff_inTurn hd,
    fun _ _ _ _ _ _ _ _ => turns_inTurn, fun _ _ _ _ _ => Race.after⟩

end Invocation

/-! ## A listener that fails while another one waits -/

/-- Of three listeners the first fails after a pause, and the second at once. -/
def hasty : List Tap :=
  [⟨"slow", .async (.pause rfl (.fail "late"))⟩, ⟨"fast", .async (.fail "early")⟩,
    ⟨"fine", .async .succeed⟩]

def hastyStage : Stage (StateM FileSystem.Memory) :=
  ⟨FileSystem.Memory.host, fun _ => pure (), ⟨.ofList [(make, ⟨.asyncParallel, hasty⟩)]⟩⟩

def hastyStart : Compilation × FileSystem.Memory :=
  ({ entry := .root, output := ⟨"/", "a"⟩, hooks := [] }, .empty "/")

/-- The hook waits for the first, and reports the second. -/
theorem parallel_loses_nothing_of_hasty : ∃ moves c,
    Race (Turned hastyStage) make ⟨runnersFrom 0 hasty, none, hastyStart⟩ moves c ∧
      c.result? = some (.error (.listener make "fast" ⟨"early", []⟩)) ∧
      FirstFailed make hasty moves (.listener make "fast" ⟨"early", []⟩) ∧
      ∀ place < 3, ∃ outcome, EndedAs hasty moves place outcome := by
  have hresult : (World.run (invoke hastyStage 9 hastyStage.registry make).run hastyStart).1 =
      some (.error (.listener make "fast" ⟨"early", []⟩)) := by decide +kernel
  obtain ⟨hrace, hinvoke, -, hafter⟩ :=
    parallel_loses_nothing (m := StateM FileSystem.Memory) make hasty
  obtain ⟨c, hturns, -, hc⟩ := (hinvoke hastyStage _ hastyStart _ _ rfl).1 ⟨9, Prod.ext hresult rfl⟩
  obtain ⟨moves, hmoves⟩ := hafter hastyStage _ _ _ [] .start hturns
  have hkept := hrace _ _ _ _ _ hmoves
  obtain ⟨hended, hfirst⟩ := (hkept.error _).1 hc
  exact ⟨_, c, hmoves, hc, hfirst, hended⟩

end ModuleBundler.Hook
