import ModuleBundler.Proofs.Compiler.Artifact
import ModuleBundler.Proofs.Compiler.Stages

/-!
# The order of a run

What is seen of a run is in the order of its phases. Hence the listeners of `make` are through
before anything is written, a failure before the artifact withholds it, the listeners of `emit` come
one by one and before those of `after_emit`, and no listener is called twice.
-/

namespace ModuleBundler

open FileSystem (Host Memory)
open Hook (Attended Calls Event OneByOne Registry Sights Status builtinNames)

namespace Phase

def rank : Phase → Nat
  | .init => 0
  | .build => 1
  | .graphAssembled => 2
  | .make => 3
  | .generate => 4
  | .emit => 5
  | .afterEmit => 6
  | .done => 7

/-- The phase in which a built-in hook is called. -/
def ofHook (hook : String) : Phase :=
  if hook = Hook.compilation then .graphAssembled
  else if hook = Hook.make then .make
  else if hook = Hook.emit then .emit
  else if hook = Hook.afterEmit then .afterEmit
  else .init

end Phase

namespace Hook.Event

/-- The phase to which an event belongs. -/
def home : Event → Phase
  | .entered phase => phase
  | .called hook _ => .ofHook hook
  | .ended hook _ _ => .ofHook hook
  | .checked _ => .make
  | .creates _ => .generate
  | .writes _ => .generate

/-- The phase that an event enters. -/
def phase? : Event → Option Phase
  | .entered phase => some phase
  | _ => none

theorem IsOf.home {hook : String} {e : Event} (h : e.IsOf hook) : e.home = .ofHook hook := by
  obtain ⟨place, rfl⟩ | ⟨place, well, rfl⟩ := h
  · rfl
  · rfl

theorem IsOf.phase? {hook : String} {e : Event} (h : e.IsOf hook) : e.phase? = none := by
  obtain ⟨place, rfl⟩ | ⟨place, well, rfl⟩ := h
  · rfl
  · rfl

theorem IsRequest.home {e : Event} (h : e.IsRequest) : e.home = .generate := by
  cases e with
  | creates path => rfl
  | writes path => rfl
  | entered phase => cases h
  | called hook place => cases h
  | ended hook place well => cases h
  | checked closed => cases h

theorem IsRequest.phase? {e : Event} (h : e.IsRequest) : e.phase? = none := by
  cases e with
  | entered phase => cases h
  | creates path => rfl
  | writes path => rfl
  | called hook place => rfl
  | ended hook place well => rfl
  | checked closed => rfl

end Hook.Event

namespace Compiler

variable {r : Registry} {phase : Phase} {b : Status} {seen rest : List Event}

theorem home_of_isOf {hook : String} (h : ∀ e ∈ rest, e.IsOf hook) :
    ∀ e ∈ rest, e.home = .ofHook hook ∧ e.phase? = none :=
  fun e he => ⟨(h e he).home, (h e he).phase?⟩

theorem Making.home {n : Nat} (h : Making n b rest) :
    ∀ e ∈ rest, e.home = .make ∧ e.phase? = none := by
  cases h with
  | unexpanded hb => simp
  | unfinished hb h hdrained => exact home_of_isOf h.own
  | checked closed hb h =>
    intro e he
    rcases List.mem_append.1 he with he | he
    · exact home_of_isOf h.own e he
    · rw [List.mem_singleton.1 he]
      exact ⟨rfl, rfl⟩

/-- Within a phase nothing is seen that belongs to another, and no phase is entered. -/
theorem Within.home (h : Within r phase b rest) :
    ∀ e ∈ rest, e.home = phase ∧ e.phase? = none := by
  cases phase with
  | graphAssembled => exact home_of_isOf (Calls.own h)
  | make => exact Making.home h
  | generate => exact fun e he => ⟨(h e he).home, (h e he).phase?⟩
  | emit => exact home_of_isOf (Calls.own h)
  | afterEmit => exact home_of_isOf (Calls.own h)
  | init =>
    obtain rfl : rest = [] := h
    simp
  | build =>
    obtain rfl : rest = [] := h
    simp
  | done =>
    obtain rfl : rest = [] := h
    simp

theorem SightsOf.home (h : SightsOf r phase b seen) : ∀ e ∈ seen, e.home = phase := by
  obtain ⟨rest, rfl, hrest⟩ := h
  intro e he
  rcases List.mem_cons.1 he with rfl | he
  · rfl
  · exact (hrest.home e he).1

theorem SightsOf.phases (h : SightsOf r phase b seen) : seen.filterMap Event.phase? = [phase] := by
  obtain ⟨rest, rfl, hrest⟩ := h
  have hnone : rest.filterMap Event.phase? = [] :=
    List.filterMap_eq_nil_iff.2 fun e he => (hrest.home e he).2
  simp [Event.phase?, hnone]

/-- The phases are entered in order, and all of them when the run passes. -/
theorem Staged.entered {ps : List Phase} (h : Staged (SightsOf r) ps b seen) :
    seen.filterMap Event.phase? <+: ps ∧ (b = .passed → seen.filterMap Event.phase? = ps) := by
  induction h with
  | done => simp
  | halt hb => exact ⟨List.nil_prefix, fun h => absurd h hb⟩
  | stop hb h =>
    rw [h.phases]
    exact ⟨⟨_, rfl⟩, fun h => absurd h hb⟩
  | next h _ ih =>
    rw [List.filterMap_append, h.phases]
    exact ⟨List.prefix_append_right_inj [_] |>.2 ih.1, fun hb => congrArg _ (ih.2 hb)⟩

/-! ## The listeners of a phase -/

theorem Making.attended {n : Nat} (h : Making n b rest) : ∃ calls tail b',
    rest = calls ++ tail ∧ Attended Hook.make n b' calls ∧
      (∀ e ∈ tail, ¬ e.IsOf Hook.make) ∧ (b = .passed → b' = .passed) := by
  cases h with
  | unexpanded hb => exact ⟨[], [], .stuck, rfl, .stuck, by simp, fun h => absurd h hb⟩
  | unfinished hb h hdrained => exact ⟨rest, [], b, by simp, h, by simp, id⟩
  | checked closed hb h =>
    exact ⟨_, [.checked closed], .passed, rfl, h, by simp [Event.IsOf], fun _ => rfl⟩

section Listeners

variable {hook : String} (hbuiltin : hook ∈ builtinNames)

include hbuiltin

/-- What is seen of the listeners comes before anything else that is seen in their phase. -/
theorem Within.attended (h : Within r (.ofHook hook) b rest) : ∃ calls tail b',
    rest = calls ++ tail ∧ Attended hook (r.taps hook).length b' calls ∧
      (∀ e ∈ tail, ¬ e.IsOf hook) ∧ (b = .passed → b' = .passed) := by
  simp only [builtinNames, Hook.builtins, List.map_cons, List.map_nil, List.mem_cons,
    List.not_mem_nil, or_false] at hbuiltin
  obtain rfl | rfl | rfl | rfl := hbuiltin
  · exact ⟨rest, [], b, by simp, Calls.attended h, by simp, id⟩
  · exact Making.attended h
  · exact ⟨rest, [], b, by simp, Calls.attended h, by simp, id⟩
  · exact ⟨rest, [], b, by simp, Calls.attended h, by simp, id⟩

theorem SightsOf.once (h : SightsOf r (.ofHook hook) b seen) (place : Nat) :
    seen.count (.called hook place) ≤ 1 := by
  obtain ⟨rest, rfl, hrest⟩ := h
  obtain ⟨calls, tail, b', rfl, hcalls, htail, -⟩ := Within.attended hbuiltin hrest
  have hnone : tail.count (.called hook place) = 0 :=
    List.count_eq_zero.2 fun hmem => htail _ hmem (.inl ⟨_, rfl⟩)
  have honce : calls.count (.called hook place) ≤ 1 := by
    have hle := hcalls.once place
    split at hle <;> omega
  simpa [hnone] using honce

theorem SightsOf.all (h : SightsOf r (.ofHook hook) .passed seen) {place : Nat}
    (hplace : place < (r.taps hook).length) :
    seen.count (.called hook place) = 1 ∧ .ended hook place true ∈ seen := by
  obtain ⟨rest, rfl, hrest⟩ := h
  obtain ⟨calls, tail, b', rfl, hcalls, htail, hb⟩ := Within.attended hbuiltin hrest
  have hnone : tail.count (.called hook place) = 0 :=
    List.count_eq_zero.2 fun hmem => htail _ hmem (.inl ⟨_, rfl⟩)
  have hone := hcalls.all (hb rfl) place hplace
  have hended := hcalls.ended (hb rfl) place hplace
  simp [hnone, hone, hended]

theorem SightsOf.well (h : SightsOf r (.ofHook hook) .passed seen) (place : Nat) :
    .ended hook place false ∉ seen := by
  obtain ⟨rest, rfl, hrest⟩ := h
  obtain ⟨calls, tail, b', rfl, hcalls, htail, hb⟩ := Within.attended hbuiltin hrest
  have hnone : .ended hook place false ∉ tail := fun hmem => htail _ hmem (.inr ⟨_, _, rfl⟩)
  simp [hnone, hcalls.well (hb rfl) place]

end Listeners

/-- When the make phase passes, the graph was found to be closed. -/
theorem SightsOf.closed (h : SightsOf r .make .passed seen) : .checked false ∉ seen := by
  obtain ⟨rest, rfl, hrest⟩ := h
  have hmaking : Making (r.taps Hook.make).length .passed rest := hrest
  clear hrest
  cases hmaking with
  | unexpanded hb => exact absurd rfl hb
  | unfinished hb h hdrained => exact absurd rfl hb
  | @checked _ calls closed hb h =>
    have hcalls : .checked false ∉ calls := by
      intro hmem
      obtain ⟨place, heq⟩ | ⟨place, well, heq⟩ := h.own _ hmem
      · cases heq
      · cases heq
    cases closed with
    | true => simp [hcalls]
    | false => cases hb

/-- Unless turns are lacking, the listeners of `make` have all ended once one was called. -/
theorem SightsOf.joined (h : SightsOf r .make b seen) (hb : b ≠ .stuck) {place : Nat}
    (hcalled : .called Hook.make place ∈ seen) :
    ∀ other < (r.taps Hook.make).length, ∃ well, .ended Hook.make other well ∈ seen := by
  obtain ⟨rest, rfl, hrest⟩ := h
  have hmaking : Making (r.taps Hook.make).length b rest := hrest
  clear hrest
  intro other hother
  cases hmaking with
  | unexpanded _ => simp at hcalled
  | unfinished _ h hdrained =>
    obtain ⟨well, hmem⟩ := hdrained hb other hother
    exact ⟨well, List.mem_cons_of_mem _ hmem⟩
  | checked closed _ h =>
    refine ⟨true, List.mem_cons_of_mem _ (List.mem_append_left _ ?_)⟩
    exact h.ended rfl other hother

/-! ## Where the events of a phase are -/

namespace Staged

variable {sights : Phase → Sights} {ps : List Phase}

theorem home_mem (hlocal : ∀ p b seen, sights p b seen → ∀ e ∈ seen, e.home = p)
    (h : Staged sights ps b seen) : ∀ e ∈ seen, e.home ∈ ps := by
  induction h with
  | done => simp
  | halt hb => simp
  | stop hb h => exact fun e he => hlocal _ _ _ h e he ▸ List.mem_cons_self
  | next h _ ih =>
    intro e he
    rcases List.mem_append.1 he with he | he
    · exact hlocal _ _ _ h e he ▸ List.mem_cons_self
    · exact List.mem_cons_of_mem _ (ih e he)

/-- What is seen of a phase lies between what is seen of earlier and of later ones. -/
structure Located (sights : Phase → Sights) (p : Phase) (b : Status) (seen : List Event)
    (before part after : List Event) (b' : Status) : Prop where
  split : seen = before ++ (part ++ after)
  sights : sights p b' part
  earlier : ∀ e ∈ before, e.home.rank < p.rank
  later : ∀ e ∈ after, p.rank < e.home.rank
  status : b' = .passed ∨ b' = b ∧ after = []

/-- Unless the run stops before a phase, its events are in one place. -/
theorem locate (hlocal : ∀ p b seen, sights p b seen → ∀ e ∈ seen, e.home = p)
    (hsorted : ps.Pairwise fun p q => p.rank < q.rank) (h : Staged sights ps b seen) {p : Phase}
    (hp : p ∈ ps) :
    (b ≠ .passed ∧ ∀ e ∈ seen, e.home.rank < p.rank) ∨
      ∃ before part after b', Located sights p b seen before part after b' := by
  induction h with
  | done => cases hp
  | halt hb => exact .inl ⟨hb, by simp⟩
  | @stop q ps b seen hb h =>
    have hown := hlocal _ _ _ h
    obtain ⟨hlater, hsorted⟩ := List.pairwise_cons.1 hsorted
    rcases List.mem_cons.1 hp with rfl | hp
    · refine .inr ⟨[], seen, [], b, ?_, h, by simp, by simp, .inr ⟨rfl, rfl⟩⟩
      simp
    · exact .inl ⟨hb, fun e he => hown e he ▸ hlater p hp⟩
  | @next q ps b seen more h hmore ih =>
    have hown := hlocal _ _ _ h
    obtain ⟨hlater, hsorted⟩ := List.pairwise_cons.1 hsorted
    rcases List.mem_cons.1 hp with rfl | hp
    · refine .inr ⟨[], seen, more, .passed, rfl, h, by simp, fun e he => ?_, .inl rfl⟩
      exact hlater _ (home_mem hlocal hmore e he)
    · have hseen : ∀ e ∈ seen, e.home.rank < p.rank := fun e he => hown e he ▸ hlater p hp
      obtain ⟨hb, hall⟩ | ⟨before, part, after, b', hpart⟩ := ih hsorted hp
      · exact .inl ⟨hb, fun e he => (List.mem_append.1 he).elim (hseen e) (hall e)⟩
      · refine .inr ⟨seen ++ before, part, after, b', ?_, hpart.sights, fun e he => ?_,
          hpart.later, hpart.status⟩
        · rw [hpart.split, List.append_assoc]
        · exact (List.mem_append.1 he).elim (hseen e) (hpart.earlier e)

end Staged

theorem exists_front {front back left right : List Event} {e : Event}
    (h : front ++ e :: back = left ++ right) (he : e ∉ left) :
    ∃ mid, front = left ++ mid ∧ right = mid ++ e :: back := by
  obtain ⟨mid, rfl, hmid⟩ | ⟨mid, rfl, hmid⟩ := List.append_eq_append_iff.1 h
  · cases mid with
    | nil => exact ⟨[], by simp, hmid.symm⟩
    | cons x mid =>
      cases hmid
      simp at he
  · exact ⟨mid, rfl, hmid⟩

theorem exists_back {front back left right : List Event} {e : Event}
    (h : front ++ e :: back = left ++ right) (he : e ∉ right) :
    ∃ mid, left = front ++ e :: mid ∧ back = mid ++ right := by
  obtain ⟨mid, rfl, hmid⟩ | ⟨mid, rfl, hmid⟩ := List.append_eq_append_iff.1 h
  · cases mid with
    | nil =>
      rw [List.nil_append] at hmid
      simp [← hmid] at he
    | cons x mid =>
      cases hmid
      exact ⟨mid, rfl, rfl⟩
  · simp [hmid] at he

/-! ## The order of events -/

/-- What is seen of a run with the listeners of `r` that came out as `b` is in order. -/
structure Ordered (r : Registry) (b : Status) (seen : List Event) : Prop where
  /-- The run goes through the phases in order. -/
  forward : seen.filterMap Event.phase? <+: phases
  /-- The host is asked to change something only when all listeners of `make` have ended well. -/
  drained : ∀ front e back, seen = front ++ e :: back → e.IsRequest →
    ∀ place < (r.taps Hook.make).length, .ended Hook.make place true ∈ front
  /-- Nor does the run end while a listener of `make` goes on. -/
  joined : b ≠ .stuck → (∃ place, .called Hook.make place ∈ seen) →
    ∀ place < (r.taps Hook.make).length, ∃ well, .ended Hook.make place well ∈ seen
  /-- A failure before the artifact withholds it. -/
  withheld : (∃ place, .ended Hook.compilation place false ∈ seen) ∨
    (∃ place, .ended Hook.make place false ∈ seen) ∨ .checked false ∈ seen →
    ∀ e ∈ seen, ¬ e.IsRequest
  oneByOne : OneByOne Hook.emit seen
  /-- Listeners of `after_emit` are called only when all of `emit` have ended well. -/
  emitted : ∀ front place back, seen = front ++ .called Hook.afterEmit place :: back →
    ∀ earlier < (r.taps Hook.emit).length, .ended Hook.emit earlier true ∈ front
  once : ∀ hook ∈ builtinNames, ∀ place, seen.count (.called hook place) ≤ 1
  all : b = .passed → ∀ hook ∈ builtinNames, ∀ place < (r.taps hook).length,
    seen.count (.called hook place) = 1

theorem ofHook_mem_phases {hook : String} (hbuiltin : hook ∈ builtinNames) :
    Phase.ofHook hook ∈ phases := by
  revert hook
  decide

section Trace

variable {p : Phase} {front back : List Event} {e : Event}

theorem located (h : Staged (SightsOf r) phases b seen) (hp : p ∈ phases) :
    (b ≠ .passed ∧ ∀ e ∈ seen, e.home.rank < p.rank) ∨
      ∃ before part after b', Staged.Located (SightsOf r) p b seen before part after b' :=
  h.locate (fun _ _ _ h => h.home) (by decide) hp

/-- The phase of an event has its place among what is seen. -/
theorem located_of_mem (h : Staged (SightsOf r) phases b seen) (hp : p ∈ phases) (he : e ∈ seen)
    (hhome : e.home = p) :
    ∃ before part after b', Staged.Located (SightsOf r) p b seen before part after b' := by
  obtain ⟨-, hall⟩ | hpart := located h hp
  · have hlt := hall e he
    rw [hhome] at hlt
    exact absurd hlt (Nat.lt_irrefl _)
  · exact hpart

theorem Staged.Located.not_mem_before {before part after : List Event} {b' : Status}
    (h : Located (SightsOf r) p b seen before part after b') (hhome : e.home = p) : e ∉ before := by
  intro he
  have hlt := h.earlier e he
  rw [hhome] at hlt
  exact Nat.lt_irrefl _ hlt

theorem Staged.Located.not_mem_after {before part after : List Event} {b' : Status}
    (h : Located (SightsOf r) p b seen before part after b') (hhome : e.home = p) : e ∉ after := by
  intro he
  have hlt := h.later e he
  rw [hhome] at hlt
  exact Nat.lt_irrefl _ hlt

theorem Staged.Located.mem_part {before part after : List Event} {b' : Status}
    (h : Located (SightsOf r) p b seen before part after b') (hhome : e.home = p) (he : e ∈ seen) :
    e ∈ part := by
  rw [h.split] at he
  rcases List.mem_append.1 he with he | he
  · exact absurd he (h.not_mem_before hhome)
  rcases List.mem_append.1 he with he | he
  · exact he
  · exact absurd he (h.not_mem_after hhome)

theorem Staged.Located.count_eq {before part after : List Event} {b' : Status}
    (h : Located (SightsOf r) p b seen before part after b') (hhome : e.home = p) :
    seen.count e = part.count e := by
  rw [h.split, List.count_append, List.count_append,
    List.count_eq_zero.2 (h.not_mem_before hhome), List.count_eq_zero.2 (h.not_mem_after hhome)]
  omega

/-- Before an event every earlier phase has passed. -/
theorem passed_before (h : Staged (SightsOf r) phases b seen) (hp : p ∈ phases)
    (hsplit : seen = front ++ e :: back) (hlt : p.rank < e.home.rank) :
    ∃ part, SightsOf r p .passed part ∧ (∀ x ∈ part, x ∈ front) ∧
      ∀ x ∈ seen, x.home = p → x ∈ part := by
  have he : e ∈ seen := hsplit ▸ by simp
  obtain ⟨-, hall⟩ | ⟨before, part, after, b', hpart⟩ := located h hp
  · exact absurd (hall e he) (by omega)
  · have hleft : e ∉ before ++ part := by
      intro hmem
      rcases List.mem_append.1 hmem with hmem | hmem
      · exact absurd (hpart.earlier e hmem) (by omega)
      · rw [SightsOf.home hpart.sights e hmem] at hlt
        exact Nat.lt_irrefl _ hlt
    have heq : front ++ e :: back = (before ++ part) ++ after := by
      rw [← hsplit, hpart.split, List.append_assoc]
    obtain ⟨mid, rfl, hafter⟩ := exists_front heq hleft
    have hpassed : b' = .passed := by
      obtain hb | ⟨-, hnil⟩ := hpart.status
      · exact hb
      · simp [hnil] at hafter
    exact ⟨part, hpassed ▸ hpart.sights, fun x hx => by simp [hx], fun x hx hhome =>
      hpart.mem_part hhome hx⟩

variable (h : Staged (SightsOf r) phases b seen)

include h

theorem make_ended (hsplit : seen = front ++ e :: back) (he : e.IsRequest) {place : Nat}
    (hplace : place < (r.taps Hook.make).length) : .ended Hook.make place true ∈ front := by
  obtain ⟨part, hpart, hfront, -⟩ := passed_before (p := .make) h (by decide) hsplit
    (by rw [he.home]; decide)
  exact hfront _ (SightsOf.all (by decide : Hook.make ∈ builtinNames) hpart hplace).2

theorem make_joined (hb : b ≠ .stuck) {place : Nat} (hcalled : .called Hook.make place ∈ seen) :
    ∀ other < (r.taps Hook.make).length, ∃ well, .ended Hook.make other well ∈ seen := by
  intro other hother
  obtain ⟨before, part, after, b', hpart⟩ := located_of_mem (p := .make) h (by decide) hcalled rfl
  have hb' : b' ≠ .stuck := by
    obtain rfl | ⟨rfl, -⟩ := hpart.status
    · simp
    · exact hb
  obtain ⟨well, hmem⟩ :=
    SightsOf.joined hpart.sights hb' (hpart.mem_part rfl hcalled) other hother
  exact ⟨well, hpart.split ▸ by simp [hmem]⟩

/-- When the host is asked to change something, nothing has failed before the artifact. -/
theorem well_of_request (he : e ∈ seen) (hrequest : e.IsRequest) (place : Nat) :
    .ended Hook.compilation place false ∉ seen ∧ .ended Hook.make place false ∉ seen ∧
      .checked false ∉ seen := by
  obtain ⟨front, back, hsplit⟩ := List.append_of_mem he
  obtain ⟨assembled, hassembled, -, hown⟩ := passed_before (p := .graphAssembled) h (by decide)
    hsplit (by rw [hrequest.home]; decide)
  obtain ⟨made, hmade, -, hown'⟩ := passed_before (p := .make) h (by decide) hsplit
    (by rw [hrequest.home]; decide)
  refine ⟨fun hmem => ?_, fun hmem => ?_, fun hmem => ?_⟩
  · have hbuiltin : Hook.compilation ∈ builtinNames := by decide
    exact SightsOf.well hbuiltin hassembled place (hown _ hmem rfl)
  · have hbuiltin : Hook.make ∈ builtinNames := by decide
    exact SightsOf.well hbuiltin hmade place (hown' _ hmem rfl)
  · exact hmade.closed (hown' _ hmem rfl)

theorem emit_oneByOne : OneByOne Hook.emit seen := by
  intro front place back hsplit earlier hearlier
  have hmem : .called Hook.emit place ∈ seen := hsplit ▸ by simp
  obtain ⟨before, part, after, b', hpart⟩ := located_of_mem (p := .emit) h (by decide) hmem rfl
  obtain ⟨rest, rfl, hrest⟩ := hpart.sights
  have heq : front ++ .called Hook.emit place :: back =
      (before ++ [.entered .emit]) ++ (rest ++ after) := by
    rw [← hsplit, hpart.split]
    simp
  have hbefore (i : Nat) : .called Hook.emit i ∉ before ++ [.entered .emit] := by
    simp [hpart.not_mem_before (e := .called Hook.emit i) rfl]
  obtain ⟨mid, rfl, hmid⟩ := exists_front heq (hbefore place)
  obtain ⟨tail, rfl, -⟩ := exists_back hmid.symm (hpart.not_mem_after rfl)
  have hstarted : .called Hook.emit earlier ∈ mid := by
    rcases List.mem_append.1 hearlier with hearlier | hearlier
    · exact absurd hearlier (hbefore earlier)
    · exact hearlier
  have hended := Calls.oneByOne hrest mid place tail rfl earlier hstarted
  exact List.mem_append_right _ hended

theorem emit_ended {place : Nat} (hsplit : seen = front ++ .called Hook.afterEmit place :: back)
    {earlier : Nat} (hearlier : earlier < (r.taps Hook.emit).length) :
    .ended Hook.emit earlier true ∈ front := by
  have hrank : Phase.emit.rank < Phase.afterEmit.rank := by decide
  obtain ⟨part, hpart, hfront, -⟩ := passed_before h (by decide) hsplit hrank
  exact hfront _ (SightsOf.all (by decide : Hook.emit ∈ builtinNames) hpart hearlier).2

theorem called_once {hook : String} (hbuiltin : hook ∈ builtinNames) (place : Nat) :
    seen.count (.called hook place) ≤ 1 := by
  obtain ⟨-, hall⟩ | ⟨before, part, after, b', hpart⟩ := located h (ofHook_mem_phases hbuiltin)
  · rw [List.count_eq_zero.2 fun hmem => Nat.lt_irrefl _ (hall _ hmem)]
    exact Nat.zero_le 1
  · rw [hpart.count_eq rfl]
    exact hpart.sights.once hbuiltin place

theorem called_of_passed (hb : b = .passed) {hook : String} (hbuiltin : hook ∈ builtinNames)
    {place : Nat} (hplace : place < (r.taps hook).length) :
    seen.count (.called hook place) = 1 := by
  obtain ⟨hne, -⟩ | ⟨before, part, after, b', hpart⟩ := located h (ofHook_mem_phases hbuiltin)
  · exact absurd hb hne
  · have hpassed : b' = .passed := by
      obtain hb' | ⟨hb', -⟩ := hpart.status
      · exact hb'
      · exact hb'.trans hb
    have hsights := hpart.sights
    rw [hpassed] at hsights
    rw [hpart.count_eq rfl]
    exact (hsights.all hbuiltin hplace).1

theorem Staged.ordered : Ordered r b seen where
  forward := h.entered.1
  drained _ _ _ hsplit he _ hplace := make_ended h hsplit he hplace
  joined hb := fun ⟨_, hcalled⟩ => make_joined h hb hcalled
  withheld hfailed e he hrequest := by
    obtain ⟨place, hmem⟩ | ⟨place, hmem⟩ | hmem := hfailed
    · exact (well_of_request h he hrequest place).1 hmem
    · exact (well_of_request h he hrequest place).2.1 hmem
    · exact (well_of_request h he hrequest 0).2.2 hmem
  oneByOne := emit_oneByOne h
  emitted _ _ _ hsplit _ hearlier := emit_ended h hsplit hearlier
  once _ hbuiltin place := called_once h hbuiltin place
  all hb _ hbuiltin _ hplace := called_of_passed h hb hbuiltin hplace

end Trace

section Run

variable {m : Type → Type} [Monad m] {σ : Type} [World m σ]

/-- However the turns of listeners fall, what is seen of a run is in order. Every run that ends is
one of these but for the log. -/
theorem run_ordered {c : Compiler} (hmade : c.registry.Made) (hquiet : c.registry.Quiet)
    (hisolated : c.registry.Isolated) (h : Host m) (say : String → m Unit) (fuel : Nat) (s : σ) :
    (∀ schedule ending? seen t,
      World.run (c.watchedRun h say fuel schedule) ([], s) = (ending?, seen, t) →
      Ordered c.registry (.of (ending?.map Ending.result)) seen) ∧
    ∀ ending t, World.run (c.run h say fuel) s = (some ending, t) → ∃ schedule seen,
      World.run (c.watchedRun h say fuel schedule) ([], s) = (some ending, seen, t) := by
  refine ⟨fun schedule ending? seen t hrun => ?_, fun ending t hrun => ?_⟩
  · exact (watchedRun_staged hmade hquiet h say fuel schedule hrun).ordered
  · exact exists_schedule hisolated hrun

/-- Two listeners on `make`, of which the first pauses, and one on each of the other hooks. -/
def attendantTaps : List (String × Hook.Listener) :=
  [(Hook.compilation, .sync .succeed), (Hook.make, .async (.pause rfl .succeed)),
    (Hook.make, .sync .succeed), (Hook.emit, .async .succeed), (Hook.afterEmit, .sync .succeed)]

/-- A compiler with these listeners. -/
def attended : Compiler :=
  ⟨spoiled.toSettings, (Plugin.tapAll "attendant" .builtin attendantTaps).registry, ["attendant"]⟩

/-- That compiler run on one file in memory. -/
def attendedRun : Option Ending × Memory :=
  World.run (attended.run Memory.host (fun _ => pure ()) 20) oneFile

/-- The run passes, is a watched one, and calls both listeners of `make` once. -/
theorem run_ordered_attended : ∃ ending t schedule seen, attendedRun = (some ending, t) ∧
    World.run (attended.watchedRun Memory.host (fun _ => pure ()) 20 schedule) ([], oneFile) =
      (some ending, seen, t) ∧
    Ordered attended.registry .passed seen ∧
    ∀ place < 2, seen.count (.called Hook.make place) = 1 := by
  have hmade : attended.registry.Made := Plugin.tapAll_made .builtin
  have hquiet : attended.registry.Quiet := by
    refine Plugin.forall_tapAll (fun hook tap htap => ?_) ?_
    · simp [Registry.taps_builtin] at htap
    · simp [attendantTaps, Hook.Listener.Quiet, Hook.Task.Quiet, Hook.Task.succeed]
  have hisolated : attended.registry.Isolated := by
    refine Plugin.forall_tapAll (fun hook tap htap => ?_) ?_
    · simp [Registry.taps_builtin] at htap
    · simp [attendantTaps, Hook.Listener.Isolated, Hook.Task.Isolated, Hook.Task.succeed]
  obtain ⟨hordered, hfollows⟩ :=
    run_ordered hmade hquiet hisolated Memory.host (fun _ => pure ()) 20 oneFile
  have hok : (attendedRun.1.map fun e => e.result.toBool) = some true := by decide +kernel
  rcases hrun : attendedRun with ⟨_ | ending, t⟩
  · rw [hrun] at hok
    cases hok
  · rw [hrun] at hok
    obtain ⟨schedule, seen, hwatched⟩ := hfollows ending t hrun
    have hpassed : Status.of (some ending.result) = .passed := by
      cases hresult : ending.result with
      | error e => simp [hresult, Except.toBool] at hok
      | ok success => rfl
    have hseen := hordered schedule _ seen t hwatched
    rw [Option.map_some, hpassed] at hseen
    exact ⟨ending, t, schedule, seen, rfl, hwatched, hseen,
      fun place hplace => hseen.all rfl Hook.make (by decide) place hplace⟩

end Run

end Compiler

end ModuleBundler
