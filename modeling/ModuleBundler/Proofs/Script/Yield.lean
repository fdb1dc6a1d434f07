import ModuleBundler.Script.Parser
import ModuleBundler.Proofs.Script.Scan

/-!
# Runs of a parser

`Yields p ctx s Q` says what holds when `p` succeeds from a state. A parser moves when it takes the
state forward through the text, takes when it also passes the current token, and reads when it
leaves the state alone. The rules follow the parser step by step.
-/

namespace ModuleBundler.Script

namespace ParserState

/-- Where the current token starts. -/
def here (s : ParserState) : Nat := s.token.span.start

/-- The last token, the current one and the text after it stand in this order. -/
structure Ordered (s : ParserState) : Prop where
  previous : s.previousStop ≤ s.here
  origin : s.here ≤ s.origin.offset
  next : s.origin.Before s.next
  ordered : s.here ≤ s.token.span.stop
  stop : s.token.span.stop ≤ s.next.offset
  text : s.token.lexeme = .finish ∨ s.origin.rest ≠ []
  word : s.lexicalFaults = [] → ∀ name escaped, s.token.lexeme = .word name escaped → IsWord name

/-- `t` is further on in the same text. Faults that have been noted stay. -/
structure Reach (s t : ParserState) : Prop where
  ordered : t.Ordered
  here : s.here ≤ t.here
  previous : s.previousStop ≤ t.previousStop
  origin : s.origin.Before t.origin
  lexical : t.lexicalFaults = [] → s.lexicalFaults = []
  grammar : t.grammarFaults = [] → s.grammarFaults = []

namespace Reach

variable {s t u : ParserState}

theorem refl (h : s.Ordered) : s.Reach s :=
  ⟨h, Nat.le_refl _, Nat.le_refl _, Cursor.Before.refl _, id, id⟩

theorem trans (h : s.Reach t) (k : t.Reach u) : s.Reach u :=
  ⟨k.ordered, Nat.le_trans h.here k.here, Nat.le_trans h.previous k.previous,
    h.origin.trans k.origin, h.lexical ∘ k.lexical, h.grammar ∘ k.grammar⟩

/-- A state that differs in its notes only. -/
theorem of_same (h : s.Ordered) (ht : t.token = s.token) (ho : t.origin = s.origin)
    (hn : t.next = s.next) (hp : t.previousStop = s.previousStop)
    (hl : t.lexicalFaults = s.lexicalFaults) (hg : t.grammarFaults = [] → s.grammarFaults = []) :
    s.Reach t := by
  have hh : t.here = s.here := congrArg (·.span.start) ht
  refine ⟨⟨?_, ?_, ?_, ?_, ?_, ?_, ?_⟩, Nat.le_of_eq hh.symm, Nat.le_of_eq hp.symm, ?_, ?_, hg⟩
  · rw [hp, hh]
    exact h.previous
  · rw [hh, ho]
    exact h.origin
  · rw [ho, hn]
    exact h.next
  · rw [hh, ht]
    exact h.ordered
  · rw [ht, hn]
    exact h.stop
  · rw [ht, ho]
    exact h.text
  · rw [ht, hl]
    exact h.word
  · rw [ho]
    exact Cursor.Before.refl _
  · rw [hl]
    exact id

end Reach

/-- The state with a scanned token. -/
def loaded (s : ParserState) (r : Scanned) : ParserState :=
  { s with
    token := r.token
    origin := r.start
    next := r.next
    lexicalFaults := r.faults.reverse ++ s.lexicalFaults
    comment? := s.comment? <|> r.comment? }

theorem ordered_loaded {s : ParserState} {r : Scanned} {c : Cursor} (hr : r.After c)
    (hp : s.previousStop ≤ c.offset) : (s.loaded r).Ordered :=
  ⟨Nat.le_trans hp hr.start, hr.start_le, hr.next, hr.ordered, hr.stop, hr.text,
    fun hl => hr.word (List.reverse_eq_nil_iff.1 (List.append_eq_nil_iff.1 hl).1)⟩

end ParserState

namespace Parser

open ParserState (Reach)

variable {α β : Type} {ctx : Context} {s t : ParserState} {Q R : α → ParserState → Prop}

/-- `Q` holds of the result and the state that `p` ends in, if it does not fail. -/
structure Yields (p : Parser α) (ctx : Context) (s : ParserState) (Q : α → ParserState → Prop) :
    Prop where
  run : ∀ a t, p ctx s = .ok (a, t) → Q a t

namespace Yields

variable {p : Parser α} {f : α → Parser β} {P : β → ParserState → Prop}

theorem pure {a : α} (h : Q a s) : Yields (pure a) ctx s Q := by
  constructor
  rintro b t ⟨⟩
  exact h

theorem bind (h : Yields p ctx s fun a t => Yields (f a) ctx t P) :
    Yields (p >>= f) ctx s P := by
  constructor
  intro b u hb
  change (p ctx s >>= fun r => f r.1 ctx r.2) = .ok (b, u) at hb
  cases hp : p ctx s with
  | error e =>
    rw [hp] at hb
    cases hb
  | ok r =>
    rw [hp] at hb
    exact (h.run r.1 r.2 hp).run b u hb

theorem mono (h : Yields p ctx s Q) (hQ : ∀ a t, Q a t → R a t) : Yields p ctx s R where
  run := fun a t ha => hQ a t (h.run a t ha)

theorem ite {c : Prop} [Decidable c] {q : Parser α} (hp : Yields p ctx s Q)
    (hq : Yields q ctx s Q) : Yields (if c then p else q) ctx s Q := by
  split
  · exact hp
  · exact hq

theorem within {change : Context → Context} (h : Yields p (change ctx) s Q) :
    Yields (within change p) ctx s Q := ⟨h.run⟩

theorem fail {offset : Nat} : Yields (fail offset) ctx s Q := by
  constructor
  rintro a t ⟨⟩

theorem get {f : ParserState → Parser α} (h : Yields (f s) ctx s Q) :
    Yields (get >>= f) ctx s Q := ⟨h.run⟩

theorem unexpected : Yields unexpected ctx s Q := by
  unfold Parser.unexpected
  apply get
  split
  · exact bind ⟨fun _ _ _ => fail⟩
  · exact bind ⟨fun _ _ _ => fail⟩
  · exact fail

theorem tokenStart {f : Nat → Parser α} (h : Yields (f s.here) ctx s Q) :
    Yields (tokenStart >>= f) ctx s Q := ⟨h.run⟩

theorem previousStop {f : Nat → Parser α} (h : Yields (f s.previousStop) ctx s Q) :
    Yields (previousStop >>= f) ctx s Q := ⟨h.run⟩

theorem node {shape : Shape} {start : Nat} {parts : List Node} {f : Node → Parser α}
    (h : Yields (f (.mk shape ⟨start, s.previousStop⟩ parts)) ctx s Q) :
    Yields (node shape start parts >>= f) ctx s Q := ⟨h.run⟩

/-- An invariant that every step of a loop keeps. -/
theorem iterate {start : β} {step : β → Parser (β ⊕ α)} (I : β → ParserState → Prop)
    (h : I start s) (hstep : ∀ b t, I b t → Yields (step b) ctx t (Sum.elim I Q)) :
    Yields (iterate start step) ctx s Q := by
  have hgo : ∀ n b t, I b t → Yields (iterate.go step n b) ctx t Q := by
    intro n
    induction n with
    | zero =>
      intro b t _
      apply get
      exact fail
    | succ n ih =>
      intro b t hb
      refine bind ((hstep b t hb).mono fun r u hr => ?_)
      cases r with
      | inl b => exact ih b u hr
      | inr a => exact pure hr
  exact ⟨(hgo ctx.limit start s h).run⟩

end Yields

/-! ## Kinds of steps -/

def Reads (p : Parser α) : Prop := ∀ ctx s, Yields p ctx s fun _ t => t = s

def Moves (p : Parser α) : Prop := ∀ ctx s, s.Ordered → Yields p ctx s fun _ t => s.Reach t

def Takes (p : Parser α) : Prop :=
  ∀ ctx s, s.Ordered → Yields p ctx s fun _ t => s.Reach t ∧ s.here ≤ t.previousStop

section Kinds

variable {p : Parser α} {f : α → Parser β}

theorem Reads.moves (h : Reads p) : Moves p := by
  refine fun ctx s hs => (h ctx s).mono fun a t ht => ?_
  rw [ht]
  exact Reach.refl hs

theorem Takes.moves (h : Takes p) : Moves p :=
  fun ctx s hs => (h ctx s hs).mono fun _ _ ht => ht.1

theorem Reads.bind (hp : Reads p) (hf : ∀ a, Reads (f a)) : Reads (p >>= f) := by
  refine fun ctx s => Yields.bind ((hp ctx s).mono fun a t ht => ?_)
  rw [ht]
  exact hf a ctx s

theorem Moves.bind (hp : Moves p) (hf : ∀ a, Moves (f a)) : Moves (p >>= f) :=
  fun ctx s hs => Yields.bind ((hp ctx s hs).mono fun a t ht =>
    (hf a ctx t ht.ordered).mono fun _ _ hu => ht.trans hu)

theorem Takes.bind (hp : Takes p) (hf : ∀ a, Moves (f a)) : Takes (p >>= f) :=
  fun ctx s hs => Yields.bind ((hp ctx s hs).mono fun a t ht =>
    (hf a ctx t ht.1.ordered).mono fun _ _ hu =>
      ⟨ht.1.trans hu, Nat.le_trans ht.2 hu.previous⟩)

theorem Moves.bind_takes (hp : Moves p) (hf : ∀ a, Takes (f a)) : Takes (p >>= f) :=
  fun ctx s hs => Yields.bind ((hp ctx s hs).mono fun a t ht =>
    (hf a ctx t ht.ordered).mono fun _ _ hu =>
      ⟨ht.trans hu.1, Nat.le_trans ht.here hu.2⟩)

theorem reads_pure (a : α) : Reads (pure a) := fun _ _ => Yields.pure rfl

theorem moves_pure (a : α) : Moves (pure a : Parser α) := (reads_pure a).moves

theorem takes_fail (offset : Nat) : Takes (fail offset : Parser α) := fun _ _ _ => Yields.fail

theorem takes_unexpected : Takes (unexpected : Parser α) := fun _ _ _ => Yields.unexpected

theorem Moves.ite {c : Prop} [Decidable c] {q : Parser α} (hp : Moves p) (hq : Moves q) :
    Moves (if c then p else q) := by
  split
  · exact hp
  · exact hq

end Kinds

/-! ## What the tokens around say -/

theorem reads_read : Reads (read : Parser Context) := by
  intro ctx s
  constructor
  rintro a t ⟨⟩
  rfl

theorem reads_get : Reads (get : Parser ParserState) := by
  intro ctx s
  constructor
  rintro a t ⟨⟩
  rfl

theorem reads_token : Reads token := reads_get.bind fun _ => reads_pure _

theorem reads_lexeme : Reads lexeme := reads_get.bind fun _ => reads_pure _

theorem reads_tokenStart : Reads tokenStart := reads_get.bind fun _ => reads_pure _

theorem reads_afterNewline : Reads afterNewline := reads_get.bind fun _ => reads_pure _

theorem reads_previousStop : Reads previousStop := reads_get.bind fun _ => reads_pure _

theorem reads_peek : Reads peek := reads_get.bind fun _ => reads_pure _

theorem reads_atPunctuator (p : String) : Reads (atPunctuator p) :=
  reads_lexeme.bind fun _ => reads_pure _

theorem reads_atFinish : Reads atFinish := reads_lexeme.bind fun _ => reads_pure _

theorem reads_atWord (w : String) : Reads (atWord w) := by
  apply reads_lexeme.bind
  intro l
  split
  · exact reads_pure _
  · exact reads_pure _

theorem reads_canEndStatement : Reads canEndStatement := reads_token.bind fun _ => reads_pure _

theorem reads_atListEnd (close : String) : Reads (atListEnd close) :=
  reads_lexeme.bind fun _ => reads_pure _

theorem reads_lookahead (p : Parser α) : Reads (lookahead p) := by
  intro ctx s
  apply Yields.get
  apply Yields.bind
  constructor
  intro a t _
  apply Yields.bind
  constructor
  rintro _ u ⟨⟩
  exact Yields.pure rfl

/-! ## Errors and tokens -/

/-- A change of the state that leaves all places as they are. -/
theorem moves_modify {g : ParserState → ParserState} (hg : ∀ s, (g s).token = s.token ∧
    (g s).origin = s.origin ∧ (g s).next = s.next ∧ (g s).previousStop = s.previousStop ∧
    (g s).lexicalFaults = s.lexicalFaults ∧ ((g s).grammarFaults = [] → s.grammarFaults = [])) :
    Moves (modify g : Parser Unit) := by
  intro ctx s hs
  constructor
  rintro a t ⟨⟩
  obtain ⟨ht, ho, hn, hp, hl, hf⟩ := hg s
  exact Reach.of_same hs ht ho hn hp hl hf

theorem moves_fault (offset : Nat) : Moves (fault offset) :=
  moves_modify fun _ => ⟨rfl, rfl, rfl, rfl, rfl, nofun⟩

theorem moves_faultIf (wrong : Bool) (offset : Nat) : Moves (faultIf wrong offset) :=
  (moves_fault offset).ite (moves_pure ())

theorem moves_faultAt? (offset? : Option Nat) : Moves (faultAt? offset?) := by
  cases offset? with
  | none => exact moves_pure ()
  | some offset => exact moves_fault offset

theorem moves_failIf (wrong : Bool) (offset : Nat) : Moves (failIf wrong offset) :=
  (takes_fail offset).moves.ite (moves_pure ())

theorem moves_unexpectedIf (wrong : Bool) : Moves (unexpectedIf wrong) :=
  takes_unexpected.moves.ite (moves_pure ())

theorem takes_skip : Takes skip := by
  intro ctx s hs
  constructor
  rintro a t ⟨⟩
  have hr := s.next.scan_after
  have hhere : s.here ≤ s.next.offset := Nat.le_trans hs.ordered hs.stop
  refine ⟨⟨ParserState.ordered_loaded hr hs.stop, Nat.le_trans hhere hr.start, ?_, ?_, ?_, id⟩,
    hs.ordered⟩
  · exact Nat.le_trans hs.previous hs.ordered
  · exact hs.next.trans hr.origin
  · exact fun hl => (List.append_eq_nil_iff.1 hl).2

/-- The current token is read again in another way. -/
theorem reach_load {r : Scanned} (hs : s.Ordered) (hr : r.After s.origin) :
    Yields (load r) ctx s fun _ t => s.Reach t := by
  constructor
  rintro a t ⟨⟩
  have hp : s.previousStop ≤ s.origin.offset := Nat.le_trans hs.previous hs.origin
  refine ⟨ParserState.ordered_loaded hr hp, Nat.le_trans hs.origin hr.start, Nat.le_refl _,
    hr.origin, ?_, id⟩
  exact fun hl => (List.append_eq_nil_iff.1 hl).2

theorem moves_checkSpelling : Moves checkSpelling := by
  apply reads_lexeme.moves.bind
  intro l
  split
  · exact reads_tokenStart.moves.bind fun _ => moves_faultIf _ _
  · exact moves_pure ()

theorem takes_bump : Takes bump := moves_checkSpelling.bind_takes fun _ => takes_skip

/-- The answer tells whether the current token was taken. -/
def Tries (p : Parser Bool) : Prop :=
  ∀ ctx s, s.Ordered → Yields p ctx s fun b t => s.Reach t ∧ (b = true → s.here ≤ t.previousStop)

theorem Tries.moves {p : Parser Bool} (h : Tries p) : Moves p :=
  fun ctx s hs => (h ctx s hs).mono fun _ _ ht => ht.1

theorem Reads.tries_bump {p : Parser Bool} (h : Reads p) : Tries (do
    if ← p then
      bump
      pure true
    else pure false) := by
  refine fun ctx s hs => Yields.bind ((h ctx s).mono fun b t ht => ?_)
  rw [ht]
  cases b with
  | false => exact Yields.pure ⟨Reach.refl hs, nofun⟩
  | true =>
    exact Yields.bind
      ((takes_bump ctx s hs).mono fun _ _ hu => Yields.pure ⟨hu.1, fun _ => hu.2⟩)

theorem Tries.require {p : Parser Bool} (h : Tries p) :
    Takes (do unless ← p do fail (← tokenStart)) := by
  refine fun ctx s hs => Yields.bind ((h ctx s hs).mono fun b t ht => ?_)
  cases b with
  | false => exact Yields.tokenStart Yields.fail
  | true => exact Yields.pure ⟨ht.1, ht.2 rfl⟩

theorem tries_eat (p : String) : Tries (eat p) := (reads_atPunctuator p).tries_bump

theorem tries_eatWord (w : String) : Tries (eatWord w) := (reads_atWord w).tries_bump

theorem takes_expect (p : String) : Takes (expect p) := (tries_eat p).require

theorem takes_expectWord (w : String) : Takes (expectWord w) := (tries_eatWord w).require

theorem moves_endStatement : Moves endStatement := by
  apply (tries_eat ";").moves.bind
  intro b
  refine (moves_pure ()).ite (reads_canEndStatement.moves.bind fun b => ?_)
  refine (moves_pure ()).ite (reads_previousStop.moves.bind fun _ => ?_)
  exact (takes_fail _).moves

theorem takes_takeComma : Takes takeComma := by
  apply reads_tokenStart.moves.bind_takes
  intro comma
  apply (reads_atPunctuator ",").moves.bind_takes
  intro b
  apply (moves_failIf _ comma).bind_takes
  intro _
  exact takes_bump.bind fun _ => moves_pure comma

theorem moves_endsAfterComma (close : String) (found : List Node) (rest? : Option Node) :
    Moves (endsAfterComma close found rest?) := by
  refine (moves_pure false).ite (takes_takeComma.moves.bind fun comma => ?_)
  apply (reads_atPunctuator close).moves.bind
  intro ends
  exact (moves_faultIf _ comma).bind fun _ => moves_pure ends

theorem moves_onlyIf {take : Parser Bool} (h : Moves take) (allowed : Bool) :
    Moves (onlyIf allowed take) :=
  h.ite (moves_pure false)

end Parser

end ModuleBundler.Script
