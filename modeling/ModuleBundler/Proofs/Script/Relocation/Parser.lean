import ModuleBundler.Proofs.Script.Progress
import ModuleBundler.Proofs.Script.Run
import ModuleBundler.Proofs.Script.Yield
import ModuleBundler.Proofs.Script.Relocation.Scan
import ModuleBundler.Script.Statement

/-!
# Parsing elsewhere

`Agree d r p p' Q` says that two parsers go the same way from states of which one is `d` characters
further on, with `r` characters to go from the current token on: they both succeed, with a result
that has moved along, or both fail. `Q` tells how many characters are to go then. Lists of these
parsers may be bounded differently, as long as the bounds exceed the number of characters.
-/

namespace ModuleBundler.Script

/-! ## Trees -/

instance : Movable Unit := ⟨fun _ u => u⟩

instance : Movable Bool := ⟨fun _ b => b⟩

instance : Movable String := ⟨fun _ s => s⟩

instance : Movable SourceName := ⟨fun d n => { n with start := move d n.start }⟩

instance : Movable Shape where
  move d
    | .functionDefinition name? => .functionDefinition (move d name?)
    | .classDefinition name? => .classDefinition (move d name?)
    | shape => shape

namespace Node

mutual

def moved (d : Nat) : Node → Node
  | .mk shape span parts => .mk (move d shape) (move d span) (movedAll d parts)

def movedAll (d : Nat) : List Node → List Node
  | [] => []
  | n :: r => moved d n :: movedAll d r

end

instance : Movable Node := ⟨moved⟩

theorem movedAll_eq_move (d : Nat) (parts : List Node) : movedAll d parts = move d parts := by
  induction parts with
  | nil => rfl
  | cons n r ih =>
    rw [movedAll, ih]
    rfl

@[simp] theorem move_mk (d : Nat) (shape : Shape) (span : Span) (parts : List Node) :
    move d (Node.mk shape span parts) = .mk (move d shape) (move d span) (move d parts) := by
  rw [← movedAll_eq_move]
  rfl

@[simp] theorem start_move (d : Nat) (n : Node) : (move d n).start = n.start + d := by
  cases n
  rfl

@[simp] theorem span_move (d : Nat) (n : Node) : (move d n).span = move d n.span := by
  cases n
  rfl

@[simp] theorem parts_move (d : Nat) (n : Node) : (move d n).parts = move d n.parts := by
  cases n
  rw [move_mk]
  rfl

@[simp] theorem shape_move (d : Nat) (n : Node) : (move d n).shape = move d n.shape := by
  cases n
  rfl

/-- Only names of functions and classes are places. -/
theorem shape_move_beq (d : Nat) (n : Node) (shape : Shape)
    (hfunction : ∀ name?, shape ≠ .functionDefinition name?)
    (hclass : ∀ name?, shape ≠ .classDefinition name?) :
    ((move d n).shape == shape) = (n.shape == shape) := by
  obtain ⟨own, span, parts⟩ := n
  rw [move_mk]
  change (move d own == shape) = (own == shape)
  cases own with
  | functionDefinition name? =>
    have hne := fun name? => beq_eq_false_iff_ne.2 (hfunction name?).symm
    exact (hne _).trans (hne _).symm
  | classDefinition name? =>
    have hne := fun name? => beq_eq_false_iff_ne.2 (hclass name?).symm
    exact (hne _).trans (hne _).symm
  | _ => rfl

end Node

/-! ## States -/

namespace ParserState

/-- How many characters there are from the current token on. -/
def room (s : ParserState) : Nat := s.origin.rest.length

/-- The current token, as it was scanned. -/
def scanned (s : ParserState) : Scanned := { token := s.token, start := s.origin, next := s.next }

/-- The same state `d` characters further on, except for the first comment. -/
structure Moved (d : Nat) (s t : ParserState) : Prop where
  token : t.token = move d s.token
  origin : t.origin = move d s.origin
  next : t.next = move d s.next
  previousStop : t.previousStop = s.previousStop + d
  lexicalFaults : t.lexicalFaults = move d s.lexicalFaults
  grammarFaults : t.grammarFaults = move d s.grammarFaults
  shorthandValues : t.shorthandValues = move d s.shorthandValues
  trailingCommas : t.trailingCommas = move d s.trailingCommas
  refuted : t.refuted = move d s.refuted
  inside : 0 < s.next.offset
  shortens : s.scanned.Shortens

namespace Moved

variable {d : Nat} {s t : ParserState}

theorem lexeme (h : s.Moved d t) : t.token.lexeme = s.token.lexeme := by
  rw [h.token]
  rfl

theorem here (h : s.Moved d t) : t.token.span.start = s.token.span.start + d := by
  rw [h.token]
  rfl

theorem afterNewline (h : s.Moved d t) : t.token.afterNewline = s.token.afterNewline := by
  rw [h.token]
  rfl

/-- Something is to go in front of every token but the last. -/
theorem room_pos (h : s.Moved d t) (hl : s.token.lexeme ≠ .finish) : 0 < s.room := by
  obtain ⟨hfinish, -⟩ | ⟨-, hlt⟩ := h.shortens
  · exact absurd hfinish hl
  · exact Nat.zero_lt_of_lt hlt

end Moved

end ParserState

namespace Parser

variable {α β : Type} [Movable α] [Movable β] {d r : Nat}

/-- How two runs end that go the same way. -/
inductive Agreed (d : Nat) (Q : α → Nat → Prop) :
    Except Failure (α × ParserState) → Except Failure (α × ParserState) → Prop where
  | ok {a : α} {s t : ParserState} (h : s.Moved d t) (hQ : Q a s.room) :
    Agreed d Q (.ok (a, s)) (.ok (move d a, t))
  | error {n : Nat} {s t : ParserState} (h : s.Moved d t) :
    Agreed d Q (.error ⟨n, s⟩) (.error ⟨n + d, t⟩)

def Agree (d r : Nat) (p p' : Parser α) (Q : α → Nat → Prop) : Prop :=
  ∀ (ctx : Context) (limit : Nat) (s t : ParserState), s.Moved d t → s.room = r →
    r + 1 < ctx.limit → r + 1 < limit →
      Agreed d (fun a k => k ≤ r ∧ Q a k) (p ctx s) (p' { ctx with limit } t)

/-- Nothing is asked of the result. -/
abbrev anything : α → Nat → Prop := fun _ _ => True

/-- No token has been taken. -/
abbrev still (r : Nat) : α → Nat → Prop := fun _ k => k = r

/-- A token has been taken. -/
abbrev shorter (r : Nat) : α → Nat → Prop := fun _ k => k < r

section Rules

variable {p p' : Parser α} {f f' : α → Parser β} {Q R : α → Nat → Prop} {P : β → Nat → Prop}

theorem Agree.pure {a : α} (h : Q a r) : Agree d r (pure a) (pure (move d a)) Q := by
  rintro ctx limit s t hst rfl - -
  exact .ok hst ⟨Nat.le_refl _, h⟩

theorem Agree.bind (hp : Agree d r p p' Q)
    (hf : ∀ a k, k ≤ r → Q a k → Agree d k (f a) (f' (move d a)) P) :
    Agree d r (p >>= f) (p' >>= f') P := by
  intro ctx limit s t hst hr hl hl'
  change Agreed d _ (p ctx s >>= fun x => f x.1 ctx x.2)
    (p' { ctx with limit } t >>= fun x => f' x.1 { ctx with limit } x.2)
  have hrun := hp ctx limit s t hst hr hl hl'
  generalize p ctx s = x, p' { ctx with limit } t = y at hrun
  cases hrun with
  | error h => exact .error h
  | @ok a u v h hQ =>
    have hroom : u.room + 1 ≤ r + 1 := Nat.succ_le_succ hQ.1
    have hcont := hf a u.room hQ.1 hQ.2 ctx limit u v h rfl (Nat.lt_of_le_of_lt hroom hl)
      (Nat.lt_of_le_of_lt hroom hl')
    change Agreed d _ (f a ctx u) (f' (move d a) { ctx with limit } v)
    generalize f a ctx u = x, f' (move d a) { ctx with limit } v = y at hcont
    cases hcont with
    | error h => exact .error h
    | ok h hP => exact .ok h ⟨Nat.le_trans hP.1 hQ.1, hP.2⟩

theorem Agree.mono (hp : Agree d r p p' Q) (hQ : ∀ a k, k ≤ r → Q a k → R a k) :
    Agree d r p p' R := by
  intro ctx limit s t hst hr hl hl'
  have hrun := hp ctx limit s t hst hr hl hl'
  generalize p ctx s = x, p' { ctx with limit } t = y at hrun
  cases hrun with
  | error h => exact .error h
  | ok h hQ' => exact .ok h ⟨hQ'.1, hQ _ _ hQ'.1 hQ'.2⟩

theorem Agree.weaken (hp : Agree d r p p' Q) : Agree d r p p' anything :=
  hp.mono fun _ _ _ _ => trivial

/-- A step that may take tokens, and what comes then. -/
theorem Agree.followed (hp : Agree d r p p' Q)
    (hf : ∀ a k, k ≤ r → Agree d k (f a) (f' (move d a)) P) : Agree d r (p >>= f) (p' >>= f') P :=
  hp.bind fun a k hk _ => hf a k hk

/-- A step that takes a token, and what comes then. -/
theorem Agree.advance (hp : Agree d r p p' (shorter r))
    (hf : ∀ a k, k < r → Agree d k (f a) (f' (move d a)) P) : Agree d r (p >>= f) (p' >>= f') P :=
  hp.bind fun a k _ hk => hf a k hk

/-- A step that takes nothing, and what comes then. -/
theorem Agree.stay (hp : Agree d r p p' (still r))
    (hf : ∀ a, Agree d r (f a) (f' (move d a)) P) : Agree d r (p >>= f) (p' >>= f') P :=
  hp.bind fun a _ _ hk => hk ▸ hf a

/-- A check, and what comes then. -/
theorem Agree.andThen {p p' : Parser Unit} {q q' : Parser β} (hp : Agree d r p p' (still r))
    (hq : Agree d r q q' P) : Agree d r (p >>= fun _ => q) (p' >>= fun _ => q') P :=
  hp.stay fun _ => hq

/-- What takes a token from here on has taken one from an earlier place on. -/
theorem Agree.sooner {k : Nat} (h : Agree d k p p' (shorter k)) (hk : k ≤ r) :
    Agree d k p p' (shorter r) :=
  h.mono fun _ _ _ hj => Nat.lt_of_lt_of_le hj hk

theorem Agree.fail (n : Nat) : Agree d r (Parser.fail n) (Parser.fail (n + d)) Q := by
  rintro ctx limit s t hst rfl - -
  exact .error hst

theorem Agree.ite {c : Prop} [Decidable c] {q q' : Parser α} (hp : c → Agree d r p p' Q)
    (hq : ¬ c → Agree d r q q' Q) :
    Agree d r (if c then p else q) (if c then p' else q') Q := by
  split
  · exact hp ‹_›
  · exact hq ‹_›

/-- A change of the context that has nothing to do with the bound. -/
theorem Agree.within {change : Context → Context}
    (hc : ∀ ctx limit, change { ctx with limit } = { change ctx with limit })
    (h : Agree d r p p' Q) : Agree d r (within change p) (within change p') Q := by
  intro ctx limit s t hst hr hl hl'
  have hlimit : (change ctx).limit = ctx.limit := by
    rw [show change ctx = { change ctx with limit := ctx.limit } from hc ctx ctx.limit]
  have hrun := h (change ctx) limit s t hst hr (hlimit ▸ hl) hl'
  rw [← hc] at hrun
  exact hrun

end Rules

/-! ## Looking around -/

section Looking

omit [Movable α]

variable {f f' : α → Parser β} {P : β → Nat → Prop}

/-- A step that only looks. -/
theorem Agree.look {g : ParserState → α} {q q' : Parser α} (hq : ∀ ctx s, q ctx s = .ok (g s, s))
    (hq' : ∀ ctx s, q' ctx s = .ok (g s, s))
    (h : ∀ s t : ParserState, s.Moved d t → s.room = r → Agree d r (f (g s)) (f' (g t)) P) :
    Agree d r (q >>= f) (q' >>= f') P := by
  intro ctx limit s t hst hr hl hl'
  change Agreed d _ (q ctx s >>= fun x => f x.1 ctx x.2)
    (q' { ctx with limit } t >>= fun x => f' x.1 { ctx with limit } x.2)
  rw [hq, hq']
  exact h s t hst hr ctx limit s t hst hr hl hl'

theorem Agree.tokenStart {f f' : Nat → Parser β} (h : ∀ n, Agree d r (f n) (f' (n + d)) P) :
    Agree d r (tokenStart >>= f) (tokenStart >>= f') P := by
  refine Agree.look (fun _ _ => rfl) (fun _ _ => rfl) fun s t hst _ => ?_
  rw [hst.here]
  exact h _

theorem Agree.previousStop {f f' : Nat → Parser β} (h : ∀ n, Agree d r (f n) (f' (n + d)) P) :
    Agree d r (previousStop >>= f) (previousStop >>= f') P := by
  refine Agree.look (fun _ _ => rfl) (fun _ _ => rfl) fun s t hst _ => ?_
  rw [hst.previousStop]
  exact h _

/-- In front of every token but the last there is something to go. -/
theorem Agree.lexeme {f f' : Lexeme → Parser β}
    (h : ∀ l, (l ≠ .finish → 0 < r) → Agree d r (f l) (f' l) P) :
    Agree d r (lexeme >>= f) (lexeme >>= f') P := by
  refine Agree.look (fun _ _ => rfl) (fun _ _ => rfl) fun s t hst hr => ?_
  rw [hst.lexeme]
  exact h _ fun hl => hr ▸ hst.room_pos hl

theorem Agree.afterNewline {f f' : Bool → Parser β} (h : ∀ b, Agree d r (f b) (f' b) P) :
    Agree d r (afterNewline >>= f) (afterNewline >>= f') P := by
  refine Agree.look (fun _ _ => rfl) (fun _ _ => rfl) fun s t hst _ => ?_
  rw [hst.afterNewline]
  exact h _

/-- The bound is not looked at. -/
theorem Agree.read {f f' : Context → Parser β}
    (h : ∀ (ctx : Context) limit, Agree d r (f ctx) (f' { ctx with limit }) P) :
    Agree d r (read >>= f) (read >>= f') P :=
  fun ctx limit s t hst hr hl hl' => h ctx limit ctx limit s t hst hr hl hl'

theorem Agree.peek {f f' : Token → Parser β}
    (h : ∀ t, Agree d r (f t) (f' (move d t)) P) : Agree d r (peek >>= f) (peek >>= f') P := by
  refine Agree.look (fun _ _ => rfl) (fun _ _ => rfl) fun s t hst _ => ?_
  rw [hst.next, (Cursor.moved_scan (.inl hst.inside)).token]
  exact h _

theorem Agree.atPunctuator {p : String} {f f' : Bool → Parser β}
    (h : ∀ b, (b = true → 0 < r) → Agree d r (f b) (f' b) P) :
    Agree d r (atPunctuator p >>= f) (atPunctuator p >>= f') P := by
  refine Agree.look (fun _ _ => rfl) (fun _ _ => rfl) fun s t hst hr => ?_
  rw [hst.lexeme]
  refine h _ fun hp => hr ▸ hst.room_pos fun hl => ?_
  simp [hl] at hp

theorem Agree.atWord {w : String} {f f' : Bool → Parser β}
    (h : ∀ b, (b = true → 0 < r) → Agree d r (f b) (f' b) P) :
    Agree d r (atWord w >>= f) (atWord w >>= f') P := by
  have hword : ∀ ctx s, Parser.atWord w ctx s = .ok (s.token.lexeme.isWord w, s) := by
    intro ctx s
    obtain ⟨_, _, hrun, rfl, rfl⟩ : Runs (Parser.atWord w) ctx s fun b u =>
        b = s.token.lexeme.isWord w ∧ u = s := runs_atWord.2 ⟨rfl, rfl⟩
    exact hrun
  refine Agree.look hword hword fun s t hst hr => ?_
  rw [hst.lexeme]
  refine h _ fun hp => hr ▸ hst.room_pos fun hl => ?_
  simp [hl, Lexeme.isWord] at hp

theorem Agree.atFinish {f f' : Bool → Parser β}
    (h : ∀ b, (b = false → 0 < r) → Agree d r (f b) (f' b) P) :
    Agree d r (atFinish >>= f) (atFinish >>= f') P := by
  refine Agree.look (fun _ _ => rfl) (fun _ _ => rfl) fun s t hst hr => ?_
  rw [hst.lexeme]
  refine h _ fun hp => hr ▸ hst.room_pos fun hl => ?_
  simp [hl] at hp

/-- A list goes on in front of something. -/
theorem Agree.atListEnd {close : String} {f f' : Bool → Parser β}
    (h : ∀ b, (b = false → 0 < r) → Agree d r (f b) (f' b) P) :
    Agree d r (atListEnd close >>= f) (atListEnd close >>= f') P := by
  refine Agree.look (fun _ _ => rfl) (fun _ _ => rfl) fun s t hst hr => ?_
  rw [hst.lexeme]
  refine h _ fun hp => hr ▸ hst.room_pos fun hl => ?_
  simp [hl] at hp

theorem Agree.canEndStatement {f f' : Bool → Parser β} (h : ∀ b, Agree d r (f b) (f' b) P) :
    Agree d r (canEndStatement >>= f) (canEndStatement >>= f') P := by
  refine Agree.look (fun _ _ => rfl) (fun _ _ => rfl) fun s t hst _ => ?_
  rw [hst.token]
  exact h _

end Looking

/-! ## Notes -/

section Notes

/-- A change that leaves the places in the text as they are. -/
theorem agree_modify {g g' : ParserState → ParserState}
    (h : ∀ s t : ParserState, s.Moved d t → (g s).Moved d (g' t) ∧ (g s).room = s.room) :
    Agree d r (modify g : Parser Unit) (modify g') (still r) := by
  rintro ctx limit s t hst rfl - -
  obtain ⟨hmoved, hroom⟩ := h s t hst
  exact .ok (a := ()) hmoved ⟨Nat.le_of_eq hroom, hroom⟩

theorem agree_fault (n : Nat) : Agree d r (fault n) (fault (n + d)) (still r) :=
  agree_modify fun _ _ h => ⟨{ h with
    grammarFaults := congrArg ((n + d) :: ·) h.grammarFaults
    shortens := h.shortens }, rfl⟩

theorem agree_faultIf (wrong : Bool) (n : Nat) :
    Agree d r (faultIf wrong n) (faultIf wrong (n + d)) (still r) :=
  .ite (fun _ => agree_fault n) fun _ => .pure rfl

theorem agree_faultAt? (n? : Option Nat) :
    Agree d r (faultAt? n?) (faultAt? (move d n?)) (still r) := by
  cases n? with
  | none => exact .pure rfl
  | some n => exact agree_fault n

theorem agree_failIf (wrong : Bool) (n : Nat) :
    Agree d r (failIf wrong n) (failIf wrong (n + d)) (still r) :=
  .ite (fun _ => .fail n) fun _ => .pure rfl

omit [Movable α] in
/-- An error within the current token says more than that there is no such token. -/
theorem unexpected_of_fault {ctx : Context} {s : ParserState} {f : Nat} {fs : List Nat}
    (hl : s.token.lexeme = .finish ∨ s.token.lexeme = .invalid) (hf : s.lexicalFaults = f :: fs) :
    (unexpected : Parser α) ctx s = Parser.fail f ctx { s with lexicalFaults := fs } := by
  obtain ⟨⟨lexeme, span, newline⟩, origin, next⟩ := s
  subst hf
  obtain rfl | rfl := hl <;> rfl

omit [Movable α] in
theorem unexpected_of_plain {ctx : Context} {s : ParserState}
    (h : s.lexicalFaults = [] ∨ s.token.lexeme ≠ .finish ∧ s.token.lexeme ≠ .invalid) :
    (unexpected : Parser α) ctx s = Parser.fail s.token.span.start ctx s := by
  obtain ⟨⟨lexeme, span, newline⟩, origin, next⟩ := s
  obtain rfl | ⟨hfinish, hinvalid⟩ := h
  · cases lexeme <;> rfl
  · cases lexeme
    case finish => exact absurd rfl hfinish
    case invalid => exact absurd rfl hinvalid
    all_goals rfl

theorem agree_unexpected {Q : α → Nat → Prop} : Agree d r (unexpected : Parser α) unexpected Q := by
  intro ctx limit s t hst _ _ _
  have hplain (h : s.lexicalFaults = [] ∨ s.token.lexeme ≠ .finish ∧ s.token.lexeme ≠ .invalid) :
      Agreed d (fun a k => k ≤ r ∧ Q a k) ((unexpected : Parser α) ctx s)
        (unexpected { ctx with limit } t) := by
    have ht : t.lexicalFaults = [] ∨ t.token.lexeme ≠ .finish ∧ t.token.lexeme ≠ .invalid := by
      rw [hst.lexeme, hst.lexicalFaults]
      exact h.imp_left fun h => by rw [h]; rfl
    rw [unexpected_of_plain h, unexpected_of_plain ht, hst.here]
    exact .error hst
  by_cases hl : s.token.lexeme = .finish ∨ s.token.lexeme = .invalid
  · cases hf : s.lexicalFaults with
    | nil => exact hplain (.inl hf)
    | cons f fs =>
      have hdropped : ParserState.Moved d { s with lexicalFaults := fs }
          { t with lexicalFaults := move d fs } :=
        { hst with lexicalFaults := rfl, shortens := hst.shortens }
      have ht : t.lexicalFaults = move d f :: move d fs := by rw [hst.lexicalFaults, hf]; rfl
      rw [unexpected_of_fault hl hf, unexpected_of_fault (hst.lexeme ▸ hl) ht]
      exact .error hdropped
  · exact hplain (.inr (not_or.1 hl))

theorem agree_unexpectedIf (wrong : Bool) :
    Agree d r (unexpectedIf wrong) (unexpectedIf wrong) (still r) :=
  .ite (fun _ => agree_unexpected) fun _ => .pure rfl

end Notes

/-! ## Taking tokens -/

section Tokens

theorem moved_loaded {s t : ParserState} {a b : Scanned} (hst : s.Moved d t) (h : a.Moved d b)
    (hinside : 0 < a.next.offset) (hshort : a.Shortens) : (s.loaded a).Moved d (t.loaded b) where
  token := h.token
  origin := h.start
  next := h.next
  previousStop := hst.previousStop
  lexicalFaults := by
    simp only [ParserState.loaded, h.faults, hst.lexicalFaults, move_append, move_reverse]
  grammarFaults := hst.grammarFaults
  shorthandValues := hst.shorthandValues
  trailingCommas := hst.trailingCommas
  refuted := hst.refuted
  inside := hinside
  shortens := hshort

theorem agree_skip : Agree d r skip skip fun _ k => 0 < r → k < r := by
  rintro ctx limit s t hst rfl - -
  have hafter := s.next.scan_after
  have hbefore := (hafter.origin.trans hafter.next).le
  have hinside : 0 < s.next.scan.next.offset := Nat.lt_of_lt_of_le hst.inside hbefore
  have hpassed : ParserState.Moved d { s with previousStop := s.token.span.stop }
      { t with previousStop := t.token.span.stop } :=
    { hst with
      previousStop := congrArg (·.span.stop) hst.token
      shortens := hst.shortens }
  have hscan : s.next.scan.Moved d t.next.scan := by
    rw [hst.next]
    exact Cursor.moved_scan (.inl hst.inside)
  have hroom : s.next.scan.start.rest.length ≤ s.next.rest.length := hafter.origin.length_le
  refine .ok (a := ()) (moved_loaded hpassed hscan hinside s.next.scan_shortens) ?_
  change s.next.scan.start.rest.length ≤ s.origin.rest.length ∧
    (0 < s.origin.rest.length → s.next.scan.start.rest.length < s.origin.rest.length)
  obtain ⟨-, horigin, hnext⟩ | ⟨-, hlt⟩ := hst.shortens
  · have horigin : s.origin.rest.length = 0 := List.length_eq_zero_iff.2 horigin
    have hnext : s.next.rest.length = 0 := List.length_eq_zero_iff.2 hnext
    omega
  · have hlt : s.next.rest.length < s.origin.rest.length := hlt
    omega

theorem agree_checkSpelling : Agree d r checkSpelling checkSpelling (still r) := by
  apply Agree.lexeme
  intro l _
  split
  · exact .tokenStart fun n => agree_faultIf _ n
  · exact .pure rfl

/-- Where something is to go, it takes a token. -/
theorem agree_bump : Agree d r bump bump fun _ k => 0 < r → k < r :=
  agree_checkSpelling.stay fun _ => agree_skip

variable {f f' : Unit → Parser β} {P : β → Nat → Prop}

theorem Agree.skip (hr : 0 < r) (h : ∀ k, k < r → Agree d k (f ()) (f' ()) P) :
    Agree d r (skip >>= f) (skip >>= f') P :=
  agree_skip.bind fun _ k _ hk => h k (hk hr)

theorem Agree.bump (hr : 0 < r) (h : ∀ k, k < r → Agree d k (f ()) (f' ()) P) :
    Agree d r (bump >>= f) (bump >>= f') P :=
  agree_bump.bind fun _ k _ hk => h k (hk hr)

omit [Movable β] in
/-- A token that is taken if it is there. -/
theorem agree_eat (p : String) : Agree d r (eat p) (eat p) fun b k => b = true → k < r := by
  apply Agree.atPunctuator
  intro b hb
  refine .ite (fun h => ?_) fun _ => .pure (a := false) nofun
  exact .bump (hb h) fun k hk => .pure (a := true) fun _ => hk

theorem agree_eatWord (w : String) :
    Agree d r (eatWord w) (eatWord w) fun b k => b = true → k < r := by
  apply Agree.atWord
  intro b hb
  refine .ite (fun h => ?_) fun _ => .pure (a := false) nofun
  exact .bump (hb h) fun k hk => .pure (a := true) fun _ => hk

/-- A step that must take a token. -/
theorem agree_require {p : Parser Bool} (h : Agree d r p p fun b k => b = true → k < r) :
    Agree d r (do unless ← p do fail (← tokenStart)) (do unless ← p do fail (← tokenStart))
      (shorter r) := by
  apply h.bind
  intro b k _ hb
  cases b with
  | true => exact .pure (a := ()) (hb rfl)
  | false => exact .tokenStart fun n => .fail n

theorem agree_expect (p : String) : Agree d r (expect p) (expect p) (shorter r) :=
  agree_require (agree_eat p)

theorem agree_expectWord (w : String) : Agree d r (expectWord w) (expectWord w) (shorter r) :=
  agree_require (agree_eatWord w)

theorem agree_endStatement : Agree d r endStatement endStatement anything := by
  apply (agree_eat ";").followed
  intro b k _
  cases b with
  | true => exact .pure (a := ()) trivial
  | false =>
    refine .canEndStatement fun b => ?_
    cases b with
    | true => exact .pure (a := ()) trivial
    | false => exact .previousStop fun n => .fail n

theorem agree_node (shape : Shape) (start : Nat) (parts : List Node) :
    Agree d r (node shape start parts) (node (move d shape) (start + d) (move d parts))
      (still r) := by
  refine .previousStop fun n => ?_
  have hnode : move d (Node.mk shape ⟨start, n⟩ parts) =
      .mk (move d shape) ⟨start + d, n + d⟩ (move d parts) := Node.move_mk d shape ⟨start, n⟩ parts
  rw [← hnode]
  exact .pure rfl

theorem agree_takeComma : Agree d r takeComma takeComma (shorter r) := by
  refine .tokenStart fun comma => .atPunctuator fun b hb => ?_
  cases b with
  | true => exact (agree_failIf _ comma).stay fun _ => .bump (hb rfl) fun k hk => .pure hk
  | false =>
    have hfail : Agree d r (failIf true comma) (failIf true (comma + d)) fun _ _ => False :=
      .fail comma
    exact hfail.bind fun _ _ _ h => h.elim

theorem agree_lookahead {p p' : Parser α} (h : Agree d r p p' anything) :
    Agree d r (lookahead p) (lookahead p') (still r) := by
  rintro ctx limit s t hst rfl hl hl'
  have hrun := h ctx limit s t hst rfl hl hl'
  change Agreed d _ (p ctx s >>= fun x => .ok (x.1, s)) (p' { ctx with limit } t >>= fun x =>
    .ok (x.1, t))
  generalize p ctx s = x, p' { ctx with limit } t = y at hrun
  cases hrun with
  | error h => exact .error h
  | ok h hQ => exact .ok hst ⟨Nat.le_refl _, rfl⟩

theorem agree_onlyIf {p p' : Parser Bool} {Q : Bool → Nat → Prop} (allowed : Bool)
    (h : Agree d r p p' Q) (hQ : Q false r) : Agree d r (onlyIf allowed p) (onlyIf allowed p') Q :=
  .ite (fun _ => h) fun _ => .pure hQ

theorem agree_listIf {p p' : Parser α} (present : Bool) (h : Agree d r p p' anything) :
    Agree d r (listIf present p) (listIf present p') anything :=
  .ite (fun _ => h.followed fun _ _ _ => .pure trivial) fun _ => .pure trivial

end Tokens

/-! ## Lists -/

section Lists

/-- A loop in which each round takes a token; one round in all may be spared that. -/
theorem agree_iterate_but_once {step step' : β → Parser (β ⊕ α)} {b : β} (spare : β → Nat)
    (hspare : spare b ≤ 1)
    (h : ∀ b k, k ≤ r → Agree d k (step b) (step' (move d b)) fun x j =>
      ∀ b', x = .inl b' → j + spare b' < k + spare b) :
    Agree d r (iterate b step) (iterate (move d b) step') anything := by
  have hgo : ∀ n n' b k, k ≤ r → k + spare b < n → k + spare b < n' →
      Agree d k (iterate.go step n b) (iterate.go step' n' (move d b)) anything := by
    intro n
    induction n with
    | zero => exact fun _ _ _ _ hn => absurd hn (Nat.not_lt_zero _)
    | succ n ih =>
      intro n' b k hk hn hn'
      obtain ⟨n', rfl⟩ := Nat.exists_eq_succ_of_ne_zero (Nat.ne_zero_of_lt hn')
      rw [iterate.go, iterate.go]
      apply (h b k hk).bind
      intro x j hj hx
      cases x with
      | inl b' =>
        have hlt := hx b' rfl
        exact ih n' b' j (Nat.le_trans hj hk) (by omega) (by omega)
      | inr a => exact .pure trivial
  intro ctx limit s t hst hr hl hl'
  exact hgo ctx.limit limit b r (Nat.le_refl _) (by omega) (by omega) ctx limit s t hst hr hl hl'

/-- A loop that goes on has taken a token. -/
abbrev further (r : Nat) : β ⊕ α → Nat → Prop := fun x k => x.isLeft = true → k < r

/-- A loop in which each round takes a token. -/
theorem agree_iterate {step step' : β → Parser (β ⊕ α)} (b : β)
    (h : ∀ b k, k ≤ r → Agree d k (step b) (step' (move d b)) (further k)) :
    Agree d r (iterate b step) (iterate (move d b) step') anything := by
  refine agree_iterate_but_once (fun _ => 0) (Nat.zero_le _) fun b k hk => ?_
  refine (h b k hk).mono fun x j _ hx b' hb' => ?_
  rw [hb'] at hx
  exact hx rfl

theorem Agree.again {k : Nat} {b b' : β} (hb : b' = move d b) (hk : k < r) :
    Agree d k (Pure.pure (.inl b) : Parser (β ⊕ α)) (Pure.pure (.inl b')) (further r) := by
  subst hb
  exact .pure (a := Sum.inl b) fun _ => hk

theorem Agree.done {k : Nat} {a a' : α} (ha : a' = move d a) :
    Agree d k (Pure.pure (.inr a) : Parser (β ⊕ α)) (Pure.pure (.inr a')) (further r) := by
  subst ha
  exact .pure (a := Sum.inr a) nofun

variable {element element' : Parser α}

/-- A test that only looks, and fails in front of something only. -/
abbrev beforeMore (r : Nat) : Bool → Nat → Prop := fun b k => k = r ∧ (b = false → 0 < r)

theorem agree_repeatUntil {ends : Parser Bool} (hends : ∀ k, Agree d k ends ends (beforeMore k))
    (h : ∀ k, k ≤ r → 0 < k → Agree d k element element' (shorter k)) :
    Agree d r (repeatUntil ends element) (repeatUntil ends element') anything := by
  refine agree_iterate ([] : List α) fun found k hk => (hends k).bind fun b j _ hb => ?_
  obtain ⟨rfl, hpos⟩ := hb
  refine .ite (fun _ => .done move_reverse.symm) fun hb => ?_
  exact (h j hk (hpos (eq_false_of_ne_true hb))).advance fun e i hi => .again rfl hi

theorem agree_moreAfterCommas (first : α) (h : ∀ k, k < r → Agree d k element element' anything) :
    Agree d r (moreAfterCommas first element) (moreAfterCommas (move d first) element')
      anything := by
  refine agree_iterate [first] fun found k hk => (agree_eat ",").bind fun b j hj hb => ?_
  cases b with
  | false => exact .done move_reverse.symm
  | true =>
    have hj := hb rfl
    exact (h j (by omega)).followed fun e i hi => .again rfl (by omega)

theorem agree_commaList (close : String) (h : ∀ k, k ≤ r → Agree d k element element' anything) :
    Agree d r (commaList close element) (commaList close element') anything := by
  refine .atListEnd fun b _ => .ite (fun _ => .pure (a := ([], none)) trivial) fun _ => ?_
  apply (h r (Nat.le_refl _)).followed
  intro first k hk
  refine agree_iterate [first] fun found j hj => ?_
  refine .atListEnd fun b _ => .ite (fun _ => .done (by simp)) fun _ => ?_
  apply agree_takeComma.advance
  intro comma i hi
  refine .atPunctuator fun b _ => .ite (fun _ => .done (by simp)) fun _ => ?_
  exact (h i (by omega)).followed fun e m hm => .again rfl (by omega)

theorem agree_endsAfterComma (close : String) (found : List Node) (rest? : Option Node) :
    Agree d r (endsAfterComma close found rest?)
      (endsAfterComma close (move d found) (move d rest?)) fun _ k => found ≠ [] → k < r := by
  cases found with
  | nil => exact .pure (a := false) (absurd rfl)
  | cons n found =>
    apply agree_takeComma.advance
    intro comma k hk
    refine .atPunctuator fun ends _ => ?_
    have hrest : (move d rest?).isSome = rest?.isSome := Option.isSome_map
    rw [hrest]
    exact (agree_faultIf _ comma).stay fun _ => .pure (a := ends) fun _ => hk

theorem agree_commaListWithRest {element element' rest rest' : Parser Node} (close : String)
    (h : ∀ k, k ≤ r → Agree d k element element' anything)
    (hrest : ∀ k, k ≤ r → 0 < k → Agree d k rest rest' anything) :
    Agree d r (commaListWithRest close element rest) (commaListWithRest close element' rest')
      anything := by
  -- a hole may come first, and then no token is taken
  refine agree_iterate_but_once (b := (([] : List Node), (none : Option Node)))
    (fun b => if b.1 = [] then 1 else 0) (by simp) ?_
  rintro ⟨found, rest?⟩ k hk
  have hdone : ∀ j, Agree d j (pure (.inr found.reverse) : Parser (_ ⊕ List Node))
      (pure (.inr (move d found).reverse)) fun x i => ∀ b' : List Node × Option Node,
        x = .inl b' → i + (if b'.1 = [] then 1 else 0) < k + if found = [] then 1 else 0 := by
    intro j
    rw [← move_reverse]
    exact .pure (a := Sum.inr _) nofun
  refine .atListEnd fun b _ => .ite (fun _ => hdone k) fun _ => ?_
  apply (agree_endsAfterComma close found rest?).bind
  intro ends j hj hends
  refine .ite (fun _ => hdone j) fun _ => ?_
  have hj : j < k + if found = [] then 1 else 0 := by
    split
    · omega
    · exact hends ‹_›
  have hstarts : (move d rest?).map Node.start = move d (rest?.map Node.start) := by
    cases rest? <;> simp
  rw [hstarts]
  apply (agree_faultAt? _).stay
  intro _
  refine .atPunctuator fun b hb => .ite (fun heq => ?_) fun _ => ?_
  · apply (hrest j (by omega) (hb heq)).followed
    intro n i hi
    refine .pure (a := Sum.inl (n :: found, some n)) ?_
    rintro _ ⟨⟩
    exact Nat.lt_of_le_of_lt hi hj
  · apply (h j (by omega)).followed
    intro n i hi
    refine .pure (a := Sum.inl (n :: found, rest?)) ?_
    rintro _ ⟨⟩
    exact Nat.lt_of_le_of_lt hi hj

theorem agree_forM {l : List α} {check check' : α → Parser Unit}
    (h : ∀ a ∈ l, Agree d r (check a) (check' (move d a)) (still r)) :
    Agree d r (l.forM check) ((move d l).forM check') (still r) := by
  induction l with
  | nil => exact .pure (a := ()) rfl
  | cons a l ih =>
    rw [List.forall_mem_cons] at h
    exact h.1.stay fun _ => ih h.2

end Lists

end Parser

end ModuleBundler.Script
