import Mathlib.Data.List.Forall2
import ModuleBundler.Proofs.Script.Spelling
import ModuleBundler.Proofs.Script.Yield
import ModuleBundler.Script.Program

/-!
# Parsers that succeed

`Runs p ctx s Q` says that `p` succeeds from a state, and what holds then. For the steps of a parser
it comes down to the state before, so that a parser is followed token by token. `Faces` is what has
to be known of a state: the tokens that are ahead, and that no fault has been found.
-/

namespace ModuleBundler.Script

/-- The current token is the first one from a place of the text on. -/
structure ParserState.ReadFrom (s : ParserState) (c : Cursor) : Prop where
  token : s.token = c.scan.token
  origin : s.origin = c.scan.start
  next : s.next = c.scan.next
  previousStop : s.previousStop = c.offset

/-- A place in a text, and what is left of the text there. -/
structure Place where
  text : List Char
  rest : List Char

/-- These tokens are ahead, after the current one. The last of all is read at a place. -/
def ParserState.Ahead (s : ParserState) (place : Place) : List Lexeme → Prop
  | [] => ∃ c, s.ReadFrom c ∧ UpTo place.rest c.rest ∧ c.rest <:+ place.text
  | l :: ls => SpellsTo place.rest s.next.rest (l :: ls) ∧ s.next.rest <:+ place.text

/-- The parser is at the first of these lexemes, and has found no fault. -/
structure ParserState.Faces (s : ParserState) (place : Place) (ls : List Lexeme) : Prop where
  head : ls.head? = some s.token.lexeme
  ahead : s.Ahead place ls.tail
  whole : s.token.span.stop = s.next.offset
  lexical : s.lexicalFaults = []
  grammar : s.grammarFaults = []
  shorthand : s.shorthandValues = []
  commas : s.trailingCommas = []
  refuted : s.refuted = []

namespace ParserState.Faces

variable {s : ParserState} {l l' : Lexeme} {ls : List Lexeme} {place : Place}

theorem lexeme (h : s.Faces place (l :: ls)) : s.token.lexeme = l :=
  (Option.some.inj h.head).symm

/-- The next token is without fault. -/
theorem heads (h : s.Faces place (l :: l' :: ls)) : Heads s.next.rest l' :=
  SpellsTo.heads h.ahead.1

theorem peek (h : s.Faces place (l :: l' :: ls)) : s.next.scan.token.lexeme = l' :=
  (h.heads s.next.offset).1

/-- The state at the next token. -/
theorem next (h : s.Faces place (l :: l' :: ls)) :
    ({ s with previousStop := s.token.span.stop }.loaded s.next.scan).Faces place (l' :: ls) := by
  obtain ⟨hlexeme, hfaults⟩ := h.heads s.next.offset
  obtain ⟨hspells, hsuffix⟩ := h.ahead
  refine ⟨congrArg some hlexeme.symm, ?_, s.next.scan_whole hfaults, ?_, h.grammar, h.shorthand,
    h.commas, h.refuted⟩
  · cases ls with
    | nil => exact ⟨s.next, ⟨rfl, rfl, rfl, h.whole⟩, hspells.1, hsuffix⟩
    | cons l'' ls =>
      obtain ⟨rest, hlexes, hrest⟩ := hspells
      obtain ⟨span, start, m, hscan⟩ := hlexes.scan s.next.offset
      have hnext : (Cursor.scan s.next).next.rest = rest := by
        change Cursor.scan s.next = _ at hscan
        rw [hscan]
      refine ⟨?_, s.next.scan_suffix.trans hsuffix⟩
      change SpellsTo place.rest (Cursor.scan s.next).next.rest (l'' :: ls)
      rwa [hnext]
  · change (Cursor.scan s.next).faults.reverse ++ s.lexicalFaults = []
    change (Cursor.scan s.next).faults = [] at hfaults
    rw [hfaults, h.lexical]
    rfl

end ParserState.Faces

theorem faces_init {cs rest : List Char} {ls : List Lexeme} (h : SpellsTo rest cs ls) :
    (ParserState.init cs).Faces ⟨cs, rest⟩ ls := by
  cases ls with
  | nil => exact h.elim
  | cons l ls =>
    obtain ⟨hlexeme, hfaults⟩ := h.heads 0
    refine ⟨congrArg some hlexeme.symm, ?_, Cursor.scan_whole _ hfaults, ?_, rfl, rfl, rfl, rfl⟩
    · cases ls with
      | nil => exact ⟨⟨cs, 0⟩, ⟨rfl, rfl, rfl, rfl⟩, h.1, List.suffix_refl cs⟩
      | cons l' ls =>
        obtain ⟨left, hlexes, hleft⟩ := h
        obtain ⟨span, start, m, hscan⟩ := hlexes.scan 0
        refine ⟨?_, (⟨cs, 0⟩ : Cursor).scan_suffix⟩
        change SpellsTo rest (Cursor.scan ⟨cs, 0⟩).next.rest (l' :: ls)
        rwa [hscan]
    · change (Cursor.scan ⟨cs, 0⟩).faults.reverse = []
      rw [hfaults]
      rfl

namespace Lexeme

/-- The lexeme is the word `w`. -/
def isWord (w : String) : Lexeme → Bool
  | .word name _ => name == w
  | _ => false

end Lexeme

namespace Parser

variable {α β : Type} {ctx : Context} {s t : ParserState} {place : Place}

/-- `p` succeeds, and `Q` holds of the result and the state that it ends in. -/
def Runs (p : Parser α) (ctx : Context) (s : ParserState) (Q : α → ParserState → Prop) : Prop :=
  ∃ a t, p ctx s = .ok (a, t) ∧ Q a t

section Steps

variable {Q : α → ParserState → Prop} {R : β → ParserState → Prop}

theorem Runs.mono {p : Parser α} {Q' : α → ParserState → Prop} (h : Runs p ctx s Q)
    (hQ : ∀ a t, Q a t → Q' a t) : Runs p ctx s Q' := by
  obtain ⟨a, t, hp, hq⟩ := h
  exact ⟨a, t, hp, hQ a t hq⟩

theorem runs_of_eq {p : Parser α} {a : α} (h : p ctx s = .ok (a, t)) :
    Runs p ctx s Q ↔ Q a t := by
  constructor
  · rintro ⟨b, u, hb, hq⟩
    rw [h] at hb
    cases hb
    exact hq
  · exact fun hq => ⟨a, t, h, hq⟩

@[simp] theorem runs_pure {a : α} : Runs (pure a) ctx s Q ↔ Q a s := runs_of_eq rfl

@[simp] theorem runs_bind {p : Parser α} {f : α → Parser β} :
    Runs (p >>= f) ctx s R ↔ Runs p ctx s fun a t => Runs (f a) ctx t R := by
  have hrun : (p >>= f) ctx s = p ctx s >>= fun r => f r.1 ctx r.2 := rfl
  constructor
  · rintro ⟨b, u, hb, hr⟩
    rw [hrun] at hb
    cases hp : p ctx s with
    | error e =>
      rw [hp] at hb
      cases hb
    | ok r =>
      rw [hp] at hb
      exact ⟨r.1, r.2, hp, b, u, hb, hr⟩
  · rintro ⟨a, t, hp, b, u, hb, hr⟩
    refine ⟨b, u, ?_, hr⟩
    rw [hrun, hp]
    exact hb

@[simp] theorem runs_get {Q : ParserState → ParserState → Prop} :
    Runs get ctx s Q ↔ Q s s := runs_of_eq rfl

@[simp] theorem runs_read {Q : Context → ParserState → Prop} :
    Runs read ctx s Q ↔ Q ctx s := runs_of_eq rfl

@[simp] theorem runs_set {u : ParserState} {Q : PUnit → ParserState → Prop} :
    Runs (set u : Parser PUnit) ctx s Q ↔ Q ⟨⟩ u := runs_of_eq rfl

@[simp] theorem runs_token {Q : Token → ParserState → Prop} :
    Runs token ctx s Q ↔ Q s.token s := runs_of_eq rfl

@[simp] theorem runs_lexeme {Q : Lexeme → ParserState → Prop} :
    Runs lexeme ctx s Q ↔ Q s.token.lexeme s := runs_of_eq rfl

@[simp] theorem runs_tokenStart {Q : Nat → ParserState → Prop} :
    Runs tokenStart ctx s Q ↔ Q s.token.span.start s := runs_of_eq rfl

@[simp] theorem runs_afterNewline {Q : Bool → ParserState → Prop} :
    Runs afterNewline ctx s Q ↔ Q s.token.afterNewline s := runs_of_eq rfl

@[simp] theorem runs_previousStop {Q : Nat → ParserState → Prop} :
    Runs previousStop ctx s Q ↔ Q s.previousStop s := runs_of_eq rfl

@[simp] theorem runs_peek {Q : Token → ParserState → Prop} :
    Runs peek ctx s Q ↔ Q s.next.scan.token s := runs_of_eq rfl

@[simp] theorem runs_node {shape : Shape} {start : Nat} {parts : List Node}
    {Q : Node → ParserState → Prop} : Runs (node shape start parts) ctx s Q ↔
      Q (.mk shape ⟨start, s.previousStop⟩ parts) s := runs_of_eq rfl

@[simp] theorem runs_within {p : Parser α} {change : Context → Context} :
    Runs (within change p) ctx s Q ↔ Runs p (change ctx) s Q := Iff.rfl

@[simp] theorem runs_lookahead {p : Parser α} :
    Runs (lookahead p) ctx s Q ↔ Runs p ctx s fun a _ => Q a s := by
  unfold lookahead
  simp only [runs_bind, runs_get, runs_set, runs_pure]

@[simp] theorem runs_atPunctuator {p : String} {Q : Bool → ParserState → Prop} :
    Runs (atPunctuator p) ctx s Q ↔ Q (s.token.lexeme == .punctuator p) s := runs_of_eq rfl

@[simp] theorem runs_atFinish {Q : Bool → ParserState → Prop} :
    Runs atFinish ctx s Q ↔ Q (s.token.lexeme == .finish) s := runs_of_eq rfl

@[simp] theorem runs_atWord {w : String} {Q : Bool → ParserState → Prop} :
    Runs (atWord w) ctx s Q ↔ Q (s.token.lexeme.isWord w) s := by
  unfold atWord Lexeme.isWord
  rw [runs_bind, runs_lexeme]
  cases s.token.lexeme <;> exact runs_pure

@[simp] theorem runs_atListEnd {close : String} {Q : Bool → ParserState → Prop} :
    Runs (atListEnd close) ctx s Q ↔ Q (s.token.lexeme == .punctuator close ||
      s.token.lexeme == .finish || s.token.lexeme == .invalid) s := runs_of_eq rfl

section Unit

variable {Q : Unit → ParserState → Prop} {offset : Nat}

@[simp] theorem runs_faultIf_false : Runs (faultIf false offset) ctx s Q ↔ Q () s :=
  runs_of_eq rfl

theorem runs_faultIf {wrong : Bool} (hwrong : wrong = false) (k : Q () s) :
    Runs (faultIf wrong offset) ctx s Q := by
  rw [hwrong, runs_faultIf_false]
  exact k

@[simp] theorem runs_faultAt?_none : Runs (faultAt? none) ctx s Q ↔ Q () s := runs_of_eq rfl

@[simp] theorem runs_failIf_false : Runs (failIf false offset) ctx s Q ↔ Q () s := runs_of_eq rfl

@[simp] theorem runs_unexpectedIf_false : Runs (unexpectedIf false) ctx s Q ↔ Q () s :=
  runs_of_eq rfl

end Unit

end Steps

/-! ## Taking tokens -/

section Tokens

variable {l l' : Lexeme} {ls : List Lexeme} {Q : Unit → ParserState → Prop}

theorem runs_skip (h : s.Faces place (l :: l' :: ls))
    (k : ∀ t : ParserState, t.Faces place (l' :: ls) → Q () t) : Runs skip ctx s Q :=
  ⟨(), _, rfl, k _ h.next⟩

theorem runs_bump (h : s.Faces place (l :: l' :: ls)) (hl : ∀ name, l ≠ .word name true)
    (k : ∀ t, t.Faces place (l' :: ls) → Q () t) : Runs bump ctx s Q := by
  unfold bump checkSpelling
  simp only [runs_bind, runs_lexeme, h.lexeme]
  cases l with
  | word name escaped =>
    cases escaped with
    | true => exact absurd rfl (hl name)
    | false => exact runs_pure.2 (runs_skip h k)
  | _ => exact runs_pure.2 (runs_skip h k)

theorem runs_bump_punctuator {p : String} (h : s.Faces place (.punctuator p :: l' :: ls))
    (k : ∀ t, t.Faces place (l' :: ls) → Q () t) : Runs bump ctx s Q :=
  runs_bump h (by simp) k

theorem runs_bump_word {w : String} (h : s.Faces place (.word w false :: l' :: ls))
    (k : ∀ t, t.Faces place (l' :: ls) → Q () t) : Runs bump ctx s Q :=
  runs_bump h (by simp) k

theorem runs_takeWord {w : String} (h : s.Faces place (.word w false :: l' :: ls))
    {Q : String → ParserState → Prop} (k : ∀ t, t.Faces place (l' :: ls) → Q w t) :
    Runs takeWord ctx s Q := by
  unfold takeWord
  simp only [runs_bind, runs_lexeme, h.lexeme]
  exact runs_skip h fun t ht => runs_pure.2 (k t ht)

theorem runs_eat {p : String} (h : s.Faces place (.punctuator p :: l' :: ls))
    {Q : Bool → ParserState → Prop} (k : ∀ t, t.Faces place (l' :: ls) → Q true t) :
    Runs (eat p) ctx s Q := by
  unfold eat
  simp only [runs_bind, runs_atPunctuator, h.lexeme, BEq.rfl, if_true, runs_pure]
  exact runs_bump_punctuator h k

theorem runs_eat_other {p : String} (h : s.Faces place (l :: ls)) (hl : l ≠ .punctuator p)
    {Q : Bool → ParserState → Prop} (k : Q false s) : Runs (eat p) ctx s Q := by
  unfold eat
  have hother : (l == .punctuator p) = false := by simpa using hl
  simp only [runs_bind, runs_atPunctuator, h.lexeme, hother, Bool.false_eq_true, if_false,
    runs_pure]
  exact k

theorem runs_expect {p : String} (h : s.Faces place (.punctuator p :: l' :: ls))
    (k : ∀ t, t.Faces place (l' :: ls) → Q () t) : Runs (expect p) ctx s Q := by
  unfold expect
  rw [runs_bind]
  apply runs_eat h
  intro t ht
  rw [if_pos rfl, runs_pure]
  exact k t ht

theorem runs_expectWord {w : String} (h : s.Faces place (.word w false :: l' :: ls))
    (k : ∀ t, t.Faces place (l' :: ls) → Q () t) : Runs (expectWord w) ctx s Q := by
  unfold expectWord eatWord
  simp only [runs_bind, runs_atWord, h.lexeme, Lexeme.isWord, BEq.rfl, if_true, runs_pure]
  exact runs_bump_word h k

theorem runs_endStatement (h : s.Faces place (.punctuator ";" :: l' :: ls))
    (k : ∀ t, t.Faces place (l' :: ls) → Q () t) : Runs endStatement ctx s Q := by
  unfold endStatement
  rw [runs_bind]
  apply runs_eat h
  intro t ht
  rw [if_pos rfl, runs_pure]
  exact k t ht

end Tokens

/-! ## Loops -/

section Loops

variable {Q : α → ParserState → Prop}

/-- A loop succeeds from `b` after `n` more rounds. -/
def Turns (step : β → Parser (β ⊕ α)) (ctx : Context) (n : Nat) (b : β) (s : ParserState)
    (Q : α → ParserState → Prop) : Prop :=
  ∀ fuel, n < fuel → Runs (iterate.go step fuel b) ctx s Q

variable {step : β → Parser (β ⊕ α)} {b : β} {n : Nat}

theorem turns_last (h : Runs (step b) ctx s fun r u => ∃ a, r = .inr a ∧ Q a u) :
    Turns step ctx 0 b s Q := by
  intro fuel hfuel
  obtain ⟨fuel, rfl⟩ := Nat.exists_eq_succ_of_ne_zero (Nat.ne_of_gt hfuel)
  rw [iterate.go, runs_bind]
  apply h.mono
  rintro _ u ⟨a, rfl, ha⟩
  exact runs_pure.2 ha

theorem turns_more
    (h : Runs (step b) ctx s fun r u => ∃ b', r = .inl b' ∧ Turns step ctx n b' u Q) :
    Turns step ctx (n + 1) b s Q := by
  intro fuel hfuel
  obtain ⟨fuel, rfl⟩ := Nat.exists_eq_succ_of_ne_zero (Nat.ne_zero_of_lt hfuel)
  rw [iterate.go, runs_bind]
  apply h.mono
  rintro _ u ⟨b', rfl, hb'⟩
  exact hb' fuel (Nat.lt_of_succ_lt_succ hfuel)

theorem Turns.runs (h : Turns step ctx n b s Q) (hlimit : n < ctx.limit) :
    Runs (iterate b step) ctx s Q := by
  unfold iterate
  rw [runs_bind, runs_read]
  exact h ctx.limit hlimit

/-- A loop that is done after some more rounds, of which `I` knows the number. -/
theorem runs_iterate (I : Nat → β → ParserState → Prop) (hlimit : n < ctx.limit) (h : I n b s)
    (hlast : ∀ b t, I 0 b t → Runs (step b) ctx t fun r u => ∃ a, r = .inr a ∧ Q a u)
    (hmore : ∀ n b t, I (n + 1) b t → Runs (step b) ctx t fun r u => ∃ b', r = .inl b' ∧ I n b' u) :
    Runs (iterate b step) ctx s Q := by
  refine Turns.runs ?_ hlimit
  clear hlimit
  induction n generalizing b s with
  | zero => exact turns_last (hlast b s h)
  | succ n ih =>
    apply turns_more
    apply (hmore n b s h).mono
    rintro _ u ⟨b', rfl, hb'⟩
    exact ⟨b', rfl, ih hb'⟩

/-- A loop that is done at once. -/
theorem runs_iterate_last (hlimit : 0 < ctx.limit)
    (h : Runs (step b) ctx s fun r u => ∃ a, r = .inr a ∧ Q a u) :
    Runs (iterate b step) ctx s Q :=
  (turns_last h).runs hlimit

end Loops

/-! ## Lists -/

/-- What elements of a list are spelt as, with commas between them. -/
def separated {X : Type} (spell : X → List Lexeme) : List X → List Lexeme
  | [] => []
  | [x] => spell x
  | x :: y :: xs => spell x ++ .punctuator "," :: separated spell (y :: xs)

/-- What is ahead after an element of a list: the end, or a comma and more elements. -/
def continued {X : Type} (spell : X → List Lexeme) (last : List Lexeme) : List X → List Lexeme
  | [] => last
  | x :: xs => .punctuator "," :: (separated spell (x :: xs) ++ last)

theorem separated_cons {X : Type} (spell : X → List Lexeme) (last : List Lexeme) (x : X)
    (xs : List X) : separated spell (x :: xs) ++ last = spell x ++ continued spell last xs := by
  cases xs with
  | nil => rfl
  | cons y xs => simp [separated, continued]

theorem length_le_separated {X : Type} {spell : X → List Lexeme} (h : ∀ x, spell x ≠ [])
    (xs : List X) : xs.length ≤ (separated spell xs).length := by
  induction xs with
  | nil => exact Nat.le_refl _
  | cons x xs ih =>
    have hx : 0 < (spell x).length := List.length_pos_iff.2 (h x)
    cases xs with
    | nil => exact hx
    | cons y xs =>
      simp only [separated, List.length_append, List.length_cons] at ih ⊢
      omega

theorem length_le_of_mem {X : Type} {spell : X → List Lexeme} {x : X} {xs : List X} (h : x ∈ xs) :
    (spell x).length ≤ (separated spell xs).length := by
  induction xs with
  | nil => cases h
  | cons y xs ih =>
    cases xs with
    | nil =>
      obtain rfl := List.mem_singleton.1 h
      exact Nat.le_refl _
    | cons z xs =>
      rw [separated, List.length_append, List.length_cons]
      obtain rfl | h := List.mem_cons.1 h
      · omega
      · have hle := ih h
        omega

theorem mem_separated {X : Type} {spell : X → List Lexeme} {xs : List X} {l : Lexeme}
    (h : l ∈ separated spell xs) : l = .punctuator "," ∨ ∃ x ∈ xs, l ∈ spell x := by
  induction xs with
  | nil => cases h
  | cons x xs ih =>
    cases xs with
    | nil => exact .inr ⟨x, List.mem_cons_self, h⟩
    | cons y xs =>
      rw [separated, List.mem_append, List.mem_cons] at h
      rcases h with h | rfl | h
      · exact .inr ⟨x, List.mem_cons_self, h⟩
      · exact .inl rfl
      · exact (ih h).imp id fun ⟨z, hz, hl⟩ => ⟨z, List.mem_cons_of_mem _ hz, hl⟩

section Lists

variable {X : Type} {spell : X → List Lexeme} {fits : X → α → Prop} {xs : List X}
  {ls : List Lexeme}

/-- Elements that end by themselves in front of lexemes that start one or end the list. -/
theorem runs_repeatUntil {ends : Parser Bool} {element : Parser α} (isEnd : Lexeme → Bool)
    (follows : Lexeme → Prop) {last : Lexeme}
    (hends : ∀ t, Runs ends ctx t fun b u => b = isEnd t.token.lexeme ∧ u = t)
    (hlast : isEnd last = true ∧ follows last) (hlimit : xs.length < ctx.limit)
    (hhead : ∀ x ∈ xs, ∃ l more, spell x = l :: more ∧ isEnd l = false ∧ follows l)
    (helement : ∀ x ∈ xs, ∀ t l more, follows l → t.Faces place (spell x ++ l :: more) →
      Runs element ctx t fun a u => u.Faces place (l :: more) ∧ fits x a)
    (h : s.Faces place (xs.flatMap spell ++ last :: ls)) :
    Runs (repeatUntil ends element) ctx s fun as t =>
      t.Faces place (last :: ls) ∧ List.Forall₂ fits xs as := by
  refine runs_iterate (fun n found t => ∃ done todo, xs = done ++ todo ∧ todo.length = n ∧
    List.Forall₂ fits done found.reverse ∧ t.Faces place (todo.flatMap spell ++ last :: ls)) hlimit
    ⟨[], xs, rfl, rfl, .nil, h⟩ ?_ ?_
  · rintro found t ⟨done, todo, hxs, htodo, hfits, ht⟩
    rw [List.length_eq_zero_iff] at htodo
    subst htodo
    rw [List.flatMap_nil, List.nil_append] at ht
    rw [List.append_nil] at hxs
    rw [runs_bind]
    apply (hends t).mono
    rintro b u ⟨rfl, rfl⟩
    rw [ht.lexeme, if_pos hlast.1, runs_pure]
    exact ⟨_, rfl, ht, hxs ▸ hfits⟩
  · rintro n found t ⟨done, todo, hxs, htodo, hfits, ht⟩
    obtain ⟨x, todo, rfl⟩ := List.exists_cons_of_length_eq_add_one htodo
    have hx : x ∈ xs := by simp [hxs]
    obtain ⟨l, more, hspell, hl, -⟩ := hhead x hx
    obtain ⟨l', more', hnext, hfollows⟩ : ∃ l' more', todo.flatMap spell ++ last :: ls =
        l' :: more' ∧ follows l' := by
      cases todo with
      | nil => exact ⟨last, ls, rfl, hlast.2⟩
      | cons y todo =>
        obtain ⟨l', more', hspell', -, hfollows⟩ := hhead y (by simp [hxs])
        exact ⟨l', _, by rw [List.flatMap_cons, hspell']; rfl, hfollows⟩
    rw [List.flatMap_cons, List.append_assoc, hnext] at ht
    have hlexeme : t.token.lexeme = l := by
      rw [hspell] at ht
      exact ht.lexeme
    rw [runs_bind]
    apply (hends t).mono
    rintro b u ⟨rfl, rfl⟩
    rw [hlexeme, hl, if_neg Bool.false_ne_true, runs_bind]
    apply (helement x hx _ l' more' hfollows ht).mono
    rintro a v ⟨hv, ha⟩
    rw [runs_pure]
    refine ⟨_, rfl, done ++ [x], todo, by simp [hxs], by simpa using htodo, ?_, hnext ▸ hv⟩
    rw [List.reverse_cons]
    exact List.rel_append hfits (.cons ha .nil)

theorem runs_takeComma {l : Lexeme} (h : s.Faces place (.punctuator "," :: l :: ls))
    {Q : Nat → ParserState → Prop} (k : ∀ n t, t.Faces place (l :: ls) → Q n t) :
    Runs takeComma ctx s Q := by
  unfold takeComma
  simp only [runs_bind, runs_tokenStart, runs_atPunctuator, h.lexeme, BEq.rfl, Bool.not_true,
    runs_failIf_false, runs_pure]
  exact runs_bump_punctuator h fun t ht => k _ t ht

/-- In a list `found` has been read, without a rest element, and `n` more elements are ahead. -/
def InList (place : Place) (spell : X → List Lexeme) (fits : X → Node → Prop) (xs : List X)
    (last : List Lexeme) (n : Nat) (found : List Node × Option Node) (t : ParserState) : Prop :=
  found.2 = none ∧ ∃ done todo, xs = done ++ todo ∧ todo.length = n ∧
    List.Forall₂ fits done found.1.reverse ∧
      (done = [] ∧ t.Faces place (separated spell todo ++ last) ∨
        done ≠ [] ∧ t.Faces place (continued spell last todo))

/-- Elements with commas between them, none of which is a rest element. -/
theorem runs_commaListWithRest {element rest : Parser Node} {fits : X → Node → Prop}
    {close : String} (hclose : close ≠ ",") (hlimit : xs.length < ctx.limit)
    (hhead : ∀ x ∈ xs, ∃ l more, spell x = l :: more ∧
      l ∉ [.punctuator close, .punctuator "...", .finish, .invalid])
    (helement : ∀ x ∈ xs, ∀ t p more, p = "," ∨ p = close →
      t.Faces place (spell x ++ .punctuator p :: more) →
      Runs element ctx t fun a u => u.Faces place (.punctuator p :: more) ∧ fits x a)
    (h : s.Faces place (separated spell xs ++ .punctuator close :: ls)) :
    Runs (commaListWithRest close element rest) ctx s fun as t =>
      t.Faces place (.punctuator close :: ls) ∧ List.Forall₂ fits xs as := by
  have hnext : ∀ todo, ∃ p more, (p = "," ∨ p = close) ∧
      continued spell (.punctuator close :: ls) todo = .punctuator p :: more := by
    rintro (_ | ⟨x, todo⟩)
    · exact ⟨close, ls, .inr rfl, rfl⟩
    · exact ⟨",", _, .inl rfl, rfl⟩
  refine runs_iterate (InList place spell fits xs (.punctuator close :: ls)) hlimit
    ⟨rfl, [], xs, rfl, rfl, .nil, .inl ⟨rfl, h⟩⟩ ?_ ?_
  · rintro ⟨found, rest?⟩ t ⟨-, done, todo, hxs, htodo, hfits, ht⟩
    rw [List.length_eq_zero_iff] at htodo
    subst htodo
    rw [List.append_nil] at hxs
    have ht : t.Faces place (.punctuator close :: ls) := ht.elim And.right And.right
    simp only [runs_bind, runs_atListEnd, ht.lexeme, BEq.rfl, Bool.true_or, if_true, runs_pure]
    exact ⟨_, rfl, ht, hxs ▸ hfits⟩
  · rintro n ⟨found, rest?⟩ t ⟨hrest, done, todo, hxs, htodo, hfits, ht⟩
    obtain rfl : rest? = none := hrest
    obtain ⟨x, todo, rfl⟩ := List.exists_cons_of_length_eq_add_one htodo
    have hx : x ∈ xs := by simp [hxs]
    obtain ⟨l, more, hspell, hl⟩ := hhead x hx
    obtain ⟨hl, hdots, hfinish, hinvalid⟩ : (l == .punctuator close) = false ∧
        (l == .punctuator "...") = false ∧ (l == .finish) = false ∧ (l == .invalid) = false := by
      simpa using hl
    obtain ⟨p, after, hp, hafter⟩ := hnext todo
    rw [separated_cons, continued, separated_cons, hafter] at ht
    have hlexeme : ∀ u : ParserState, u.Faces place (spell x ++ .punctuator p :: after) →
        u.token.lexeme = l := by
      intro u hu
      rw [hspell] at hu
      exact hu.lexeme
    -- the element, once the parser has come to it
    have helement : ∀ u, u.Faces place (spell x ++ .punctuator p :: after) →
        Runs element ctx u fun a v => InList place spell fits xs (.punctuator close :: ls) n
          (a :: found, none) v := by
      intro u hu
      apply (helement x hx u p after hp hu).mono
      rintro a v ⟨hv, ha⟩
      refine ⟨rfl, done ++ [x], todo, by simp [hxs], by simpa using htodo, ?_,
        .inr ⟨by simp, hafter ▸ hv⟩⟩
      rw [List.reverse_cons]
      exact List.rel_append hfits (.cons ha .nil)
    unfold endsAfterComma
    obtain ⟨rfl, ht⟩ | ⟨hdone, ht⟩ := ht
    · obtain rfl : found = [] := by simpa using hfits
      simp only [runs_bind, runs_atListEnd, hlexeme t ht, hl, hfinish, hinvalid, Bool.or_false,
        Bool.false_eq_true, if_false, List.isEmpty_nil, if_true, runs_pure, Option.map_none,
        runs_faultAt?_none, runs_atPunctuator, hdots]
      exact (helement t ht).mono fun a v hv => ⟨_, rfl, hv⟩
    · have hfound : found.isEmpty = false := by
        rw [List.isEmpty_eq_false_iff]
        rintro rfl
        exact hdone (List.forall₂_nil_right_iff.1 hfits)
      have hcomma : (Lexeme.punctuator "," == .punctuator close ||
          Lexeme.punctuator "," == .finish || Lexeme.punctuator "," == .invalid) = false := by
        simpa using Ne.symm hclose
      obtain ⟨l', more', hmore⟩ : ∃ l' more', spell x ++ .punctuator p :: after = l' :: more' :=
        List.exists_cons_of_ne_nil (by simp)
      simp only [runs_bind, runs_atListEnd, ht.lexeme, hcomma, hfound, Bool.false_eq_true,
        if_false, runs_pure, Option.map_none, Option.isSome_none, Bool.and_false,
        runs_faultIf_false, runs_atPunctuator, hmore] at ht ⊢
      apply runs_takeComma ht
      intro _ u hu
      rw [← hmore] at hu
      simp only [hlexeme u hu, hl, hdots, Bool.false_eq_true, if_false, runs_bind,
        runs_faultAt?_none, runs_atPunctuator, runs_pure]
      exact (helement u hu).mono fun a v hv => ⟨_, rfl, hv⟩

/-- Elements with commas between them, and no comma behind the last one. -/
theorem runs_commaList {element : Parser α} {close : String} (hclose : close ≠ ",")
    (hlimit : xs.length < ctx.limit)
    (hhead : ∀ x ∈ xs, ∃ l more, spell x = l :: more ∧
      l ∉ [.punctuator close, .finish, .invalid])
    (helement : ∀ x ∈ xs, ∀ t p more, p = "," ∨ p = close →
      t.Faces place (spell x ++ .punctuator p :: more) →
      Runs element ctx t fun a u => u.Faces place (.punctuator p :: more) ∧ fits x a)
    (h : s.Faces place (separated spell xs ++ .punctuator close :: ls)) :
    Runs (commaList close element) ctx s fun r t => t.Faces place (.punctuator close :: ls) ∧
      ∃ as, r = (as, none) ∧ List.Forall₂ fits xs as := by
  have hnext : ∀ todo, ∃ p more, (p = "," ∨ p = close) ∧
      continued spell (.punctuator close :: ls) todo = .punctuator p :: more := by
    rintro (_ | ⟨x, todo⟩)
    · exact ⟨close, ls, .inr rfl, rfl⟩
    · exact ⟨",", _, .inl rfl, rfl⟩
  unfold commaList
  simp only [runs_bind, runs_atListEnd]
  cases xs with
  | nil =>
    have h : s.Faces place (.punctuator close :: ls) := h
    simp only [h.lexeme, BEq.rfl, Bool.true_or, if_true, runs_pure]
    exact ⟨h, [], rfl, .nil⟩
  | cons x xs =>
    obtain ⟨l, more, hspell, hl⟩ := hhead x List.mem_cons_self
    have hl : (l == .punctuator close || l == .finish || l == .invalid) = false := by
      simpa [not_or, and_assoc] using hl
    obtain ⟨p, after, hp, hafter⟩ := hnext xs
    rw [separated_cons, hafter] at h
    have hlexeme : s.token.lexeme = l := by
      rw [hspell] at h
      exact h.lexeme
    simp only [hlexeme, hl, Bool.false_eq_true, if_false, runs_bind]
    apply (helement x List.mem_cons_self s p after hp h).mono
    rintro a t ⟨ht, ha⟩
    -- `found` fits the elements that are done, and the others are ahead
    refine runs_iterate (fun n found u => ∃ done todo, x :: xs = done ++ todo ∧ todo.length = n ∧
      List.Forall₂ fits done found.reverse ∧
        u.Faces place (continued spell (.punctuator close :: ls) todo))
      (Nat.lt_of_succ_lt hlimit) ⟨[x], xs, rfl, rfl, .cons ha .nil, hafter ▸ ht⟩ ?_ ?_
    · rintro found u ⟨done, todo, hxs, htodo, hfits, hu⟩
      rw [List.length_eq_zero_iff] at htodo
      subst htodo
      have hu : u.Faces place (.punctuator close :: ls) := hu
      rw [List.append_nil] at hxs
      simp only [hu.lexeme, BEq.rfl, Bool.true_or, if_true, runs_bind, runs_atListEnd, runs_pure]
      exact ⟨_, rfl, hu, _, rfl, hxs ▸ hfits⟩
    · rintro n found u ⟨done, todo, hxs, htodo, hfits, hu⟩
      obtain ⟨y, todo, rfl⟩ := List.exists_cons_of_length_eq_add_one htodo
      have hy : y ∈ x :: xs := by simp [hxs]
      obtain ⟨l, more, hspell, hl⟩ := hhead y hy
      have hl : (l == .punctuator close) = false := by
        simp only [List.mem_cons, not_or] at hl
        simpa using hl.1
      obtain ⟨p, after, hp, hafter⟩ := hnext todo
      have hcomma : (Lexeme.punctuator "," == .punctuator close ||
          Lexeme.punctuator "," == .finish || Lexeme.punctuator "," == .invalid) = false := by
        simpa using Ne.symm hclose
      rw [continued, separated_cons, hafter, hspell, List.cons_append] at hu
      simp only [runs_bind, runs_atListEnd, hu.lexeme, hcomma, Bool.false_eq_true, if_false]
      apply runs_takeComma hu
      intro _ v hv
      simp only [runs_atPunctuator, hv.lexeme, hl, Bool.false_eq_true, if_false, runs_bind]
      rw [← List.cons_append, ← hspell] at hv
      apply (helement y hy v p after hp hv).mono
      rintro a w ⟨hw, ha⟩
      rw [runs_pure]
      refine ⟨_, rfl, done ++ [y], todo, by simp [hxs], by simpa using htodo, ?_, hafter ▸ hw⟩
      rw [List.reverse_cons]
      exact List.rel_append hfits (.cons ha .nil)

theorem runs_commaList_one {element : Parser α} {close : String} {l : Lexeme}
    {more : List Lexeme} {fits : α → Prop}
    (hlimit : 0 < ctx.limit) (hl : l ∉ [.punctuator close, .finish, .invalid])
    (helement : Runs element ctx s fun a t => t.Faces place (.punctuator close :: ls) ∧ fits a)
    (h : s.Faces place (l :: more)) :
    Runs (commaList close element) ctx s fun r t =>
      t.Faces place (.punctuator close :: ls) ∧ ∃ a, r = ([a], none) ∧ fits a := by
  simp only [List.mem_cons, List.not_mem_nil, or_false, not_or] at hl
  have hstart : (l == .punctuator close || l == .finish || l == .invalid) = false := by
    simp [hl]
  unfold commaList
  simp only [runs_bind, runs_atListEnd, h.lexeme, hstart, Bool.false_eq_true, if_false]
  apply helement.mono
  rintro a t ⟨ht, ha⟩
  apply runs_iterate_last hlimit
  simp only [runs_bind, runs_atListEnd, ht.lexeme, BEq.rfl, Bool.true_or, if_true, runs_pure]
  exact ⟨_, rfl, ht, a, rfl, ha⟩

end Lists

end Parser

end ModuleBundler.Script
