import Mathlib.Data.List.Basic
import ModuleBundler.Proofs.Script.Word

/-!
# Scanning moves forward

Every scan passes characters of the text and drops none: what it leaves is a suffix of what it was
given, at the offset that fits. From this the order of the places a token is described by follows.
-/

namespace ModuleBundler.Script

namespace Cursor

/-- `d` stands where `c` gets to by passing characters. -/
def Before (c d : Cursor) : Prop :=
  ∃ passed : List Char, c.rest = passed ++ d.rest ∧ d.offset = c.offset + passed.length

namespace Before

variable {c d e : Cursor}

theorem refl (c : Cursor) : c.Before c := ⟨[], rfl, rfl⟩

theorem trans (h : c.Before d) (k : d.Before e) : c.Before e := by
  obtain ⟨p, hp, hd⟩ := h
  obtain ⟨q, hq, he⟩ := k
  refine ⟨p ++ q, ?_, ?_⟩
  · rw [hp, hq, List.append_assoc]
  · rw [he, hd, List.length_append, Nat.add_assoc]

theorem le (h : c.Before d) : c.offset ≤ d.offset := by
  obtain ⟨p, -, hd⟩ := h
  omega

theorem total (h : c.Before d) : c.offset + c.rest.length = d.offset + d.rest.length := by
  obtain ⟨p, hp, hd⟩ := h
  rw [hp, hd, List.length_append]
  omega

theorem one (a : Char) (r : List Char) (n : Nat) : Before ⟨a :: r, n⟩ ⟨r, n + 1⟩ := ⟨[a], rfl, rfl⟩

/-- Passing one character in front. -/
theorem cons {a : Char} {r : List Char} {n : Nat} (h : Before ⟨r, n + 1⟩ d) :
    Before ⟨a :: r, n⟩ d :=
  (one a r n).trans h

theorem two {a b : Char} {r : List Char} {n : Nat} (h : Before ⟨r, n + 2⟩ d) :
    Before ⟨a :: b :: r, n⟩ d :=
  cons (cons h)

end Before

theorem before_drop (c : Cursor) {n : Nat} (h : n ≤ c.rest.length) : c.Before (c.drop n) := by
  refine ⟨c.rest.take n, (List.take_append_drop n c.rest).symm, ?_⟩
  rw [List.length_take, Nat.min_eq_left h]
  rfl

theorem before_drop_one {c : Cursor} {a : Char} {r : List Char} (h : c.rest = a :: r) :
    c.Before (c.drop 1) :=
  before_drop c (by simp [h])

theorem before_skipWhileFrom (p : Char → Bool) (cs : List Char) (n : Nat) :
    Before ⟨cs, n⟩ (skipWhileFrom p cs n) := by
  induction cs generalizing n with
  | nil => exact Before.refl _
  | cons a r ih =>
    rw [skipWhileFrom]
    split
    · exact (ih (n + 1)).cons
    · exact Before.refl _

theorem before_skipWhile (p : Char → Bool) (c : Cursor) : c.Before (c.skipWhile p) :=
  before_skipWhileFrom p c.rest c.offset

end Cursor

open Cursor (Before)

/-! ## Blanks and comments -/

theorem skipTrivia_before (mode : Skip) (cs : List Char) (n : Nat) (t : Trivia) :
    Before ⟨cs, n⟩ (skipTrivia mode cs n t).1 := by
  fun_induction skipTrivia mode cs n t with
  | case1 => exact Before.refl _
  | case2 => exact Before.refl _
  | case3 => exact Before.refl _
  | case4 n t r ih => exact ih.two
  | case5 n t r ih => exact ih.two
  | case6 n t c r _ _ _ ih => exact ih.cons
  | case7 n t c r _ _ _ _ ih => exact ih.cons
  | case8 => exact Before.refl _
  | case9 start n t c r _ ih => exact ih.cons
  | case10 start n t c r _ ih => exact ih.cons
  | case11 start n t r ih => exact ih.two
  | case12 start n t c r _ ih => exact ih.cons

/-- Where the comment that is being skipped starts. -/
def Skip.start : Skip → Nat → Nat
  | .code, n => n
  | .line start, _ | .block start, _ => start

/-- An open comment starts in the part that was skipped. -/
theorem skipTrivia_open (mode : Skip) (cs : List Char) (n : Nat) (t : Trivia) {start : Nat}
    (hm : mode.start n ≤ n) (h : (skipTrivia mode cs n t).2.2 = some start) :
    mode.start n ≤ start ∧ start ≤ (skipTrivia mode cs n t).1.offset := by
  fun_induction skipTrivia mode cs n t <;> simp_all [Skip.start] <;> omega

/-! ## Words -/

theorem scanWord_before (skip : Nat) (cs : List Char) (n : Nat) (name : List Char)
    (escaped : Bool) (faults : List Nat) :
    Before ⟨cs, n⟩ (scanWord skip cs n name escaped faults).next := by
  fun_induction scanWord skip cs n name escaped faults
  case case1 => exact Before.refl _
  case case9 => exact Before.refl _
  all_goals next ih => exact ih.cons

/-! ## Numbers -/

theorem skipDigits_before (digit : Char → Bool) (cs : List Char) (n : Nat) :
    Before ⟨cs, n⟩ (skipDigits digit cs n).1 := by
  fun_induction skipDigits digit cs n with
  | case1 n c r _ ih => exact ih.cons
  | case2 n c r _ => exact Before.one _ _ _
  | case3 n => exact Before.one _ _ _
  | case4 n c r _ _ ih => exact ih.cons
  | case5 => exact Before.refl _
  | case6 => exact Before.refl _

namespace Cursor

variable {c : Cursor}

theorem before_skipDigits (digit : Char → Bool) (c : Cursor) :
    c.Before (c.skipDigits digit).next :=
  skipDigits_before digit c.rest c.offset

theorem before_requireDigits (digit : Char → Bool) (c : Cursor) :
    c.Before (c.requireDigits digit).next := by
  unfold requireDigits
  split
  · split
    · exact before_skipDigits digit c
    · exact Before.refl c
  · exact Before.refl c

/-- Two parts of a number after each other. -/
theorem Before.andThen {s : NumberScan} {f : Cursor → NumberScan} (h : c.Before s.next)
    (hf : ∀ d : Cursor, d.Before (f d).next) : c.Before (s.andThen f).next :=
  h.trans (hf s.next)

theorem before_endNumber (c : Cursor) : c.Before c.endNumber.next := by
  unfold endNumber
  split
  case h_1 d r h =>
    split
    · exact (before_drop_one h).trans (before_skipWhile isIdentifierStart _)
    · exact Before.refl c
  case h_2 => exact Before.refl c

theorem before_skipExponent (c : Cursor) : c.Before c.skipExponent.next := by
  unfold skipExponent
  split
  case h_1 h => exact (before_drop_one h).trans (before_requireDigits _ _)
  case h_2 h => exact (before_drop_one h).trans (before_requireDigits _ _)
  case h_3 => exact before_requireDigits _ c

theorem before_skipOptionalExponent (c : Cursor) : c.Before c.skipOptionalExponent.next := by
  unfold skipOptionalExponent
  split
  case h_1 h => exact (before_drop_one h).trans (before_skipExponent _)
  case h_2 h => exact (before_drop_one h).trans (before_skipExponent _)
  case h_3 => exact Before.refl c

theorem before_skipFraction (c : Cursor) : c.Before c.skipFraction.next := by
  unfold skipFraction
  refine (Before.andThen ?_ before_skipOptionalExponent).andThen before_endNumber
  split
  · split
    · exact before_skipDigits _ c
    · exact Before.refl c
  · exact Before.refl c

theorem before_scanRadix (digit : Char → Bool) (c : Cursor) :
    c.Before (c.scanRadix digit).next := by
  unfold scanRadix
  dsimp only
  split
  · apply (before_requireDigits digit c).andThen
    intro d
    split
    case h_1 h => exact (before_drop_one h).trans (before_endNumber _)
    case h_2 => exact before_endNumber d
  · exact before_requireDigits digit c

theorem before_scanLegacyOctal (c : Cursor) : c.Before c.scanLegacyOctal.next := by
  unfold scanLegacyOctal
  apply (before_skipWhile Char.isDigit c).trans
  dsimp only
  split
  case h_1 h => exact (before_drop_one h).trans (before_skipFraction _)
  case h_2 h => exact (before_drop_one h).trans (before_skipExponent _)
  case h_3 => exact before_endNumber _

theorem before_scanNumber (c : Cursor) : c.Before c.scanNumber.next := by
  unfold scanNumber
  split
  case h_1 r h =>
    have hc : (c.drop 1).rest = r := by simp [drop, h]
    apply (before_drop_one h).trans
    dsimp only
    split
    case h_1 | h_2 => exact (before_drop_one hc).trans (before_scanRadix _ _)
    case h_3 | h_4 => exact (before_drop_one hc).trans (before_scanRadix _ _)
    case h_5 | h_6 => exact (before_drop_one hc).trans (before_scanRadix _ _)
    case h_7 | h_8 => exact (before_drop_one hc).trans (before_skipExponent _)
    case h_9 => exact (before_drop_one hc).trans (before_skipFraction _)
    case h_10 => exact (before_drop_one hc).trans (before_endNumber _)
    case h_11 =>
      split
      · exact before_scanLegacyOctal _
      · exact before_endNumber _
    case h_12 => exact before_endNumber _
  case h_2 h =>
    apply (before_drop_one h).trans
    exact ((before_requireDigits _ _).andThen before_skipOptionalExponent).andThen before_endNumber
  case h_3 =>
    apply (before_skipDigits _ c).andThen
    intro d
    split
    case h_1 h => exact (before_drop_one h).trans (before_skipFraction _)
    case h_2 h => exact (before_drop_one h).trans (before_endNumber _)
    case h_3 => exact (before_skipOptionalExponent d).andThen before_endNumber

end Cursor

/-! ## Strings and templates -/

theorem scanString_before (quote : Char) (skip : Nat) (cs : List Char) (n : Nat)
    (units : List CodeUnit) (faults : List Nat) :
    Before ⟨cs, n⟩ (scanString quote skip cs n units faults).next := by
  fun_induction scanString quote skip cs n units faults
  case case1 => exact Before.refl _
  case case3 => exact Before.one _ _ _
  case case4 => exact Before.one _ _ _
  all_goals next ih => exact ih.cons

theorem scanTemplate_before (skip : Nat) (cs : List Char) (n : Nat) (valid : Bool) :
    Before ⟨cs, n⟩ (scanTemplate skip cs n valid).2.2 := by
  fun_induction scanTemplate skip cs n valid
  case case1 => exact Before.refl _
  case case3 => exact Before.one _ _ _
  case case4 c r n valid _ h =>
    cases r with
    | nil => simp at h
    | cons d r => exact Before.two (Before.refl _)
  all_goals next ih => exact ih.cons

/-! ## Tokens -/

theorem punctuator?_length {cs : List Char} {p : String} {n : Nat}
    (h : punctuator? cs = some (p, n)) : n ≤ cs.length := by
  unfold punctuator? at h
  split at h
  case h_1 d r =>
    split at h <;> (simp only [Option.some.injEq, Prod.mk.injEq] at h; simp; omega)
  case h_2 =>
    obtain ⟨q, hq, heq⟩ := Option.map_eq_some_iff.mp h
    have hprefix := List.find?_some hq
    simp only [Prod.mk.injEq] at heq
    rw [← heq.2]
    exact (List.isPrefixOf_iff_prefix.mp hprefix).length_le

/-- How a token read from `c` on lies in the text. -/
structure Scanned.After (c : Cursor) (s : Scanned) : Prop where
  origin : c.Before s.start
  next : s.start.Before s.next
  start : c.offset ≤ s.token.span.start
  start_le : s.token.span.start ≤ s.start.offset
  ordered : s.token.span.start ≤ s.token.span.stop
  stop : s.token.span.stop ≤ s.next.offset
  /-- Only at the end of the text is there nothing to read again. -/
  text : s.token.lexeme = .finish ∨ s.start.rest ≠ []
  word : s.faults = [] → ∀ name escaped, s.token.lexeme = .word name escaped → IsWord name

namespace Scanned.After

variable {c d : Cursor} {s : Scanned}

theorem trans (h : c.Before d) (hs : s.After d) : s.After c :=
  { hs with origin := h.trans hs.origin, start := Nat.le_trans h.le hs.start }

/-- A token that covers what was read. -/
theorem whole {lexeme : Lexeme} {newline : Bool} {faults : List Nat} {comment? : Option Span}
    (h : c.Before d) (ht : lexeme = .finish ∨ c.rest ≠ [])
    (hw : faults = [] → ∀ name escaped, lexeme = .word name escaped → IsWord name) :
    Scanned.After c ⟨⟨lexeme, ⟨c.offset, d.offset⟩, newline⟩, c, d, faults, comment?⟩ :=
  ⟨Before.refl c, h, Nat.le_refl _, Nat.le_refl _, h.le, Nat.le_refl _, ht, hw⟩

end Scanned.After

open Scanned (After)

variable {c : Cursor}

theorem wordToken_after (h : c.rest ≠ []) (hstart : startsWord c.rest = true) (newline : Bool) :
    (wordToken c .word newline).After c := by
  refine After.whole (scanWord_before 0 c.rest c.offset [] false []) (.inr h) ?_
  rintro hfaults _ _ ⟨⟩
  exact isWord_scanWord ⟨by simp, by simp⟩ (fun _ => ⟨rfl, hstart⟩) hfaults

theorem scanHash_after {a : Char} {r : List Char} (h : c.rest = a :: r) (newline : Bool) :
    (scanHash c newline).After c := by
  have hc := Cursor.before_drop_one h
  have ht : c.rest ≠ [] := by simp [h]
  unfold scanHash
  dsimp only
  split
  case isTrue hs =>
    have hzero : c.offset = 0 := by simp_all
    rw [← hzero]
    exact After.whole (hc.trans (Cursor.before_skipWhile _ _)) (.inr ht) (by simp)
  case isFalse =>
    split
    · have hw := scanWord_before 0 (c.drop 1).rest (c.drop 1).offset [] false []
      exact After.whole (hc.trans hw) (.inr ht) (by rintro - _ _ ⟨⟩)
    · have hn : (c.drop 1).Before
          (if (c.drop 1).rest.isEmpty then c.drop 1 else (c.drop 1).drop 1) := by
        split
        · exact Before.refl _
        · exact Cursor.before_drop _ (by rw [Nat.one_le_iff_ne_zero]; simp_all)
      exact ⟨Before.refl c, hc.trans hn, Nat.le_refl _, Nat.le_refl _, hc.le, hn.le, .inr ht,
        by simp⟩

theorem scanQuoted_after {a : Char} {r : List Char} (h : c.rest = a :: r) (quote : Char)
    (newline : Bool) : (scanQuoted c quote newline).After c := by
  have hs := scanString_before quote 0 (c.drop 1).rest (c.drop 1).offset [] []
  have hc := (Cursor.before_drop_one h).trans hs
  unfold scanQuoted
  dsimp only
  split
  · exact After.whole hc (.inr (by simp [h])) (by simp)
  · exact After.whole hc (.inr (by simp [h])) (by simp)

theorem templateToken_after {a : Char} {r : List Char} (h : c.rest = a :: r)
    {whole head : Bool → Lexeme} (hwhole : ∀ valid name escaped, whole valid ≠ .word name escaped)
    (hhead : ∀ valid name escaped, head valid ≠ .word name escaped) (newline : Bool) :
    (templateToken c whole head newline).After c := by
  have hs := scanTemplate_before 0 (c.drop 1).rest (c.drop 1).offset true
  have hc := (Cursor.before_drop_one h).trans hs
  unfold templateToken
  dsimp only
  split
  · exact After.whole hc (.inr (by simp [h])) (by simp)
  · exact After.whole hc (.inr (by simp [h])) (by simp [hwhole])
  · exact After.whole hc (.inr (by simp [h])) (by simp [hhead])

theorem scanAt_after (c : Cursor) (newline : Bool) : (scanAt c newline).After c := by
  unfold scanAt
  split
  case h_1 => exact After.whole (Before.refl c) (.inl rfl) (by simp)
  case h_2 a r h =>
    have ht : c.rest ≠ [] := by simp [h]
    split
    case isTrue hstart => exact wordToken_after ht hstart newline
    case isFalse =>
      split
      · refine After.whole (Cursor.before_scanNumber c) (.inr ht) ?_
        split <;> simp
      · split
        · exact scanQuoted_after h a newline
        · split
          · exact templateToken_after h (by simp) (by simp) newline
          · split
            · exact scanHash_after h newline
            · split
              case h_1 p n hp =>
                exact After.whole (Cursor.before_drop c (punctuator?_length hp)) (.inr ht) (by simp)
              case h_2 => exact After.whole (Cursor.before_drop_one h) (.inr ht) (by simp)

namespace Cursor

theorem scan_after (c : Cursor) : c.scan.After c := by
  have hc := skipTrivia_before .code c.rest c.offset {}
  unfold scan
  split
  case h_1 next trivia start h =>
    have hs := skipTrivia_open .code c.rest c.offset {} (Nat.le_refl _) (congrArg (·.2.2) h)
    rw [h] at hc hs
    exact ⟨hc, Before.refl _, hs.1, hs.2, hs.2, Nat.le_refl _, .inl rfl, by simp⟩
  case h_2 next trivia h =>
    rw [h] at hc
    exact { (scanAt_after next trivia.newline).trans hc with }

/-- A brace that closes a substitution is read again. -/
theorem scanTemplateTail_after (h : c.rest ≠ []) : c.scanTemplateTail.After c := by
  obtain ⟨a, r, h⟩ := List.exists_cons_of_ne_nil h
  exact templateToken_after h (by simp) (by simp) false

theorem skipPattern_before (escaped inClass : Bool) (cs : List Char) (n : Nat) :
    Before ⟨cs, n⟩ (skipPattern escaped inClass cs n).2 := by
  fun_induction skipPattern escaped inClass cs n
  case case1 => exact Before.refl _
  case case2 => exact Before.one _ _ _
  case case4 => exact Before.one _ _ _
  all_goals next ih => exact ih.cons

theorem scanRegex_after (ht : c.rest ≠ []) (newline : Bool) : (c.scanRegex newline).After c := by
  obtain ⟨a, r, h⟩ := List.exists_cons_of_ne_nil ht
  have hp := skipPattern_before false false (c.drop 1).rest (c.drop 1).offset
  have hc := before_drop_one h
  unfold scanRegex
  dsimp only
  split
  case h_1 next hs =>
    rw [hs] at hp
    exact After.whole (hc.trans hp) (.inr ht) (by simp)
  case h_2 flags hs =>
    rw [hs] at hp
    exact After.whole ((hc.trans hp).trans (before_skipWhile _ flags)) (.inr ht) (by simp)

theorem scanAt_whole (c : Cursor) (newline : Bool) (h : (scanAt c newline).faults = []) :
    (scanAt c newline).token.span.stop = (scanAt c newline).next.offset := by
  revert h
  unfold scanAt
  split
  case h_1 => exact fun _ => rfl
  case h_2 a r hc =>
    split
    case isTrue => exact fun _ => rfl
    case isFalse =>
      split
      · exact fun _ => rfl
      · split
        · unfold scanQuoted
          dsimp only
          split <;> exact fun _ => rfl
        · split
          · unfold templateToken
            dsimp only
            split <;> exact fun _ => rfl
          · split
            · unfold scanHash
              dsimp only
              split
              · exact fun _ => rfl
              · split
                · exact fun _ => rfl
                · simp
            · split <;> exact fun _ => rfl

theorem scan_suffix (c : Cursor) : c.scan.next.rest <:+ c.rest := by
  obtain ⟨passed, hpassed, -⟩ := c.scan_after.origin.trans c.scan_after.next
  exact ⟨passed, hpassed.symm⟩

/-- A token without fault covers all that was read. -/
theorem scan_whole (c : Cursor) (h : c.scan.faults = []) :
    c.scan.token.span.stop = c.scan.next.offset := by
  revert h
  unfold scan
  split
  · exact fun _ => rfl
  · exact scanAt_whole _ _

end Cursor

end ModuleBundler.Script
