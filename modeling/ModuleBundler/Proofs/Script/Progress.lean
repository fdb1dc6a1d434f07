import ModuleBundler.Proofs.Script.Scan

/-!
# Scanning gets on

Every token but the end of the text takes at least one character.
-/

namespace ModuleBundler.Script

open Cursor (Before)

/-- The token ends behind where it starts; at the end of the text nothing is left. -/
def Scanned.Shortens (s : Scanned) : Prop :=
  (s.token.lexeme = .finish ∧ s.start.rest = [] ∧ s.next.rest = []) ∨
    (s.token.lexeme ≠ .finish ∧ s.next.rest.length < s.start.rest.length)

variable {c d : Cursor} {a : Char} {r : List Char}

namespace Cursor

theorem Before.length_le (h : c.Before d) : d.rest.length ≤ c.rest.length := by
  obtain ⟨passed, hp, -⟩ := h
  rw [hp, List.length_append]
  omega

/-- One character is passed, and perhaps more. -/
theorem Before.length_lt (hc : c.rest = a :: r) (h : (c.drop 1).Before d) :
    d.rest.length < c.rest.length := by
  have hle := h.length_le
  simp only [drop, hc, List.drop_succ_cons, List.drop_zero] at hle
  rw [hc, List.length_cons]
  omega

theorem skipDigits_length_lt {digit : Char → Bool} (hc : c.rest = a :: r) (ha : digit a = true)
    (hline : a ≠ '_') : (c.drop 1).Before (c.skipDigits digit).next := by
  have hstep : Script.skipDigits digit (a :: r) c.offset =
      Script.skipDigits digit r (c.offset + 1) := by
    rw [Script.skipDigits.eq_def]
    split
    case h_1 heq =>
      cases heq
      exact absurd rfl hline
    case h_2 heq =>
      cases heq
      rw [if_pos ha]
    case h_3 heq => cases heq
  have hnext : (c.skipDigits digit).next = (Script.skipDigits digit r (c.offset + 1)).1 := by
    rw [← hstep, ← hc]
    rfl
  have hdrop : c.drop 1 = ⟨r, c.offset + 1⟩ := by simp [drop, hc]
  rw [hnext, hdrop]
  exact skipDigits_before digit r (c.offset + 1)

theorem before_scanNumber_of_zero (hc : c.rest = '0' :: r) :
    (c.drop 1).Before c.scanNumber.next := by
  have hr : (c.drop 1).rest = r := by simp [drop, hc]
  unfold scanNumber
  simp only [hc]
  split
  case h_1 | h_2 => exact (before_drop_one hr).trans (before_scanRadix _ _)
  case h_3 | h_4 => exact (before_drop_one hr).trans (before_scanRadix _ _)
  case h_5 | h_6 => exact (before_drop_one hr).trans (before_scanRadix _ _)
  case h_7 | h_8 => exact (before_drop_one hr).trans (before_skipExponent _)
  case h_9 => exact (before_drop_one hr).trans (before_skipFraction _)
  case h_10 => exact (before_drop_one hr).trans (before_endNumber _)
  case h_11 =>
    split
    · exact before_scanLegacyOctal _
    · exact before_endNumber _
  case h_12 => exact before_endNumber _

theorem scanNumber_length_lt (hc : c.rest = a :: r) (h : a.isDigit = true ∨ a = '.') :
    c.scanNumber.next.rest.length < c.rest.length := by
  by_cases hzero : a = '0'
  · subst hzero
    exact Before.length_lt hc (before_scanNumber_of_zero hc)
  apply Before.length_lt hc
  unfold scanNumber
  split
  case h_1 heq =>
    rw [hc] at heq
    cases heq
    exact absurd rfl hzero
  case h_2 =>
    exact ((before_requireDigits _ _).andThen before_skipOptionalExponent).andThen before_endNumber
  case h_3 hdot =>
    have hdigit : a.isDigit = true := by
      refine h.resolve_right fun hpoint => ?_
      rw [hpoint] at hc
      exact hdot _ hc
    have hline : a ≠ '_' := by
      rintro rfl
      revert hdigit
      decide
    apply (skipDigits_length_lt hc hdigit hline).andThen
    intro d
    split
    case h_1 h => exact (before_drop_one h).trans (before_skipFraction _)
    case h_2 h => exact (before_drop_one h).trans (before_endNumber _)
    case h_3 => exact (before_skipOptionalExponent d).andThen before_endNumber

end Cursor

theorem scanWord_length_lt (h : startsWord (a :: r) = true) (n : Nat) :
    (scanWord 0 (a :: r) n [] false []).next.rest.length < (a :: r).length := by
  have hstep : ∀ skip name escaped faults,
      (scanWord skip r (n + 1) name escaped faults).next.rest.length < (a :: r).length := by
    intro skip name escaped faults
    exact Nat.lt_succ_of_le (scanWord_before skip r (n + 1) name escaped faults).length_le
  simp only [startsWord, Bool.or_eq_true, beq_iff_eq] at h
  rw [scanWord.eq_def]
  dsimp only
  split
  · split
    · split
      · split
        · split <;> exact hstep _ _ _ _
        · split <;> exact hstep _ _ _ _
      · exact hstep _ _ _ _
      · exact hstep _ _ _ _
    · exact hstep _ _ _ _
  · rename_i hslash
    have hpart : isIdentifierPart a = true :=
      isIdentifierPart_of_start (h.resolve_left (by simpa using hslash))
    rw [if_pos hpart]
    exact hstep _ _ _ _

theorem punctuator?_pos {cs : List Char} {p : String} {n : Nat}
    (h : punctuator? cs = some (p, n)) : 0 < n := by
  have hlengths : ∀ q ∈ punctuatorChars, 0 < q.2.length := by decide
  unfold punctuator? at h
  split at h
  case h_1 =>
    split at h <;> (cases h; decide)
  case h_2 =>
    obtain ⟨q, hq, heq⟩ := Option.map_eq_some_iff.mp h
    cases heq
    exact hlengths q (List.mem_of_find?_eq_some hq)

/-! ## Tokens -/

/-- A token that is read behind the first character. -/
theorem Scanned.shortens {s : Scanned} (hl : s.token.lexeme ≠ .finish) (hs : s.start = c)
    (hc : c.rest = a :: r) (h : (c.drop 1).Before s.next) : s.Shortens := by
  subst hs
  exact .inr ⟨hl, h.length_lt hc⟩

theorem scanHash_shortens (hc : c.rest = a :: r) (newline : Bool) :
    (scanHash c newline).Shortens := by
  unfold scanHash
  dsimp only
  split
  · exact Scanned.shortens (by simp) rfl hc (Cursor.before_skipWhile _ _)
  · split
    · refine Scanned.shortens ?_ rfl hc (scanWord_before 0 _ _ [] false [])
      simp [wordToken]
    · refine Scanned.shortens (by simp) rfl hc ?_
      split
      · exact Before.refl _
      · exact Cursor.before_drop _ (by rw [Nat.one_le_iff_ne_zero]; simp_all)

theorem scanQuoted_shortens (hc : c.rest = a :: r) (quote : Char) (newline : Bool) :
    (scanQuoted c quote newline).Shortens := by
  have hs := scanString_before quote 0 (c.drop 1).rest (c.drop 1).offset [] []
  unfold scanQuoted
  dsimp only
  split
  · exact Scanned.shortens (by simp) rfl hc hs
  · exact Scanned.shortens (by simp) rfl hc hs

theorem templateToken_shortens (hc : c.rest = a :: r) {whole head : Bool → Lexeme}
    (hwhole : ∀ valid, whole valid ≠ .finish) (hhead : ∀ valid, head valid ≠ .finish)
    (newline : Bool) : (templateToken c whole head newline).Shortens := by
  have hs := scanTemplate_before 0 (c.drop 1).rest (c.drop 1).offset true
  unfold templateToken
  dsimp only
  split
  · exact Scanned.shortens (by simp) rfl hc hs
  · exact Scanned.shortens (hwhole _) rfl hc hs
  · exact Scanned.shortens (hhead _) rfl hc hs

theorem scanAt_shortens (c : Cursor) (newline : Bool) : (scanAt c newline).Shortens := by
  unfold scanAt
  split
  case h_1 hc => exact .inl ⟨rfl, hc, hc⟩
  case h_2 a r hc =>
    split
    case isTrue hstart =>
      rw [hc] at hstart
      refine .inr ⟨by simp [wordToken], ?_⟩
      have hlt := scanWord_length_lt hstart c.offset
      rw [← hc] at hlt
      exact hlt
    case isFalse =>
      split
      case isTrue hnumber =>
        refine .inr ⟨by dsimp only; split <;> simp, Cursor.scanNumber_length_lt hc ?_⟩
        simp only [Bool.or_eq_true, Bool.and_eq_true, beq_iff_eq] at hnumber
        exact hnumber.imp_right And.left
      case isFalse =>
        split
        · exact scanQuoted_shortens hc a newline
        · split
          · exact templateToken_shortens hc (by simp) (by simp) newline
          · split
            · exact scanHash_shortens hc newline
            · split
              case h_1 p n hp =>
                refine .inr ⟨by simp, ?_⟩
                have hpos := punctuator?_pos hp
                simp only [Cursor.drop, List.length_drop, hc, List.length_cons]
                omega
              case h_2 => exact Scanned.shortens (by simp) rfl hc (Before.refl _)

namespace Cursor

/-- An open comment leaves nothing. -/
theorem skipTrivia_open_rest (mode : Skip) (cs : List Char) (n : Nat) (t : Trivia) {start : Nat}
    (h : (skipTrivia mode cs n t).2.2 = some start) : (skipTrivia mode cs n t).1.rest = [] := by
  fun_induction skipTrivia mode cs n t <;> simp_all

theorem scan_shortens (c : Cursor) : c.scan.Shortens := by
  unfold scan
  split
  case h_1 next trivia start h =>
    have hrest := skipTrivia_open_rest .code c.rest c.offset {} (congrArg (·.2.2) h)
    rw [h] at hrest
    exact .inl ⟨rfl, hrest, hrest⟩
  case h_2 next trivia h => exact scanAt_shortens next trivia.newline

theorem scanTemplateTail_shortens (hc : c.rest ≠ []) : c.scanTemplateTail.Shortens := by
  obtain ⟨a, r, hc⟩ := List.exists_cons_of_ne_nil hc
  exact templateToken_shortens hc (by simp) (by simp) false

theorem scanRegex_shortens (hc : c.rest ≠ []) (newline : Bool) :
    (c.scanRegex newline).Shortens := by
  obtain ⟨a, r, hc⟩ := List.exists_cons_of_ne_nil hc
  have hp := skipPattern_before false false (c.drop 1).rest (c.drop 1).offset
  unfold scanRegex
  dsimp only
  split
  case h_1 next hs =>
    rw [hs] at hp
    exact Scanned.shortens (by simp) rfl hc hp
  case h_2 flags hs =>
    rw [hs] at hp
    exact Scanned.shortens (by simp) rfl hc (hp.trans (before_skipWhile _ flags))

end Cursor

end ModuleBundler.Script
