import ModuleBundler.Proofs.Script.Scan
import ModuleBundler.Script.Tree

/-!
# Scanning elsewhere

The same characters further on in a text are scanned as the same token, with all places moved along.
Only the start of a text is special: there a line `#!...` may stand.
-/

namespace ModuleBundler.Script

/-- Things that speak of places in a text, and how they do when the text stands `d` further on. -/
class Movable (α : Type) where
  move (d : Nat) : α → α

export Movable (move)

section Instances

variable {α β : Type} [Movable α] [Movable β]

instance : Movable Nat := ⟨fun d n => n + d⟩

instance : Movable (Option α) := ⟨fun d => Option.map (move d)⟩

instance : Movable (List α) := ⟨fun d => List.map (move d)⟩

instance : Movable (α × β) := ⟨fun d => Prod.map (move d) (move d)⟩

instance : Movable (α ⊕ β) := ⟨fun d => Sum.map (move d) (move d)⟩

instance : Movable Span := ⟨fun d s => ⟨move d s.start, move d s.stop⟩⟩

instance : Movable Cursor := ⟨fun d c => ⟨c.rest, move d c.offset⟩⟩

instance : Movable Token := ⟨fun d t => { t with span := move d t.span }⟩

instance : Movable NumberScan := ⟨fun d s => { s with next := move d s.next, faults := move d s.faults }⟩

end Instances

variable {d : Nat}

section Values

variable {α β : Type} [Movable α] [Movable β] {a b : α} {l m : List α}

@[simp] theorem move_offset (n : Nat) : move d n = n + d := rfl

@[simp] theorem move_none : move d (none : Option α) = none := rfl

@[simp] theorem move_some : move d (some a) = some (move d a) := rfl

@[simp] theorem move_nil : move d ([] : List α) = [] := rfl

@[simp] theorem move_cons : move d (a :: l) = move d a :: move d l := rfl

@[simp] theorem move_append : move d (l ++ m) = move d l ++ move d m := List.map_append

@[simp] theorem move_reverse : move d l.reverse = (move d l).reverse := List.map_reverse

@[simp] theorem move_pair (a : α) (b : β) : move d (a, b) = (move d a, move d b) := rfl

@[simp] theorem move_cursor (cs : List Char) (n : Nat) :
    move d (⟨cs, n⟩ : Cursor) = ⟨cs, n + d⟩ := rfl

end Values

namespace Cursor

theorem move_skipWhileFrom (p : Char → Bool) (cs : List Char) (n : Nat) :
    skipWhileFrom p cs (n + d) = move d (skipWhileFrom p cs n) := by
  induction cs generalizing n with
  | nil => rfl
  | cons c r ih =>
    rw [skipWhileFrom, skipWhileFrom, Nat.add_right_comm]
    split
    · exact ih (n + 1)
    · rfl

end Cursor

def Skip.move (d : Nat) : Skip → Skip
  | .code => .code
  | .line start => .line (start + d)
  | .block start => .block (start + d)

/-- Which comment has been seen first does not matter. -/
theorem move_skipTrivia (mode : Skip) (cs : List Char) (n : Nat) (t : Trivia) :
    ∀ t' : Trivia, t'.newline = t.newline →
      (skipTrivia (mode.move d) cs (n + d) t').1 = move d (skipTrivia mode cs n t).1 ∧
      (skipTrivia (mode.move d) cs (n + d) t').2.1.newline = (skipTrivia mode cs n t).2.1.newline ∧
      (skipTrivia (mode.move d) cs (n + d) t').2.2 = move d (skipTrivia mode cs n t).2.2 := by
  fun_induction skipTrivia mode cs n t
  case case1 | case2 | case3 | case8 =>
    intro t' h
    simp_all [Skip.move, skipTrivia, Trivia.withComment]
  all_goals
    rename_i ih
    intro t' h
    simp_all [Skip.move, skipTrivia, Trivia.withComment, Nat.add_right_comm]

/-! ## Words and numbers -/

theorem move_scanWord (skip : Nat) (cs : List Char) (n : Nat) (name : List Char) (escaped : Bool)
    (faults : List Nat) :
    scanWord skip cs (n + d) name escaped (move d faults) =
      let w := scanWord skip cs n name escaped faults
      { w with faults := move d w.faults, next := move d w.next } := by
  fun_induction scanWord skip cs n name escaped faults
  case case3 hc _ e used hu valid pair hv ih =>
    simp only [scanWord, hc, hu, if_true, Nat.add_right_comm _ d] at ih ⊢
    rw [if_pos hv]
    exact ih
  case case4 hc _ e used hu valid pair hv ih =>
    simp only [scanWord, hc, hu, if_true, Nat.add_right_comm _ d] at ih ⊢
    rw [if_neg hv]
    exact ih
  all_goals
    simp_all [scanWord, Nat.add_right_comm]

theorem move_skipDigits (digit : Char → Bool) (cs : List Char) (n : Nat) :
    skipDigits digit cs (n + d) = move d (skipDigits digit cs n) := by
  fun_induction skipDigits digit cs n
  all_goals
    simp_all [skipDigits, Nat.add_right_comm]

namespace Cursor

variable {c : Cursor}

@[simp] theorem rest_move (c : Cursor) : (move d c).rest = c.rest := rfl

theorem move_drop (c : Cursor) (n : Nat) : (move d c).drop n = move d (c.drop n) := by
  simp [drop, move, Nat.add_right_comm]

theorem move_skipWhile (p : Char → Bool) (c : Cursor) :
    (move d c).skipWhile p = move d (c.skipWhile p) :=
  move_skipWhileFrom p c.rest c.offset

/-- A scan of a part of a number moves along. -/
def MovesAlong (d : Nat) (f : Cursor → NumberScan) : Prop := ∀ c, f (move d c) = move d (f c)

@[simp] theorem move_numberScan (next : Cursor) (faults : List Nat) (invalid : Bool) :
    move d (⟨next, faults, invalid⟩ : NumberScan) = ⟨move d next, move d faults, invalid⟩ := rfl

variable {digit : Char → Bool}

theorem MovesAlong.andThen {s : NumberScan} {f : Cursor → NumberScan} (hf : MovesAlong d f) :
    (move d s).andThen f = move d (s.andThen f) := by
  obtain ⟨next, faults, invalid⟩ := s
  simp only [NumberScan.andThen, move_numberScan, hf next, move_append]
  rfl

theorem move_skipDigits (digit : Char → Bool) (c : Cursor) :
    (move d c).skipDigits digit = move d (c.skipDigits digit) := by
  have h : Script.skipDigits digit (move d c).rest (move d c).offset =
      move d (Script.skipDigits digit c.rest c.offset) :=
    Script.move_skipDigits digit c.rest c.offset
  rcases hs : Script.skipDigits digit c.rest c.offset with ⟨next, fault?⟩
  rw [hs] at h
  simp only [skipDigits, hs, h, move_pair]
  cases fault? <;> rfl

theorem move_requireDigits (digit : Char → Bool) (c : Cursor) :
    (move d c).requireDigits digit = move d (c.requireDigits digit) := by
  unfold requireDigits
  rw [rest_move]
  split
  · split
    · exact move_skipDigits digit c
    · rfl
  · rfl

theorem move_endNumber (c : Cursor) : (move d c).endNumber = move d c.endNumber := by
  unfold endNumber
  rw [rest_move, move_drop, move_skipWhile]
  split
  · split <;> rfl
  · rfl

theorem move_skipExponent (c : Cursor) : (move d c).skipExponent = move d c.skipExponent := by
  unfold skipExponent
  rw [rest_move, move_drop, move_requireDigits, move_requireDigits]
  split <;> rfl

theorem move_skipOptionalExponent (c : Cursor) :
    (move d c).skipOptionalExponent = move d c.skipOptionalExponent := by
  unfold skipOptionalExponent
  rw [rest_move, move_drop, move_skipExponent]
  split <;> rfl

theorem move_skipFraction (c : Cursor) : (move d c).skipFraction = move d c.skipFraction := by
  unfold skipFraction
  rw [← MovesAlong.andThen move_endNumber, ← MovesAlong.andThen move_skipOptionalExponent,
    rest_move, move_skipDigits]
  split
  · split <;> rfl
  · rfl

theorem move_scanRadix (digit : Char → Bool) (c : Cursor) :
    (move d c).scanRadix digit = move d (c.scanRadix digit) := by
  unfold scanRadix
  have hempty : (move d (c.requireDigits digit)).faults.isEmpty =
      (c.requireDigits digit).faults.isEmpty := List.isEmpty_map
  simp only [move_requireDigits, hempty]
  split
  · apply MovesAlong.andThen
    intro c
    simp only [rest_move, move_drop, move_endNumber]
    split <;> rfl
  · rfl

theorem move_scanLegacyOctal (c : Cursor) :
    (move d c).scanLegacyOctal = move d c.scanLegacyOctal := by
  unfold scanLegacyOctal
  simp only [rest_move, move_skipWhile, move_drop, move_skipFraction, move_skipExponent,
    move_endNumber]
  split <;> rfl

theorem move_scanNumber (c : Cursor) : (move d c).scanNumber = move d c.scanNumber := by
  unfold scanNumber
  simp only [rest_move, move_drop, move_scanRadix, move_skipExponent, move_skipFraction,
    move_endNumber, move_scanLegacyOctal, move_requireDigits, move_skipDigits,
    MovesAlong.andThen move_endNumber, MovesAlong.andThen move_skipOptionalExponent]
  split
  · split
    case h_11 => split <;> rfl
    all_goals rfl
  · rfl
  · apply MovesAlong.andThen
    intro c
    simp only [rest_move, move_drop, move_skipFraction, move_endNumber, move_skipOptionalExponent,
      MovesAlong.andThen move_endNumber]
    split <;> rfl

end Cursor

/-! ## Strings and templates -/

instance : Movable StringScan :=
  ⟨fun d s => { s with faults := move d s.faults, next := move d s.next }⟩

@[simp] theorem move_stringScan (units : List CodeUnit) (faults : List Nat) (closed : Bool)
    (next : Cursor) : move d (⟨units, faults, closed, next⟩ : StringScan) =
      ⟨units, move d faults, closed, move d next⟩ := rfl

theorem move_scanString (quote : Char) (skip : Nat) (cs : List Char) (n : Nat)
    (units : List CodeUnit) (faults : List Nat) :
    scanString quote skip cs (n + d) units (move d faults) =
      move d (scanString quote skip cs n units faults) := by
  fun_induction scanString quote skip cs n units faults
  all_goals
    simp_all [scanString, Nat.add_right_comm]

theorem move_scanTemplate (skip : Nat) (cs : List Char) (n : Nat) (valid : Bool) :
    scanTemplate skip cs (n + d) valid =
      let r := scanTemplate skip cs n valid
      (r.1, r.2.1, move d r.2.2) := by
  fun_induction scanTemplate skip cs n valid
  all_goals
    simp_all [scanTemplate, Nat.add_right_comm]

/-! ## Tokens -/

instance : Movable Scanned :=
  ⟨fun d s => { token := move d s.token, start := move d s.start, next := move d s.next,
                faults := move d s.faults, comment? := move d s.comment? }⟩

@[simp] theorem move_span (start stop : Nat) :
    move d (⟨start, stop⟩ : Span) = ⟨start + d, stop + d⟩ := rfl

@[simp] theorem move_token (lexeme : Lexeme) (span : Span) (newline : Bool) :
    move d (⟨lexeme, span, newline⟩ : Token) = ⟨lexeme, move d span, newline⟩ := rfl

@[simp] theorem move_scanned (token : Token) (start next : Cursor) (faults : List Nat)
    (comment? : Option Span) : move d (⟨token, start, next, faults, comment?⟩ : Scanned) =
      ⟨move d token, move d start, move d next, move d faults, move d comment?⟩ := rfl

@[simp] theorem Cursor.offset_move (c : Cursor) : (move d c).offset = c.offset + d := rfl

theorem move_wordToken (c : Cursor) (make : String → Bool → Lexeme) (newline : Bool) :
    wordToken (move d c) make newline = move d (wordToken c make newline) := by
  have h := move_scanWord (d := d) 0 c.rest c.offset [] false []
  simp only [move_nil] at h
  simp only [wordToken, Cursor.rest_move, Cursor.offset_move, h, move_scanned]
  rfl

/-- No line `#!...` starts here. -/
def Cursor.Inner (c : Cursor) : Prop := 0 < c.offset ∨ ¬ ['#', '!'] <+: c.rest

theorem move_scanHash {c : Cursor} (hc : c.Inner) {r : List Char} (hr : c.rest = '#' :: r)
    (newline : Bool) : scanHash (move d c) newline = move d (scanHash c newline) := by
  have hstart : ∀ n, c.offset ≤ n → (n == 0 && (c.drop 1).rest.head? == some '!') = false := by
    intro n hn
    rw [Bool.and_eq_false_iff, beq_eq_false_iff_ne, beq_eq_false_iff_ne]
    refine hc.imp (fun h => by omega) fun h hmark => h ?_
    obtain ⟨r', hr'⟩ := List.head?_eq_some_iff.1 hmark
    have hdrop : (c.drop 1).rest = r := by simp [Cursor.drop, hr]
    rw [hr, ← hdrop, hr']
    exact ⟨r', rfl⟩
  unfold scanHash
  simp only [Cursor.move_drop, Cursor.rest_move, Cursor.offset_move, hstart _ (Nat.le_refl _),
    hstart _ (Nat.le_add_right _ d), Bool.false_eq_true, if_false, move_wordToken]
  split
  · rfl
  · split <;> rfl

theorem move_scanQuoted (c : Cursor) (quote : Char) (newline : Bool) :
    scanQuoted (move d c) quote newline = move d (scanQuoted c quote newline) := by
  have h := move_scanString (d := d) quote 0 (c.drop 1).rest (c.drop 1).offset [] []
  simp only [move_nil] at h
  unfold scanQuoted
  simp only [Cursor.move_drop, Cursor.rest_move, Cursor.offset_move, h]
  generalize scanString quote 0 (c.drop 1).rest (c.drop 1).offset [] [] = s
  obtain ⟨units, faults, closed, next⟩ := s
  cases closed
  · simp
  · simp

theorem move_templateToken (c : Cursor) (whole head : Bool → Lexeme) (newline : Bool) :
    templateToken (move d c) whole head newline = move d (templateToken c whole head newline) := by
  have h := move_scanTemplate (d := d) 0 (c.drop 1).rest (c.drop 1).offset true
  unfold templateToken
  simp only [Cursor.move_drop, Cursor.rest_move, Cursor.offset_move, h]
  generalize scanTemplate 0 (c.drop 1).rest (c.drop 1).offset true = r
  obtain ⟨ending, valid, next⟩ := r
  cases ending <;> rfl

theorem move_scanAt {c : Cursor} (hc : c.Inner) (newline : Bool) :
    scanAt (move d c) newline = move d (scanAt c newline) := by
  unfold scanAt
  simp only [Cursor.rest_move, Cursor.offset_move, move_wordToken, Cursor.move_scanNumber,
    move_scanQuoted, move_templateToken, Cursor.move_drop]
  split
  case h_1 => rfl
  case h_2 a r hr =>
    split
    · rfl
    · split
      · rfl
      · split
        · rfl
        · split
          · rfl
          · split
            case isTrue hhash =>
              obtain rfl : a = '#' := by simpa using hhash
              exact move_scanHash hc hr newline
            case isFalse => split <;> rfl

/-- The same token is found `d` characters further on. Which comment comes first is left open. -/
structure Scanned.Moved (d : Nat) (r s : Scanned) : Prop where
  token : s.token = move d r.token
  start : s.start = move d r.start
  next : s.next = move d r.next
  faults : s.faults = move d r.faults

theorem Scanned.moved_move (d : Nat) (r : Scanned) : r.Moved d (move d r) := ⟨rfl, rfl, rfl, rfl⟩

theorem Cursor.moved_scan {c : Cursor} (hc : c.Inner) : c.scan.Moved d (move d c).scan := by
  obtain ⟨hnext, hnewline, hopen⟩ := move_skipTrivia (d := d) .code c.rest c.offset {} {} rfl
  have hbefore := skipTrivia_before .code c.rest c.offset {}
  unfold scan
  rw [show (move d c).rest = c.rest from rfl]
  simp only [Skip.move] at hnext hnewline hopen
  rcases h : skipTrivia .code c.rest c.offset {} with ⟨next, trivia, open?⟩
  rcases h' : skipTrivia .code c.rest (c.offset + d) {} with ⟨next', trivia', open?'⟩
  simp only [h, h'] at hnext hnewline hopen hbefore
  subst hnext hopen
  cases open? with
  | some start => exact ⟨by simp [hnewline], rfl, rfl, rfl⟩
  | none =>
    have hinner : next.Inner := by
      obtain ⟨passed, hrest, hoffset⟩ := hbefore
      cases passed with
      | nil =>
        obtain rfl : c = next := by
          obtain ⟨rest, offset⟩ := c
          obtain ⟨rest', offset'⟩ := next
          cases hrest
          cases hoffset
          rfl
        exact hc
      | cons a passed =>
        refine .inl ?_
        rw [hoffset, List.length_cons]
        omega
    have hscan := move_scanAt (d := d) hinner trivia.newline
    simp only [move_none, hnewline, hscan]
    exact ⟨rfl, rfl, rfl, rfl⟩

/-! ## Regular expressions -/

theorem move_skipPattern (escaped inClass : Bool) (cs : List Char) (n : Nat) :
    skipPattern escaped inClass cs (n + d) =
      let r := skipPattern escaped inClass cs n
      (r.1, move d r.2) := by
  fun_induction skipPattern escaped inClass cs n
  all_goals
    simp_all [skipPattern, Nat.add_right_comm]

theorem move_flagFaults (cs : List Char) (n : Nat) (seen : List Char) :
    flagFaults cs (n + d) seen = move d (flagFaults cs n seen) := by
  induction cs generalizing n seen with
  | nil => rfl
  | cons c r ih =>
    simp only [flagFaults, Nat.add_right_comm n d, ih]
    split <;> rfl

theorem Cursor.move_scanRegex (c : Cursor) (newline : Bool) :
    (move d c).scanRegex newline = move d (c.scanRegex newline) := by
  have h := move_skipPattern (d := d) false false (c.drop 1).rest (c.drop 1).offset
  unfold scanRegex
  simp only [move_drop, rest_move, offset_move, h]
  rcases skipPattern false false (c.drop 1).rest (c.drop 1).offset with ⟨closed, next⟩
  cases closed
  · rfl
  · simp only [move_skipWhile, rest_move, offset_move, move_flagFaults]
    rfl

theorem Cursor.move_scanTemplateTail (c : Cursor) :
    (move d c).scanTemplateTail = move d c.scanTemplateTail :=
  move_templateToken c .templateTail .templateMiddle false

end ModuleBundler.Script
