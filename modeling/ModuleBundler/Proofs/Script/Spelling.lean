import Mathlib.Tactic.IntervalCases
import ModuleBundler.Json.Quote
import ModuleBundler.Proofs.Script.Word

/-!
# How tokens are spelt

A word that is made of identifier characters, a quoted text and a punctuator are read back as what
they are, whatever blanks stand in front of them.
-/

namespace ModuleBundler.Script

/-- The next token of a text is on the same line and without fault, and `rest` follows it. -/
structure Lexes (cs : List Char) (l : Lexeme) (rest : List Char) : Prop where
  scan (n : Nat) : ∃ span start m, Cursor.scan ⟨cs, n⟩ =
    { token := ⟨l, span, false⟩, start, next := ⟨rest, m⟩ }
  shorter : l ≠ .finish → rest.length < cs.length

/-- The tokens of a text, one after the other. -/
def Spells : List Char → List Lexeme → Prop
  | _, [] => True
  | cs, l :: ls => ∃ rest, Lexes cs l rest ∧ Spells rest ls

/-- The first token of a text is without fault, wherever the text stands. -/
def Heads (cs : List Char) (l : Lexeme) : Prop :=
  ∀ n, (Cursor.scan ⟨cs, n⟩).token.lexeme = l ∧ (Cursor.scan ⟨cs, n⟩).faults = []

/-- A place, up to blanks in front of it. -/
def UpTo (place cs : List Char) : Prop := ∃ blanks, cs = List.replicate blanks ' ' ++ place

/-- The tokens of a text, of which the last one is read at a place. -/
def SpellsTo (place : List Char) : List Char → List Lexeme → Prop
  | _, [] => False
  | cs, [l] => UpTo place cs ∧ Heads place l
  | cs, l :: l' :: ls => ∃ rest, Lexes cs l rest ∧ SpellsTo place rest (l' :: ls)

variable {cs rest place : List Char} {l : Lexeme} {ls : List Lexeme}

theorem Spells.length_le (h : Spells cs ls) (hls : .finish ∉ ls) : ls.length ≤ cs.length := by
  induction ls generalizing cs with
  | nil => exact Nat.zero_le _
  | cons l ls ih =>
    obtain ⟨rest, hlexes, hrest⟩ := h
    rw [List.mem_cons, not_or] at hls
    have hshorter := hlexes.shorter (Ne.symm hls.1)
    have hle := ih hrest hls.2
    rw [List.length_cons]
    omega

theorem Spells.prefix_length_le {more : List Lexeme} (h : Spells cs (ls ++ more))
    (hls : .finish ∉ ls) : ls.length ≤ cs.length := by
  refine Spells.length_le ?_ hls
  induction ls generalizing cs with
  | nil => exact trivial
  | cons l ls ih =>
    obtain ⟨rest, hlexes, hrest⟩ := h
    exact ⟨rest, hlexes, ih hrest fun hmem => hls (List.mem_cons_of_mem _ hmem)⟩

theorem lexes_finish : Lexes [] .finish [] :=
  ⟨fun n => ⟨_, _, n, rfl⟩, fun h => absurd rfl h⟩

theorem Lexes.blank (h : Lexes cs l rest) : Lexes (' ' :: cs) l rest where
  scan n := by
    obtain ⟨span, start, m, hscan⟩ := h.scan (n + 1)
    exact ⟨span, start, m, hscan⟩
  shorter hl := Nat.lt_succ_of_lt (h.shorter hl)

theorem Lexes.heads (h : Lexes cs l rest) : Heads cs l := by
  intro n
  obtain ⟨span, start, m, hscan⟩ := h.scan n
  rw [hscan]
  exact ⟨rfl, rfl⟩

theorem Heads.blank (h : Heads cs l) : Heads (' ' :: cs) l := fun n => h (n + 1)

theorem UpTo.heads (h : UpTo place cs) (hl : Heads place l) : Heads cs l := by
  obtain ⟨blanks, rfl⟩ := h
  induction blanks with
  | zero => exact hl
  | succ blanks ih => exact ih.blank

theorem upTo_self (place : List Char) : UpTo place place := ⟨0, rfl⟩

/-- The first token of the text. -/
theorem SpellsTo.heads (h : SpellsTo place cs (l :: ls)) : Heads cs l := by
  cases ls with
  | nil => exact h.1.heads h.2
  | cons l' ls =>
    obtain ⟨rest, hlexes, -⟩ := h
    exact hlexes.heads

theorem Lexes.spells (h : Lexes cs l rest) (hls : SpellsTo place rest ls) :
    SpellsTo place cs (l :: ls) := by
  cases ls with
  | nil => exact hls.elim
  | cons l' ls => exact ⟨rest, h, hls⟩

theorem SpellsTo.length_le (h : SpellsTo place cs (ls ++ [l])) (hls : .finish ∉ ls) :
    ls.length ≤ cs.length := by
  induction ls generalizing cs with
  | nil => exact Nat.zero_le _
  | cons first ls ih =>
    rw [List.mem_cons, not_or] at hls
    obtain ⟨next, more, hmore⟩ : ∃ next more, ls ++ [l] = next :: more :=
      List.exists_cons_of_ne_nil (by simp)
    rw [List.cons_append, hmore] at h
    obtain ⟨rest, hlexes, hrest⟩ := h
    have hshorter := hlexes.shorter (Ne.symm hls.1)
    have hle := ih (hmore ▸ hrest) hls.2
    rw [List.length_cons]
    omega

theorem SpellsTo.blank (h : SpellsTo place cs ls) : SpellsTo place (' ' :: cs) ls := by
  match ls, h with
  | [l], ⟨⟨blanks, hcs⟩, hl⟩ => exact ⟨⟨blanks + 1, congrArg (' ' :: ·) hcs⟩, hl⟩
  | l :: l' :: ls, ⟨rest, hlexes, hrest⟩ => exact ⟨rest, hlexes.blank, hrest⟩

theorem spells_end : SpellsTo [] [] [.finish] := ⟨upTo_self [], lexes_finish.heads⟩

/-- The tokens of a whole text. -/
theorem SpellsTo.spells (h : SpellsTo [] cs ls) : Spells cs ls := by
  induction ls generalizing cs with
  | nil => exact h.elim
  | cons l ls ih =>
    cases ls with
    | nil =>
      obtain ⟨⟨blanks, rfl⟩, hl⟩ := h
      have hfinish : .finish = l := (hl 0).1
      have hlexes : Lexes (List.replicate blanks ' ' ++ []) .finish [] := by
        induction blanks with
        | zero => exact lexes_finish
        | succ blanks ih => exact ih.blank
      exact ⟨[], hfinish ▸ hlexes, trivial⟩
    | cons l' ls =>
      obtain ⟨rest, hlexes, hrest⟩ := h
      exact ⟨rest, hlexes, ih hrest⟩

theorem Spells.exists_place (h : Spells cs ls) (hls : ls ≠ []) : ∃ place, SpellsTo place cs ls := by
  induction ls generalizing cs with
  | nil => exact absurd rfl hls
  | cons l ls ih =>
    obtain ⟨rest, hlexes, hrest⟩ := h
    cases ls with
    | nil => exact ⟨cs, upTo_self cs, hlexes.heads⟩
    | cons l' ls =>
      obtain ⟨place, hplace⟩ := ih hrest (List.cons_ne_nil l' ls)
      exact ⟨place, rest, hlexes, hplace⟩

/-- Punctuators of one character that no other one begins with. -/
def loneMarks : List Char := ['\x7b', '\x7d', '(', ')', '[', ']', ';', ',', ':']

theorem lexes_mark {c : Char} (h : c ∈ loneMarks) (rest : List Char) :
    Lexes (c :: rest) (.punctuator (String.singleton c)) rest := by
  refine ⟨fun n => ?_, fun _ => Nat.lt_succ_self _⟩
  simp only [loneMarks, List.mem_cons, List.not_mem_nil, or_false] at h
  rcases h with rfl | rfl | rfl | rfl | rfl | rfl | rfl | rfl | rfl <;> exact ⟨_, _, _, rfl⟩

/-- Operators that stand between blanks. -/
def operators : List String := ["=", "!==", "&&", "?"]

theorem lexes_operator {p : String} (h : p ∈ operators) (rest : List Char) :
    Lexes (p.toList ++ ' ' :: rest) (.punctuator p) (' ' :: rest) := by
  simp only [operators, List.mem_cons, List.not_mem_nil, or_false] at h
  refine ⟨fun n => ?_, fun _ => ?_⟩ <;> rcases h with rfl | rfl | rfl | rfl
  · exact ⟨_, _, _, rfl⟩
  · exact ⟨_, _, _, rfl⟩
  · exact ⟨_, _, _, rfl⟩
  · exact ⟨_, _, _, rfl⟩
  all_goals simp

/-! ## Words -/

/-- No identifier goes on here. -/
def EndsWord (rest : List Char) : Prop :=
  ∀ c ∈ rest.head?, isIdentifierPart c = false ∧ c ≠ '\\'

/-- Blanks, line ends and the slash in front of comments start no identifier. -/
theorem not_isIdentifierStart {c : Char}
    (h : isBlank c = true ∨ isLineTerminator c = true ∨ c = '/') : isIdentifierStart c = false := by
  have hspaces : ∀ n, 0x2000 ≤ n → n ≤ 0x200B → Unicode.idStart.countP (· ≤ n) % 2 = 0 := by
    intro n hlo hhi
    interval_cases n <;> decide +kernel
  simp only [isBlank, isLineTerminator, Bool.or_eq_true, beq_iff_eq, Bool.and_eq_true,
    decide_eq_true_eq, or_assoc] at h
  rcases h with rfl | rfl | rfl | rfl | rfl | rfl | rfl | rfl | ⟨hlo, hhi⟩ | rfl | rfl | rfl |
    rfl | rfl | rfl | rfl | rfl | rfl
  case inr.inr.inr.inr.inr.inr.inr.inr.inl =>
    have hdollar : c ≠ '$' := by
      rintro rfl
      revert hlo
      decide
    have hunderscore : c ≠ '_' := by
      rintro rfl
      revert hlo
      decide
    have hbig : ¬ c.toNat < 0x80 := by omega
    simp [isIdentifierStart, hdollar, hunderscore, Unicode.isIdStart, hbig,
      Unicode.Boundaries.contains, hspaces _ hlo hhi]
  all_goals decide +kernel

theorem skipTrivia_start {c : Char} (h : isIdentifierStart c = true) (r : List Char) (n : Nat)
    (t : Trivia) : skipTrivia .code (c :: r) n t = (⟨c :: r, n⟩, t, none) := by
  have hother : ∀ p, (p → isBlank c = true ∨ isLineTerminator c = true ∨ c = '/') → ¬ p := by
    intro p hp htrue
    rw [not_isIdentifierStart (hp htrue)] at h
    cases h
  have hblank := hother _ Or.inl
  have hline := hother _ fun h => Or.inr (Or.inl h)
  have hslash := hother _ fun h => Or.inr (Or.inr h)
  unfold skipTrivia
  split <;> simp_all

theorem scanWord_word {cs rest : List Char} (hcs : ∀ c ∈ cs, isIdentifierPart c = true)
    (hrest : EndsWord rest) (n : Nat) (name : List Char) :
    scanWord 0 (cs ++ rest) n name false [] =
      ⟨name.reverse ++ cs, false, [], ⟨rest, n + cs.length⟩⟩ := by
  induction cs generalizing n name with
  | nil =>
    cases rest with
    | nil => simp [scanWord]
    | cons c r =>
      obtain ⟨hpart, hslash⟩ := hrest c rfl
      simp [scanWord, hpart, hslash]
  | cons c cs ih =>
    have hpart := hcs c List.mem_cons_self
    have hslash : (c == '\\') = false := by
      rw [beq_eq_false_iff_ne]
      rintro rfl
      revert hpart
      decide
    have hstep : scanWord 0 (c :: (cs ++ rest)) n name false [] =
        scanWord 0 (cs ++ rest) (n + 1) (c :: name) false [] := by
      rw [scanWord.eq_def]
      simp only [hslash, hpart, if_true, Bool.false_eq_true, if_false]
    rw [List.cons_append, hstep, ih fun d hd => hcs d (List.mem_cons_of_mem _ hd)]
    simp
    omega

theorem lexes_word {name : String} (h : IsWord name) {rest : List Char} (hrest : EndsWord rest) :
    Lexes (name.toList ++ rest) (.word name false) rest := by
  obtain ⟨⟨c, hc, hstart⟩, hpart⟩ := h
  obtain ⟨r, hr⟩ := List.head?_eq_some_iff.1 (Option.mem_def.1 hc)
  refine ⟨fun n => ⟨⟨n, n + name.toList.length⟩, ⟨name.toList ++ rest, n⟩,
    n + name.toList.length, ?_⟩, fun _ => ?_⟩
  · have hscan := scanWord_word hpart hrest n []
    rw [hr, List.cons_append] at hscan ⊢
    unfold Cursor.scan
    rw [skipTrivia_start hstart]
    simp only [scanAt, startsWord, hstart, Bool.or_true, if_true, wordToken, hscan,
      List.reverse_nil, List.nil_append, ← hr, String.ofList_toList]
  · rw [List.length_append, hr, List.length_cons]
    omega

theorem spells_word {name : String} (h : IsWord name) (hrest : EndsWord rest)
    (hls : SpellsTo place rest ls) : SpellsTo place (name.toList ++ rest) (.word name false :: ls) :=
  (lexes_word h hrest).spells hls

theorem endsWord_cons {c : Char} (h : isIdentifierPart c = false ∧ c ≠ '\\') (rest : List Char) :
    EndsWord (c :: rest) := by
  rintro d ⟨⟩
  exact h

theorem spells_mark {c : Char} (hc : c ∈ loneMarks) (hls : SpellsTo place rest ls) :
    SpellsTo place (c :: rest) (.punctuator (String.singleton c) :: ls) :=
  (lexes_mark hc rest).spells hls

theorem spells_word_blank {name : String} (h : IsWord name) (hls : SpellsTo place rest ls) :
    SpellsTo place (name.toList ++ ' ' :: rest) (.word name false :: ls) :=
  spells_word h (endsWord_cons (by decide) _) hls.blank

/-- No identifier goes on with a mark. -/
theorem endsWord_mark {c : Char} (hc : c ∈ loneMarks) (rest : List Char) : EndsWord (c :: rest) := by
  have hmarks : loneMarks.all (fun c => !isIdentifierPart c && c != '\\') = true := by
    decide +kernel
  have hend : ∀ c ∈ loneMarks, isIdentifierPart c = false ∧ c ≠ '\\' := by
    simpa [List.all_eq_true] using hmarks
  exact endsWord_cons (hend c hc) rest

theorem spells_word_mark {name : String} (h : IsWord name) {c : Char} (hc : c ∈ loneMarks)
    (hls : SpellsTo place rest ls) : SpellsTo place (name.toList ++ c :: rest)
      (.word name false :: .punctuator (String.singleton c) :: ls) :=
  spells_word h (endsWord_mark hc _) (spells_mark hc hls)

theorem spells_operator {p : String} (h : p ∈ operators) (hls : SpellsTo place rest ls) :
    SpellsTo place (' ' :: (p.toList ++ ' ' :: rest)) (.punctuator p :: ls) :=
  ((lexes_operator h rest).spells hls.blank).blank

/-! ## Names behind a dot -/

theorem not_isDigit_of_start {c : Char} (h : isIdentifierStart c = true) : c.isDigit = false := by
  by_contra hdigit
  rw [Bool.not_eq_false, Char.isDigit, Bool.and_eq_true, decide_eq_true_eq, decide_eq_true_eq]
    at hdigit
  have hlo : 48 ≤ c.toNat := UInt32.le_iff_toNat_le.1 hdigit.1
  have hhi : c.toNat ≤ 57 := UInt32.le_iff_toNat_le.1 hdigit.2
  have hc := Char.ofNat_toNat c
  generalize c.toNat = n at hc hlo hhi
  subst hc
  revert h
  interval_cases n <;> decide

theorem lexes_dot {c : Char} (h : isIdentifierStart c = true) (rest : List Char) :
    Lexes ('.' :: c :: rest) (.punctuator ".") (c :: rest) := by
  have hdot : ('.' == c) = false := by
    rw [beq_eq_false_iff_ne]
    rintro rfl
    revert h
    decide
  have hpunctuator : punctuator? ('.' :: c :: rest) = some (".", 1) := by
    simp [punctuator?, punctuatorChars, punctuators, List.isPrefixOf, hdot]
  have hstart : startsWord ('.' :: c :: rest) = false := by
    simp only [startsWord]
    decide
  refine ⟨fun n => ⟨⟨n, n + 1⟩, ⟨'.' :: c :: rest, n⟩, n + 1, ?_⟩, fun _ => Nat.lt_succ_self _⟩
  change { scanAt ⟨'.' :: c :: rest, n⟩ false with comment? := none } = _
  simp only [scanAt, hstart, List.head?_cons, Option.map_some, not_isDigit_of_start h,
    Option.getD_some, hpunctuator]
  rfl

theorem spells_dot {name : String} (h : IsWord name) (hrest : EndsWord rest)
    (hls : SpellsTo place rest ls) :
    SpellsTo place ('.' :: (name.toList ++ rest)) (.punctuator "." :: .word name false :: ls) := by
  obtain ⟨c, hc, hstart⟩ := h.1
  obtain ⟨r, hr⟩ := List.head?_eq_some_iff.1 (Option.mem_def.1 hc)
  have hword := spells_word h hrest hls
  rw [hr] at hword ⊢
  exact (lexes_dot hstart _).spells hword

/-! ## Quoted texts -/

theorem scanString_control {code : Nat} (h : code < 0x20) (rest : List Char) (n : Nat)
    (units : List CodeUnit) (faults : List Nat) :
    ∃ m, scanString '"' 0 (Json.quoteChar (Char.ofNat code) ++ rest) n units faults =
      scanString '"' 0 rest m (.char (Char.ofNat code) :: units) faults := by
  interval_cases code <;> exact ⟨_, rfl⟩

/-- The escape of a character denotes it. -/
theorem scanString_quoteChar (c : Char) (rest : List Char) (n : Nat)
    (units : List CodeUnit) (faults : List Nat) :
    ∃ m, scanString '"' 0 (Json.quoteChar c ++ rest) n units faults =
      scanString '"' 0 rest m (.char c :: units) faults := by
  by_cases hcontrol : c.toNat < 0x20
  · rw [← Char.ofNat_toNat c]
    exact scanString_control hcontrol rest n units faults
  · unfold Json.quoteChar
    split
    case h_8 hquote hslash _ _ hline hreturn _ =>
      have hquote : ¬ c = '"' := hquote
      have hslash : ¬ c = '\\' := hslash
      have hend : ¬ (c = '\n' ∨ c = '\r') := fun h => h.elim hline hreturn
      rw [if_neg hcontrol]
      exact ⟨n + 1, by simp [scanString, hquote, hslash, hend]⟩
    all_goals exact ⟨_, rfl⟩

theorem scanString_quoted (cs rest : List Char) (n : Nat) (units : List CodeUnit) :
    ∃ m, scanString '"' 0 (cs.flatMap Json.quoteChar ++ '"' :: rest) n units [] =
      ⟨units.reverse ++ cs.map .char, [], true, ⟨rest, m⟩⟩ := by
  induction cs generalizing n units with
  | nil => exact ⟨n + 1, by simp [scanString]⟩
  | cons c cs ih =>
    obtain ⟨k, hk⟩ := scanString_quoteChar c (cs.flatMap Json.quoteChar ++ '"' :: rest) n units []
    obtain ⟨m, hm⟩ := ih k (.char c :: units)
    refine ⟨m, ?_⟩
    rw [List.flatMap_cons, List.append_assoc, hk, hm]
    simp

theorem any_isSurrogate_map_char (cs : List Char) :
    (cs.map CodeUnit.char).any CodeUnit.isSurrogate = false := by
  simp [CodeUnit.isSurrogate]

theorem textOfUnits_map_char (cs : List Char) :
    textOfUnits (cs.map .char) = String.ofList cs := by
  rw [textOfUnits, any_isSurrogate_map_char]
  simp [List.filterMap_map]

theorem lexes_quote (value : String) (rest : List Char) :
    Lexes ((Json.quote value).toList ++ rest) (.string value true) rest := by
  have htext : (Json.quote value).toList ++ rest =
      '"' :: (value.toList.flatMap Json.quoteChar ++ '"' :: rest) := by
    simp [Json.quote, Json.quoteChars]
  rw [htext]
  refine ⟨fun n => ?_, fun _ => ?_⟩
  · obtain ⟨m, hm⟩ := scanString_quoted value.toList rest (n + 1) []
    have hscan : Cursor.scan ⟨'"' :: (value.toList.flatMap Json.quoteChar ++ '"' :: rest), n⟩ =
        { scanQuoted ⟨'"' :: (value.toList.flatMap Json.quoteChar ++ '"' :: rest), n⟩ '"' false with
          comment? := none } := rfl
    refine ⟨⟨n, m⟩, ⟨'"' :: (value.toList.flatMap Json.quoteChar ++ '"' :: rest), n⟩, m, ?_⟩
    rw [hscan, scanQuoted]
    simp only [Cursor.drop, List.drop_succ_cons, List.drop_zero, hm, List.reverse_nil,
      List.nil_append, textOfUnits_map_char, any_isSurrogate_map_char, Bool.not_false,
      String.ofList_toList, if_true]
  · simp only [List.length_cons, List.length_append]
    omega

end ModuleBundler.Script
