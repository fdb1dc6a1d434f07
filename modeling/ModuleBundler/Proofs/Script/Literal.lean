import ModuleBundler.Proofs.Json.Scalar
import ModuleBundler.Proofs.Script.Simple

/-!
# Literals

Numbers and the words that stand for values are expressions of one token, and so are lists of
expressions in brackets and, with texts as their keys, in braces. They are read where nothing goes
on behind them.
-/

namespace ModuleBundler.Script

/-! ## Numbers -/

theorem exists_ofNat_of_isDigit {c : Char} (h : c.isDigit = true) :
    ∃ n, 48 ≤ n ∧ n ≤ 57 ∧ c = Char.ofNat n := by
  rw [Char.isDigit, Bool.and_eq_true, decide_eq_true_eq, decide_eq_true_eq] at h
  exact ⟨c.toNat, UInt32.le_iff_toNat_le.1 h.1, UInt32.le_iff_toNat_le.1 h.2,
    (Char.ofNat_toNat c).symm⟩

/-- A digit starts neither a blank nor a comment, nor a word. -/
theorem skipTrivia_digit {c : Char} (h : c.isDigit = true) (rest : List Char) (n : Nat) :
    skipTrivia .code (c :: rest) n {} = (⟨c :: rest, n⟩, {}, none) ∧
      startsWord (c :: rest) = false := by
  obtain ⟨k, hlo, hhi, rfl⟩ := exists_ofNat_of_isDigit h
  interval_cases k <;> exact ⟨rfl, by simp only [startsWord]; decide⟩

theorem skipDigits_cons {c : Char} (hc : c ≠ '_') (digit : Char → Bool) (rest : List Char)
    (n : Nat) : skipDigits digit (c :: rest) n =
      if digit c then skipDigits digit rest (n + 1) else (⟨c :: rest, n⟩, none) := by
  rw [skipDigits.eq_def]
  split
  · rename_i heq
    cases heq
    exact absurd rfl hc
  · rename_i heq
    cases heq
    rfl
  · rename_i heq
    cases heq

theorem skipDigits_append {ds : List Char} (hds : ∀ d ∈ ds, d.isDigit = true) {c : Char}
    (hc : c.isDigit = false ∧ c ≠ '_') (rest : List Char) (n : Nat) :
    skipDigits Char.isDigit (ds ++ c :: rest) n = (⟨c :: rest, n + ds.length⟩, none) := by
  induction ds generalizing n with
  | nil =>
    rw [List.nil_append, skipDigits_cons hc.2, if_neg (by simp [hc.1])]
    rfl
  | cons d ds ih =>
    rw [List.forall_mem_cons] at hds
    have hd : d ≠ '_' := by
      rintro rfl
      cases hds.1
    rw [List.cons_append, skipDigits_cons hd, if_pos hds.1, ih hds.2, List.length_cons]
    congr 2
    omega

/-- In front of a mark a number ends with its digits. -/
theorem scanNumber_toDigits (k : Nat) {c : Char} (hc : c ∈ loneMarks) (rest : List Char)
    (n : Nat) : Cursor.scanNumber ⟨Nat.toDigits 10 k ++ c :: rest, n⟩ =
      { next := ⟨c :: rest, n + (Nat.toDigits 10 k).length⟩ } := by
  have hmarks : loneMarks.all (fun c => !c.isDigit && c != '_' && c != '.' && c != 'n' &&
      c != 'e' && c != 'E' && !isIdentifierStart c) = true := by
    decide +kernel
  have hmark := List.all_eq_true.1 hmarks c hc
  simp only [Bool.and_eq_true, Bool.not_eq_true', bne_iff_ne, ne_eq] at hmark
  obtain ⟨⟨⟨⟨⟨⟨hdigit, hunderscore⟩, hdot⟩, hn⟩, he⟩, hE⟩, hstart⟩ := hmark
  have hdigits := Json.isDigit_toDigits k
  have hskip := skipDigits_append hdigits ⟨hdigit, hunderscore⟩ rest n
  have hzero := Json.noLeadingZero_toDigits k
  obtain ⟨d, ds, hcons, -⟩ := Json.exists_cons_toDigits k
  rw [hcons] at hskip hdigits hzero ⊢
  by_cases hd : d = '0'
  · subst hd
    obtain rfl : ds = [] := by simpa using hzero rfl
    simp only [loneMarks, List.mem_cons, List.not_mem_nil, or_false] at hc
    rcases hc with rfl | rfl | rfl | rfl | rfl | rfl | rfl | rfl | rfl <;> rfl
  · have hd' : d ≠ '.' := by
      rintro rfl
      cases hdigits _ List.mem_cons_self
    rw [List.cons_append] at hskip ⊢
    unfold Cursor.scanNumber
    split
    · rename_i heq
      cases heq
      exact absurd rfl hd
    · rename_i heq
      cases heq
      exact absurd rfl hd'
    · have hends : Cursor.endNumber ⟨c :: rest, n + (d :: ds).length⟩ =
          { next := ⟨c :: rest, n + (d :: ds).length⟩ } := by
        simp [Cursor.endNumber, hdigit, hstart]
      have hexponent : Cursor.skipOptionalExponent ⟨c :: rest, n + (d :: ds).length⟩ =
          { next := ⟨c :: rest, n + (d :: ds).length⟩ } := by
        unfold Cursor.skipOptionalExponent
        split <;> simp_all
      simp only [Cursor.skipDigits, hskip, NumberScan.andThen]
      split
      · simp_all
      · simp_all
      · simp only [hexponent, hends]
        rfl

theorem lexes_number (k : Nat) {c : Char} (hc : c ∈ loneMarks) (rest : List Char) :
    Lexes (Nat.toDigits 10 k ++ c :: rest) .number (c :: rest) := by
  have hnumber := scanNumber_toDigits k hc rest
  obtain ⟨d, ds, hcons, hd⟩ := Json.exists_cons_toDigits k
  rw [hcons, List.cons_append] at hnumber ⊢
  refine ⟨fun n => ?_, fun _ => ?_⟩
  · obtain ⟨htrivia, hword⟩ := skipTrivia_digit hd (ds ++ c :: rest) n
    refine ⟨⟨n, n + (d :: ds).length⟩, ⟨d :: (ds ++ c :: rest), n⟩, n + (d :: ds).length, ?_⟩
    unfold Cursor.scan
    simp only [htrivia, scanAt, hword, hd, Bool.true_or, if_true, hnumber n, Bool.false_eq_true,
      if_false]
  · simp only [List.length_cons, List.length_append]
    omega

/-- A minus in front of a digit is a token of its own. -/
theorem lexes_minus {c : Char} (h : c.isDigit = true) (rest : List Char) :
    Lexes ('-' :: c :: rest) (.punctuator "-") (c :: rest) := by
  refine ⟨fun n => ?_, fun _ => Nat.lt_succ_self _⟩
  obtain ⟨k, hlo, hhi, rfl⟩ := exists_ofNat_of_isDigit h
  interval_cases k <;> exact ⟨_, _, _, rfl⟩

namespace Parser

variable {rules : Rules} {ctx : Context} {s : ParserState} {l l' : Lexeme} {ls : List Lexeme}
  {place : Place}
  {p : String} {n : Nat}

/-! ## Literals of one token -/

/-- Numbers and the words that stand for values. -/
def plainLiterals : List Lexeme :=
  [.number, .word "null" false, .word "true" false, .word "false" false]

theorem runs_primary_literal (hl : l ∈ plainLiterals) (h : s.Faces place (l :: l' :: ls)) :
    Runs (primaryExpression rules) ctx s fun m t => t.Faces place (l' :: ls) ∧
      ∃ span, m = .mk .literal span [] := by
  have hescaped : ∀ name, l ≠ .word name true := by
    rintro name rfl
    simp [plainLiterals] at hl
  unfold primaryExpression keywordExpression
  simp only [runs_bind, runs_tokenStart, runs_lexeme, h.lexeme]
  simp only [plainLiterals, List.mem_cons, List.not_mem_nil, or_false] at hl
  rcases hl with rfl | rfl | rfl | rfl <;>
  · simp only [runs_bind, runs_tokenStart, runs_node]
    exact runs_bump h hescaped fun t ht => ⟨ht, _, rfl⟩

theorem unmarked_of_plain (hl : l ∈ plainLiterals) : Unmarked l ∧
    l.isWord "yield" = false ∧ l.isWord "async" = false ∧ l ≠ .punctuator "(" := by
  simp only [plainLiterals, List.mem_cons, List.not_mem_nil, or_false] at hl
  rcases hl with rfl | rfl | rfl | rfl <;>
    exact ⟨⟨by decide, by decide, by decide, by simp⟩, by decide, by decide, by decide⟩

/-- What is read as an operand, and starts without a mark, is an expression. -/
theorem runs_operand {fits : Node → Prop} {more : List Lexeme} (hlimit : 0 < ctx.limit)
    (hl : Unmarked l ∧ l.isWord "yield" = false ∧ l.isWord "async" = false ∧ l ≠ .punctuator "(")
    (hp : p ∈ closers) (h : s.Faces place (l :: ls))
    (hprimary : Runs (grammar (n + 1) .primary) ctx s fun m t =>
      t.Faces place (.punctuator p :: more) ∧ fits m) :
    Runs (grammar (n + 2) .assignment) ctx s fun m t =>
      t.Faces place (.punctuator p :: more) ∧ fits m := by
  obtain ⟨hunmarked, hyield, hasync, hopen⟩ := hl
  have hfollower := closer_mem_followers hp
  have hoperand := runs_leftHandSide hlimit hfollower hprimary
  have hfirst := runs_firstOperand_unary hunmarked.named h
    (runs_unaryExpression hunmarked h hfollower hoperand)
  exact runs_assignmentExpression_whole (noArrow_of_ne hyield hasync hopen h) hp
    (runs_binaryExpression_first hlimit (List.mem_cons_of_mem _ hp) hfirst 0)

theorem runs_literal (hlimit : 0 < ctx.limit) (hl : l ∈ plainLiterals) (hp : p ∈ closers)
    (h : s.Faces place (l :: .punctuator p :: ls)) :
    Runs (grammar (n + 2) .assignment) ctx s fun m t => t.Faces place (.punctuator p :: ls) ∧
      ∃ span, m = .mk .literal span [] :=
  runs_operand hlimit (unmarked_of_plain hl) hp h (runs_primary_literal hl h)

/-- A number with a minus. -/
theorem runs_negative (hlimit : 0 < ctx.limit) (hp : p ∈ closers)
    (h : s.Faces place (.punctuator "-" :: .number :: .punctuator p :: ls)) :
    Runs (grammar (n + 3) .assignment) ctx s fun m t => t.Faces place (.punctuator p :: ls) ∧
      ∃ span inner, m = .mk .unary span [.mk .literal inner []] := by
  have hfollower := closer_mem_followers hp
  have hunary : Runs (unaryExpression (grammar (n + 2))) ctx s fun m t =>
      t.Faces place (.punctuator p :: ls) ∧
        ∃ span inner, m = .mk .unary span [.mk .literal inner []] := by
    have hminus : isUnaryOperator (.punctuator "-") = true := by decide
    unfold unaryExpression
    simp only [runs_bind, runs_tokenStart, runs_lexeme, h.lexeme, hminus, if_true]
    apply runs_bump_punctuator h
    intro t ht
    have hnumber : Runs (grammar (n + 1) .primary) ctx t fun m u =>
        u.Faces place (.punctuator p :: ls) ∧ ∃ span, m = .mk .literal span [] :=
      runs_primary_literal (by simp [plainLiterals]) ht
    have hargument : Runs (grammar (n + 2) .unary) ctx t fun m u =>
        u.Faces place (.punctuator p :: ls) ∧ ∃ span, m = .mk .literal span [] :=
      runs_unaryExpression (unmarked_of_plain (by simp [plainLiterals])).1 ht hfollower
        (runs_leftHandSide hlimit hfollower hnumber)
    apply hargument.mono
    rintro _ u ⟨hu, inner, rfl⟩
    exact runs_node.2 ⟨hu, _, inner, rfl⟩
  exact runs_assignmentExpression_whole (noArrow_of_ne rfl rfl (by decide) h) hp
    (runs_binaryExpression_first hlimit (List.mem_cons_of_mem _ hp)
      (runs_firstOperand_unary (by simp) h hunary) 0)

/-! ## Arrays and objects -/

section Lists

variable {X : Type} {spell : X → List Lexeme} {fits : X → Node → Prop} {xs : List X}

/-- The elements of a list are expressions in front of a comma and of the closing token. -/
structure Elements (n : Nat) (ctx : Context) (close : String) (spell : X → List Lexeme)
    (fits : X → Node → Prop) (xs : List X) : Prop where
  fewer : xs.length < ctx.limit
  head : ∀ x ∈ xs, ∃ l more, spell x = l :: more ∧ l ∉ [.punctuator ",", .punctuator close,
    .punctuator "...", .finish, .invalid]
  runs : ∀ x ∈ xs, ∀ place t p more, p = "," ∨ p = close →
    t.Faces place (spell x ++ .punctuator p :: more) →
    Runs (grammar n .assignment) { ctx with allowIn := true } t fun m u =>
      u.Faces place (.punctuator p :: more) ∧ fits x m

theorem runs_arrayElement {close : String} (helements : Elements n ctx close spell fits xs) {x : X}
    (hx : x ∈ xs) {more : List Lexeme} (hp : p = "," ∨ p = close) {t : ParserState}
    (ht : t.Faces place (spell x ++ .punctuator p :: more)) :
    Runs (elementOrHole (spreadOrAssignment (grammar n))) { ctx with allowIn := true } t
      fun m u => u.Faces place (.punctuator p :: more) ∧ fits x m := by
  have hruns := helements.runs x hx place t p more hp ht
  obtain ⟨l, after, hspell, hl⟩ := helements.head x hx
  have hl : (l == .punctuator ",") = false ∧ (l == .punctuator "...") = false := by
    simp only [List.mem_cons, not_or] at hl
    simpa using ⟨hl.1, hl.2.2.1⟩
  rw [hspell] at ht
  unfold elementOrHole spreadOrAssignment
  simp only [runs_bind, runs_atPunctuator, ht.lexeme, hl, Bool.false_eq_true, if_false]
  exact hruns

/-- Elements between an opening token, which is there, and a closing one. -/
def enclosed (close : String) (element : Parser Node) (shape : Shape) : Parser Node := do
  let start ← tokenStart
  bump
  let (parts, comma?) ← within (fun c => { c with allowIn := true }) (commaList close element)
  recordComma start comma?
  expect close
  node shape start parts

theorem runs_enclosed {first close : String} {element : Parser Node} {shape : Shape}
    (hclose : close ≠ ",") (hlimit : xs.length < ctx.limit)
    (hhead : ∀ x ∈ xs, ∃ l more, spell x = l :: more ∧ l ∉ [.punctuator close, .finish, .invalid])
    (helement : ∀ x ∈ xs, ∀ t p more, p = "," ∨ p = close →
      t.Faces place (spell x ++ .punctuator p :: more) →
      Runs element { ctx with allowIn := true } t fun m u =>
        u.Faces place (.punctuator p :: more) ∧ fits x m)
    (h : s.Faces place (.punctuator first :: (separated spell xs ++ .punctuator close :: l :: ls))) :
    Runs (enclosed close element shape) ctx s fun m t => t.Faces place (l :: ls) ∧
      ∃ span parts, m = .mk shape span parts ∧ List.Forall₂ fits xs parts := by
  obtain ⟨l', more, hmore⟩ : ∃ l' more, separated spell xs ++ .punctuator close :: l :: ls =
      l' :: more := List.exists_cons_of_ne_nil (by simp)
  rw [hmore] at h
  unfold enclosed
  simp only [runs_bind, runs_tokenStart, runs_within]
  apply runs_bump_punctuator h
  intro t ht
  rw [← hmore] at ht
  apply (runs_commaList hclose (by exact hlimit) hhead helement ht).mono
  rintro _ u ⟨hu, parts, rfl, hparts⟩
  simp only [recordComma, runs_pure]
  apply runs_expect hu
  intro v hv
  exact runs_node.2 ⟨hv, _, parts, rfl, hparts⟩

theorem runs_array (helements : Elements n ctx "]" spell fits xs) (hp : p ∈ closers)
    (h : s.Faces place (.punctuator "[" :: (separated spell xs ++ .punctuator "]" ::
      .punctuator p :: ls))) :
    Runs (grammar (n + 2) .assignment) ctx s fun m t => t.Faces place (.punctuator p :: ls) ∧
      ∃ span parts, m = .mk .array span parts ∧ List.Forall₂ fits xs parts := by
  refine runs_operand (Nat.zero_lt_of_lt helements.fewer)
    ⟨⟨by decide, by decide, by decide, by simp⟩, rfl, rfl, by decide⟩ hp h ?_
  change Runs (primaryExpression (grammar n)) ctx s _
  unfold primaryExpression
  simp only [runs_bind, runs_tokenStart, runs_lexeme, h.lexeme]
  refine runs_enclosed (by decide) helements.fewer ?_
    (fun x hx t q more hq ht => runs_arrayElement helements hx hq ht) h
  intro x hx
  obtain ⟨l, more, hspell, hl⟩ := helements.head x hx
  simp only [List.mem_cons, List.not_mem_nil, or_false, not_or] at hl ⊢
  exact ⟨l, more, hspell, hl.2.1, hl.2.2.2⟩

/-- The syntax of a property that has a text as its key. -/
inductive IsProperty (key : String) (value : Node → Prop) : Node → Prop where
  | keyed {v : Node} (hv : value v) (span inner : Span) :
    IsProperty key value (.mk .keyed span [.mk (.string key) inner [], v])

theorem runs_objectProperty {key : String} {value : Node → Prop} {first : Lexeme}
    {more : List Lexeme}
    (hvalue : ∀ t : ParserState, t.Faces place (first :: more) →
      Runs (rules .assignment) { ctx with allowIn := true } t fun v u =>
        u.Faces place ls ∧ value v)
    (h : s.Faces place (.string key true :: .punctuator ":" :: first :: more)) :
    Runs (objectProperty rules) ctx s fun m t => t.Faces place ls ∧ IsProperty key value m := by
  unfold objectProperty eatModifier eat propertyName withIn
  simp only [runs_bind, runs_tokenStart, runs_atPunctuator, h.lexeme, reduceCtorEq, beq_iff_eq,
    if_false, runs_atWord, Lexeme.isWord, Bool.false_eq_true, runs_pure, runs_read, runs_lexeme]
  apply runs_skip h
  intro t ht
  have hopen : (Lexeme.punctuator ":" == .punctuator "(") = false := by decide
  simp only [runs_node, runs_bind, runs_atPunctuator, ht.lexeme, hopen, Bool.or_self,
    Bool.false_eq_true, if_false, runs_faultIf_false, Lexeme.isReference, Bool.false_and]
  apply runs_expect ht
  intro u hu
  rw [runs_within]
  apply (hvalue u hu).mono
  rintro v w ⟨hw, hv⟩
  exact ⟨hw, .keyed hv _ _⟩

/-- A value with its key in front. -/
def keyedSpell (key : X → String) (spell : X → List Lexeme) (x : X) : List Lexeme :=
  .string (key x) true :: .punctuator ":" :: spell x

theorem runs_object {key : X → String} (helements : Elements n ctx "\x7d" spell fits xs)
    (hp : p ∈ closers)
    (h : s.Faces place (.punctuator "\x7b" :: (separated (keyedSpell key spell) xs ++
      .punctuator "\x7d" :: .punctuator p :: ls))) :
    Runs (grammar (n + 2) .assignment) ctx s fun m t => t.Faces place (.punctuator p :: ls) ∧
      ∃ span parts, m = .mk .object span parts ∧
        List.Forall₂ (fun x => IsProperty (key x) (fits x)) xs parts := by
  refine runs_operand (Nat.zero_lt_of_lt helements.fewer)
    ⟨⟨by decide, by decide, by decide, by simp⟩, rfl, rfl, by decide⟩ hp h ?_
  change Runs (primaryExpression (grammar n)) ctx s _
  unfold primaryExpression
  simp only [runs_bind, runs_tokenStart, runs_lexeme, h.lexeme]
  refine runs_enclosed (by decide) helements.fewer (fun x _ => ⟨_, _, rfl, by simp⟩) ?_ h
  intro x hx u q after hq hu
  obtain ⟨first, others, hspell, -⟩ := helements.head x hx
  change u.Faces place (.string (key x) true :: .punctuator ":" :: (spell x ++ .punctuator q :: after))
    at hu
  rw [hspell] at hu
  refine runs_objectProperty (fun v hv => helements.runs x hx place v q after hq ?_) hu
  rw [hspell]
  exact hv

end Lists

end Parser

end ModuleBundler.Script
