import ModuleBundler.Proofs.Script.Literal
import ModuleBundler.Proofs.Script.Loop

/-!
# Calls of methods, and what functions return

A property of a variable is called with any number of arguments, a property of an object may have a
word as its key, and a function returns the one or the other of two values.
-/

namespace ModuleBundler.Script.Parser

variable {rules : Rules} {ctx : Context} {s : ParserState} {l : Lexeme} {ls : List Lexeme}
  {place : Place} {name p : String} {n : Nat}

/-! ## Calls -/

section Arguments

variable {X : Type} {spell : X → List Lexeme} {fits : X → Node → Prop} {xs : List X}

theorem runs_argumentList
    (helements : Elements n { ctx with allowIn := true, inDecorator := false } ")" spell fits xs)
    (h : s.Faces place (.punctuator "(" :: (separated spell xs ++ .punctuator ")" :: l :: ls))) :
    Runs (arguments (grammar n)) ctx s fun as t =>
      t.Faces place (l :: ls) ∧ List.Forall₂ fits xs as := by
  obtain ⟨l', more, hmore⟩ : ∃ l' more, separated spell xs ++ .punctuator ")" :: l :: ls =
      l' :: more := List.exists_cons_of_ne_nil (by simp)
  rw [hmore] at h
  unfold arguments
  rw [runs_bind]
  apply runs_expect h
  intro t ht
  rw [← hmore] at ht
  have helement : ∀ x ∈ xs, ∀ (u : ParserState) p more, p = "," ∨ p = ")" →
      u.Faces place (spell x ++ .punctuator p :: more) →
      Runs (spreadOrAssignment (grammar n)) { ctx with allowIn := true, inDecorator := false } u
        fun m v => v.Faces place (.punctuator p :: more) ∧ fits x m := by
    intro x hx u p more hp hu
    have hruns := helements.runs x hx place u p more hp hu
    obtain ⟨first, after, hspell, hfirst⟩ := helements.head x hx
    have hdots : (first == .punctuator "...") = false := by
      simp only [List.mem_cons, not_or] at hfirst
      simpa using hfirst.2.2.1
    rw [hspell] at hu
    unfold spreadOrAssignment
    simp only [runs_bind, runs_atPunctuator, hu.lexeme, hdots, Bool.false_eq_true, if_false]
    exact hruns
  have hlist : Runs (commaList ")" (spreadOrAssignment (grammar n)))
      { ctx with allowIn := true, inDecorator := false } t fun r u =>
        u.Faces place (.punctuator ")" :: l :: ls) ∧
          ∃ as, r = (as, none) ∧ List.Forall₂ fits xs as := by
    refine runs_commaList (by decide) (by exact helements.fewer) (fun x hx => ?_) helement ht
    obtain ⟨first, after, hspell, hfirst⟩ := helements.head x hx
    simp only [List.mem_cons, List.not_mem_nil, or_false, not_or] at hfirst ⊢
    exact ⟨first, after, hspell, hfirst.2.1, hfirst.2.2.2⟩
  rw [runs_bind, runs_within]
  apply hlist.mono
  rintro _ u ⟨hu, as, rfl, has⟩
  rw [runs_bind]
  apply runs_expect hu
  intro v hv
  exact runs_pure.2 ⟨hv, has⟩

/-- A property of a variable is called. -/
inductive IsMethodCall (object : String) (key : Key) (fits : X → Node → Prop) (xs : List X) :
    Node → Prop where
  | call {f : Node} {as : List Node} (hf : IsMember object key f) (has : List.Forall₂ fits xs as)
    (span : Span) : IsMethodCall object key fits xs (.mk .call span (f :: as))

theorem runs_methodCall {key : Key} (hlimit : 1 < ctx.limit) (hdecorator : ctx.inDecorator = false)
    (hname : ctx.MayName name) (hkey : key.MayStand ctx)
    (helements : Elements (n + 2) { ctx with allowIn := true, inDecorator := false } ")" spell
      fits xs)
    (hp : p ∈ closers)
    (h : s.Faces place (.word name false :: (key.spell ++ .punctuator "(" ::
      (separated spell xs ++ .punctuator ")" :: .punctuator p :: ls)))) :
    Runs (grammar (n + 3) .assignment) ctx s fun m t =>
      t.Faces place (.punctuator p :: ls) ∧ IsMethodCall name key fits xs m := by
  have hpositive : 0 < ctx.limit := Nat.zero_lt_of_lt hlimit
  obtain ⟨q, more, hspell, hq⟩ := key.spell_eq_cons
  have hobject : s.Faces place (.word name false :: .punctuator q :: (more ++ .punctuator "(" ::
      (separated spell xs ++ .punctuator ")" :: .punctuator p :: ls))) := by
    rw [hspell] at h
    exact h
  apply runs_assignmentExpression hpositive (.word hname fun _ => hq) hobject hp
  unfold leftHandSide memberExpression
  simp only [runs_bind, runs_tokenStart]
  apply (runs_callee hname (by simp) hobject).mono
  rintro _ t ⟨ht, inner, rfl⟩
  rw [← List.cons_append, ← hspell] at ht
  apply (runs_memberRest_key hlimit hdecorator hkey List.mem_cons_self ht _ _).mono
  rintro _ u ⟨hu, span, k, rfl, hk⟩
  apply (runs_callRest_once hlimit (closer_mem_followers hp) (runs_argumentList helements hu) hu
    _ _).mono
  rintro _ v ⟨hv, call, as, rfl, has⟩
  exact runs_pure.2 ⟨hv, .call (.member hk _ _) has _⟩

end Arguments

/-! ## Objects -/

/-- The syntax of a property that has a word as its key. -/
inductive IsWordProperty (key : String) (value : Node → Prop) : Node → Prop where
  | keyed {v : Node} (hv : value v) (span inner : Span) :
    IsWordProperty key value (.mk .keyed span [.mk (.propertyName key) inner [], v])

theorem runs_objectProperty_word {key : String} {value : Node → Prop} {first : Lexeme}
    {more : List Lexeme} (hkey : key ∉ ["async", "get", "set"])
    (hvalue : ∀ t : ParserState, t.Faces place (first :: more) →
      Runs (rules .assignment) { ctx with allowIn := true } t fun v u => u.Faces place ls ∧ value v)
    (h : s.Faces place (.word key false :: .punctuator ":" :: first :: more)) :
    Runs (objectProperty rules) ctx s fun m t => t.Faces place ls ∧ IsWordProperty key value m := by
  obtain ⟨hasync, hget, hset⟩ :
      (key == "async") = false ∧ (key == "get") = false ∧ (key == "set") = false := by
    simpa using hkey
  unfold objectProperty eatModifier eat propertyName identifierName withIn
  simp only [runs_bind, runs_tokenStart, runs_atPunctuator, h.lexeme, reduceCtorEq, beq_iff_eq,
    if_false, runs_atWord, Lexeme.isWord, hasync, hget, hset, Bool.false_eq_true, runs_pure,
    runs_read, runs_lexeme]
  apply runs_takeWord h
  intro t ht
  have hopen : (Lexeme.punctuator ":" == .punctuator "(") = false := by decide
  simp only [runs_node, runs_bind, runs_atPunctuator, ht.lexeme, hopen, Bool.or_self,
    Bool.false_eq_true, if_false, runs_faultIf_false, BEq.rfl, Bool.not_true, Bool.and_false]
  apply runs_expect ht
  intro u hu
  rw [runs_within]
  apply (hvalue u hu).mono
  rintro v w ⟨hw, hv⟩
  exact ⟨hw, .keyed hv _ _⟩

/-- An object with one property. -/
theorem runs_object_word {key : String} {value : Node → Prop} {spelling : List Lexeme}
    (hlimit : 1 < ctx.limit) (hkey : key ∉ ["async", "get", "set"]) (hspelling : spelling ≠ [])
    (hvalue : ∀ (t : ParserState) q more, q = "," ∨ q = "\x7d" →
      t.Faces place (spelling ++ .punctuator q :: more) →
      Runs (grammar n .assignment) { ctx with allowIn := true } t fun v u =>
        u.Faces place (.punctuator q :: more) ∧ value v)
    (hp : p ∈ closers)
    (h : s.Faces place (.punctuator "\x7b" :: .word key false :: .punctuator ":" ::
      (spelling ++ .punctuator "\x7d" :: .punctuator p :: ls))) :
    Runs (grammar (n + 2) .assignment) ctx s fun m t => t.Faces place (.punctuator p :: ls) ∧
      ∃ span property, m = .mk .object span [property] ∧ IsWordProperty key value property := by
  refine runs_operand (Nat.zero_lt_of_lt hlimit)
    ⟨⟨by decide, by decide, by decide, by simp⟩, rfl, rfl, by decide⟩ hp h ?_
  change Runs (primaryExpression (grammar n)) ctx s _
  unfold primaryExpression
  simp only [runs_bind, runs_tokenStart, runs_lexeme, h.lexeme]
  have hobject : Runs (enclosed "\x7d" (objectProperty (grammar n)) .object) ctx s fun m t =>
      t.Faces place (.punctuator p :: ls) ∧ ∃ span parts, m = .mk .object span parts ∧
        List.Forall₂ (fun _ : Unit => IsWordProperty key value) [()] parts := by
    have h : s.Faces place (.punctuator "\x7b" ::
        (separated (fun _ : Unit => .word key false :: .punctuator ":" :: spelling) [()] ++
          .punctuator "\x7d" :: .punctuator p :: ls)) := h
    refine runs_enclosed (by decide) hlimit (fun x _ => ⟨_, _, rfl, by simp⟩) ?_ h
    intro _ _ u q after hq hu
    obtain ⟨first, others, rfl⟩ := List.exists_cons_of_ne_nil hspelling
    exact runs_objectProperty_word hkey (fun v hv => hvalue v q after hq hv) hu
  apply hobject.mono
  rintro _ t ⟨ht, span, parts, rfl, hparts⟩
  obtain ⟨property, _, hproperty, hnil, rfl⟩ := List.forall₂_cons_left_iff.1 hparts
  obtain rfl := List.forall₂_nil_left_iff.1 hnil
  exact ⟨ht, span, property, rfl, hproperty⟩

/-! ## Conditions -/

section Condition

variable {test yes no : Node → Prop} {first second : Lexeme} {more after : List Lexeme}

theorem runs_conditional (harrow : NoArrow ctx s)
    (htest : Runs (binaryExpression rules 0) ctx s fun m t =>
      t.Faces place (.punctuator "?" :: first :: more) ∧ test m)
    (hyes : ∀ t : ParserState, t.Faces place (first :: more) →
      Runs (rules .assignment) { ctx with allowIn := true } t fun m u =>
        u.Faces place (.punctuator ":" :: second :: after) ∧ yes m)
    (hno : ∀ t : ParserState, t.Faces place (second :: after) →
      Runs (rules .assignment) ctx t fun m u => u.Faces place ls ∧ no m) :
    Runs (assignmentExpression rules) ctx s fun m t => t.Faces place ls ∧
      ∃ span a b c, m = .mk .conditional span [a, b, c] ∧ test a ∧ yes b ∧ no c := by
  apply runs_assignmentExpression_start harrow (by decide) htest
  intro a t start ht ha
  rw [if_neg (by decide)]
  unfold conditionalRest withIn
  rw [runs_bind]
  apply runs_eat ht
  intro u hu
  simp only [if_true, runs_bind, runs_within]
  apply (hyes u hu).mono
  rintro b v ⟨hv, hb⟩
  apply runs_expect hv
  intro w hw
  apply (hno w hw).mono
  rintro c x ⟨hx, hc⟩
  exact runs_node.2 ⟨hx, _, a, b, c, rfl, ha, hb, hc⟩

end Condition

/-- The next token but one is on the line of the one in front of it, as all tokens within a text
that spells them are. -/
theorem runs_bump_line {w : String} {l' l'' : Lexeme} {Q : Unit → ParserState → Prop}
    (h : s.Faces place (.word w false :: l' :: l'' :: ls))
    (k : ∀ t : ParserState, t.Faces place (l' :: l'' :: ls) → t.token.afterNewline = false → Q () t) :
    Runs bump ctx s Q := by
  have hline : s.next.scan.token.afterNewline = false := by
    obtain ⟨⟨rest, hlexes, -⟩, -⟩ := h.ahead
    obtain ⟨span, start, m, hscan⟩ := hlexes.scan s.next.offset
    change s.next.scan = _ at hscan
    rw [hscan]
  unfold bump checkSpelling
  simp only [runs_bind, runs_lexeme, h.lexeme]
  exact runs_pure.2 ⟨(), _, rfl, k _ h.next hline⟩

/-- A function gives back a value. -/
theorem runs_returnStatement {value : Node → Prop} {first second : Lexeme} {more : List Lexeme}
    (hfunction : ctx.inFunction = true)
    (hfirst : first ∉ [.punctuator ";", .punctuator "\x7d", .finish])
    (hvalue : ∀ t : ParserState, t.Faces place (first :: second :: more) →
      Runs (rules .assignment) { ctx with allowIn := true, inDecorator := false } t fun m u =>
        u.Faces place (.punctuator ";" :: l :: ls) ∧ value m)
    (h : s.Faces place (.word "return" false :: first :: second :: more)) {single : Bool} :
    Runs (statementItem rules single) ctx s fun item t => t.Faces place (l :: ls) ∧
      ∃ span e, item = .statement (.mk .statement span [e]) ∧ value e := by
  obtain ⟨hsemicolon, hclose, hfinish⟩ : first ≠ .punctuator ";" ∧
      (first == .punctuator "\x7d") = false ∧ (first == .finish) = false := by
    simpa using hfirst
  unfold statementItem returnStatement returnArgument
  simp only [runs_bind, runs_tokenStart, runs_lexeme, h.lexeme]
  apply runs_bump_line h
  intro t ht hline
  apply runs_eat_other ht hsemicolon
  have hends : (first == .punctuator ";") = false := by simpa using hsemicolon
  simp only [Bool.false_eq_true, if_false, canEndStatement, runs_bind, runs_token, hline, ht.lexeme,
    hends, hclose, hfinish, Bool.or_self, runs_pure]
  apply (runs_fullExpression (by decide) (hvalue t ht)).mono
  rintro e u ⟨hu, he⟩
  apply runs_endStatement hu
  intro v hv
  simp only [runs_read, hfunction, Bool.not_true, runs_faultIf_false, runs_node]
  exact ⟨hv, _, e, rfl, he⟩

end ModuleBundler.Script.Parser
