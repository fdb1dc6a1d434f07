import ModuleBundler.Proofs.Lowering.Reexport
import ModuleBundler.Proofs.Script.Call

/-!
# The marker and the helper are read back

A lowered script may start with a call that marks its exports and with a variable that holds the
helper for default exports. Both are read as one statement each, whatever comes behind them.
-/

namespace ModuleBundler.Lowering

open Script
open Script.Parser

/-! ## Texts as tokens -/

/-- An argument of the call that marks the exports. -/
inductive Argument where
  | word (name : String)
  | text (value : String)
  /-- An object with one property, which is true. -/
  | flag (key : String)

def Argument.spell : Argument → List Lexeme
  | .word name => [.word name false]
  | .text value => [.string value true]
  | .flag key => [.punctuator "\x7b", .word key false, .punctuator ":", .word "true" false,
      .punctuator "\x7d"]

def markerArguments : List Argument := [.word "exports", .text "__esModule", .flag "value"]

def markerSpell : List Lexeme :=
  .word "Object" false :: ((Key.bare "defineProperty").spell ++ .punctuator "(" ::
    (separated Argument.spell markerArguments ++ [.punctuator ")", .punctuator ";"]))

/-- What the helper gives back: the default export of a marked module, or the value itself. -/
def interopReturn : List Lexeme :=
  .word "return" false :: .word "m" false :: .punctuator "&&" :: .word "m" false ::
    ((Key.bare "__esModule").spell ++ .punctuator "?" :: .word "m" false ::
      ((Key.bare "default").spell ++ [.punctuator ":", .word "m" false, .punctuator ";"]))

def interopSpell : List Lexeme :=
  [.word "var" false, .word interopName false, .punctuator "=", .word "function" false,
    .punctuator "(", .word "m" false, .punctuator ")", .punctuator "\x7b"] ++ interopReturn ++
  [.punctuator "\x7d", .punctuator ";"]

section Spelling

variable {rest place : List Char} {ls : List Lexeme}

/-- The text of the marker without the line end behind it. -/
def markerText : String := "Object.defineProperty(exports, \"__esModule\", \x7b value: true \x7d);"

def interopText : String :=
  "var " ++ interopName ++ " = function (m) \x7b return m && m.__esModule ? m.default : m; \x7d;"

theorem spells_marker (hls : SpellsTo place rest ls) :
    SpellsTo place (markerText.toList ++ rest) (markerSpell ++ ls) := by
  have htext : markerText.toList ++ rest = "Object".toList ++ '.' :: ("defineProperty".toList ++
      '(' :: ("exports".toList ++ ',' :: ' ' :: ((Json.quote "__esModule").toList ++ ',' :: ' ' ::
        '\x7b' :: ' ' :: ("value".toList ++ ':' :: ' ' :: ("true".toList ++ ' ' :: '\x7d' :: ')' ::
          ';' :: rest))))) := by
    have hmarker : markerText.toList = "Object".toList ++ '.' :: ("defineProperty".toList ++
      '(' :: ("exports".toList ++ ',' :: ' ' :: ((Json.quote "__esModule").toList ++ ',' :: ' ' ::
        '\x7b' :: ' ' :: ("value".toList ++ ':' :: ' ' :: ("true".toList ++ [' ', '\x7d', ')',
          ';']))))) := by
      decide +kernel
    rw [hmarker]
    simp
  rw [htext]
  apply spells_word (by decide +kernel) (endsWord_cons (by decide) _)
  apply spells_dot (by decide +kernel) (endsWord_cons (by decide) _)
  apply spells_mark (by decide)
  apply spells_word_mark (by decide +kernel) (by decide)
  apply SpellsTo.blank
  apply (lexes_quote _ _).spells
  apply spells_mark (by decide)
  apply SpellsTo.blank
  apply spells_mark (by decide)
  apply SpellsTo.blank
  apply spells_word_mark (by decide +kernel) (by decide)
  apply SpellsTo.blank
  apply spells_word_blank (by decide +kernel)
  apply spells_mark (by decide)
  apply spells_mark (by decide)
  exact spells_mark (by decide) hls

theorem spells_interop (hls : SpellsTo place rest ls) :
    SpellsTo place (interopText.toList ++ rest) (interopSpell ++ ls) := by
  have htext : interopText.toList ++ rest = "var".toList ++ ' ' :: (interopName.toList ++ ' ' ::
      ("=".toList ++ ' ' :: ("function".toList ++ ' ' :: '(' :: ("m".toList ++ ')' :: ' ' ::
      '\x7b' :: ' ' :: ("return".toList ++ ' ' :: ("m".toList ++ ' ' :: ("&&".toList ++ ' ' ::
      ("m".toList ++ '.' :: ("__esModule".toList ++ ' ' :: ("?".toList ++ ' ' :: ("m".toList ++
      '.' :: ("default".toList ++ ' ' :: ':' :: ' ' :: ("m".toList ++ ';' :: ' ' :: '\x7d' ::
      ';' :: rest))))))))))))) := by
    simp [interopText, interopName]
  rw [htext]
  apply spells_word_blank (by decide +kernel)
  apply spells_word (by decide +kernel) (endsWord_cons (by decide) _)
  apply spells_operator (by decide)
  apply spells_word_blank (by decide +kernel)
  apply spells_mark (by decide)
  apply spells_word_mark (by decide +kernel) (by decide)
  apply SpellsTo.blank
  apply spells_mark (by decide)
  apply SpellsTo.blank
  apply spells_word_blank (by decide +kernel)
  apply spells_word (by decide +kernel) (endsWord_cons (by decide) _)
  apply spells_operator (by decide)
  apply spells_word (by decide +kernel) (endsWord_cons (by decide) _)
  apply spells_dot (by decide +kernel) (endsWord_cons (by decide) _)
  apply spells_operator (by decide)
  apply spells_word (by decide +kernel) (endsWord_cons (by decide) _)
  apply spells_dot (by decide +kernel) (endsWord_cons (by decide) _)
  apply SpellsTo.blank
  apply spells_mark (by decide)
  apply SpellsTo.blank
  apply spells_word_mark (by decide +kernel) (by decide)
  apply SpellsTo.blank
  apply spells_mark (by decide)
  exact spells_mark (by decide) hls

end Spelling

/-! ## Tokens as syntax -/

inductive Argument.Written : Argument → Node → Prop where
  | word (name : String) (span : Span) :
    Written (.word name) (.mk (.identifier name) span [])
  | text (value : String) (span : Span) : Written (.text value) (.mk (.string value) span [])
  | flag {key : String} {n : Node} (h : IsWordProperty key (∃ span, · = .mk .literal span []) n)
    (span : Span) : Written (.flag key) (.mk .object span [n])

/-- The exports are marked by a call. -/
inductive IsMarker : Node → Prop where
  | marker {n : Node} (h : IsMethodCall "Object" (.bare "defineProperty") Argument.Written
    markerArguments n) (span : Span) : IsMarker (.mk .expressionStatement span [n])

/-- And a property of a variable. -/
def andMember (name : String) (key : Key) : Link where
  operator := "&&"
  precedence := 3
  operand := .word name false :: key.spell
  fits := IsMember name key

inductive IsInteropReturn : Node → Prop where
  | choice {test yes : Node} (inner : Span)
    (htest : Operated (.mk (.identifier "m") inner []) [andMember "m" (.bare "__esModule")] test)
    (hyes : IsMember "m" (.bare "default") yes) (span choice no : Span) :
    IsInteropReturn (.mk .statement span
      [.mk .conditional choice [test, yes, .mk (.identifier "m") no []]])

/-- A variable holds the helper. -/
inductive IsInterop : Node → Prop where
  | interop {f : Node} (h : IsFunction "m" (fun _ : Unit => IsInteropReturn) [()] f)
    (span inner bound : Span) :
    IsInterop (constant span inner (.mk (.binding interopName) bound []) f)

section Parse

variable {ctx : Context} {t : ParserState} {l : Lexeme} {ls : List Lexeme} {n limit : Nat}
  {place : Place}

theorem elements_marker (hlimit : 3 < ctx.limit) :
    Elements (n + 4) ctx ")" Argument.spell Argument.Written markerArguments where
  fewer := hlimit
  head := by
    intro x hx
    simp only [markerArguments, List.mem_cons, List.not_mem_nil, or_false] at hx
    rcases hx with rfl | rfl | rfl <;> exact ⟨_, _, rfl, by simp⟩
  runs := by
    intro x hx place t p more hp ht
    have hclosers : p ∈ closers := by
      obtain rfl | rfl := hp <;> decide
    have hpositive : 0 < ctx.limit := Nat.zero_lt_of_lt hlimit
    simp only [markerArguments, List.mem_cons, List.not_mem_nil, or_false] at hx
    rcases hx with rfl | rfl | rfl
    · apply (runs_variable (by exact hpositive) (.inl (by decide)) hclosers ht).mono
      rintro _ u ⟨hu, span, rfl⟩
      exact ⟨hu, .word _ _⟩
    · apply (runs_text (by exact hpositive) hclosers ht).mono
      rintro _ u ⟨hu, span, rfl⟩
      exact ⟨hu, .text _ _⟩
    · have hvalue : ∀ (u : ParserState) q more', q = "," ∨ q = "\x7d" →
          u.Faces place ([.word "true" false] ++ .punctuator q :: more') →
          Runs (grammar (n + 2) .assignment) { ctx with allowIn := true } u fun v w =>
            w.Faces place (.punctuator q :: more') ∧ ∃ span, v = .mk .literal span [] := by
        intro u q more' hq hu
        have hq : q ∈ closers := by
          obtain rfl | rfl := hq <;> decide
        exact runs_literal (by exact hpositive) (by simp [plainLiterals]) hq hu
      have hone : 1 < ctx.limit := Nat.lt_of_le_of_lt (by decide) hlimit
      have hobject : Runs (grammar (n + 4) .assignment) { ctx with allowIn := true } t fun m u =>
          u.Faces place (.punctuator p :: more) ∧ ∃ span property, m = .mk .object span [property] ∧
            IsWordProperty "value" (∃ span, · = .mk .literal span []) property :=
        runs_object_word (by exact hone) (by decide) (by simp) hvalue hclosers ht
      apply hobject.mono
      rintro _ u ⟨hu, span, property, rfl, hproperty⟩
      exact ⟨hu, .flag hproperty span⟩

theorem runs_marker (hlimit : 3 < limit) (h : t.Faces place (markerSpell ++ l :: ls)) :
    Runs (statementItem (grammar (n + 5)) false) { limit } t fun item u =>
      u.Faces place (l :: ls) ∧ ∃ m, item = .statement m ∧ IsMarker m := by
  have h : t.Faces place (.word "Object" false :: ((Key.bare "defineProperty").spell ++
      .punctuator "(" :: (separated Argument.spell markerArguments ++ .punctuator ")" ::
        .punctuator ";" :: l :: ls))) := by
    simpa [markerSpell] using h
  have hlabel : ∀ m, IsMethodCall "Object" (.bare "defineProperty") Argument.Written
      markerArguments m → m.isIdentifier = false := by
    rintro _ ⟨⟩
    rfl
  apply runs_statementItem_word (by decide) h
  have hone : 1 < limit := Nat.lt_of_le_of_lt (by decide) hlimit
  apply (runs_expressionStatement hlabel (runs_methodCall (by exact hone) rfl (.inl (by decide))
    trivial (elements_marker hlimit) (by decide) h)).mono
  rintro _ u ⟨hu, span, m, rfl, hm⟩
  exact ⟨hu, _, rfl, .marker hm span⟩

theorem reads_andMember {name : String} {key : Key} (hlimit : 1 < ctx.limit)
    (hdecorator : ctx.inDecorator = false) (hname : ctx.MayName name) (hkey : key.MayStand ctx)
    {least : Nat} (hleast : least < 3) :
    (andMember name key).Reads (grammar (n + 3)) ctx least where
  precedence := rfl
  plain := (by decide : "&&" ∈ followers ∧ "&&" ≠ "**" ∧ "&&" ≠ "??")
  tighter := hleast
  operand := by simp [andMember]
  runs place t p more hp ht := by
    have ht : t.Faces place (.word name false :: (key.spell ++ .punctuator p :: more)) := by
      simpa [andMember] using ht
    obtain ⟨q, rest, hspell, hq⟩ := key.spell_eq_cons
    have hmember := runs_member (n := n) hlimit hdecorator hname hkey hp.follower ht
    rw [hspell] at ht
    apply runs_binaryExpression_left (.word hname fun _ => hq) ht hp.follower hmember
    intro m u start _ hu hm
    exact runs_binaryRest (Nat.zero_lt_of_lt hlimit) ⟨hp.power, hp.looser⟩ hu _ _ _ ⟨hu, hm⟩

theorem runs_interopReturn (hlimit : 1 < limit)
    (h : t.Faces place (interopReturn ++ l :: ls)) :
    Runs (statementItem (grammar (n + 5)) false) (inBody limit) t fun item u =>
      u.Faces place (l :: ls) ∧ ∃ m, item = .statement m ∧ IsInteropReturn m := by
  have hm : ∀ ctx : Context, ctx.MayName "m" := fun _ => .inl (by decide)
  have hpositive : 0 < limit := Nat.zero_lt_of_lt hlimit
  have h : t.Faces place (.word "return" false :: .word "m" false ::
      ([andMember "m" (.bare "__esModule")].flatMap Link.spell ++ .punctuator "?" ::
        .word "m" false :: ((Key.bare "default").spell ++ .punctuator ":" :: .word "m" false ::
          .punctuator ";" :: l :: ls))) := by
    simpa [interopReturn, andMember, Link.spell] using h
  have hvalue : ∀ u : ParserState, u.Faces place (.word "m" false ::
      ([andMember "m" (.bare "__esModule")].flatMap Link.spell ++ .punctuator "?" ::
        .word "m" false :: ((Key.bare "default").spell ++ .punctuator ":" :: .word "m" false ::
          .punctuator ";" :: l :: ls))) →
      Runs (grammar (n + 5) .assignment)
        { inBody limit with allowIn := true, inDecorator := false } u fun e v =>
          v.Faces place (.punctuator ";" :: l :: ls) ∧
            ∃ span a b c, e = .mk .conditional span [a, b, c] ∧
              (∃ inner, Operated (.mk (.identifier "m") inner [])
                [andMember "m" (.bare "__esModule")] a) ∧
              IsMember "m" (.bare "default") b ∧ ∃ no, c = .mk (.identifier "m") no [] := by
    intro u hu
    have hreads : ∀ o ∈ [andMember "m" (.bare "__esModule")], o.Reads (grammar (n + 4))
        { inBody limit with allowIn := true, inDecorator := false } 0 := by
      intro o ho
      obtain rfl := List.mem_singleton.1 ho
      exact reads_andMember (by exact hlimit) rfl (hm _) (by exact trivial) (by decide)
    have hends : Ends 0 "?" := ⟨by decide, by decide, by simp [binaryPrecedence?]⟩
    have htest := runs_links (by exact hpositive) (by exact hlimit) (hm _) hreads
      (List.pairwise_singleton _ _) hends hu
    apply runs_conditional (StartsOperand.noArrow (.word (hm _) (by decide)) hu) htest
    · exact fun v hv => runs_memberValue (by exact hlimit) rfl (hm _) (by exact trivial) (by decide) hv
    · exact fun v hv => runs_variable (by exact hpositive) (hm _) (by decide) hv
  apply (runs_returnStatement rfl (by simp) hvalue h).mono
  rintro _ u ⟨hu, span, _, rfl, choice, a, b, _, rfl, ⟨inner, ha⟩, hb, no, rfl⟩
  exact ⟨hu, _, rfl, .choice inner ha hb _ _ _⟩

theorem runs_interopHelper (hlimit : 1 < limit) (h : t.Faces place (interopSpell ++ l :: ls)) :
    Runs (statementItem (grammar (n + 8)) false) { limit } t fun item u =>
      u.Faces place (l :: ls) ∧ ∃ m, item = .statement m ∧ IsInterop m := by
  have hm : IsVariable "m" := ⟨by decide +kernel, .inl (by decide)⟩
  have hpositive : 0 < limit := Nat.zero_lt_of_lt hlimit
  have h : t.Faces place (.word "var" false :: .word interopName false :: .punctuator "=" ::
      .word "function" false :: .punctuator "(" :: .word "m" false :: .punctuator ")" ::
        .punctuator "\x7b" :: ([()].flatMap (fun _ => interopReturn) ++ .punctuator "\x7d" ::
          .punctuator ";" :: l :: ls)) := by
    simpa [interopSpell] using h
  have hbodies : Bodies (grammar (n + 5)) limit (fun _ : Unit => interopReturn)
      (fun _ => IsInteropReturn) [()] :=
    { fewer := hlimit
      head := fun _ _ => ⟨_, _, rfl, by simp, by simp, rfl⟩
      runs := fun _ _ place t l more _ ht => runs_interopReturn hlimit ht }
  have hfunction : ∀ u : ParserState, u.Faces place (.word "function" false :: .punctuator "(" ::
      .word "m" false :: .punctuator ")" :: .punctuator "\x7b" ::
        ([()].flatMap (fun _ => interopReturn) ++ .punctuator "\x7d" :: .punctuator ";" :: l :: ls)) →
      Runs (grammar (n + 8) .assignment) { limit } u fun f v =>
        v.Faces place (.punctuator ";" :: l :: ls) ∧
          IsFunction "m" (fun _ : Unit => IsInteropReturn) [()] f := by
    intro u hu
    apply runs_assignmentExpression (by exact hpositive) .function hu (by decide)
    apply runs_leftHandSide (by exact hpositive) (by decide)
    exact runs_function (by exact hlimit) hm hbodies hu
  apply (runs_declaration (by exact hpositive) (by decide)
    (fun u hu => runs_name (.inl (by decide)) hu) hfunction h).mono
  rintro _ u ⟨hu, span, inner, _, f, rfl, ⟨bound, rfl⟩, hf⟩
  exact ⟨hu, _, rfl, .interop hf _ _ _⟩

end Parse

end ModuleBundler.Lowering
