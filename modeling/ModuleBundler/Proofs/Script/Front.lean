import ModuleBundler.Proofs.Script.Chain
import ModuleBundler.Proofs.Script.Gap
import ModuleBundler.Proofs.Script.Progress

/-!
# Imports and re-exports at the front

Imports, re-exports and export lists are read token by token: where one of them ends, the parser is
as it would be if the text had begun there. So what comes behind them does not depend on them.
-/

namespace ModuleBundler.Script

open Cursor (Before)
open ParserState (Reach)

/-- Nothing has been noted but faults. Without these, the current token is the first one behind the
token before. -/
structure ParserState.Tidy (text : List Char) (s : ParserState) : Prop where
  shorthand : s.shorthandValues = []
  commas : s.trailingCommas = []
  refuted : s.refuted = []
  read : s.lexicalFaults = [] → ∃ c, Before ⟨text, 0⟩ c ∧ c.scan.faults = [] ∧ s.ReadFrom c

namespace Parser

variable {α β : Type} {text : List Char} {ctx : Context} {s : ParserState}

/-- A parser that leaves tidy states behind. -/
def Keeps (text : List Char) (p : Parser α) : Prop :=
  ∀ ctx s, s.Tidy text → Yields p ctx s fun _ t => t.Tidy text

section Kinds

variable {p : Parser α} {f : α → Parser β}

theorem Keeps.bind (hp : Keeps text p) (hf : ∀ a, Keeps text (f a)) : Keeps text (p >>= f) :=
  fun ctx s hs => .bind ((hp ctx s hs).mono fun a t ht => hf a ctx t ht)

theorem Reads.keeps (h : Reads p) : Keeps text p := by
  refine fun ctx s hs => (h ctx s).mono fun _ t ht => ?_
  rw [ht]
  exact hs

/-- A step that only looks, and what comes then. -/
theorem Reads.then_keeps (h : Reads p) (hf : ∀ a, Keeps text (f a)) : Keeps text (p >>= f) :=
  h.keeps.bind hf

theorem keeps_pure (a : α) : Keeps text (pure a : Parser α) := (reads_pure a).keeps

theorem keeps_fail (offset : Nat) : Keeps text (fail offset : Parser α) := fun _ _ _ => .fail

theorem keeps_unexpected : Keeps text (unexpected : Parser α) := fun _ _ _ => .unexpected

theorem Keeps.ite {c : Prop} [Decidable c] {q : Parser α} (hp : Keeps text p) (hq : Keeps text q) :
    Keeps text (if c then p else q) := by
  split
  · exact hp
  · exact hq

theorem keeps_iterate {step : β → Parser (β ⊕ α)} (b : β) (h : ∀ b, Keeps text (step b)) :
    Keeps text (iterate b step) := by
  refine fun ctx s hs => .iterate (fun _ t => t.Tidy text) hs fun b t ht => ?_
  refine (h b ctx t ht).mono fun r u hu => ?_
  cases r <;> exact hu

theorem keeps_forM {l : List α} {check : α → Parser Unit} (h : ∀ a, Keeps text (check a)) :
    Keeps text (l.forM check) := by
  induction l with
  | nil => exact keeps_pure ()
  | cons a l ih => exact (h a).bind fun _ => ih

end Kinds

/-! ## Tokens -/

theorem keeps_fault (offset : Nat) : Keeps text (fault offset) := by
  intro ctx s hs
  constructor
  rintro a t ⟨⟩
  refine ⟨hs.shorthand, hs.commas, hs.refuted, fun h => ?_⟩
  obtain ⟨c, hc, hfaults, hread⟩ := hs.read h
  exact ⟨c, hc, hfaults, ⟨hread.token, hread.origin, hread.next, hread.previousStop⟩⟩

theorem keeps_faultIf (wrong : Bool) (offset : Nat) : Keeps text (faultIf wrong offset) :=
  (keeps_fault offset).ite (keeps_pure ())

theorem keeps_unexpectedIf (wrong : Bool) : Keeps text (unexpectedIf wrong) :=
  keeps_unexpected.ite (keeps_pure ())

theorem keeps_failIf (wrong : Bool) (offset : Nat) : Keeps text (failIf wrong offset) :=
  (keeps_fail offset).ite (keeps_pure ())

/-- The token behind is read where the current one ends. -/
theorem keeps_skip : Keeps text skip := by
  intro ctx s hs
  constructor
  rintro a t ⟨⟩
  refine ⟨hs.shorthand, hs.commas, hs.refuted, fun h => ?_⟩
  obtain ⟨hnew, hold⟩ := List.append_eq_nil_iff.1 h
  obtain ⟨c, hc, hfaults, hread⟩ := hs.read hold
  have hafter := c.scan_after
  refine ⟨s.next, ?_, List.reverse_eq_nil_iff.1 hnew, rfl, rfl, rfl, ?_⟩
  · rw [hread.next]
    exact hc.trans (hafter.origin.trans hafter.next)
  · change s.token.span.stop = s.next.offset
    rw [hread.token, hread.next, c.scan_whole hfaults]

theorem keeps_bump : Keeps text bump := by
  refine Keeps.bind (reads_lexeme.then_keeps fun l => ?_) fun _ => keeps_skip
  split
  · exact reads_tokenStart.then_keeps fun _ => keeps_faultIf _ _
  · exact keeps_pure ()

theorem keeps_take {p : Parser Bool} (h : Reads p) : Keeps text (do
    if ← p then
      bump
      pure true
    else pure false) :=
  h.then_keeps fun _ => (keeps_bump.bind fun _ => keeps_pure true).ite (keeps_pure false)

theorem keeps_eat (p : String) : Keeps text (eat p) := keeps_take (reads_atPunctuator p)

theorem keeps_eatWord (w : String) : Keeps text (eatWord w) := keeps_take (reads_atWord w)

theorem Keeps.require {p : Parser Bool} (h : Keeps text p) :
    Keeps text (do unless ← p do fail (← tokenStart)) :=
  h.bind fun _ => (keeps_pure ()).ite (reads_tokenStart.then_keeps fun _ => keeps_fail _)

theorem keeps_expect (p : String) : Keeps text (expect p) := (keeps_eat p).require

theorem keeps_expectWord (w : String) : Keeps text (expectWord w) := (keeps_eatWord w).require

theorem keeps_endStatement : Keeps text endStatement := by
  refine (keeps_eat ";").bind fun _ => (keeps_pure ()).ite ?_
  refine reads_canEndStatement.then_keeps fun _ => (keeps_pure ()).ite ?_
  exact reads_previousStop.then_keeps fun _ => keeps_fail _

theorem keeps_takeComma : Keeps text takeComma := by
  refine reads_tokenStart.then_keeps fun comma => (reads_atPunctuator ",").then_keeps fun _ => ?_
  exact (keeps_failIf _ comma).bind fun _ => keeps_bump.bind fun _ => keeps_pure comma

theorem keeps_commaList {element : Parser α} (close : String) (h : Keeps text element) :
    Keeps text (commaList close element) := by
  refine (reads_atListEnd close).then_keeps fun _ => (keeps_pure _).ite (h.bind fun first => ?_)
  refine keeps_iterate [first] fun found => ?_
  refine (reads_atListEnd close).then_keeps fun _ => (keeps_pure _).ite ?_
  refine keeps_takeComma.bind fun _ => (reads_atPunctuator close).then_keeps fun _ => ?_
  exact (keeps_pure _).ite (h.bind fun _ => keeps_pure _)

/-! ## Names -/

theorem keeps_takeWord : Keeps text takeWord := by
  refine reads_lexeme.then_keeps fun l => ?_
  split
  · exact keeps_skip.bind fun _ => keeps_pure _
  · exact keeps_unexpected

theorem keeps_stringLiteral : Keeps text stringLiteral := by
  refine reads_tokenStart.then_keeps fun _ => reads_lexeme.then_keeps fun l => ?_
  split
  · exact keeps_skip.bind fun _ => keeps_pure _
  · exact keeps_unexpected

theorem keeps_exportName : Keeps text exportName := by
  refine reads_lexeme.then_keeps fun l => ?_
  split
  · exact keeps_stringLiteral.bind fun _ => (keeps_faultIf _ _).bind fun _ => keeps_pure _
  · exact reads_tokenStart.then_keeps fun _ => keeps_takeWord.bind fun _ => keeps_pure _

theorem keeps_bindingIdentifier : Keeps text bindingIdentifier := by
  have hcheck : ∀ allowAwait allowYield, Keeps text (checkIdentifier allowAwait allowYield) := by
    intro allowAwait allowYield
    refine reads_lexeme.then_keeps fun l => ?_
    split
    · refine reads_tokenStart.then_keeps fun _ => (keeps_faultIf _ _).bind fun _ => ?_
      exact reads_tokenStart.then_keeps fun _ => keeps_faultIf _ _
    · exact keeps_pure ()
  refine reads_lexeme.then_keeps fun _ => (keeps_unexpectedIf _).bind fun _ => ?_
  refine reads_read.then_keeps fun c => (hcheck _ _).bind fun _ => ?_
  refine reads_tokenStart.then_keeps fun _ => keeps_takeWord.bind fun _ => ?_
  exact reads_previousStop.then_keeps fun _ => keeps_pure _

/-! ## Imports and re-exports -/

theorem keeps_importAttributes : Keeps text importAttributes := by
  have hkey : Keeps text attributeKey := by
    refine reads_lexeme.then_keeps fun l => ?_
    split
    · exact keeps_stringLiteral.bind fun _ => keeps_pure _
    · exact keeps_takeWord
  have hattribute : Keeps text importAttribute := by
    refine reads_tokenStart.then_keeps fun _ => hkey.bind fun _ => ?_
    exact (keeps_expect ":").bind fun _ => keeps_stringLiteral.bind fun _ => keeps_pure _
  have hcheck : ∀ keys, Keeps text (checkAttributes keys) := by
    intro keys
    induction keys with
    | nil => exact keeps_pure ()
    | cons key keys ih => exact (keeps_faultIf _ _).bind fun _ => ih
  refine (reads_atWord "with").then_keeps fun _ => (reads_atWord "assert").then_keeps fun _ => ?_
  refine reads_afterNewline.then_keeps fun _ => Keeps.ite ?_ (keeps_pure ())
  refine keeps_skip.bind fun _ => (keeps_expect "\x7b").bind fun _ => ?_
  refine (keeps_commaList "\x7d" hattribute).bind fun _ => ?_
  exact (keeps_expect "\x7d").bind fun _ => hcheck _

theorem keeps_importBindings (clause : ImportClause) : Keeps text (importBindings clause) := by
  have hspecifier : Keeps text importSpecifier := by
    refine reads_peek.then_keeps fun following => ?_
    dsimp only
    split
    · refine keeps_exportName.bind fun _ => keeps_bump.bind fun _ => ?_
      exact keeps_bindingIdentifier.bind fun _ => keeps_pure _
    · exact keeps_bindingIdentifier.bind fun _ => keeps_pure _
  refine (reads_atPunctuator "*").then_keeps fun _ => Keeps.ite ?_ ?_
  · refine keeps_bump.bind fun _ => (keeps_expectWord "as").bind fun _ => ?_
    exact keeps_bindingIdentifier.bind fun _ => keeps_pure _
  · refine (reads_atPunctuator "\x7b").then_keeps fun _ => Keeps.ite ?_ keeps_unexpected
    refine keeps_bump.bind fun _ => (keeps_commaList "\x7d" hspecifier).bind fun _ => ?_
    exact (keeps_expect "\x7d").bind fun _ => keeps_pure _

theorem keeps_importClause : Keeps text importClause := by
  have hafter : ∀ first bound, Keeps text (boundAfter first bound) := by
    intro first bound
    refine reads_peek.then_keeps fun following => (reads_atWord "from").then_keeps fun _ => ?_
    exact reads_lexeme.then_keeps fun _ => keeps_bindingIdentifier.ite (keeps_pure bound)
  refine (reads_atPunctuator "*").then_keeps fun _ => (reads_atPunctuator "\x7b").then_keeps
    fun _ => (keeps_importBindings {}).ite ?_
  refine reads_lexeme.then_keeps fun _ => (keeps_unexpectedIf _).bind fun _ => ?_
  refine reads_lexeme.then_keeps fun first => keeps_bindingIdentifier.bind fun bound => ?_
  refine (reads_atPunctuator "*").then_keeps fun _ => (keeps_importBindings {}).ite ?_
  refine (hafter first bound).bind fun _ => (keeps_eat ",").bind fun _ => ?_
  exact (keeps_importBindings _).ite (keeps_pure _)

theorem keeps_optionalClause : Keeps text optionalClause := by
  refine reads_lexeme.then_keeps fun l => ?_
  split
  · exact keeps_pure _
  · exact keeps_importClause.bind fun c => (keeps_expectWord "from").bind fun _ => keeps_pure c

theorem keeps_exportAlias? : Keeps text exportAlias? :=
  (keeps_eatWord "as").bind fun _ =>
    (keeps_exportName.bind fun _ => keeps_pure _).ite (keeps_pure none)

end Parser

/-! ## Items -/

/-- The stretch of an item that lowering replaces as a whole. -/
def Item.whole? : Item → Option Span
  | .importBindings span .. | .exportAll span .. | .exportFrom span .. | .exportList span .. =>
    some span
  | .statement _ | .exportDeclaration .. | .exportDefault .. => none

namespace Parser

variable {text : List Char} {ctx : Context} {s : ParserState} {rules : Rules}

/-- An item that ends here, and the parser is tidy. -/
def EndsTidy (text : List Char) (item : Item) (t : ParserState) : Prop :=
  t.Tidy text ∧ ∀ span, item.whole? = some span → span.stop = t.previousStop

/-- The source of an import or a re-export, and the end of the statement. -/
theorem yields_fromSource (hs : s.Tidy text) (make : String → Nat → Item)
    (hmake : ∀ specifier stop span, (make specifier stop).whole? = some span → span.stop = stop) :
    Yields (do
      let (specifier, _, _) ← stringLiteral
      importAttributes
      endStatement
      return make specifier (← previousStop)) ctx s (EndsTidy text) := by
  apply Yields.bind
  apply (keeps_stringLiteral ctx s hs).mono
  rintro ⟨specifier, _, _⟩ t ht
  apply Yields.bind
  apply (keeps_importAttributes ctx t ht).mono
  intro _ u hu
  apply Yields.bind
  apply (keeps_endStatement ctx u hu).mono
  intro _ v hv
  exact Yields.previousStop (Yields.pure ⟨hv, hmake specifier v.previousStop⟩)

theorem yields_importDeclaration (hs : s.Tidy text) :
    Yields importDeclaration ctx s (EndsTidy text) := by
  apply Yields.tokenStart
  apply Yields.bind
  apply (keeps_bump ctx s hs).mono
  intro _ t ht
  apply Yields.bind
  apply (keeps_optionalClause ctx t ht).mono
  intro clause u hu
  refine yields_fromSource hu (fun specifier stop => .importBindings ⟨s.here, stop⟩ clause specifier)
    fun specifier stop span h => ?_
  cases h
  rfl

theorem yields_exportAllDeclaration (hs : s.Tidy text) (start : Nat) :
    Yields (exportAllDeclaration start) ctx s (EndsTidy text) := by
  apply Yields.bind
  apply (keeps_bump ctx s hs).mono
  intro _ t ht
  apply Yields.bind
  apply (keeps_exportAlias? ctx t ht).mono
  intro exported? u hu
  apply Yields.bind
  apply (keeps_expectWord "from" ctx u hu).mono
  intro _ v hv
  refine yields_fromSource hv (fun specifier stop => .exportAll ⟨start, stop⟩ exported? specifier)
    fun specifier stop span h => ?_
  cases h
  rfl

theorem yields_exportNames (hs : s.Tidy text) (start : Nat) :
    Yields (exportNames start) ctx s (EndsTidy text) := by
  have hspecifier : Keeps text exportSpecifier :=
    keeps_exportName.bind fun _ => keeps_exportAlias?.bind fun _ => keeps_pure _
  apply Yields.bind
  apply (keeps_bump ctx s hs).mono
  intro _ t ht
  apply Yields.bind
  apply (keeps_commaList "\x7d" hspecifier ctx t ht).mono
  rintro ⟨names, _⟩ u hu
  apply Yields.bind
  apply (keeps_expect "\x7d" ctx u hu).mono
  intro _ v hv
  apply Yields.bind
  apply (keeps_eatWord "from" ctx v hv).mono
  intro isFrom w hw
  apply Yields.lexeme
  refine Yields.ite ?_ ?_
  · refine yields_fromSource hw
      (fun specifier stop => .exportFrom ⟨start, stop⟩ (names.map Prod.snd) specifier)
      fun specifier stop span h => ?_
    cases h
    rfl
  · apply Yields.bind
    apply (keeps_forM (fun name => keeps_faultIf _ _) ctx w hw).mono
    intro _ x hx
    apply Yields.bind
    apply (keeps_endStatement ctx x hx).mono
    intro _ y hy
    refine Yields.previousStop (Yields.pure ⟨hy, fun span h => ?_⟩)
    cases h
    rfl

/-- An item of which something is kept. -/
abbrev Partial (item : Item) : Prop := item.whole? = none

theorem returns_partial (p : Parser Node) :
    Returns (do return Item.statement (← p)) Partial :=
  .after fun _ => .pure rfl

theorem yields_exportDeclaration (hs : s.Tidy text) (ds : List Node) :
    Yields (exportDeclaration rules ds) ctx s fun item t =>
      Partial item ∨ EndsTidy text item t := by
  have hpartial : ∀ {p : Parser Item} {t : ParserState}, Returns p Partial →
      Yields p ctx t fun item u => Partial item ∨ EndsTidy text item u :=
    fun {_ t} h => (h ctx t).mono fun _ _ hitem => .inl hitem
  apply Yields.tokenStart
  apply Yields.bind
  apply (keeps_bump ctx s hs).mono
  intro _ t ht
  apply Yields.lexeme
  split
  · exact hpartial (.after fun _ => .after fun _ => .after fun _ => .after fun _ => .pure rfl)
  · exact (yields_exportAllDeclaration ht _).mono fun _ _ => .inr
  · exact (yields_exportNames ht _).mono fun _ _ => .inr
  · exact hpartial (.after fun _ => .after fun _ => .pure rfl)

/-! ## Decorators -/

theorem yields_bump (hs : s.Ordered) :
    Yields bump ctx s fun _ t => s.Reach t ∧ s.token.span.stop ≤ t.previousStop := by
  have hcheck : Yields checkSpelling ctx s fun _ t => s.Reach t ∧ t.token = s.token := by
    apply Yields.lexeme
    split
    · apply Yields.tokenStart
      exact (yields_faultIf hs _ _).mono fun _ t ht => ⟨ht.1, ht.2.1⟩
    · exact Yields.pure ⟨Reach.refl hs, rfl⟩
  apply Yields.bind
  apply hcheck.mono
  rintro _ t ⟨hr, htoken⟩
  constructor
  intro _ u hu
  refine ⟨hr.trans ((takes_skip ctx t hr.ordered).run _ u hu).1, ?_⟩
  cases hu
  exact Nat.le_of_eq (congrArg (·.span.stop) htoken.symm)

/-- Decorators are read behind the first sign of one. -/
theorem yields_decorators (h : rules.Sound) (hs : s.Ordered)
    (hat : s.token.lexeme = .punctuator "@") : Yields (decorators rules) ctx s fun _ t =>
      s.Reach t ∧ s.token.span.stop ≤ t.previousStop := by
  refine Yields.iterate (fun _ t => s.Reach t ∧ (t = s ∨ s.token.span.stop ≤ t.previousStop))
    ⟨Reach.refl hs, .inl rfl⟩ fun found t ⟨hr, hstop⟩ => ?_
  have hends : Yields (do return !(← atPunctuator "@")) ctx t fun b u =>
      b = !(t.token.lexeme == .punctuator "@") ∧ u = t := ⟨by rintro _ _ ⟨⟩; exact ⟨rfl, rfl⟩⟩
  apply Yields.bind
  apply hends.mono
  rintro _ _ ⟨rfl, rfl⟩
  split
  case isTrue hend =>
    refine Yields.pure ⟨hr, hstop.resolve_left ?_⟩
    rintro rfl
    rw [hat] at hend
    cases hend
  case isFalse =>
    apply Yields.bind
    apply Yields.tokenStart
    apply Yields.bind
    apply (yields_bump hr.ordered).mono
    rintro _ u ⟨hu, hlong⟩
    have hexpression : Moves (within (fun c => { c with inDecorator := true })
        (rules .leftHandSide)) := (h .leftHandSide).within.moves
    apply Yields.bind
    apply (hexpression ctx u hu.ordered).mono
    intro _ v hv
    apply Yields.previousStop
    refine Yields.pure (Yields.pure ⟨hr.trans (hu.trans hv), .inr ?_⟩)
    refine Nat.le_trans ?_ hv.previous
    obtain rfl | hstop := hstop
    · exact hlong
    · exact Nat.le_trans hstop hu.previous

/-- What is exported behind decorators starts behind them. -/
theorem yields_decoratedStatement (h : rules.Sound) (hs : s.Ordered)
    (hat : s.token.lexeme = .punctuator "@") (hlong : s.here < s.token.span.stop) (single : Bool) :
    Yields (decoratedStatement rules single) ctx s fun item _ => ∀ span, item.whole? = some span →
      s.here < span.start := by
  apply Yields.tokenStart
  apply Yields.bind
  apply (yields_decorators h hs hat).mono
  rintro ds u ⟨hr, hstop⟩
  apply (reads_atWord "export").step
  intro _
  refine Yields.ite ?_ ?_
  · apply Yields.bind
    apply (built_exportDeclaration h ds hr.ordered).mono
    rintro item v ⟨-, hplain⟩
    have hbehind : s.here < u.here :=
      Nat.lt_of_lt_of_le hlong (Nat.le_trans hstop hr.ordered.previous)
    cases item with
    | statement | exportDeclaration | exportDefault => exact Yields.pure nofun
    | importBindings | exportAll | exportFrom | exportList =>
      refine Yields.pure fun span hspan => ?_
      cases hspan
      exact Nat.lt_of_lt_of_le hbehind hplain.1
  · apply (reads_atWord "class").step
    intro _
    refine Yields.ite ?_ Yields.unexpected
    exact (returns_partial _ ctx u).mono fun item t hitem span hspan => by
      rw [hitem] at hspan
      cases hspan

/-! ## Any statement -/

/-- An item that is replaced as a whole ends tidily, unless its decorators stay in front of it. -/
theorem yields_statementItem_whole (h : rules.Sound) (hs : s.Ordered) (ht : s.Tidy text)
    (hlong : s.here < s.token.span.stop) (single : Bool) :
    Yields (statementItem rules single) ctx s fun item t => ∀ span, item.whole? = some span →
      s.here < span.start ∨ EndsTidy text item t := by
  have hpartial : ∀ {p : Parser Item}, Returns p Partial → Yields p ctx s fun item t =>
      ∀ span, item.whole? = some span → s.here < span.start ∨ EndsTidy text item t := by
    refine fun h => (h ctx s).mono fun item t hitem span hspan => ?_
    rw [hitem] at hspan
    cases hspan
  have hstatement := fun p => hpartial (returns_partial p)
  apply Yields.tokenStart
  apply Yields.lexeme
  split
  case h_1 => exact hstatement _
  case h_2 => exact hpartial (.after fun _ => returns_partial _)
  case h_3 hat =>
    exact (yields_decoratedStatement h hs hat hlong single).mono fun _ _ hitem span hspan =>
      .inl (hitem span hspan)
  case h_4 =>
    split
    any_goals exact hstatement _
    · exact hpartial (.after fun _ => .after fun _ => returns_partial _)
    · exact hpartial (.ite (returns_partial _) (returns_partial _))
    · exact hpartial (.after fun _ => .ite (returns_partial _) (returns_partial _))
    · exact hpartial (.after fun _ => .ite (returns_partial _) (returns_partial _))
    · exact hpartial (.after fun _ =>
        .ite (.after fun _ => returns_partial _) (returns_partial _))
    · apply reads_peek.step
      intro following
      split
      · exact hstatement _
      · exact hstatement _
      · exact (yields_importDeclaration ht).mono fun _ _ hitem _ _ => .inr hitem
    · refine (yields_exportDeclaration ht []).mono fun item t hitem span hspan => .inr ?_
      refine hitem.resolve_left fun hnone => ?_
      rw [hnone] at hspan
      cases hspan
  case h_5 => exact hstatement _

end Parser

/-! ## Fronts -/

/-- The characters of a text between two offsets. -/
def stretch (text : List Char) (start stop : Nat) : List Char :=
  (text.drop start).take (stop - start)

theorem Item.Placed.whole {item : Item} {lo hi : Nat} {span : Span} (h : item.Placed lo hi)
    (hitem : item.whole? = some span) :
    lo ≤ span.start ∧ span.start ≤ span.stop ∧ span.stop ≤ hi := by
  cases item with
  | importBindings | exportAll | exportFrom | exportList =>
    cases hitem
    exact h
  | statement | exportDeclaration | exportDefault => cases hitem

/-- Items that are replaced as a whole, one after the other, with nothing but blanks and comments in
front of each of them. -/
inductive Fronts (text : List Char) : Nat → List Item → Nat → Prop
  | none (lo : Nat) : Fronts text lo [] lo
  | front {lo hi : Nat} {item : Item} {span : Span} {items : List Item}
    (hitem : item.whole? = some span) (hgap : IsGap (stretch text lo span.start))
    (h : Fronts text span.stop items hi) : Fronts text lo (item :: items) hi

namespace ParserState

variable {text : List Char} {s : ParserState}

/-- Where a tidy state has got to. -/
theorem Tidy.place (h : s.Tidy text) (hs : s.lexicalFaults = []) :
    s.ReadFrom ⟨text.drop s.previousStop, s.previousStop⟩ ∧
      (⟨text.drop s.previousStop, s.previousStop⟩ : Cursor).scan.faults = [] ∧
      s.previousStop ≤ text.length := by
  obtain ⟨c, ⟨passed, htext, hoffset⟩, hfaults, hread⟩ := h.read hs
  obtain ⟨rest, offset⟩ := c
  simp only [Nat.zero_add] at htext hoffset
  have hstop : s.previousStop = passed.length := hread.previousStop.trans hoffset
  have hrest : text.drop s.previousStop = rest := by rw [hstop, htext, List.drop_left]
  have hplace : (⟨text.drop s.previousStop, s.previousStop⟩ : Cursor) = ⟨rest, offset⟩ := by
    rw [hrest, hread.previousStop]
  rw [hplace]
  refine ⟨hread, hfaults, ?_⟩
  rw [hstop, htext, List.length_append]
  exact Nat.le_add_right _ _

/-- Behind a gap the current token starts. -/
theorem ReadFrom.behind {g rest : List Char} {n : Nat} (h : s.ReadFrom ⟨g ++ rest, n⟩)
    (hg : IsGap g) : n + g.length ≤ s.here := by
  have halike := Cursor.scan_gap hg rest n
  have hstart := (⟨rest, n + g.length⟩ : Cursor).scan_after.start
  rw [here, h.token, halike.span]
  exact hstart

/-- A token without fault that is not the end of the text is not empty. -/
theorem ReadFrom.long {c : Cursor} (h : s.ReadFrom c) (hfaults : c.scan.faults = [])
    (hs : s.token.lexeme ≠ .finish) : s.here < s.token.span.stop := by
  have hafter := c.scan_after
  obtain ⟨hfinish, -⟩ | ⟨-, hlt⟩ := c.scan_shortens
  · rw [h.token] at hs
    exact absurd hfinish hs
  · have htotal := hafter.next.total
    have hstart := hafter.start_le
    rw [here, h.token, c.scan_whole hfaults]
    omega

end ParserState

namespace Parser

variable {text : List Char} {ctx : Context} {s t : ParserState} {items : List Item} {length : Nat}

theorem Chain.reach (h : Chain (itemOf length) ctx s items t) (hs : s.Ordered) : s.Reach t := by
  have hstep : ∀ u, s.Reach u → Yields (itemOf length) ctx u fun _ v => s.Reach v := by
    intro u hu
    apply (readsItem_statementItem (grammar_sound _) false ctx u hu.ordered).mono
    exact fun _ v hv => hu.trans hv.1
  exact h.keeps hstep (Reach.refl hs)

/-- Behind imports, re-exports and export lists the parser is as if the text had begun there. -/
theorem Chain.fronts {lo hi : Nat} (h : Chain (itemOf length) ctx s items t) (hs : s.Ordered)
    (htidy : s.Tidy text) (hlo : s.previousStop = lo) (hfronts : Fronts text lo items hi)
    (ht : t.lexicalFaults = []) : t.Tidy text ∧ t.previousStop = hi := by
  induction hfronts generalizing s with
  | none =>
    cases h
    exact ⟨htidy, hlo⟩
  | @front lo hi item span items hitem hgap _ ih =>
    cases h with
    | @more _ u _ _ _ hnext hrun hrest =>
      obtain ⟨hreach, hplaced⟩ :=
        (readsItem_statementItem (grammar_sound _) false ctx s hs).run item u hrun
      have hclean : s.lexicalFaults = [] :=
        hreach.lexical ((hrest.reach hreach.ordered).lexical ht)
      obtain ⟨hread, hfaults, -⟩ := htidy.place hclean
      have hlong := hread.long hfaults hnext
      obtain ⟨hstart, hstop, hend⟩ := hplaced.whole hitem
      -- the item starts behind its gap, so that no decorators stand there
      have hbehind : span.start ≤ s.here := by
        have hbefore := (Cursor.scan_after ⟨text.drop s.previousStop, s.previousStop⟩).origin
        rw [← hread.origin] at hbefore
        have htotal := (hbefore.trans hreach.origin).total
        have hprevious := hs.previous
        have hnext := hreach.ordered.previous
        have horigin := hreach.ordered.origin
        have hgaplength : (stretch text lo span.start).length = span.start - lo := by
          simp only [List.length_drop] at htotal
          rw [stretch, List.length_take, List.length_drop]
          omega
        rw [hlo, ← List.take_append_drop (span.start - lo) (text.drop lo)] at hread
        have hle : lo + (stretch text lo span.start).length ≤ s.here := hread.behind hgap
        omega
      obtain hbefore | ⟨hkept, hitemstop⟩ := (yields_statementItem_whole (grammar_sound _) hs htidy
        hlong false).run item u hrun span hitem
      · exact absurd hbefore (Nat.not_lt_of_le hbehind)
      · exact ih hrest hreach.ordered hkept (hitemstop span hitem).symm

end Parser

end ModuleBundler.Script
