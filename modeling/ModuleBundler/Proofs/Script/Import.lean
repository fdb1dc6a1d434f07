import ModuleBundler.Proofs.Script.Binding
import ModuleBundler.Proofs.Script.Program

/-!
# What imports bind

An import of an accepted text binds names of variables. They have been read before it is known that
the whole text is accepted; but a fault that is noted once is never forgotten.
-/

namespace ModuleBundler.Script

open ParserState (Reach)

/-- No fault has been noted. -/
structure ParserState.Clean (s : ParserState) : Prop where
  lexical : s.lexicalFaults = []
  grammar : s.grammarFaults = []

theorem ParserState.Reach.clean {s t : ParserState} (h : s.Reach t) (ht : t.Clean) : s.Clean :=
  ⟨h.lexical ht.lexical, h.grammar ht.grammar⟩

/-- All that the clause binds are variables. -/
structure ImportClause.BindsVariables (c : ImportClause) : Prop where
  defaultName : ∀ name ∈ c.defaultName?, IsVariable name
  namespaceName : ∀ name ∈ c.namespaceName?, IsVariable name
  named : ∀ b ∈ c.named, IsVariable b.bound

def Item.ImportsVariables : Item → Prop
  | .importBindings _ clause _ => clause.BindsVariables
  | _ => True

namespace Parser

section Grants

variable {α β : Type}

/-- `Q` holds of what the parser reads at the top of a module, if no fault is noted by then. -/
def Grants (p : Parser α) (Q : α → Prop) : Prop :=
  ∀ ctx s, ctx.allowAwait = true → s.Ordered →
    Yields p ctx s fun a t => s.Reach t ∧ (t.Clean → Q a)

namespace Grants

variable {p : Parser α} {f : α → Parser β} {Q : α → Prop} {R : β → Prop}

theorem pure {a : α} (h : Q a) : Grants (Pure.pure a) Q :=
  fun _ _ _ hs => Yields.pure ⟨Reach.refl hs, fun _ => h⟩

theorem bind (hp : Grants p Q) (hf : ∀ a, Grants (f a) fun b => Q a → R b) :
    Grants (p >>= f) R := by
  intro ctx s hawait hs
  apply Yields.bind
  apply (hp ctx s hawait hs).mono
  rintro a t ⟨hr, ha⟩
  apply (hf a ctx t hawait hr.ordered).mono
  rintro b u ⟨hr', hb⟩
  exact ⟨hr.trans hr', fun hu => hb hu (ha (hr'.clean hu))⟩

/-- The first result is of no concern. -/
theorem after (hp : Moves p) (hf : ∀ a, Grants (f a) R) : Grants (p >>= f) R := by
  intro ctx s hawait hs
  apply Yields.bind
  apply (hp ctx s hs).mono
  intro a t hr
  apply (hf a ctx t hawait hr.ordered).mono
  exact fun b u hb => ⟨hr.trans hb.1, hb.2⟩

theorem ite {c : Prop} [Decidable c] {q : Parser α} (hp : Grants p Q) (hq : Grants q Q) :
    Grants (if c then p else q) Q :=
  fun ctx s hawait hs => .ite (hp ctx s hawait hs) (hq ctx s hawait hs)

theorem unexpected : Grants (Parser.unexpected : Parser α) Q := fun _ _ _ _ => .unexpected

theorem mono (hp : Grants p Q) {Q' : α → Prop} (h : ∀ a, Q a → Q' a) : Grants p Q' :=
  fun ctx s hawait hs => (hp ctx s hawait hs).mono fun a _ ha => ⟨ha.1, fun ht => h a (ha.2 ht)⟩

end Grants

theorem grants_commaList {p : Parser α} {Q : α → Prop} (h : Grants p Q) (close : String) :
    Grants (commaList close p) fun r => ∀ a ∈ r.1, Q a := by
  refine .after (reads_atListEnd close).moves fun ends => .ite (.pure (by simp)) ?_
  refine .bind h fun first => ?_
  intro ctx s hawait hs
  refine Yields.iterate (fun found u => s.Reach u ∧ (u.Clean → Q first → ∀ a ∈ found, Q a))
    ⟨Reach.refl hs, fun _ hfirst => by simpa using hfirst⟩ ?_
  rintro found u ⟨hr, hfound⟩
  have hdone : ∀ {v}, u.Reach v → s.Reach v ∧ (v.Clean → Q first → ∀ a ∈ found.reverse, Q a) :=
    fun hv => ⟨hr.trans hv, fun hc => by simpa using hfound (hv.clean hc)⟩
  apply (reads_atListEnd close).step
  intro ends
  apply Yields.ite (Yields.pure (hdone (Reach.refl hr.ordered)))
  apply Yields.bind
  apply (takes_takeComma.moves ctx u hr.ordered).mono
  intro comma v hv
  apply (reads_atPunctuator close).step
  intro closes
  apply Yields.ite (Yields.pure (hdone hv))
  apply Yields.bind
  apply (h ctx v hawait hv.ordered).mono
  rintro a w ⟨hw, ha⟩
  refine Yields.pure ⟨hr.trans (hv.trans hw), fun hc hfirst => ?_⟩
  exact List.forall_mem_cons.2 ⟨ha hc, hfound ((hv.trans hw).clean hc) hfirst⟩

end Grants

/-! ## Names -/

section Names

variable {ctx : Context} {s : ParserState}

theorem Yields.lexeme {α : Type} {f : Lexeme → Parser α} {Q : α → ParserState → Prop}
    (h : Yields (f s.token.lexeme) ctx s Q) : Yields (lexeme >>= f) ctx s Q := ⟨h.run⟩

theorem Yields.read {α : Type} {f : Context → Parser α} {Q : α → ParserState → Prop}
    (h : Yields (f ctx) ctx s Q) : Yields (read >>= f) ctx s Q := ⟨h.run⟩

theorem yields_faultIf (hs : s.Ordered) (wrong : Bool) (offset : Nat) :
    Yields (faultIf wrong offset) ctx s fun _ t =>
      s.Reach t ∧ t.token = s.token ∧ (t.Clean → wrong = false) := by
  cases wrong with
  | false => exact Yields.pure ⟨Reach.refl hs, rfl, fun _ => rfl⟩
  | true =>
    constructor
    rintro a t ⟨⟩
    refine ⟨(moves_fault offset ctx s hs).run _ _ rfl, rfl, fun ht => ?_⟩
    cases ht.grammar

theorem yields_checkIdentifier (hs : s.Ordered) {name : String} {escaped : Bool}
    (h : s.token.lexeme = .word name escaped) (allowYield : Bool) :
    Yields (checkIdentifier true allowYield) ctx s fun _ t =>
      s.Reach t ∧ t.token = s.token ∧ (t.Clean → name ≠ "await") := by
  apply Yields.lexeme
  rw [h]
  apply Yields.tokenStart
  apply Yields.bind
  apply (yields_faultIf hs _ _).mono
  rintro _ t ⟨hr, htoken, hawait⟩
  apply Yields.tokenStart
  apply (yields_faultIf hr.ordered _ _).mono
  rintro _ u ⟨hr', htoken', -⟩
  refine ⟨hr.trans hr', htoken'.trans htoken, fun hu => ?_⟩
  simpa using hawait (hr'.clean hu)

theorem yields_takeWord (hs : s.Ordered) :
    Yields takeWord ctx s fun name t => s.Reach t ∧ ∃ escaped,
      s.token.lexeme = .word name escaped := by
  apply Yields.lexeme
  split
  · rename_i name escaped h
    apply Yields.bind
    apply (takes_skip ctx s hs).mono
    exact fun _ t ht => Yields.pure ⟨ht.1, escaped, h⟩
  · exact Yields.unexpected

/-- `await` is noted as a fault, and other reserved words are refused. -/
theorem grants_bindingIdentifier :
    Grants bindingIdentifier fun n => IsVariable (bindingName n) := by
  intro ctx s hawait hs
  apply Yields.lexeme
  apply Yields.bind
  unfold unexpectedIf
  split
  · exact Yields.unexpected
  rename_i hbinding
  apply Yields.pure
  obtain ⟨name, escaped, hname⟩ : ∃ name escaped, s.token.lexeme = .word name escaped := by
    revert hbinding
    cases s.token.lexeme <;> simp [Lexeme.isBinding]
  apply Yields.read
  rw [hawait]
  apply Yields.bind
  apply (yields_checkIdentifier hs hname _).mono
  rintro _ t ⟨hr, htoken, hnot⟩
  apply Yields.tokenStart
  apply Yields.bind
  apply (yields_takeWord hr.ordered).mono
  rintro _ u ⟨hr', escaped', hname'⟩
  rw [htoken, hname] at hname'
  cases hname'
  apply Yields.previousStop
  refine Yields.pure ⟨hr.trans hr', fun hu => ?_⟩
  have hs' : s.Clean := (hr.trans hr').clean hu
  refine ⟨hs.word hs'.lexical name escaped hname, ?_⟩
  have hwords : Lexeme.isBinding (.word name escaped) = true := by simpa [hname] using hbinding
  simp only [Lexeme.isBinding, Bool.or_eq_true, Bool.not_eq_true', beq_iff_eq] at hwords
  exact hwords.resolve_right (hnot (hr'.clean hu))

end Names

theorem grants_importSpecifier : Grants importSpecifier fun b => IsVariable b.bound := by
  refine .after reads_peek.moves fun following => ?_
  dsimp only
  split
  · refine .after moves_exportName fun _ => .after takes_bump.moves fun _ => ?_
    exact .bind grants_bindingIdentifier fun n => .pure id
  · exact .bind grants_bindingIdentifier fun n => .pure id

/-! ## Clauses -/

theorem bindsVariables_empty : ({} : ImportClause).BindsVariables where
  defaultName := by simp
  namespaceName := by simp
  named := by simp

theorem bindsVariables_default {name : String} (h : IsVariable name) :
    ({ defaultName? := some name } : ImportClause).BindsVariables :=
  { bindsVariables_empty with defaultName := by simpa using h }

theorem grants_importBindings (clause : ImportClause) :
    Grants (importBindings clause) fun c => clause.BindsVariables → c.BindsVariables := by
  refine .after (reads_atPunctuator "*").moves fun _ => .ite ?_ ?_
  · refine .after takes_bump.moves fun _ => .after (takes_expectWord "as").moves fun _ => ?_
    exact .bind grants_bindingIdentifier fun n => .pure fun hn hclause =>
      { hclause with namespaceName := by simpa using hn }
  refine .after (reads_atPunctuator "\x7b").moves fun _ => .ite ?_ .unexpected
  refine .after takes_bump.moves fun _ => .bind (grants_commaList grants_importSpecifier "\x7d") ?_
  rintro ⟨named, comma?⟩
  exact .after (takes_expect "\x7d").moves fun _ => .pure fun hnamed hclause =>
    { hclause with named := hnamed }

theorem grants_boundAfter (first : Lexeme) (bound : Node) : Grants (boundAfter first bound)
    fun n => IsVariable (bindingName bound) → IsVariable (bindingName n) := by
  refine .after reads_peek.moves fun _ => .after (reads_atWord "from").moves fun _ =>
    .after reads_lexeme.moves fun _ => .ite ?_ (.pure id)
  exact grants_bindingIdentifier.mono fun _ hn _ => hn

theorem grants_importClause : Grants importClause ImportClause.BindsVariables := by
  have hbindings : Grants (importBindings {}) ImportClause.BindsVariables :=
    (grants_importBindings {}).mono fun c hc => hc bindsVariables_empty
  refine .after (reads_atPunctuator "*").moves fun _ =>
    .after (reads_atPunctuator "\x7b").moves fun _ => .ite hbindings ?_
  refine .after reads_lexeme.moves fun _ => .after (moves_unexpectedIf _) fun _ =>
    .after reads_lexeme.moves fun first => .bind grants_bindingIdentifier fun bound => ?_
  refine .after (reads_atPunctuator "*").moves fun _ => .ite (hbindings.mono fun _ h _ => h) ?_
  refine .bind (grants_boundAfter first bound) fun bound => ?_
  refine .after (tries_eat ",").moves fun _ => .ite ?_ ?_
  · exact (grants_importBindings _).mono fun c hc hafter hfirst =>
      hc (bindsVariables_default (hafter hfirst))
  · exact .pure fun hafter hfirst => bindsVariables_default (hafter hfirst)

theorem grants_optionalClause : Grants optionalClause ImportClause.BindsVariables := by
  refine .after reads_lexeme.moves fun l => ?_
  split
  · exact .pure bindsVariables_empty
  · exact .bind grants_importClause fun c =>
      .after (takes_expectWord "from").moves fun _ => .pure id

theorem grants_importDeclaration : Grants importDeclaration Item.ImportsVariables := by
  refine .after reads_tokenStart.moves fun start => .after takes_bump.moves fun _ =>
    .bind grants_optionalClause fun clause => .after takes_stringLiteral.moves ?_
  rintro ⟨specifier, _, _⟩
  exact .after moves_importAttributes fun _ => .after moves_endStatement fun _ =>
    .after reads_previousStop.moves fun _ => .pure id

/-! ## Programs -/

section Items

variable {rules : Rules} {ctx : Context} {s : ParserState}

theorem returns_statement_imports (p : Parser Node) :
    Returns (do return .statement (← p)) Item.ImportsVariables :=
  .after fun _ => .pure trivial

theorem returns_exportDeclaration_imports (ds : List Node) :
    Returns (exportDeclaration rules ds) Item.ImportsVariables := by
  refine .after fun _ => .after fun _ => .after fun l => ?_
  split
  · exact .after fun _ => .after fun _ => .after fun _ => .after fun _ => .pure trivial
  · exact .after fun _ => .after fun _ => .after fun _ => .after fun _ => .after fun _ =>
      .after fun _ => .after fun _ => .pure trivial
  · refine .after fun _ => .after fun _ => .after fun _ => .after fun _ => .after fun _ =>
      .ite ?_ ?_
    · exact .after fun _ => .after fun _ => .after fun _ => .after fun _ => .pure trivial
    · exact .after fun _ => .after fun _ => .after fun _ => .pure trivial
  · exact .after fun _ => .after fun _ => .pure trivial

theorem returns_decoratedStatement_imports (single : Bool) :
    Returns (decoratedStatement rules single) Item.ImportsVariables := by
  refine .after fun _ => .after fun ds => .after fun _ => .ite ?_ (.after fun _ => .ite ?_ ?_)
  · refine .bind (returns_exportDeclaration_imports ds) fun item hitem => ?_
    split
    · exact .pure trivial
    · exact .pure trivial
    · exact .pure hitem
  · exact returns_statement_imports _
  · exact .unexpected

/-- Only an import that is read here counts, as those inside a statement are part of a node. -/
theorem yields_statementItem_imports (hawait : ctx.allowAwait = true) (hs : s.Ordered)
    (single : Bool) : Yields (statementItem rules single) ctx s fun item t =>
      t.Clean → item.ImportsVariables := by
  have hother : ∀ {p : Parser Item}, Returns p Item.ImportsVariables →
      Yields p ctx s fun item t => t.Clean → item.ImportsVariables :=
    fun h => (h ctx s).mono fun _ _ hitem _ => hitem
  apply Yields.tokenStart
  apply Yields.lexeme
  split
  · exact hother (returns_statement_imports _)
  · exact hother (.after fun _ => returns_statement_imports _)
  · exact hother (returns_decoratedStatement_imports single)
  · split
    any_goals exact hother (returns_statement_imports _)
    · exact hother (.after fun _ => .after fun _ => returns_statement_imports _)
    · exact hother (.ite (returns_statement_imports _) (returns_statement_imports _))
    · exact hother (.after fun _ =>
        .ite (returns_statement_imports _) (returns_statement_imports _))
    · exact hother (.after fun _ =>
        .ite (returns_statement_imports _) (returns_statement_imports _))
    · exact hother (.after fun _ => .ite (.after fun _ => returns_statement_imports _)
        (returns_statement_imports _))
    · apply reads_peek.step
      intro following
      split
      · exact hother (returns_statement_imports _)
      · exact hother (returns_statement_imports _)
      · exact (grants_importDeclaration ctx s hawait hs).mono fun _ _ hitem => hitem.2
    · exact hother (returns_exportDeclaration_imports [])
  · exact hother (returns_statement_imports _)

theorem yields_programItems_imports (h : rules.Sound) (hawait : ctx.allowAwait = true)
    (hs : s.Ordered) : Yields (programItems rules) ctx s fun items t =>
      t.Clean → ∀ item ∈ items, item.ImportsVariables := by
  apply Yields.bind
  apply (moves_skipHashbang ctx s hs).mono
  intro _ u hu
  refine Yields.iterate (fun found v => u.Reach v ∧
    (v.Clean → ∀ item ∈ found, item.ImportsVariables)) ⟨Reach.refl hu.ordered, by simp⟩ ?_
  rintro found v ⟨hr, hfound⟩
  apply reads_atFinish.step
  intro _
  refine Yields.ite (Yields.pure fun hv => by simpa using hfound hv) ?_
  apply Yields.bind
  constructor
  intro item w hrun
  have hreach := ((readsItem_statementItem h false ctx v hr.ordered).run item w hrun).1
  have hitem := (yields_statementItem_imports hawait hr.ordered false).run item w hrun
  refine Yields.pure ⟨hr.trans hreach, fun hw => ?_⟩
  exact List.forall_mem_cons.2 ⟨hitem hw, hfound (hreach.clean hw)⟩

end Items

end Parser

open ModuleBundler.Script.Parser

theorem clean_of_firstFault? {source : List Char} {t : ParserState}
    (h : firstFault? source t
      (t.lexicalFaults.reverse ++ t.grammarFaults.reverse ++ t.shorthandValues.reverse) = none) :
    t.Clean := by
  have hnone : t.lexicalFaults.reverse ++ t.grammarFaults.reverse ++ t.shorthandValues.reverse =
      [] := by
    unfold firstFault? at h
    split at h
    · assumption
    · split at h
      · split at h <;> cases h
      · cases h
  simp only [List.append_eq_nil_iff, List.reverse_eq_nil_iff] at hnone
  exact ⟨hnone.1.1, hnone.1.2⟩

/-- The imports of an accepted text bind variables. -/
theorem Program.parse_importsVariables {source : String} {program : Program}
    (h : Program.parse source = .ok program) : ∀ item ∈ program.items, item.ImportsVariables := by
  unfold Program.parse at h
  split at h
  case h_2 => cases h
  case h_1 items hitems =>
    cases h
    unfold parseItems at hitems
    dsimp only at hitems
    split at hitems
    · cases hitems
    · rename_i hrun
      have himports := (yields_programItems_imports (grammar_sound _) rfl
        (ParserState.ordered_init _)).run _ _ hrun
      split at hitems
      · cases hitems
      · rename_i hfault
        split at hitems
        · cases hitems
        · cases hitems
          exact himports (clean_of_firstFault? hfault)

end ModuleBundler.Script
