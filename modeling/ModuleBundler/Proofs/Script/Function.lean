import ModuleBundler.Script.Function
import ModuleBundler.Proofs.Script.Pattern

/-!
# Functions and classes are placed

A function or a class may start before the parser that reads the rest of it does: at the word
`async` or at a decorator. Such parsers go on with a track that begins there.
-/

namespace ModuleBundler.Script

open Node (sitesOfAll)
open ModuleBundler.Script.Parser
open ParserState (Reach)

variable {rules : Rules} {took : Bool} {ctx : Context} {s₀ s : ParserState} {start : Nat}
  {L : List Span}

theorem gathers_many {ends : Parser Bool} {element : Parser Node} (he : Reads ends)
    (h : Builds element) : Gathers sitesOfAll (repeatUntil ends element) := by
  rw [funext Node.sitesOfAll_eq_flatMap]
  exact gathers_repeatUntil he h.gathers

theorem moves_eatModifier (word : String) (sameLine : Bool) :
    Moves (eatModifier word sameLine) := by
  apply (reads_atWord word).moves.bind
  intro b
  refine Moves.ite ?_ (moves_pure false)
  apply (reads_lookahead _).moves.bind
  intro follows
  exact (takes_bump.moves.bind fun _ => moves_pure true).ite (moves_pure false)

theorem builds_decorator (h : rules.Sound) : Builds (decorator rules) := by
  intro ctx s hs
  apply Yields.tokenStart
  apply takes_bump.step (Track.start hs)
  intro _ s t
  apply (h .leftHandSide).within.step t
  intro e s t
  exact Track.node (by simpa using t)

theorem gathers_decorators (h : rules.Sound) : Gathers sitesOfAll (decorators rules) :=
  gathers_many ((reads_atPunctuator "@").bind fun _ => reads_pure _) (builds_decorator h)

/-! ## Parameters and bodies -/

theorem builds_parameter (h : rules.Sound) : Builds (parameter rules) := by
  intro ctx s hs
  apply Yields.tokenStart
  apply (gathers_decorators h).step (Track.start hs)
  intro ds s t
  split
  · exact (builds_bindingElement h).last t
  · apply (builds_bindingElement h).step t
    intro target s t
    exact Track.node (by simpa using t)

theorem builds_parameters (h : rules.Sound) : Builds (parameters rules) := by
  intro ctx s hs
  apply Yields.within
  apply Yields.tokenStart
  apply (takes_expect "(").step (Track.start hs)
  intro _ s t
  have hlist := gathers_commaListWithRest (builds_parameter h).gathers (builds_restElement h) ")"
  apply hlist.step t
  intro parts s t
  apply (takes_expect ")").step t
  intro _ s t
  exact Track.node (by simpa using t)

theorem gathers_statements (h : rules.Sound) : Gathers sitesOfAll (statements rules) := by
  refine gathers_many ?_ (h (.statement false))
  exact (reads_atPunctuator "\x7d").bind fun _ => reads_atFinish.bind fun _ => reads_pure _

theorem builds_functionBody (h : rules.Sound) : Builds (functionBody rules) := by
  intro ctx s hs
  apply Yields.within
  apply Yields.tokenStart
  apply (takes_expect "\x7b").step (Track.start hs)
  intro _ s t
  apply (gathers_statements h).step t
  intro parts s t
  apply (takes_expect "\x7d").step t
  intro _ s t
  exact Track.node (by simpa using t)

theorem built_functionRest (h : rules.Sound) (name? : Option SourceName) (async generator : Bool)
    (t : Track took s₀ start s []) :
    Yields (functionRest rules start name? async generator) ctx s (Built s₀ start) := by
  apply Yields.within
  apply (builds_parameters h).step t
  intro ps s t
  apply (reads_atPunctuator "\x7b").step
  intro _
  apply (moves_failIf _ _).step t
  intro _ s t
  apply (builds_functionBody h).step t
  intro body s t
  exact Track.node (by simpa using t)

theorem moves_functionName? (async generator : Bool) (place : FunctionPlace) :
    Moves (functionName? async generator place) := by
  apply reads_lexeme.moves.bind
  intro l
  refine Moves.ite ?_ ?_
  · apply reads_read.moves.bind
    intro c
    apply (moves_checkIdentifier _ _).bind
    intro _
    exact takes_takeName.moves.bind fun _ => moves_pure _
  · exact reads_tokenStart.moves.bind fun _ => (moves_faultIf _ _).bind fun _ => moves_pure _

theorem built_functionDefinition (h : rules.Sound) (async : Bool) (place : FunctionPlace)
    (t : Track took s₀ start s []) :
    Yields (functionDefinition rules start async place) ctx s (Built s₀ start) := by
  apply (takes_expectWord "function").step t
  intro _ s t
  apply (tries_eat "*").moves.step t
  intro generator s t
  apply (moves_functionName? async generator place).step t
  intro name? s t
  exact built_functionRest h name? async generator t

theorem moves_checkAccessor (kind : MethodKind) (function : Node) :
    Moves (checkAccessor kind function) := by
  apply Moves.ite (moves_faultIf _ _)
  exact (moves_fault _).ite (moves_faultAt? _)

theorem builds_methodFunction (h : rules.Sound) (async generator : Bool) :
    Builds (methodFunction rules async generator) :=
  fun _ _ hs => Yields.tokenStart (built_functionRest h none async generator (Track.start hs))

/-! ## Arrow functions -/

theorem builds_arrowResult (h : rules.Sound) : Builds (arrowResult rules) :=
  (reads_atPunctuator "\x7b").moves.bind_builds fun _ => (builds_functionBody h).ite (h .assignment)

theorem built_arrowBody (h : rules.Sound) (async : Bool) {ps : Node}
    (t : Track true s₀ start s ps.sites) :
    Yields (arrowBody rules start async ps) ctx s (Built s₀ start) := by
  apply Yields.within
  apply (builds_arrowResult h).step t
  intro body s t
  exact Track.node (by simpa using t)

theorem takes_expectArrow : Takes expectArrow := by
  apply reads_afterNewline.moves.bind_takes
  intro _
  apply reads_tokenStart.moves.bind_takes
  intro _
  exact (moves_faultIf _ _).bind_takes fun _ => takes_expect "=>"

/-- The parameter keeps nothing of the argument but its name. -/
theorem built_simpleArrow (h : rules.Sound) (async : Bool) {argument : Node}
    (ha : Built s₀ start argument s) :
    Yields (simpleArrow rules start argument async) ctx s (Built s₀ start) := by
  unfold simpleArrow
  split
  · have t : Track true s₀ start s [] := { Track.ofBuilt ha with fits := .nil }
    apply takes_expectArrow.step t
    intro _ s t
    exact built_arrowBody h async (by simpa [Node.sites] using t)
  · exact Yields.unexpected

/-- The head of an arrow function that was read from `s` on. -/
def IsHead (s : ParserState) : Nat × Bool × Node → ParserState → Prop
  | (start, _, ps), t => start = s.here ∧ Track true s start t ps.sites

theorem arrowHead_isHead (h : rules.Sound) (hs : s.Ordered) :
    Yields (arrowHead rules) ctx s (IsHead s) := by
  apply Yields.tokenStart
  apply (tries_eatWord "async").moves.step (Track.start hs)
  intro async s t
  apply reads_read.step
  intro c
  apply (builds_parameters h).within.step t
  intro ps s t
  apply takes_expectArrow.step t
  intro _ s t
  refine Yields.pure ⟨rfl, ?_⟩
  simpa using t

/-- The node, if there is one, was read from the current token on. -/
def Offers (p : Parser (Option Node)) : Prop :=
  ∀ ctx s, s.Ordered → Yields p ctx s fun n? t => s.Reach t ∧ ∀ n ∈ n?, Built s s.here n t

theorem offers_none : Offers (pure none) :=
  fun _ _ hs => Yields.pure ⟨Reach.refl hs, nofun⟩

theorem tryArrowHead_isHead (h : rules.Sound) (hs : s.Ordered) :
    Yields (tryArrowHead rules) ctx s
      fun head? t => s.Reach t ∧ ∀ head ∈ head?, IsHead s head t := by
  apply Yields.tokenStart
  apply Yields.get
  split
  · exact Yields.pure ⟨Reach.refl hs, nofun⟩
  · constructor
    intro head? t ht
    cases hr : arrowHead rules ctx s with
    | ok r =>
      simp only [hr] at ht
      cases ht
      have hh := (arrowHead_isHead h hs).run r.1 r.2 hr
      refine ⟨hh.2.reach, ?_⟩
      rintro _ ⟨⟩
      exact hh
    | error f =>
      simp only [hr] at ht
      cases ht
      exact ⟨Reach.of_same hs rfl rfl rfl rfl rfl id, nofun⟩

theorem completeArrow_some (h : rules.Sound) {head : Nat × Bool × Node} (hh : IsHead s₀ head s) :
    Yields (do
      let arrow ← completeArrow rules head
      pure (some arrow)) ctx s fun n? t => s₀.Reach t ∧ ∀ n ∈ n?, Built s₀ s₀.here n t := by
  obtain ⟨start, async, ps⟩ := head
  obtain ⟨rfl, t⟩ := hh
  apply Built.step (built_arrowBody h async t)
  intro arrow s ha
  refine Yields.pure ⟨ha.reach, ?_⟩
  rintro _ ⟨⟩
  exact ha

theorem offers_parenthesizedArrow? (h : rules.Sound) : Offers (parenthesizedArrow? rules) := by
  intro ctx s hs
  apply (reads_lookahead _).step
  intro answer
  split
  · exact offers_none ctx s hs
  · apply Yields.bind
    apply (arrowHead_isHead h hs).mono
    intro head s hh
    exact completeArrow_some h hh
  · apply Yields.bind
    apply (tryArrowHead_isHead h hs).mono
    intro head? s hh
    split
    · exact completeArrow_some h (hh.2 _ rfl)
    · exact Yields.pure ⟨hh.1, nofun⟩

theorem offers_asyncSimpleArrow? (h : rules.Sound) : Offers (asyncSimpleArrow? rules) := by
  intro ctx s hs
  apply (reads_atWord "async").step
  intro _
  split
  case isFalse => exact offers_none ctx s hs
  apply (reads_lookahead _).step
  intro isArrow
  split
  case isFalse => exact offers_none ctx s hs
  apply Yields.tokenStart
  apply takes_bump.step (Track.start hs)
  intro _ s t
  apply Built.step ((h (.binary 0)).last t)
  intro argument s ha
  apply Built.step (Yields.within (built_simpleArrow h true ha))
  intro arrow s hr
  refine Yields.pure ⟨hr.reach, ?_⟩
  rintro _ ⟨⟩
  exact hr

/-! ## Classes -/

theorem moves_modifiers : Moves modifiers := by
  intro ctx s hs
  apply Yields.iterate (fun _ t => Track false s s.here t []) (Track.start hs)
  intro m s t
  apply reads_peek.step
  intro following
  apply (moves_onlyIf (moves_eatModifier "static" false) _).step t
  intro _ s t
  split
  · exact Yields.pure t
  apply (moves_onlyIf (moves_eatModifier "async" true) _).step t
  intro _ s t
  split
  · exact Yields.pure t
  apply (moves_onlyIf (moves_eatModifier "accessor" true) _).step t
  intro _ s t
  split
  · exact Yields.pure t
  · exact Yields.pure t.reach

theorem built_staticBlock (h : rules.Sound) (t : Track took s₀ start s []) :
    Yields (staticBlock rules start) ctx s (Built s₀ start) := by
  apply takes_bump.step t
  intro _ s t
  apply Yields.within
  apply (takes_expect "\x7b").step t
  intro _ s t
  apply (gathers_statements h).step t
  intro parts s t
  apply (takes_expect "\x7d").step t
  intro _ s t
  exact Track.node (by simpa using t)

theorem moves_checkMethodName (key : Node) (computed : Bool) (m : Modifiers) (kind : MethodKind)
    (generator : Bool) : Moves (checkMethodName key computed m kind generator) := by
  unfold checkMethodName
  split
  · exact moves_fault _
  · exact moves_faultIf _ _
  · exact moves_pure ()

theorem builds_classElementName (h : rules.Sound) :
    BuildsPart Prod.fst (classElementName rules) := by
  intro ctx s hs
  apply reads_lexeme.step
  intro l
  split
  · apply Built.step (builds_privateName ctx s hs)
    intro key s hk
    exact (moves_faultIf _ _).pass hk fun _ s hk => Yields.pure hk
  · exact builds_propertyName h ctx s hs

theorem built_accessor (h : rules.Sound) {ds : List Node} (m : Modifiers) (kind : MethodKind)
    (t : Track took s₀ start s (sitesOfAll ds)) :
    Yields (accessor rules start ds m kind) ctx s (Built s₀ start) := by
  apply (builds_classElementName h).step t
  rintro ⟨key, computed⟩ s t
  apply (builds_methodFunction h false false).step t
  intro function s t
  apply (moves_checkAccessor kind function).step t
  intro _ s t
  apply (moves_checkMethodName key computed m kind false).step t
  intro _ s t
  exact Track.node (by simpa using t)

theorem moves_checkFieldName (key : Node) (computed : Bool) (m : Modifiers) :
    Moves (checkFieldName key computed m) := by
  unfold checkFieldName
  split
  · exact moves_fault _
  · exact moves_fault _
  · exact moves_pure ()

theorem built_fieldRest (h : rules.Sound) {ds : List Node} (m : Modifiers) {key : Node}
    (computed : Bool) (t : Track true s₀ start s (sitesOfAll ds ++ key.sites)) :
    Yields (fieldRest rules start ds m key computed) ctx s (Built s₀ start) := by
  apply (moves_checkFieldName key computed m).step t
  intro _ s t
  apply (tries_eat "=").moves.step t
  intro present s t
  apply (gathers_listIf (h .assignment).within present).step t
  intro value s t
  apply (moves_faultIf _ _).step t
  intro _ s t
  apply moves_endStatement.step t
  intro _ s t
  exact Track.node (by simpa using t)

theorem builds_classElement (h : rules.Sound) : Builds (classElement rules) := by
  intro ctx s hs
  apply Yields.tokenStart
  apply (gathers_decorators h).step (Track.start hs)
  intro ds s t
  apply moves_modifiers.step t
  intro m s t
  apply (reads_atWord "static").step
  intro _
  apply reads_peek.step
  intro following
  split
  · refine (moves_forM fun d => moves_fault _).step t fun _ s t => ?_
    exact built_staticBlock h { t with fits := .nil }
  apply (moves_eatModifier "get" false).step t
  intro _ s t
  split
  · exact built_accessor h m .getter t
  apply (moves_eatModifier "set" false).step t
  intro _ s t
  split
  · exact built_accessor h m .setter t
  apply (tries_eat "*").moves.step t
  intro generator s t
  apply (builds_classElementName h).step t
  rintro ⟨key, computed⟩ s t
  apply (reads_atPunctuator "(").step
  intro _
  split
  · apply (builds_methodFunction h m.isAsync generator).step t
    intro function s t
    apply (moves_checkMethodName key computed m .plain generator).step t
    intro _ s t
    exact Track.node (by simpa using t)
  · exact built_fieldRest h m computed (by simpa using t)

theorem gathers_classBody (h : rules.Sound) : Gathers sitesOfAll (classBody rules) := by
  intro ctx s hs
  apply (takes_expect "\x7b").moves.step (Track.start hs)
  intro _ u t
  refine Yields.bind (Yields.iterate
    (fun found u => Track false s s.here u (sitesOfAll found.reverse)) t fun found u t => ?_)
  apply (tries_eat ";").moves.step t
  intro _ u t
  split
  · exact Yields.pure t
  apply (reads_atListEnd "\x7d").step
  intro _
  split
  · apply Yields.pure
    exact (takes_expect "\x7d").moves.step t fun _ u t => Yields.pure ⟨t.reach, t.fits⟩
  apply (builds_classElement h).gathers.step t
  intro n u t
  apply Yields.pure
  simpa using t

theorem moves_className? : Moves className? := by
  apply reads_lexeme.moves.bind
  intro l
  apply (reads_atWord "implements").moves.bind
  intro _
  refine Moves.ite ?_ (moves_pure none)
  apply reads_read.moves.bind
  intro c
  apply (moves_checkIdentifier _ _).bind
  intro _
  exact takes_takeName.moves.bind fun _ => moves_pure _

theorem built_classDefinition (h : rules.Sound) {ds : List Node}
    (t : Track took s₀ start s (sitesOfAll ds)) :
    Yields (classDefinition rules start ds) ctx s (Built s₀ start) := by
  apply (takes_expectWord "class").step t
  intro _ s t
  apply moves_className?.step t
  intro name? s t
  apply (tries_eatWord "extends").moves.step t
  intro present s t
  apply (gathers_listIf (h .leftHandSide) present).step t
  intro heritage s t
  apply (gathers_classBody h).within.step t
  intro parts s t
  exact Track.node (by simpa using t)

end ModuleBundler.Script
