import ModuleBundler.Script.Program
import ModuleBundler.Proofs.Script.Yield

/-!
# What declarations bind

The declarations that an accepted script exports are functions, classes, and lists of variables
over patterns of the grammar. In these, `boundNames` finds every name that is bound: through nested
objects and arrays, in front of defaults, and behind rest dots.
-/

namespace ModuleBundler.Script

open Script.Parser

namespace Node

/-! ## Patterns -/

/-- Patterns of the grammar, and the parts that these are made of. -/
inductive IsPattern : Node → Prop where
  | name (name : String) (span : Span) : IsPattern (.mk (.binding name) span [])
  | object {span : Span} {parts : List Node} (h : ∀ p ∈ parts, IsPattern p) :
    IsPattern (.mk .objectPattern span parts)
  | array {span : Span} {parts : List Node} (h : ∀ p ∈ parts, IsPattern p) :
    IsPattern (.mk .arrayPattern span parts)
  | property {span : Span} {key target : Node} (h : IsPattern target) :
    IsPattern (.mk .patternProperty span [key, target])
  /-- The name of the property is the name that is bound. -/
  | shorthand {span : Span} {target : Node} (h : IsPattern target) :
    IsPattern (.mk .patternProperty span [target])
  | withDefault {span : Span} {target value : Node} (h : IsPattern target) :
    IsPattern (.mk .withDefault span [target, value])
  | rest {span : Span} {target : Node} (h : IsPattern target) : IsPattern (.mk .rest span [target])
  | hole (span : Span) : IsPattern (.mk .hole span [])

/-- The pattern binds a name. Keys and defaults bind none. -/
inductive Binds : Node → SourceName → Prop where
  | name (name : String) (span : Span) : Binds (.mk (.binding name) span []) ⟨name, span.start⟩
  | object {span : Span} {parts : List Node} {p : Node} {n : SourceName} (hp : p ∈ parts)
    (h : Binds p n) : Binds (.mk .objectPattern span parts) n
  | array {span : Span} {parts : List Node} {p : Node} {n : SourceName} (hp : p ∈ parts)
    (h : Binds p n) : Binds (.mk .arrayPattern span parts) n
  | property {span : Span} {key target : Node} {n : SourceName} (h : Binds target n) :
    Binds (.mk .patternProperty span [key, target]) n
  | shorthand {span : Span} {target : Node} {n : SourceName} (h : Binds target n) :
    Binds (.mk .patternProperty span [target]) n
  | withDefault {span : Span} {target value : Node} {n : SourceName} (h : Binds target n) :
    Binds (.mk .withDefault span [target, value]) n
  | rest {span : Span} {target : Node} {n : SourceName} (h : Binds target n) :
    Binds (.mk .rest span [target]) n

theorem boundNamesOfAll_eq_flatMap (parts : List Node) :
    boundNamesOfAll parts = parts.flatMap boundNames := by
  induction parts with
  | nil => simp [boundNamesOfAll]
  | cons p parts ih => simp [boundNamesOfAll, ih]

theorem mem_boundNames {p : Node} (h : p.IsPattern) (n : SourceName) :
    n ∈ p.boundNames ↔ p.Binds n := by
  induction h with
  | name name span =>
    rw [boundNames, List.mem_singleton]
    constructor
    · rintro rfl
      exact .name name span
    · intro hn
      cases hn
      rfl
  | object h ih =>
    rw [boundNames, boundNamesOfAll_eq_flatMap, List.mem_flatMap]
    constructor
    · rintro ⟨p, hp, hn⟩
      exact .object hp ((ih p hp).1 hn)
    · intro hn
      cases hn with
      | object hp hn => exact ⟨_, hp, (ih _ hp).2 hn⟩
  | array h ih =>
    rw [boundNames, boundNamesOfAll_eq_flatMap, List.mem_flatMap]
    constructor
    · rintro ⟨p, hp, hn⟩
      exact .array hp ((ih p hp).1 hn)
    · intro hn
      cases hn with
      | array hp hn => exact ⟨_, hp, (ih _ hp).2 hn⟩
  | property h ih =>
    rw [boundNames, boundNamesOfLast, boundNamesOfLast, ih]
    · constructor
      · exact .property
      · intro hn
        cases hn with
        | property hn => exact hn
    · simp
  | shorthand h ih =>
    rw [boundNames, boundNamesOfLast, ih]
    constructor
    · exact .shorthand
    · intro hn
      cases hn with
      | shorthand hn => exact hn
  | withDefault h ih =>
    rw [boundNames, boundNamesOfFirst, ih]
    constructor
    · exact .withDefault
    · intro hn
      cases hn with
      | withDefault hn => exact hn
  | rest h ih =>
    rw [boundNames, boundNamesOfAll_eq_flatMap, List.flatMap_singleton, ih]
    constructor
    · exact .rest
    · intro hn
      cases hn with
      | rest hn => exact hn
  | hole span =>
    have hnone : (Node.mk .hole span []).boundNames = [] := by simp [boundNames]
    rw [hnone]
    constructor
    · simp
    · intro hn
      cases hn

/-! ## Declarations -/

/-- The declarator takes a value apart by a pattern. -/
def IsDeclarator (d : Node) : Prop :=
  ∃ inner target values, d = .mk .declarator inner (target :: values) ∧ target.IsPattern

/-- What `export` may stand in front of. -/
inductive IsDeclaration : Node → Prop where
  | function (name? : Option SourceName) (span : Span) (parts : List Node) :
    IsDeclaration (.mk (.functionDefinition name?) span parts)
  | classDefinition (name? : Option SourceName) (span : Span) (parts : List Node) :
    IsDeclaration (.mk (.classDefinition name?) span parts)
  | variableList {span : Span} {ds : List Node} (h : ∀ d ∈ ds, IsDeclarator d) :
    IsDeclaration (.mk .variableList span ds)

/-- The declaration declares a name. -/
inductive Declares : Node → SourceName → Prop where
  | function (name : SourceName) (span : Span) (parts : List Node) :
    Declares (.mk (.functionDefinition (some name)) span parts) name
  | classDefinition (name : SourceName) (span : Span) (parts : List Node) :
    Declares (.mk (.classDefinition (some name)) span parts) name
  | declarator {span inner : Span} {ds values : List Node} {target : Node} {n : SourceName}
    (hd : .mk .declarator inner (target :: values) ∈ ds) (h : target.Binds n) :
    Declares (.mk .variableList span ds) n

theorem mem_declaredNames {d : Node} (h : d.IsDeclaration) (n : SourceName) :
    n ∈ Item.declaredNames d ↔ d.Declares n := by
  cases h with
  | function name? span parts =>
    change n ∈ name?.toList ↔ _
    rw [Option.mem_toList]
    constructor
    · rintro rfl
      exact .function n span parts
    · intro hn
      cases hn
      rfl
  | classDefinition name? span parts =>
    change n ∈ name?.toList ↔ _
    rw [Option.mem_toList]
    constructor
    · rintro rfl
      exact .classDefinition n span parts
    · intro hn
      cases hn
      rfl
  | @variableList span ds hds =>
    have hnames : Item.declaredNames (.mk .variableList span ds) = ds.flatMap boundNames := by
      rw [← boundNamesOfAll_eq_flatMap]
      exact boundNames.eq_def _
    rw [hnames, List.mem_flatMap]
    constructor
    · rintro ⟨d, hd, hn⟩
      obtain ⟨inner, target, values, rfl, htarget⟩ := hds d hd
      rw [boundNames, boundNamesOfFirst, mem_boundNames htarget] at hn
      exact .declarator hd hn
    · intro hn
      cases hn with
      | @declarator _ _ _ values target _ hd hn =>
        obtain ⟨_, _, _, heq, htarget⟩ := hds _ hd
        cases heq
        refine ⟨_, hd, ?_⟩
        rw [boundNames, boundNamesOfFirst, mem_boundNames htarget]
        exact hn

end Node

/-! ## What parsers return -/

section Returns

variable {α β : Type}

/-- `Q` holds of every result of the parser. -/
def Returns (p : Parser α) (Q : α → Prop) : Prop := ∀ ctx s, Yields p ctx s fun a _ => Q a

namespace Returns

variable {p : Parser α} {f : α → Parser β} {Q : α → Prop} {R : β → Prop}

theorem pure {a : α} (h : Q a) : Returns (Pure.pure a) Q := fun _ _ => .pure h

theorem bind (hp : Returns p Q) (hf : ∀ a, Q a → Returns (f a) R) : Returns (p >>= f) R :=
  fun ctx s => .bind ((hp ctx s).mono fun a t ha => hf a ha ctx t)

/-- The first result is of no concern. -/
theorem after (hf : ∀ a, Returns (f a) R) : Returns (p >>= f) R :=
  fun ctx _ => .bind ⟨fun a t _ => hf a ctx t⟩

theorem ite {c : Prop} [Decidable c] {q : Parser α} (hp : Returns p Q) (hq : Returns q Q) :
    Returns (if c then p else q) Q :=
  fun ctx s => .ite (hp ctx s) (hq ctx s)

theorem fail {offset : Nat} : Returns (Parser.fail offset : Parser α) Q := fun _ _ => .fail

theorem unexpected : Returns (Parser.unexpected : Parser α) Q := fun _ _ => .unexpected

theorem within {change : Context → Context} (h : Returns p Q) :
    Returns (Parser.within change p) Q := fun ctx s => .within (h (change ctx) s)

theorem node {shape : Shape} {start : Nat} {parts : List Node} {Q : Node → Prop}
    (h : ∀ span, Q (.mk shape span parts)) : Returns (Parser.node shape start parts) Q :=
  after fun _ => pure (h _)

/-- Whatever a step goes on with or ends with keeps what held before. -/
theorem iterate {start : β} {step : β → Parser (β ⊕ α)} (I : β → Prop) (h : I start)
    (hstep : ∀ b, I b → Returns (step b) (Sum.elim I Q)) : Returns (Parser.iterate start step) Q :=
  fun ctx _ => .iterate (fun b _ => I b) h fun b t hb =>
    (hstep b hb ctx t).mono fun r _ hr => by cases r <;> exact hr

end Returns

end Returns

/-! ## Patterns and declarations that are read -/

section Patterns

variable {rules : Rules}

theorem returns_bindingIdentifier : Returns bindingIdentifier Node.IsPattern :=
  .after fun _ => .after fun _ => .after fun _ => .after fun _ => .after fun _ => .after fun name =>
    .node fun span => .name name span

theorem returns_bindingElement (h : Returns (rules .bindingTarget) Node.IsPattern) :
    Returns (bindingElement rules) Node.IsPattern := by
  refine .after fun _ => .bind h fun target htarget => .after fun _ => .ite ?_ (.pure htarget)
  exact .after fun _ => .node fun _ => .withDefault htarget

theorem returns_restElement (h : Returns (rules .bindingTarget) Node.IsPattern) :
    Returns (restElement rules) Node.IsPattern :=
  .after fun _ => .after fun _ => .bind h fun _ htarget => .after fun _ =>
    .node fun _ => .rest htarget

theorem returns_bindingProperty (h : Returns (rules .bindingTarget) Node.IsPattern) :
    Returns (bindingProperty rules) Node.IsPattern := by
  refine .after fun _ => .after fun _ => .after fun _ => .after fun _ => .after fun ⟨key, _⟩ =>
    .after fun _ => .ite ?_ ?_
  · refine .after fun _ => .after fun _ => .ite ?_ ?_
    · exact .after fun _ => .bind (.node fun _ => .withDefault (.name _ _)) fun _ hvalue =>
        .node fun _ => .shorthand hvalue
    · exact .node fun _ => .shorthand (.name _ _)
  · exact .after fun _ => .bind (returns_bindingElement h) fun _ hvalue =>
      .node fun _ => .property hvalue

theorem returns_commaListWithRest {close : String} {element rest : Parser Node} {Q : Node → Prop}
    (helement : Returns element Q) (hrest : Returns rest Q) :
    Returns (commaListWithRest close element rest) fun parts => ∀ p ∈ parts, Q p := by
  refine .iterate (fun b => ∀ p ∈ b.1, Q p) (by simp) ?_
  rintro ⟨found, rest?⟩ hfound
  have hdone : ∀ p ∈ found.reverse, Q p := by simpa using hfound
  have hmore : ∀ p, Q p → ∀ p' ∈ p :: found, Q p' := fun p hp => List.forall_mem_cons.2 ⟨hp, hfound⟩
  refine .after fun _ => .ite (.pure hdone) (.after fun _ => .ite (.pure hdone) ?_)
  refine .after fun _ => .after fun _ => .ite ?_ ?_
  · exact .bind hrest fun r hr => .pure (hmore r hr)
  · exact .bind helement fun e he => .pure (hmore e he)

theorem returns_elementOrHole {element : Parser Node} (h : Returns element Node.IsPattern) :
    Returns (elementOrHole element) Node.IsPattern :=
  .after fun _ => .ite (.after fun _ => .pure (.hole _)) h

theorem returns_bindingTarget (h : Returns (rules .bindingTarget) Node.IsPattern) :
    Returns (bindingTarget rules) Node.IsPattern := by
  refine .after fun _ => .after fun l => ?_
  split
  · refine .after fun _ => .bind (returns_commaListWithRest (returns_bindingProperty h)
      (returns_restElement h)) fun parts hparts => .after fun _ => .after fun _ => ?_
    exact .node fun _ => .object hparts
  · refine .after fun _ => .bind (returns_commaListWithRest
      (returns_elementOrHole (returns_bindingElement h)) (returns_restElement h))
      fun parts hparts => .after fun _ => ?_
    exact .node fun _ => .array hparts
  · exact returns_bindingIdentifier

/-- What the grammar reads as a target is a pattern, by induction on how far it is unfolded. -/
theorem returns_grammar (n : Nat) : Returns (grammar n .bindingTarget) Node.IsPattern := by
  induction n with
  | zero => exact .after fun _ => .fail
  | succ n ih => exact returns_bindingTarget ih

end Patterns

section Declarations

variable {rules : Rules}

theorem returns_declarator (h : Returns (rules .bindingTarget) Node.IsPattern) :
    Returns (declarator rules) Node.IsDeclarator := by
  refine .after fun _ => .bind h fun target htarget => .after fun _ => .ite ?_ ?_
  · exact .after fun _ => .node fun _ => ⟨_, target, _, rfl, htarget⟩
  · exact .node fun _ => ⟨_, target, _, rfl, htarget⟩

theorem returns_variableDeclarator (h : Returns (rules .bindingTarget) Node.IsPattern)
    (kind : VariableKind) (inLoop : Bool) :
    Returns (variableDeclarator rules kind inLoop) Node.IsDeclarator :=
  .bind (returns_declarator h) fun _ hd => .ite (.pure hd) (.after fun _ => .pure hd)

theorem returns_commaSeparated {p : Parser Node} {Q : Node → Prop} (h : Returns p Q) :
    Returns (commaSeparated p) fun parts => ∀ p ∈ parts, Q p := by
  refine .bind h fun first hfirst => .iterate (fun found => ∀ p ∈ found, Q p) (by simpa) ?_
  intro found hfound
  refine .after fun _ => .ite ?_ (.pure (by simpa using hfound))
  exact .bind h fun e he => .pure (List.forall_mem_cons.2 ⟨he, hfound⟩)

theorem returns_variableList (h : Returns (rules .bindingTarget) Node.IsPattern)
    (kind : VariableKind) (inLoop : Bool) :
    Returns (variableList rules kind inLoop) Node.IsDeclaration :=
  .after fun _ => .after fun _ => .bind
    (returns_commaSeparated (returns_variableDeclarator h kind inLoop)) fun _ hds =>
      .after fun _ => .node fun _ => .variableList hds

theorem returns_functionDefinition (start : Nat) (async : Bool) (place : FunctionPlace) :
    Returns (functionDefinition rules start async place) Node.IsDeclaration := by
  refine .after fun _ => .after fun _ => .after fun name? => .within ?_
  exact .after fun _ => .after fun _ => .after fun _ => .after fun _ =>
    .node fun _ => .function name? _ _

theorem returns_classDefinition (start : Nat) (ds : List Node) :
    Returns (classDefinition rules start ds) Node.IsDeclaration :=
  .after fun _ => .after fun name? => .after fun _ => .after fun _ => .after fun _ =>
    .node fun _ => .classDefinition name? _ _

theorem returns_declared (h : Returns (rules .bindingTarget) Node.IsPattern) (ds : List Node) :
    Returns (declared rules ds) Node.IsDeclaration := by
  refine .after fun _ => .after fun own => .after fun _ => .ite (returns_classDefinition _ _) ?_
  refine .after fun _ => .after fun kind? => ?_
  split
  · exact returns_variableList h _ false
  · refine .after fun _ => .ite (returns_functionDefinition _ _ _) (.after fun _ => .ite ?_ ?_)
    · exact .after fun _ => returns_functionDefinition _ _ _
    · exact .unexpected

end Declarations

section Items

variable {rules : Rules}

/-- What the item exports by declaring it is a declaration. -/
def Item.IsDeclared : Item → Prop
  | .exportDeclaration _ d => d.IsDeclaration
  | _ => True

/-- Statements export nothing. -/
theorem returns_statement (p : Parser Node) :
    Returns (do return .statement (← p)) Item.IsDeclared :=
  .after fun _ => .pure trivial

theorem returns_importDeclaration : Returns importDeclaration Item.IsDeclared :=
  .after fun _ => .after fun _ => .after fun _ => .after fun _ => .after fun _ => .after fun _ =>
    .after fun _ => .pure trivial

theorem returns_exportDeclaration (h : Returns (rules .bindingTarget) Node.IsPattern)
    (ds : List Node) : Returns (exportDeclaration rules ds) Item.IsDeclared := by
  refine .after fun _ => .after fun _ => .after fun l => ?_
  split
  · exact .after fun _ => .after fun _ => .after fun _ => .after fun _ => .pure trivial
  · exact .after fun _ => .after fun _ => .after fun _ => .after fun _ => .after fun _ =>
      .after fun _ => .after fun _ => .pure trivial
  · refine .after fun _ => .after fun _ => .after fun _ => .after fun _ => .after fun _ =>
      .ite ?_ ?_
    · exact .after fun _ => .after fun _ => .after fun _ => .after fun _ => .pure trivial
    · exact .after fun _ => .after fun _ => .after fun _ => .pure trivial
  · exact .bind (returns_declared h ds) fun _ hd => .after fun _ => .pure hd

theorem isDeclaration_attach {d : Node} (h : d.IsDeclaration) (ds : List Node) :
    (decoratedStatement.attach ds d).IsDeclaration := by
  unfold decoratedStatement.attach
  split
  · exact .classDefinition _ _ _
  · exact h

theorem returns_decoratedStatement (h : Returns (rules .bindingTarget) Node.IsPattern)
    (single : Bool) : Returns (decoratedStatement rules single) Item.IsDeclared := by
  refine .after fun _ => .after fun ds => .after fun _ => .ite ?_ (.after fun _ => .ite ?_ ?_)
  · refine .bind (returns_exportDeclaration h ds) fun item hitem => ?_
    split
    · exact .pure (isDeclaration_attach hitem ds)
    · exact .pure trivial
    · exact .pure hitem
  · exact returns_statement _
  · exact .unexpected

theorem returns_statementItem (h : Returns (rules .bindingTarget) Node.IsPattern) (single : Bool) :
    Returns (statementItem rules single) Item.IsDeclared := by
  refine .after fun _ => .after fun l => ?_
  split
  · exact returns_statement _
  · exact .after fun _ => returns_statement _
  · exact returns_decoratedStatement h single
  · split
    -- most words start a statement that one parser reads
    any_goals exact returns_statement _
    · exact .after fun _ => .after fun _ => returns_statement _
    · exact .ite (returns_statement _) (returns_statement _)
    · exact .after fun _ => .ite (returns_statement _) (returns_statement _)
    · exact .after fun _ => .ite (returns_statement _) (returns_statement _)
    · exact .after fun _ => .ite (.after fun _ => returns_statement _) (returns_statement _)
    · refine .after fun following => ?_
      split
      any_goals exact returns_statement _
      exact returns_importDeclaration
    · exact returns_exportDeclaration h []
  · exact returns_statement _

theorem returns_programItems (h : Returns (rules .bindingTarget) Node.IsPattern) :
    Returns (programItems rules) fun items => ∀ item ∈ items, item.IsDeclared := by
  refine .after fun _ => .iterate (fun found => ∀ item ∈ found, item.IsDeclared) (by simp) ?_
  intro found hfound
  refine .after fun _ => .ite (.pure (by simpa using hfound)) ?_
  refine .bind (returns_statementItem h false) fun item hitem => .pure ?_
  exact List.forall_mem_cons.2 ⟨hitem, hfound⟩

/-- Whatever an accepted script exports by declaring it is a declaration. -/
theorem Program.parse_declared {source : String} {program : Program}
    (h : Program.parse source = .ok program) : ∀ item ∈ program.items, item.IsDeclared := by
  unfold Program.parse at h
  split at h
  case h_2 => cases h
  case h_1 items hitems =>
    cases h
    unfold parseItems at hitems
    dsimp only at hitems
    split at hitems
    · cases hitems
    · rename_i hrun
      have hdeclared := (returns_programItems (returns_grammar _) _ _).run _ _ hrun
      split at hitems
      · cases hitems
      · split at hitems
        · cases hitems
        · cases hitems
          exact hdeclared

end Items

end ModuleBundler.Script
