import ModuleBundler.Proofs.Lowering.Reexport

/-!
# What generated code does

A text is executed by its syntax tree. Other modules, and the properties of their values, come from
a host; a step may throw, and what has been done by then stays done. A module is evaluated each time
it is asked for, so the log of `require` is part of the outcome.
-/

namespace ModuleBundler.Script.Node

mutual

/-- A variable of this name is used somewhere. -/
def mentions (name : String) : Node → Bool
  | .mk shape _ parts => shape == .identifier name || mentionsAny name parts

def mentionsAny (name : String) : List Node → Bool
  | [] => false
  | n :: r => mentions name n || mentionsAny name r

end

end ModuleBundler.Script.Node

namespace ModuleBundler.Lowering

open Script
open Script.Parser (Field IsApplication IsMember IsKeyLoop Link Operated differs testOf)

/-! ## The helper -/

/-- Expressions over the argument of a function. -/
inductive Formula where
  | argument
  | field (f : Formula) (name : String)
  | both (f g : Formula)
  | choice (test yes no : Formula)

def Formula.render : Formula → String
  | .argument => "m"
  | .field f name => f.render ++ "." ++ name
  | .both f g => f.render ++ " && " ++ g.render
  | .choice test yes no => test.render ++ " ? " ++ yes.render ++ " : " ++ no.render

/-- What the helper for default exports gives. -/
def interopFormula : Formula :=
  .choice (.both .argument (.field .argument "__esModule")) (.field .argument "default") .argument

theorem interopHelper_eq : interopHelper = "var " ++ interopName ++
    " = function (m) \x7b return " ++ interopFormula.render ++ "; \x7d;\n" := by
  decide +kernel

/-! ## Execution -/

/-- What the code of a module finds around it. -/
structure Host (V : Type) where
  /-- The value of a module, after the modules that have been asked for before. -/
  require : List String → String → Option V
  property : V → String → Option V
  truthy : V → Bool
  /-- What a statement in a function over a value gives to `exports`, if the syntax does not tell
  what statement it is. -/
  other : Node → V → Option (List (String × V))

section Host

variable {V : Type} (h : Host V) (v : V)

def Formula.eval : Formula → Option V
  | .argument => some v
  | .field f name => do h.property (← f.eval) name
  | .both f g => do
    let a ← f.eval
    if h.truthy a then g.eval else pure a
  | .choice test yes no => do if h.truthy (← test.eval) then yes.eval else no.eval

def Host.interop : Option V := interopFormula.eval h v

/-- The default export of a module that is marked as one, and the value itself otherwise. -/
theorem Host.interop_eq : h.interop v =
    if h.truthy v then do
      if h.truthy (← h.property v "__esModule") then h.property v "default" else some v
    else some v := by
  simp only [interop, interopFormula, Formula.eval]
  cases hv : h.truthy v <;> simp [hv]

end Host

/-- What has been done so far, in order. -/
structure Progress (V : Type) where
  required : List String := []
  constants : List (String × V) := []
  exports : List (String × V) := []

/-- Code that comes to a result or throws. -/
def Run (V α : Type) := Progress V → Option α × Progress V

namespace Run

variable {V α β : Type}

instance : Monad (Run V) where
  pure a := fun p => (some a, p)
  bind x f := fun p =>
    match x p with
    | (some a, q) => f a q
    | (none, q) => (none, q)

theorem bind_apply (x : Run V α) (f : α → Run V β) (p : Progress V) : (x >>= f) p =
    match x p with
    | (some a, q) => f a q
    | (none, q) => (none, q) := rfl

instance : LawfulMonad (Run V) := LawfulMonad.mk' (Run V)
  (fun x => by
    funext p
    change (x >>= pure) p = x p
    rw [bind_apply]
    rcases x p with ⟨_ | a, q⟩ <;> rfl)
  (fun _ _ => rfl)
  (fun x f g => by
    funext p
    simp only [bind_apply]
    rcases x p with ⟨_ | a, q⟩ <;> rfl)

def throws : Run V α := fun p => (none, p)

def ofOption (o : Option α) : Run V α := fun p => (o, p)

def require (h : Host V) (specifier : String) : Run V V := fun p =>
  (h.require p.required specifier, { p with required := p.required ++ [specifier] })

def declare (name : String) (v : V) : Run V Unit := fun p =>
  (some (), { p with constants := p.constants ++ [(name, v)] })

def assign (name : String) (v : V) : Run V Unit := fun p =>
  (some (), { p with exports := p.exports ++ [(name, v)] })

/-- What a statement that is not told apart does in a function over `v`. -/
def other (h : Host V) (n : Node) (v : V) : Run V Unit := fun p =>
  match h.other n v with
  | some assigned => (some (), { p with exports := p.exports ++ assigned })
  | none => (none, p)

def constant (name : String) : Run V V := fun p => (p.constants.reverse.lookup name, p)

theorem bind_some {x : Run V α} {f : α → Run V β} {p q : Progress V} {a : α}
    (hx : x p = (some a, q)) : (x >>= f) p = f a q := by
  rw [bind_apply, hx]

end Run

/-- The names that a text declares, and the parameter of the function that the code stands in. -/
structure Scope (V : Type) where
  declared : List String
  parameter? : Option (String × V) := none

namespace Scope

variable {V : Type}

/-- A name means what is declared here, and nothing from outside. -/
def hides (scope : Scope V) (name : String) : Bool :=
  scope.declared.contains name || scope.parameter?.any (·.1 == name)

def lookup (scope : Scope V) (name : String) : Run V V :=
  match scope.parameter? with
  | some (parameter, v) => if parameter = name then pure v else .constant name
  | none => .constant name

end Scope

def keyName? : Node → Option String
  | .mk (.propertyName key) _ _ | .mk (.string key) _ _ => some key
  | _ => none

section Execution

variable {V : Type} (h : Host V) (scope : Scope V)

/-- Variables, properties, and calls of `require` and of the helper. Other expressions are not
executed. -/
def value : Node → Run V V
  | .mk (.identifier name) _ _ => scope.lookup name
  | .mk .call _ [.mk (.identifier callee) _ _, argument] =>
    if scope.hides callee then .throws
    else if callee = "require" then
      match argument with
      | .mk (.string specifier) _ _ => .require h specifier
      | _ => .throws
    else if callee = interopName then do .ofOption (h.interop (← value argument))
    else .throws
  | .mk .member _ [object, key] => do
    let v ← value object
    match keyName? key with
    | some key => .ofOption (h.property v key)
    | none => .throws
  | _ => .throws
termination_by structural n => n

/-- `target = e`, where the target is a property of `exports`. -/
def assignment (target e : Node) : Run V Unit :=
  match target with
  | .mk .member _ [.mk (.identifier object) _ _, key] =>
    match object == "exports" && !scope.hides object, keyName? key with
    | true, some key => do .assign key (← value h scope e)
    | _, _ => .throws
  | _ => .throws

/-- A statement of a function over `v`. -/
def innerStatement (v : V) : Node → Run V Unit
  | .mk .expressionStatement _ [.mk (.assignment true) _ [target, e]] =>
    assignment h scope target e
  | n => if n.mentions "require" then .throws else .other h n v

def expression : Node → Run V Unit
  | .mk (.assignment true) _ [target, e] => assignment h scope target e
  | .mk .call _ [.mk .parenthesized _ [.mk (.functionDefinition none) _
      [.mk .parameters _ [.mk (.binding name) _ _], .mk .body _ body]], argument] => do
    let v ← value h scope argument
    body.forM (innerStatement h { scope with parameter? := some (name, v) } v)
  | e => do let _ ← value h scope e

/-- A property of `v` becomes a constant. -/
def bindField (v : V) : Node → Run V Unit
  | .mk .patternProperty _ [.mk (.binding name) _ _] => do
    .declare name (← .ofOption (h.property v name))
  | .mk .patternProperty _ [key, .mk (.binding name) _ _] =>
    match keyName? key with
    | some key => do .declare name (← .ofOption (h.property v key))
    | none => .throws
  | _ => .throws

def bindTarget (v : V) : Node → Run V Unit
  | .mk (.binding name) _ _ => .declare name v
  | .mk .objectPattern _ fields => fields.forM (bindField h v)
  | _ => .throws

def statement : Node → Run V Unit
  | .mk .variableList _ [.mk .declarator _ [target, e]] => do
    bindTarget h (← value h scope e) target
  | .mk .expressionStatement _ [e] => expression h scope e
  | _ => .throws

end Execution

def node? : Item → Option Node
  | .statement n => some n
  | _ => none

/-- The statements of a text that has nothing else. -/
def statements? (text : String) : Option (List Node) := do
  (← (Program.parse text).toOption).items.mapM node?

/-- The names that statements declare as constants. -/
def declaredNames (nodes : List Node) : List String := (Node.boundNamesOfAll nodes).map (·.name)

/-- The constants of a text, in order. -/
def Declares (text : String) (names : List String) : Prop :=
  ∃ nodes, statements? text = some nodes ∧ declaredNames nodes = names

/-- Executes a text. Names that are declared twice stop it before it starts. -/
def execute {V : Type} (h : Host V) (text : String) : Run V Unit :=
  (statements? text).elim .throws fun nodes =>
    if (declaredNames nodes).Nodup then nodes.forM (statement h { declared := declaredNames nodes })
    else .throws

theorem mapM_node? (nodes : List Node) : (nodes.map Item.statement).mapM node? = some nodes := by
  induction nodes with
  | nil => rfl
  | cons n nodes ih => simp [node?, ih]

theorem statements?_of_parse {text : String} {nodes : List Node}
    (hparse : Program.parse text = .ok ⟨nodes.map .statement⟩) : statements? text = some nodes := by
  rw [statements?, hparse]
  exact mapM_node? nodes

theorem execute_eq {V : Type} (h : Host V) {text : String} {nodes : List Node}
    (hnodes : statements? text = some nodes) (hnames : (declaredNames nodes).Nodup) :
    execute h text = nodes.forM (statement h { declared := declaredNames nodes }) := by
  rw [execute, hnodes, Option.elim_some, if_pos hnames]

/-! ## Generated statements -/

section Generated

variable {V : Type} {h : Host V} {scope : Scope V} {n : Node}

def Source.run (h : Host V) : Source → Run V V
  | .required specifier => .require h specifier
  | .held name => .constant name

def bindProperty (h : Host V) (v : V) (b : ImportBinding) : Run V Unit := do
  .declare b.bound (← .ofOption (h.property v b.imported))

def ImportStatement.run (h : Host V) : ImportStatement → Run V Unit
  | .whole name source => do .declare name (← source.run h)
  | .defaultExport name source => do .declare name (← .ofOption (h.interop (← source.run h)))
  | .fields bindings source => do bindings.forM (bindProperty h (← source.run h))
  | .evaluate specifier => do let _ ← .require h specifier

/-- At the top of a text that does not declare `require` anew. -/
structure Scope.Clear (scope : Scope V) : Prop where
  top : scope.parameter? = none
  require : "require" ∉ scope.declared

/-- The statement calls the helper. -/
def ImportStatement.usesInterop : ImportStatement → Bool
  | .defaultExport .. => true
  | .whole .. | .fields .. | .evaluate _ => false

theorem Source.Written.value {source : Source} (hn : source.Written n) (hscope : scope.Clear) :
    Lowering.value h scope n = source.run h := by
  have hrequire : scope.hides "require" = false := by
    simp [Scope.hides, hscope.top, hscope.require]
  cases hn with
  | required specifier => simp [Lowering.value, hrequire, run]
  | held name => simp [Lowering.value, Scope.lookup, hscope.top, run]

theorem bindField_written {b : ImportBinding} (hn : Field.Written (fieldOf b) n)
    (v : V) : bindField h v n = bindProperty h v b := by
  obtain ⟨imported, bound⟩ := b
  unfold fieldOf at hn
  dsimp only at hn
  split at hn
  · rename_i hsame
    subst hsame
    cases hn
    rfl
  · split at hn <;> cases hn <;> rfl

theorem forM_bindField {bindings : List ImportBinding} {fields : List Node}
    (hfields : List.Forall₂ Field.Written (bindings.map fieldOf) fields) (v : V) :
    fields.forM (bindField h v) = bindings.forM (bindProperty h v) := by
  induction bindings generalizing fields with
  | nil =>
    obtain rfl := List.forall₂_nil_left_iff.1 hfields
    rfl
  | cons b bindings ih =>
    obtain ⟨field, rest, hfield, hrest, rfl⟩ := List.forall₂_cons_left_iff.1 hfields
    rw [List.forM, List.forM, bindField_written hfield, ih hrest]

theorem ImportStatement.Written.statement {s : ImportStatement} (hn : s.Written n)
    (hscope : scope.Clear) (hinterop : s.usesInterop = true → interopName ∉ scope.declared) :
    Lowering.statement h scope n = s.run h := by
  cases hn with
  | whole name hsource =>
    simp only [constant, Lowering.statement, hsource.value hscope, run, bindTarget]
  | defaultExport name hsource =>
    have hinterop : scope.hides interopName = false := by
      simp [Scope.hides, hscope.top, hinterop rfl]
    have hname : interopName ≠ "require" := by decide
    simp only [constant, Lowering.statement, Lowering.value, hinterop, Bool.false_eq_true, if_false,
      if_neg hname, if_true, hsource.value hscope, run, bindTarget, bind_assoc]
  | fields hsource hfields =>
    simp only [constant, Lowering.statement, hsource.value hscope, run, bindTarget,
      forM_bindField hfields]
  | evaluate hsource =>
    have hvalue := hsource.value hscope (h := h)
    cases hsource
    simp only [Lowering.statement, expression, hvalue, Source.run, run]

theorem keyName?_written {name : String} (hn : (keyOf name).Written n) :
    keyName? n = some name := by
  unfold keyOf at hn
  split at hn <;> cases hn <;> rfl

theorem value_member {object name : String} (hn : IsMember object (keyOf name) n) :
    value h scope n = scope.lookup object >>= fun v => .ofOption (h.property v name) := by
  cases hn with
  | member hkey => simp only [value, keyName?_written hkey]

theorem assignment_written {exported : String} {target : Node} (e : Node)
    (htarget : IsMember "exports" (keyOf exported) target)
    (hexports : scope.hides "exports" = false) :
    assignment h scope target e = value h scope e >>= .assign exported := by
  cases htarget with
  | member hkey =>
    simp only [assignment, hexports, keyName?_written hkey]
    rfl

/-! ### Imports -/

/-- The constants of a statement. -/
def ImportStatement.declared : ImportStatement → List String
  | .whole name _ | .defaultExport name _ => [name]
  | .fields bindings _ => bindings.map ImportBinding.bound
  | .evaluate _ => []

theorem boundNames_field {f : Field} (hn : f.Written n) :
    n.boundNames.map (·.name) = [f.bound] := by
  cases hn <;> rfl

theorem boundNames_fields {bindings : List ImportBinding} {fields : List Node}
    (hfields : List.Forall₂ Field.Written (bindings.map fieldOf) fields) :
    (Node.boundNamesOfAll fields).map (·.name) = bindings.map ImportBinding.bound := by
  induction bindings generalizing fields with
  | nil =>
    obtain rfl := List.forall₂_nil_left_iff.1 hfields
    rfl
  | cons b bindings ih =>
    obtain ⟨field, rest, hfield, hrest, rfl⟩ := List.forall₂_cons_left_iff.1 hfields
    rw [Node.boundNamesOfAll, List.map_append, boundNames_field hfield, ih hrest]
    rfl

theorem ImportStatement.Written.boundNames {s : ImportStatement} (hn : s.Written n) :
    n.boundNames.map (·.name) = s.declared := by
  cases hn with
  | fields hsource hfields =>
    simpa [constant, Node.boundNames, Node.boundNamesOfAll, Node.boundNamesOfFirst, declared]
      using boundNames_fields hfields
  | whole | defaultExport => rfl
  | evaluate => rfl

theorem declaredNames_written {statements : List ImportStatement} {nodes : List Node}
    (hnodes : List.Forall₂ ImportStatement.Written statements nodes) :
    declaredNames nodes = statements.flatMap ImportStatement.declared := by
  induction hnodes with
  | nil => rfl
  | cons hn _ ih =>
    rw [declaredNames, Node.boundNamesOfAll, List.map_append, hn.boundNames, List.flatMap_cons,
      ← ih]
    rfl

theorem forM_statement {statements : List ImportStatement} {nodes : List Node}
    (hnodes : List.Forall₂ ImportStatement.Written statements nodes) (hscope : scope.Clear)
    (hinterop : ∀ s ∈ statements, s.usesInterop = true → interopName ∉ scope.declared) :
    nodes.forM (statement h scope) = statements.forM (ImportStatement.run h) := by
  induction hnodes with
  | nil => rfl
  | @cons s n _ _ hn _ ih =>
    rw [List.forM, List.forM, hn.statement hscope (hinterop s List.mem_cons_self),
      ih fun s' hs' => hinterop s' (List.mem_cons_of_mem _ hs')]

/-- The constants of an import are those of its statements. -/
theorem declares_imports {statements : List ImportStatement}
    (hread : ∀ s ∈ statements, s.Readable) :
    Declares (" ".intercalate (statements.map ImportStatement.render))
      (statements.flatMap ImportStatement.declared) := by
  obtain ⟨nodes, hparse, hnodes⟩ := parse_statements hread
  exact ⟨nodes, statements?_of_parse hparse, declaredNames_written hnodes⟩

/-- The text of an import does what its statements say. -/
theorem execute_imports {statements : List ImportStatement} (hread : ∀ s ∈ statements, s.Readable)
    (hnodup : (statements.flatMap ImportStatement.declared).Nodup)
    (hrequire : "require" ∉ statements.flatMap ImportStatement.declared)
    (hinterop : ∀ s ∈ statements, s.usesInterop = true →
      interopName ∉ statements.flatMap ImportStatement.declared) (h : Host V) :
    execute h (" ".intercalate (statements.map ImportStatement.render)) =
      statements.forM (ImportStatement.run h) := by
  obtain ⟨nodes, hparse, hnodes⟩ := parse_statements hread
  rw [← declaredNames_written hnodes] at hnodup hrequire hinterop
  rw [execute_eq h (statements?_of_parse hparse) hnodup]
  exact forM_statement hnodes ⟨rfl, hrequire⟩ hinterop

/-! ### Re-exports -/

def ReexportStatement.specifier : ReexportStatement → String
  | .all specifier | .whole _ specifier | .named _ specifier => specifier

/-- What a re-export does with the value of the module; `loop` copies all properties. -/
def ReexportStatement.body (h : Host V) (loop : Node) (v : V) : ReexportStatement → Run V Unit
  | .all _ => .other h loop v
  | .whole exported _ => .assign exported v
  | .named names _ => names.forM fun n => .ofOption (h.property v n.2) >>= .assign n.1

/-- The scope inside a function over a module. -/
def inModule (v : V) : Scope V where
  declared := []
  parameter? := some ("m", v)

theorem innerStatement_transfer {names : String × String} (hn : IsTransfer names n) (v : V) :
    innerStatement h (inModule v) v n =
      .ofOption (h.property v names.2) >>= .assign names.1 := by
  have hexports : (inModule v).hides "exports" = false := rfl
  cases hn with
  | assignment htarget he =>
    simp only [innerStatement, assignment_written _ htarget hexports, value_member he]
    rfl

theorem forM_innerStatement {names : List (String × String)} {body : List Node}
    (hbody : List.Forall₂ IsTransfer names body) (v : V) :
    body.forM (innerStatement h (inModule v) v) =
      names.forM fun n => .ofOption (h.property v n.2) >>= .assign n.1 := by
  induction hbody with
  | nil => rfl
  | cons hn _ ih => rw [List.forM, List.forM, innerStatement_transfer hn, ih]

theorem mentions_operated {name : String} {left m : Node} {os : List Link}
    (hm : Operated left os m) (hleft : left.mentions name = false)
    (hos : ∀ o ∈ os, ∀ right, o.fits right → right.mentions name = false) :
    m.mentions name = false := by
  induction hm with
  | nil => exact hleft
  | @cons left right m o os hright span hrest ih =>
    refine ih ?_ fun o' ho' => hos o' (List.mem_cons_of_mem _ ho')
    have hshape : (o.shape == .identifier name) = false := by
      unfold Link.shape
      split <;> rfl
    simp only [Node.mentions, Node.mentionsAny, hshape, hleft,
      hos o List.mem_cons_self right hright, Bool.or_self]

/-- The loop over the properties of a module asks for no module. -/
theorem mentions_loop (hn : IsKeyLoop "k" "m" IsCopy n) : n.mentions "require" = false := by
  have hdiffers : ∀ value right, (differs value).fits right → right.mentions "require" = false := by
    rintro value _ ⟨span, rfl⟩
    rfl
  have htest : ∀ span test, Operated (.mk (.identifier "k") span [])
      (testOf "k" "default" "__esModule") test → test.mentions "require" = false := by
    intro span test hoperated
    refine mentions_operated hoperated rfl fun o ho => ?_
    simp only [testOf, List.mem_cons, List.not_mem_nil, or_false] at ho
    obtain rfl | rfl := ho
    · exact hdiffers _
    · rintro right ⟨span, hright⟩
      refine mentions_operated hright rfl fun o ho => ?_
      obtain rfl := List.mem_singleton.1 ho
      exact hdiffers _
  cases hn with
  | loop hcopy =>
    cases hcopy with
    | copy span inner hoperated hbody =>
      cases hbody with
      | assignment htarget he =>
        cases htarget with
        | member hkey =>
          cases he with
          | member hkey' =>
            cases hkey
            cases hkey'
            simp [Node.mentions, Node.mentionsAny, htest _ _ hoperated]

theorem innerStatement_loop (hn : IsKeyLoop "k" "m" IsCopy n) (v : V) :
    innerStatement h scope v n = .other h n v := by
  have hmentions := mentions_loop hn
  cases hn
  simp only [innerStatement, hmentions, Bool.false_eq_true, if_false]

/-- The scope of a text that declares nothing. -/
def bare : Scope V where
  declared := []

theorem value_required {specifier : String} (hn : (Source.required specifier).Written n) :
    value h bare n = .require h specifier :=
  hn.value ⟨rfl, by simp [bare]⟩

/-- A function over a module that is called with it. -/
theorem statement_application {X : Type} {fits : X → Node → Prop} {xs : List X} {specifier : String}
    (hn : IsApplication "m" fits xs (Source.required specifier).Written n) :
    ∃ body, List.Forall₂ fits xs body ∧ ∀ {V : Type} (h : Host V),
      statement h bare n =
        .require h specifier >>= fun v => body.forM (innerStatement h (inModule v) v) := by
  cases hn with
  | application hf ha =>
    cases hf with
    | group hf =>
      cases hf with
      | function hbody =>
        refine ⟨_, hbody, fun h => ?_⟩
        simp only [statement, expression, value_required ha]
        rfl

/-- A re-export asks for its module first, and once. -/
theorem ReexportStatement.Written.statement {s : ReexportStatement} (hn : s.Written n) :
    ∃ loop, ∀ {V : Type} (h : Host V), Lowering.statement h bare n =
      .require h s.specifier >>= fun v => s.body h loop v := by
  cases hn with
  | all hn =>
    obtain ⟨_, hbody, hstatement⟩ := statement_application hn
    obtain ⟨loop, _, hloop, hnil, rfl⟩ := List.forall₂_cons_left_iff.1 hbody
    obtain rfl := List.forall₂_nil_left_iff.1 hnil
    refine ⟨loop, fun h => ?_⟩
    simp only [hstatement, List.forM, innerStatement_loop hloop, bind_pure_unit]
    rfl
  | whole hn =>
    cases hn with
    | assignment htarget he =>
      refine ⟨default, fun h => ?_⟩
      simp only [Lowering.statement, expression,
        assignment_written _ htarget (rfl : bare.hides "exports" = false), value_required he]
      rfl
  | named hn =>
    obtain ⟨body, hbody, hstatement⟩ := statement_application hn
    refine ⟨default, fun h => ?_⟩
    simp only [hstatement, forM_innerStatement hbody]
    rfl

theorem Assignment.Written.statement {a : Assignment} (hn : a.Written n) :
    Lowering.statement h bare n = .constant a.value >>= .assign a.exported := by
  cases hn with
  | assignment htarget he =>
    obtain ⟨span, rfl⟩ := he
    simp only [Lowering.statement, expression,
      assignment_written _ htarget (rfl : bare.hides "exports" = false)]
    rfl

/-- A text of one statement that declares nothing. -/
theorem execute_bare (h : Host V) {text : String}
    (hparse : Program.parse text = .ok ⟨[.statement n]⟩) (hn : n.boundNames = []) :
    execute h text = statement h bare n := by
  have hnames : declaredNames [n] = [] := by simp [declaredNames, Node.boundNamesOfAll, hn]
  have hnodes : statements? text = some [n] := statements?_of_parse hparse
  rw [execute_eq h hnodes (by simp [hnames]), hnames, List.forM, List.forM]
  exact bind_pure_unit

theorem execute_reexport {s : ReexportStatement} (hread : s.Readable) :
    ∃ loop, ∀ {V : Type} (h : Host V),
      execute h s.render = .require h s.specifier >>= fun v => s.body h loop v := by
  obtain ⟨n, hparse, hn⟩ := parse_reexport hread
  obtain ⟨loop, hstatement⟩ := hn.statement
  have hnames : n.boundNames = [] := by
    cases hn with
    | all hn | named hn => cases hn; rfl
    | whole hn => cases hn; rfl
  exact ⟨loop, fun h => by rw [execute_bare h hparse hnames, hstatement h]⟩

theorem execute_export {a : Assignment} (hread : a.Readable) (h : Host V) :
    execute h a.render = .constant a.value >>= .assign a.exported := by
  obtain ⟨n, hparse, hn⟩ := parse_export hread
  have hnames : n.boundNames = [] := by
    cases hn
    rfl
  rw [execute_bare h hparse hnames, hn.statement]

end Generated

end ModuleBundler.Lowering
