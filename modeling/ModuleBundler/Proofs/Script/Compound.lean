import ModuleBundler.Proofs.Script.Simple

/-!
# Members, assignments and functions

A property of a variable is read with its key, and so is an assignment to it. A function in
parentheses is read with the statements of its body, also where it is called at once.
-/

namespace ModuleBundler.Script.Parser

variable {rules : Rules} {ctx : Context} {s : ParserState} {l : Lexeme} {ls : List Lexeme}
  {place : Place}
  {name : String} {n : Nat}

/-! ## Values of one token -/

/-- A word that may call something. -/
theorem runs_callee (hname : ctx.MayName name) (hl : ∀ escaped, l ≠ .word "function" escaped)
    (h : s.Faces place (.word name false :: l :: ls)) :
    Runs (grammar (n + 1) .primary) ctx s fun m t =>
      t.Faces place (l :: ls) ∧ ∃ span, m = .mk (.identifier name) span [] :=
  runs_primary_word hname h hl fun span _ ht => ⟨ht, span, rfl⟩

theorem runs_variable (hlimit : 0 < ctx.limit) (hname : ctx.MayName name) {p : String}
    (hp : p ∈ closers) (h : s.Faces place (.word name false :: .punctuator p :: ls)) :
    Runs (grammar (n + 2) .assignment) ctx s fun m t =>
      t.Faces place (.punctuator p :: ls) ∧ ∃ span, m = .mk (.identifier name) span [] := by
  have hopen : p ≠ "(" := by
    rintro rfl
    revert hp
    decide
  apply runs_assignmentExpression hlimit (.word hname fun _ => hopen) h hp
  apply runs_leftHandSide hlimit (closer_mem_followers hp)
  exact runs_callee hname (by simp) h

theorem runs_text {value : String} (hlimit : 0 < ctx.limit) {p : String} (hp : p ∈ closers)
    (h : s.Faces place (.string value true :: .punctuator p :: ls)) :
    Runs (grammar (n + 2) .assignment) ctx s fun m t =>
      t.Faces place (.punctuator p :: ls) ∧ ∃ span, m = .mk (.string value) span [] := by
  apply runs_assignmentExpression hlimit (.string value true _) h hp
  apply runs_leftHandSide hlimit (closer_mem_followers hp)
  exact runs_primary_string h fun span _ ht => ⟨ht, span, rfl⟩

theorem runs_name (hname : ctx.MayName name) (h : s.Faces place (.word name false :: l :: ls)) :
    Runs (grammar (n + 1) .bindingTarget) ctx s fun m t =>
      t.Faces place (l :: ls) ∧ ∃ span, m = .mk (.binding name) span [] :=
  runs_bindingTarget_name hname h fun span _ ht => ⟨ht, span, rfl⟩

/-! ## Members -/

/-- How a property is named behind an object. -/
inductive Key where
  | bare (name : String)
  | quoted (value : String)
  /-- A variable holds the name. -/
  | held (name : String)

namespace Key

def spell : Key → List Lexeme
  | .bare name => [.punctuator ".", .word name false]
  | .quoted value => [.punctuator "[", .string value true, .punctuator "]"]
  | .held name => [.punctuator "[", .word name false, .punctuator "]"]

def MayStand (ctx : Context) : Key → Prop
  | .bare _ | .quoted _ => True
  | .held name => ctx.MayName name

/-- The syntax of a key. -/
inductive Written : Key → Node → Prop where
  | bare (name : String) (span : Span) : Written (.bare name) (.mk (.propertyName name) span [])
  | quoted (value : String) (span : Span) : Written (.quoted value) (.mk (.string value) span [])
  | held (name : String) (span : Span) : Written (.held name) (.mk (.identifier name) span [])

end Key

/-- A property of a variable. -/
inductive IsMember (object : String) (key : Key) : Node → Prop where
  | member {k : Node} (h : key.Written k) (span inner : Span) :
    IsMember object key (.mk .member span [.mk (.identifier object) inner [], k])

theorem runs_computedMember {fits : Node → Prop} (start : Nat) (object : Node)
    (hkey : ∀ t : ParserState, t.Faces place (l :: .punctuator "]" :: ls) →
      Runs (rules .assignment) { ctx with allowIn := true, inDecorator := false } t fun k u =>
        u.Faces place (.punctuator "]" :: ls) ∧ fits k)
    {l' : Lexeme} {more : List Lexeme} (hls : ls = l' :: more)
    (h : s.Faces place (.punctuator "[" :: l :: .punctuator "]" :: ls)) :
    Runs (computedMember rules start object) ctx s fun r t =>
      t.Faces place ls ∧ ∃ span k, r = .mk .member span [object, k] ∧ fits k := by
  subst hls
  unfold computedMember
  rw [runs_bind]
  apply runs_bump_punctuator h
  intro t ht
  rw [runs_bind]
  apply (runs_fullExpression (by decide) (hkey t ht)).mono
  rintro k u ⟨hu, hk⟩
  rw [runs_bind]
  apply runs_expect hu
  intro v hv
  exact runs_node.2 ⟨hv, _, k, rfl, hk⟩

theorem runs_memberRest_key {key : Key} (hlimit : 1 < ctx.limit)
    (hdecorator : ctx.inDecorator = false) (hkey : key.MayStand ctx) {p : String}
    (hp : p ∈ "(" :: followers) (h : s.Faces place (key.spell ++ .punctuator p :: ls)) (start : Nat)
    (object : Node) :
    Runs (memberRest (grammar (n + 2)) start object false) ctx s fun r t =>
      t.Faces place (.punctuator p :: ls) ∧
        ∃ span k, r = (.mk .member span [object, k], false) ∧ key.Written k := by
  have hpositive : 0 < ctx.limit := Nat.zero_lt_of_lt hlimit
  refine Turns.runs (turns_more (Runs.mono (Q := fun r t => t.Faces place (.punctuator p :: ls) ∧
    ∃ span k, r = .inl (.mk .member span [object, k], false) ∧ key.Written k) ?_ ?_)) hlimit
  · cases key with
    | bare name =>
      have h : s.Faces place (.punctuator "." :: .word name false :: .punctuator p :: ls) := h
      simp only [runs_bind, runs_read, runs_lexeme, h.lexeme]
      apply runs_bump_punctuator h
      intro t ht
      unfold memberName identifierName
      simp only [runs_bind, runs_lexeme, ht.lexeme, runs_tokenStart]
      apply runs_takeWord ht
      intro u hu
      simp only [runs_node, runs_pure]
      exact ⟨hu, _, _, rfl, .bare _ _⟩
    | quoted value =>
      have h : s.Faces place (.punctuator "[" :: .string value true :: .punctuator "]" ::
        .punctuator p :: ls) := h
      simp only [runs_bind, runs_read, runs_lexeme, h.lexeme, hdecorator, Bool.false_eq_true,
        if_false]
      apply (runs_computedMember start object (fun t ht => runs_text (by exact hpositive)
        (by decide) ht) rfl h).mono
      rintro _ t ⟨ht, span, _, rfl, inner, rfl⟩
      exact runs_pure.2 ⟨ht, span, _, rfl, .quoted _ _⟩
    | held name =>
      have h : s.Faces place (.punctuator "[" :: .word name false :: .punctuator "]" ::
        .punctuator p :: ls) := h
      simp only [runs_bind, runs_read, runs_lexeme, h.lexeme, hdecorator, Bool.false_eq_true,
        if_false]
      apply (runs_computedMember start object (fun t ht => runs_variable (by exact hpositive)
        (by exact hkey) (by decide) ht) rfl h).mono
      rintro _ t ⟨ht, span, _, rfl, inner, rfl⟩
      exact runs_pure.2 ⟨ht, span, _, rfl, .held _ _⟩
  · rintro _ t ⟨ht, span, k, rfl, hk⟩
    refine ⟨_, rfl, turns_last ?_⟩
    simp only [runs_bind, runs_read, runs_lexeme, ht.lexeme]
    simp only [followers, closers, List.mem_cons, List.not_mem_nil, or_false] at hp
    rcases hp with rfl | rfl | rfl | rfl | rfl | rfl | rfl | rfl | rfl | rfl | rfl <;>
      exact runs_pure.2 ⟨_, rfl, ht, span, k, rfl, hk⟩

theorem Key.spell_eq_cons (key : Key) : ∃ p more, key.spell = .punctuator p :: more ∧
    p ≠ "(" := by
  cases key <;> exact ⟨_, _, rfl, by decide⟩

theorem runs_member {key : Key} (hlimit : 1 < ctx.limit) (hdecorator : ctx.inDecorator = false)
    (hname : ctx.MayName name) (hkey : key.MayStand ctx) {p : String} (hp : p ∈ followers)
    (h : s.Faces place (.word name false :: (key.spell ++ .punctuator p :: ls))) :
    Runs (leftHandSide (grammar (n + 2))) ctx s fun m t =>
      t.Faces place (.punctuator p :: ls) ∧ IsMember name key m := by
  obtain ⟨q, more, hspell, -⟩ := key.spell_eq_cons
  unfold leftHandSide memberExpression
  simp only [runs_bind, runs_tokenStart]
  have hobject : s.Faces place (.word name false :: .punctuator q :: (more ++ .punctuator p :: ls)) := by
    rw [hspell] at h
    exact h
  apply (runs_callee hname (by simp) hobject).mono
  rintro _ t ⟨ht, inner, rfl⟩
  have ht : t.Faces place (key.spell ++ .punctuator p :: ls) := by
    rw [hspell]
    exact ht
  apply (runs_memberRest_key hlimit hdecorator hkey (List.mem_cons_of_mem _ hp) ht _ _).mono
  rintro _ u ⟨hu, span, k, rfl, hk⟩
  exact runs_callRest_nothing (Nat.zero_lt_of_lt hlimit) hp hu _ _ (runs_pure.2 ⟨hu, .member hk _ _⟩)

/-- A member that nothing goes on behind. -/
theorem runs_memberValue {key : Key} (hlimit : 1 < ctx.limit) (hdecorator : ctx.inDecorator = false)
    (hname : ctx.MayName name) (hkey : key.MayStand ctx) {p : String} (hp : p ∈ closers)
    (h : s.Faces place (.word name false :: (key.spell ++ .punctuator p :: ls))) :
    Runs (grammar (n + 3) .assignment) ctx s fun m t =>
      t.Faces place (.punctuator p :: ls) ∧ IsMember name key m := by
  obtain ⟨q, rest, hspell, hq⟩ := key.spell_eq_cons
  have hmember := runs_member (n := n) hlimit hdecorator hname hkey (closer_mem_followers hp) h
  rw [hspell] at h
  exact runs_assignmentExpression (Nat.zero_lt_of_lt hlimit) (.word hname fun _ => hq) h hp hmember

/-! ## Assignments -/

/-- The value of a variable's property is set. -/
inductive IsAssignment (object : String) (key : Key) (value : Node → Prop) : Node → Prop where
  | assignment {target v : Node} (htarget : IsMember object key target) (hv : value v)
    (span inner : Span) : IsAssignment object key value
      (.mk .expressionStatement span [.mk (.assignment true) inner [target, v]])

theorem runs_assignment {key : Key} {value : Node → Prop} {p : String} (hlimit : 1 < ctx.limit)
    (hdecorator : ctx.inDecorator = false) (hname : ctx.MayName name) (hkey : key.MayStand ctx)
    {more : List Lexeme}
    (hvalue : ∀ t : ParserState, t.Faces place (l :: more) →
      Runs (grammar (n + 2) .assignment) ctx t fun m u =>
        u.Faces place (.punctuator p :: ls) ∧ value m)
    (h : s.Faces place (.word name false :: (key.spell ++ .punctuator "=" :: l :: more))) :
    Runs (grammar (n + 3) .assignment) ctx s fun m t => t.Faces place (.punctuator p :: ls) ∧
      ∃ span target v, m = .mk (.assignment true) span [target, v] ∧
        IsMember name key target ∧ value v := by
  obtain ⟨q, rest, hspell, hq⟩ := key.spell_eq_cons
  have hmember := runs_member (n := n) hlimit hdecorator hname hkey (by decide) h
  rw [hspell] at h
  apply runs_assignmentExpression_left (.word hname fun _ => hq) h (by decide)
    (runs_binaryExpression (Nat.zero_lt_of_lt hlimit) (.word hname fun _ => hq) h (by simp) hmember 0)
  intro target t start ht htarget
  have hcheck : Runs (checkAssigned true target) ctx t fun _ u => u = t := by
    cases htarget
    simp only [checkAssigned, if_true, checkTarget, checkSimpleTarget, runs_pure]
  rw [if_pos (by decide)]
  unfold assignmentRest
  simp only [runs_bind, runs_atPunctuator, ht.lexeme, BEq.rfl]
  apply hcheck.mono
  rintro _ _ rfl
  apply runs_bump_punctuator ht
  intro u hu
  apply (hvalue u hu).mono
  rintro v w ⟨hw, hv⟩
  exact runs_node.2 ⟨hw, _, target, v, rfl, htarget, hv⟩

theorem runs_assignmentStatement {key : Key} {value : Node → Prop} (hlimit : 1 < ctx.limit)
    (hword : name ∉ statementWords) (hname : ctx.MayName name) (hkey : key.MayStand ctx)
    {l' : Lexeme} {more : List Lexeme}
    (hvalue : ∀ t : ParserState, t.Faces place (l' :: more) →
      Runs (grammar (n + 2) .assignment) { ctx with allowIn := true, inDecorator := false } t
        fun m u => u.Faces place (.punctuator ";" :: l :: ls) ∧ value m)
    (h : s.Faces place (.word name false :: (key.spell ++ .punctuator "=" :: l' :: more))) {single : Bool} :
    Runs (statementItem (grammar (n + 3)) single) ctx s fun item t => t.Faces place (l :: ls) ∧
      ∃ m, item = .statement m ∧ IsAssignment name key value m := by
  have hlabel : ∀ m, (∃ span target v, m = Node.mk (.assignment true) span [target, v] ∧
      IsMember name key target ∧ value v) → m.isIdentifier = false := by
    rintro _ ⟨span, target, v, rfl, -⟩
    rfl
  apply runs_statementItem_word hword h
  apply (runs_expressionStatement hlabel
    (runs_assignment (by exact hlimit) rfl hname hkey hvalue h)).mono
  rintro _ t ⟨ht, span, _, rfl, inner, target, v, rfl, htarget, hv⟩
  exact ⟨ht, _, rfl, .assignment htarget hv _ _⟩

/-! ## Functions -/

/-- A statement inside another one. -/
theorem runs_statementNode {single : Bool} {fits : Node → Prop}
    (h : Runs (statementItem rules single) ctx s fun item t => t.Faces place ls ∧
      ∃ m, item = .statement m ∧ fits m) :
    Runs (statementNode rules single) ctx s fun m t => t.Faces place ls ∧ fits m := by
  unfold statementNode
  simp only [runs_bind, runs_tokenStart]
  apply h.mono
  rintro _ t ⟨ht, m, rfl, hm⟩
  exact runs_pure.2 ⟨ht, hm⟩

/-- Where the statements of a function stand that neither waits nor yields. -/
def inBody (limit : Nat) : Context :=
  { limit, allowAwait := false, inFunction := true }

theorem runs_decorators_nothing (hlimit : 0 < ctx.limit) (h : s.Faces place (l :: ls))
    (hl : l ≠ .punctuator "@") {Q : List Node → ParserState → Prop} (k : Q [] s) :
    Runs (decorators rules) ctx s Q := by
  have hat : (l == .punctuator "@") = false := by simpa using hl
  apply runs_iterate_last hlimit
  simp only [runs_bind, runs_atPunctuator, h.lexeme, hat, Bool.not_false, runs_pure, if_true]
  exact ⟨_, rfl, k⟩

/-- Parentheses around one parameter. -/
theorem runs_parameters {inner : Rules} (hlimit : 1 < ctx.limit) (hname : ctx.MayName name)
    (htarget : rules .bindingTarget = bindingTarget inner)
    (h : s.Faces place (.punctuator "(" :: .word name false :: .punctuator ")" :: l :: ls)) :
    Runs (parameters rules) ctx s fun m t => t.Faces place (l :: ls) ∧
      ∃ span bound, m = .mk .parameters span [.mk (.binding name) bound []] := by
  unfold parameters
  simp only [runs_within, runs_bind, runs_tokenStart]
  apply runs_expect h
  intro t ht
  have hlist : Runs (commaListWithRest ")" (parameter rules) (restElement rules))
      { ctx with inParameters := true } t fun ms u => u.Faces place (.punctuator ")" :: l :: ls) ∧
        List.Forall₂ (fun x m => ∃ bound, m = .mk (.binding x) bound []) [name] ms := by
    have ht : t.Faces place (separated (fun x => [.word x false]) [name] ++
      .punctuator ")" :: l :: ls) := ht
    refine runs_commaListWithRest (by decide) (by exact hlimit)
      (fun x _ => ⟨_, _, rfl, by simp⟩) ?_ ht
    intro x hx u p more hp hu
    obtain rfl := List.mem_singleton.1 hx
    unfold parameter
    simp only [runs_bind, runs_tokenStart]
    apply runs_decorators_nothing (by exact Nat.zero_lt_of_lt hlimit) hu (by simp)
    have hequals : p ≠ "=" := by
      obtain rfl | rfl := hp <;> decide
    exact runs_bindingElement hequals (by exact hname) htarget hu fun span v hv => ⟨hv, span, rfl⟩
  apply hlist.mono
  rintro ms u ⟨hu, hms⟩
  obtain ⟨m, _, ⟨bound, rfl⟩, hnil, rfl⟩ := List.forall₂_cons_left_iff.1 hms
  obtain rfl := List.forall₂_nil_left_iff.1 hnil
  apply runs_expect hu
  intro v hv
  exact runs_node.2 ⟨hv, _, bound, rfl⟩

section Function

variable {X : Type} {spell : X → List Lexeme} {fits : X → Node → Prop} {xs : List X}

/-- What the statements of a body are spelt as, and that they are read back there. -/
structure Bodies (rules : Rules) (limit : Nat) (spell : X → List Lexeme) (fits : X → Node → Prop)
    (xs : List X) : Prop where
  fewer : xs.length < limit
  head : ∀ x ∈ xs, ∃ l more, spell x = l :: more ∧ l ≠ .punctuator "\x7d" ∧ l ≠ .finish ∧
    l.isWord "else" = false
  runs : ∀ x ∈ xs, ∀ place t l more, l.isWord "else" = false →
    t.Faces place (spell x ++ l :: more) →
    Runs (statementItem rules false) (inBody limit) t fun item u => u.Faces place (l :: more) ∧
      ∃ m, item = .statement m ∧ fits x m

/-- A function of one parameter, as an expression. -/
inductive IsFunction (name : String) (fits : X → Node → Prop) (xs : List X) : Node → Prop where
  | function {ms : List Node} (h : List.Forall₂ fits xs ms) (span inner bound body : Span) :
    IsFunction name fits xs (.mk (.functionDefinition none) span
      [.mk .parameters inner [.mk (.binding name) bound []], .mk .body body ms])

theorem runs_functionBody (hyield : ctx.allowYield = false) (hawait : ctx.allowAwait = false)
    (hxs : Bodies (grammar n) ctx.limit spell fits xs)
    (h : s.Faces place (.punctuator "\x7b" :: (xs.flatMap spell ++ .punctuator "\x7d" :: l :: ls))) :
    Runs (functionBody (grammar (n + 1))) ctx s fun m t => t.Faces place (l :: ls) ∧
      ∃ span ms, m = .mk .body span ms ∧ List.Forall₂ fits xs ms := by
  obtain ⟨l', more, hmore⟩ : ∃ l' more, xs.flatMap spell ++ .punctuator "\x7d" :: l :: ls =
      l' :: more := List.exists_cons_of_ne_nil (by simp)
  rw [hmore] at h
  unfold functionBody statements
  have hinner : { ctx with inFunction := true, allowIn := true, inParameters := false,
                           inDecorator := false } = inBody ctx.limit := by
    simp only [inBody, hyield, hawait]
  simp only [runs_within, runs_bind, runs_tokenStart, hinner]
  apply runs_expect h
  intro t ht
  rw [← hmore] at ht
  have hstatements : Runs (repeatUntil (return (← atPunctuator "\x7d") || (← atFinish))
      (grammar (n + 1) (.statement false))) (inBody ctx.limit) t fun ms u =>
        u.Faces place (.punctuator "\x7d" :: l :: ls) ∧ List.Forall₂ fits xs ms := by
    refine runs_repeatUntil (fun l => l == .punctuator "\x7d" || l == .finish)
      (fun l => l.isWord "else" = false) (fun u => ?_) ⟨rfl, rfl⟩ hxs.fewer ?_ ?_ ht
    · simp only [runs_bind, runs_atPunctuator, runs_atFinish, runs_pure, and_self]
    · intro x hx
      obtain ⟨l, more, hspell, hclose, hfinish, helse⟩ := hxs.head x hx
      exact ⟨l, more, hspell, by simp [hclose, hfinish], helse⟩
    · intro x hx u l more hl hu
      exact runs_statementNode (hxs.runs x hx place u l more hl hu)
  apply hstatements.mono
  rintro ms u ⟨hu, hms⟩
  apply runs_expect hu
  intro v hv
  exact runs_node.2 ⟨hv, _, ms, rfl, hms⟩

theorem runs_function (hlimit : 1 < ctx.limit) (hname : IsVariable name)
    (hxs : Bodies (grammar n) ctx.limit spell fits xs)
    (h : s.Faces place (.word "function" false :: .punctuator "(" :: .word name false ::
      .punctuator ")" :: .punctuator "\x7b" ::
        (xs.flatMap spell ++ .punctuator "\x7d" :: l :: ls))) :
    Runs (grammar (n + 2) .primary) ctx s fun m t =>
      t.Faces place (l :: ls) ∧ IsFunction name fits xs m := by
  change Runs (primaryExpression (grammar (n + 1))) _ _ _
  unfold primaryExpression functionDefinition functionName? functionRest
  simp only [runs_bind, runs_tokenStart, runs_lexeme, h.lexeme]
  apply runs_expectWord h
  intro t ht
  apply runs_eat_other ht (by decide)
  have hopen : Lexeme.isBinding (.punctuator "(") = false := rfl
  have hplace : (FunctionPlace.expression == FunctionPlace.declaration) = false := rfl
  simp only [runs_bind, ht.lexeme, hopen, Bool.false_eq_true, if_false, runs_tokenStart, hplace,
    runs_faultIf_false, runs_pure, runs_within]
  apply (runs_parameters (by exact hlimit) (hname.mayName rfl) rfl ht).mono
  rintro _ u ⟨hu, inner, bound, rfl⟩
  simp only [runs_atPunctuator, hu.lexeme, BEq.rfl, Bool.not_true, runs_failIf_false]
  apply (runs_functionBody rfl rfl (by exact hxs) hu).mono
  rintro _ v ⟨hv, body, ms, rfl, hms⟩
  exact runs_node.2 ⟨hv, .function hms _ _ _ _⟩

/-- A function in parentheses. -/
inductive IsGroup (name : String) (fits : X → Node → Prop) (xs : List X) : Node → Prop where
  | group {f : Node} (h : IsFunction name fits xs f) (span : Span) :
    IsGroup name fits xs (.mk .parenthesized span [f])

theorem runs_group (hlimit : 1 < ctx.limit) (hname : IsVariable name)
    (hxs : Bodies (grammar n) ctx.limit spell fits xs)
    (h : s.Faces place (.punctuator "(" :: .word "function" false :: .punctuator "(" ::
      .word name false :: .punctuator ")" :: .punctuator "\x7b" ::
        (xs.flatMap spell ++ .punctuator "\x7d" :: .punctuator ")" :: l :: ls))) :
    Runs (grammar (n + 4) .primary) ctx s fun m t =>
      t.Faces place (l :: ls) ∧ IsGroup name fits xs m := by
  have hpositive : 0 < ctx.limit := Nat.zero_lt_of_lt hlimit
  change Runs (primaryExpression (grammar (n + 3))) _ _ _
  unfold primaryExpression parenthesized
  simp only [runs_bind, runs_tokenStart, runs_lexeme, h.lexeme]
  apply runs_bump_punctuator h
  intro t ht
  have hfunction : Runs (grammar (n + 3) .assignment)
      { ctx with allowIn := true, inDecorator := false } t fun m u =>
        u.Faces place (.punctuator ")" :: l :: ls) ∧ IsFunction name fits xs m := by
    apply runs_assignmentExpression (by exact hpositive) .function ht (by decide)
    apply runs_leftHandSide (by exact hpositive) (by decide)
    exact runs_function (by exact hlimit) hname (by exact hxs) ht
  rw [runs_within]
  apply (runs_commaList_one (by exact hpositive) (by simp) hfunction ht).mono
  rintro _ u ⟨hu, f, rfl, hf⟩
  simp only [Option.isSome_none, runs_failIf_false, runs_bind]
  apply runs_expect hu
  intro v hv
  exact runs_node.2 ⟨hv, .group hf _⟩

/-- A function is called where it stands. -/
inductive IsApplication (name : String) (fits : X → Node → Prop) (xs : List X)
    (argument : Node → Prop) : Node → Prop where
  | application {f a : Node} (hf : IsGroup name fits xs f) (ha : argument a) (span inner : Span) :
    IsApplication name fits xs argument
      (.mk .expressionStatement span [.mk .call inner [f, a]])

theorem runs_application {argument : Node → Prop} {first : Lexeme} {more : List Lexeme}
    (hlimit : 1 < ctx.limit) (hname : IsVariable name)
    (hxs : Bodies (grammar n) ctx.limit spell fits xs)
    (hfirst : first ∉ [.punctuator ")", .punctuator "...", .finish, .invalid])
    (hargument : ∀ t : ParserState, t.Faces place (first :: more) →
      Runs (grammar (n + 4) .assignment) { ctx with allowIn := true, inDecorator := false } t
        fun a u => u.Faces place (.punctuator ")" :: .punctuator ";" :: l :: ls) ∧ argument a)
    (h : s.Faces place (.punctuator "(" :: .word "function" false :: .punctuator "(" ::
      .word name false :: .punctuator ")" :: .punctuator "\x7b" ::
        (xs.flatMap spell ++ .punctuator "\x7d" :: .punctuator ")" :: .punctuator "(" ::
          first :: more))) :
    Runs (statementItem (grammar (n + 5)) false) ctx s fun item t => t.Faces place (l :: ls) ∧
      ∃ m, item = .statement m ∧ IsApplication name fits xs argument m := by
  have hpositive : 0 < ctx.limit := Nat.zero_lt_of_lt hlimit
  have hcall : Runs (grammar (n + 5) .assignment)
      { ctx with allowIn := true, inDecorator := false } s fun m t =>
        t.Faces place (.punctuator ";" :: l :: ls) ∧ ∃ span f a, m = .mk .call span [f, a] ∧
          IsGroup name fits xs f ∧ argument a := by
    apply runs_assignmentExpression (by exact hpositive) .group h (by decide)
    exact runs_leftHandSide_call (by exact hlimit) (by decide) hfirst
      (runs_group (by exact hlimit) hname (by exact hxs) h) hargument
  unfold statementItem
  simp only [runs_bind, runs_tokenStart, runs_lexeme, h.lexeme]
  have hlabel : ∀ m, (∃ span f a, m = Node.mk .call span [f, a] ∧
      IsGroup name fits xs f ∧ argument a) → m.isIdentifier = false := by
    rintro _ ⟨span, f, a, rfl, -⟩
    rfl
  change Runs (expressionStatement _ >>= fun m => pure (Item.statement m)) ctx s _
  rw [runs_bind]
  apply (runs_expressionStatement hlabel hcall).mono
  rintro _ t ⟨ht, span, _, rfl, inner, f, a, rfl, hf, ha⟩
  exact runs_pure.2 ⟨ht, _, rfl, .application hf ha _ _⟩

end Function

end ModuleBundler.Script.Parser
