import ModuleBundler.Proofs.Script.Operand

/-!
# Simple statements

Constants with a name or an object pattern, and expressions, are read as statements up to their
semicolon. A text that spells such statements one after the other is a program.
-/

namespace ModuleBundler.Script.Parser

variable {rules : Rules} {ctx : Context} {s : ParserState} {l : Lexeme} {ls : List Lexeme}
  {place : Place}
  {name : String} {Q : Node → ParserState → Prop} {inner : Rules}

/-! ## Patterns -/

theorem runs_bindingTarget_name (hname : ctx.MayName name)
    (h : s.Faces place (.word name false :: l :: ls))
    (k : ∀ span t, t.Faces place (l :: ls) → Q (.mk (.binding name) span []) t) :
    Runs (bindingTarget rules) ctx s Q := by
  unfold bindingTarget
  simp only [runs_bind, runs_tokenStart, runs_lexeme, h.lexeme]
  exact runs_bindingIdentifier hname h k

/-- How a field of an object pattern names its property. -/
inductive FieldName where
  /-- The property is called as the variable. -/
  | same
  | bare (key : String)
  | quoted (key : String)

/-- A field of an object pattern that binds a variable. -/
structure Field where
  key : FieldName
  bound : String

namespace Field

def spell (f : Field) : List Lexeme :=
  match f.key with
  | .same => [.word f.bound false]
  | .bare key => [.word key false, .punctuator ":", .word f.bound false]
  | .quoted key => [.string key true, .punctuator ":", .word f.bound false]

/-- The syntax of a field. -/
inductive Written : Field → Node → Prop where
  | same (bound : String) (span inner : Span) :
    Written ⟨.same, bound⟩ (.mk .patternProperty span [.mk (.binding bound) inner []])
  | bare (key bound : String) (span inner inner' : Span) :
    Written ⟨.bare key, bound⟩ (.mk .patternProperty span
      [.mk (.propertyName key) inner [], .mk (.binding bound) inner' []])
  | quoted (key bound : String) (span inner inner' : Span) :
    Written ⟨.quoted key, bound⟩ (.mk .patternProperty span
      [.mk (.string key) inner [], .mk (.binding bound) inner' []])

end Field

/-- A variable without a default. -/
theorem runs_bindingElement {p : String} (hp : p ≠ "=") (hname : ctx.MayName name)
    (htarget : rules .bindingTarget = bindingTarget inner)
    (h : s.Faces place (.word name false :: .punctuator p :: ls))
    (k : ∀ span t, t.Faces place (.punctuator p :: ls) → Q (.mk (.binding name) span []) t) :
    Runs (bindingElement rules) ctx s Q := by
  unfold bindingElement
  simp only [runs_bind, runs_tokenStart, htarget]
  apply runs_bindingTarget_name hname h
  intro span t ht
  apply runs_eat_other ht (by simpa using hp)
  simp only [Bool.false_eq_true, if_false, runs_pure]
  exact k span t ht

theorem runs_bindingProperty {f : Field} {p : String} (hp : p = "," ∨ p = "\x7d")
    (hname : ctx.MayName f.bound) (htarget : rules .bindingTarget = bindingTarget inner)
    (h : s.Faces place (f.spell ++ .punctuator p :: ls)) :
    Runs (bindingProperty rules) ctx s fun n t => t.Faces place (.punctuator p :: ls) ∧ f.Written n := by
  obtain ⟨key, bound⟩ := f
  have hcomma : (Lexeme.punctuator p == .punctuator ":") = false ∧ p ≠ "=" := by
    rcases hp with rfl | rfl <;> decide
  -- a property with a name of its own, once the parser has come to the colon
  have hvalue : ∀ (start : Nat) (key' : Node) (t : ParserState),
      t.Faces place (.punctuator ":" :: .word bound false :: .punctuator p :: ls) →
      (∀ span span', Field.Written ⟨key, bound⟩
        (.mk .patternProperty span [key', .mk (.binding bound) span' []])) →
      Runs (expect ":") ctx t fun _ u => Runs (bindingElement rules) ctx u fun value v =>
        v.Faces place (.punctuator p :: ls) ∧ Field.Written ⟨key, bound⟩
          (.mk .patternProperty ⟨start, v.previousStop⟩ [key', value]) := by
    intro start key' t ht hwritten
    apply runs_expect ht
    intro u hu
    apply runs_bindingElement hcomma.2 hname htarget hu
    exact fun span v hv => ⟨hv, hwritten _ _⟩
  unfold bindingProperty propertyName
  cases key with
  | same =>
    have h : s.Faces place (.word bound false :: .punctuator p :: ls) := h
    have hbinding : Lexeme.isBinding (.word bound false) = true := hname.isBinding
    unfold identifierName
    simp only [runs_bind, runs_tokenStart, runs_lexeme, h.lexeme, runs_read]
    apply runs_takeWord h
    intro t ht
    simp only [runs_node, runs_pure, hbinding, runs_bind, runs_atPunctuator, ht.lexeme, hcomma.1,
      Bool.not_false, Bool.and_true, if_true]
    apply runs_faultIf
    · split
      · rename_i hawait
        cases hawait
        exact absurd rfl (hname.ne (by decide) (by decide))
      · rename_i hyield
        cases hyield
        exact hname.allowYield
      · rfl
    apply runs_eat_other ht (by simpa using hcomma.2)
    simp only [Bool.false_eq_true, if_false, runs_node]
    exact ⟨ht, .same _ _ _⟩
  | bare key =>
    have h : s.Faces place (.word key false :: .punctuator ":" :: .word bound false ::
      .punctuator p :: ls) := h
    unfold identifierName
    simp only [runs_bind, runs_tokenStart, runs_lexeme, h.lexeme, runs_read]
    apply runs_takeWord h
    intro t ht
    simp only [runs_node, runs_pure, runs_bind, runs_atPunctuator, ht.lexeme, BEq.rfl,
      Bool.not_true, Bool.and_false, Bool.false_eq_true, if_false]
    exact hvalue _ _ t ht fun _ _ => .bare _ _ _ _ _
  | quoted key =>
    have h : s.Faces place (.string key true :: .punctuator ":" :: .word bound false ::
      .punctuator p :: ls) := h
    simp only [runs_bind, runs_tokenStart, runs_lexeme, h.lexeme, runs_read]
    apply runs_skip h
    intro t ht
    simp only [runs_node, runs_pure, runs_bind, runs_atPunctuator, ht.lexeme, BEq.rfl,
      Bool.not_true, Bool.and_false, Bool.false_eq_true, if_false]
    exact hvalue _ _ t ht fun _ _ => .quoted _ _ _ _ _

theorem Field.spell_eq_cons (f : Field) : ∃ l more, f.spell = l :: more ∧
    l ∉ [.punctuator "\x7d", .punctuator "...", .finish, .invalid] := by
  obtain ⟨key | key | key, bound⟩ := f <;> exact ⟨_, _, rfl, by simp⟩

theorem runs_checkRestTargets {fs : List Field} {parts : List Node}
    (h : List.Forall₂ Field.Written fs parts) {Q : Unit → ParserState → Prop} (k : Q () s) :
    Runs (parts.forM checkRestTarget) ctx s Q := by
  induction h with
  | nil => exact runs_pure.2 k
  | cons hwritten _ ih =>
    rw [List.forM, runs_bind]
    cases hwritten <;> exact runs_pure.2 ih

theorem runs_bindingTarget_object {fs : List Field} (hlimit : fs.length < ctx.limit)
    (hnames : ∀ f ∈ fs, ctx.MayName f.bound)
    (htarget : rules .bindingTarget = bindingTarget inner)
    (h : s.Faces place (.punctuator "\x7b" :: (separated Field.spell fs ++
      .punctuator "\x7d" :: l :: ls))) :
    Runs (bindingTarget rules) ctx s fun n t => t.Faces place (l :: ls) ∧
      ∃ span parts, n = .mk .objectPattern span parts ∧ List.Forall₂ Field.Written fs parts := by
  obtain ⟨l', more, hmore⟩ : ∃ l' more, separated Field.spell fs ++ .punctuator "\x7d" :: l :: ls =
      l' :: more := List.exists_cons_of_ne_nil (by simp)
  rw [hmore] at h
  unfold bindingTarget
  simp only [runs_bind, runs_tokenStart, runs_lexeme, h.lexeme]
  apply runs_bump_punctuator h
  intro t ht
  rw [← hmore] at ht
  apply (runs_commaListWithRest (by decide) hlimit (fun f _ => f.spell_eq_cons)
    (fun f hf u p after hp hu => runs_bindingProperty hp (hnames f hf) htarget hu) ht).mono
  rintro parts u ⟨hu, hparts⟩
  apply runs_checkRestTargets hparts
  apply runs_expect hu
  intro v hv
  exact runs_node.2 ⟨hv, _, parts, rfl, hparts⟩

/-! ## Statements -/

/-- Words that declare one variable with a value where a statement is read. -/
def declaringWords : List String := ["var", "const"]

theorem runs_declaration {word : String} {target value : Node → Prop} {first second : Lexeme}
    {more after : List Lexeme} (hlimit : 0 < ctx.limit) (hword : word ∈ declaringWords)
    (htarget : ∀ t : ParserState, t.Faces place (first :: more) → Runs (rules .bindingTarget) ctx t
      fun n u => u.Faces place (.punctuator "=" :: second :: after) ∧ target n)
    (hvalue : ∀ t : ParserState, t.Faces place (second :: after) → Runs (rules .assignment) ctx t
      fun n u => u.Faces place (.punctuator ";" :: l :: ls) ∧ value n)
    (h : s.Faces place (.word word false :: first :: more)) :
    Runs (statementItem rules false) ctx s fun item t => t.Faces place (l :: ls) ∧
      ∃ span inner n m, item = .statement (.mk .variableList span [.mk .declarator inner [n, m]]) ∧
        target n ∧ value m := by
  obtain ⟨kind, hkind⟩ : ∃ kind, ∀ Q : Item → ParserState → Prop,
      Runs (variableStatement rules kind false) ctx s (fun n t => Q (.statement n) t) →
        Runs (statementItem rules false) ctx s Q := by
    simp only [declaringWords, List.mem_cons, List.not_mem_nil, or_false] at hword
    obtain rfl | rfl := hword
    · refine ⟨.var, fun Q hruns => ?_⟩
      unfold statementItem
      simp only [runs_bind, runs_tokenStart, runs_lexeme, h.lexeme]
      exact hruns.mono fun n t hn => runs_pure.2 hn
    · refine ⟨.const, fun Q hruns => ?_⟩
      unfold statementItem
      simp only [runs_bind, runs_tokenStart, runs_lexeme, h.lexeme]
      exact hruns.mono fun n t hn => runs_pure.2 hn
  apply hkind
  unfold variableStatement variableList commaSeparated variableDeclarator declarator endDeclaration
  simp only [runs_bind, runs_tokenStart]
  apply runs_bump_word h
  intro t ht
  apply (htarget t ht).mono
  rintro n u ⟨hu, hn⟩
  apply runs_eat hu
  intro v hv
  simp only [if_true, runs_bind]
  apply (hvalue v hv).mono
  rintro m w ⟨hw, hm⟩
  rw [runs_node]
  unfold checkInitialized
  simp only [Node.parts, runs_pure, runs_bind, Bool.false_eq_true, if_false]
  apply runs_iterate_last hlimit
  rw [runs_bind]
  apply runs_eat_other hw (by simp)
  simp only [Bool.false_eq_true, if_false, runs_pure]
  refine ⟨_, rfl, ?_⟩
  apply runs_endStatement hw
  intro x hx
  simp only [runs_node, Bool.false_and, runs_faultIf_false]
  exact ⟨hx, _, _, n, m, rfl, hn, hm⟩

theorem runs_fullExpression {fits : Node → Prop} {p : String} (hp : p ≠ ",")
    (h : Runs (rules .assignment) { ctx with allowIn := true, inDecorator := false } s fun n t =>
      t.Faces place (.punctuator p :: ls) ∧ fits n) :
    Runs (fullExpression rules) ctx s fun n t => t.Faces place (.punctuator p :: ls) ∧ fits n := by
  have hcomma : (Lexeme.punctuator p == .punctuator ",") = false := by simpa using hp
  unfold fullExpression withIn expression
  simp only [runs_within, runs_bind, runs_tokenStart]
  apply h.mono
  rintro n t ⟨ht, hn⟩
  simp only [runs_atPunctuator, ht.lexeme, hcomma, Bool.false_eq_true, if_false, runs_pure]
  exact ⟨ht, hn⟩

/-- An expression that is no label. -/
theorem runs_expressionStatement {fits : Node → Prop}
    (hlabel : ∀ n, fits n → n.isIdentifier = false)
    (h : Runs (rules .assignment) { ctx with allowIn := true, inDecorator := false } s fun n t =>
      t.Faces place (.punctuator ";" :: l :: ls) ∧ fits n) :
    Runs (expressionStatement rules) ctx s fun n t => t.Faces place (l :: ls) ∧
      ∃ span e, n = .mk .expressionStatement span [e] ∧ fits e := by
  unfold expressionStatement
  simp only [runs_bind, runs_tokenStart]
  apply (runs_fullExpression (by decide) h).mono
  rintro e t ⟨ht, he⟩
  rw [hlabel e he, onlyIf, if_neg Bool.false_ne_true]
  simp only [runs_pure, Bool.false_eq_true, if_false, runs_bind]
  apply runs_endStatement ht
  intro u hu
  exact runs_node.2 ⟨hu, _, e, rfl, he⟩

/-- Words that do not always start an expression where a statement is read. -/
def statementWords : List String :=
  ["if", "do", "while", "with", "for", "continue", "break", "switch", "throw", "try", "debugger",
   "class", "function", "return", "var", "const", "let", "using", "await", "async", "import",
   "export"]

theorem runs_statementItem_word {Q : Item → ParserState → Prop} {single : Bool}
    (hname : name ∉ statementWords) (h : s.Faces place (.word name false :: ls))
    (k : Runs (expressionStatement rules) ctx s fun n t => Q (.statement n) t) :
    Runs (statementItem rules single) ctx s Q := by
  unfold statementItem
  simp only [runs_bind, runs_tokenStart, runs_lexeme, h.lexeme]
  split
  case h_23 =>
    rw [runs_bind]
    exact k.mono fun n t hn => runs_pure.2 hn
  all_goals exact absurd (by decide) hname

/-! ## Programs -/

section Program

variable {X : Type} {spell : X → List Lexeme} {fits : X → Node → Prop} {xs : List X}

theorem length_le_flatMap (h : ∀ x ∈ xs, spell x ≠ []) : xs.length ≤ (xs.flatMap spell).length := by
  induction xs with
  | nil => exact Nat.le_refl _
  | cons x xs ih =>
    have hx : 0 < (spell x).length := List.length_pos_iff.2 (h x List.mem_cons_self)
    have hxs := ih fun y hy => h y (List.mem_cons_of_mem _ hy)
    rw [List.flatMap_cons, List.length_append, List.length_cons]
    omega

theorem items_of_fits {items : List Item}
    (h : List.Forall₂ (fun x item => ∃ n, item = .statement n ∧ fits x n) xs items) :
    ∃ nodes, items = nodes.map .statement ∧ List.Forall₂ fits xs nodes := by
  induction h with
  | nil => exact ⟨[], rfl, .nil⟩
  | cons hx _ ih =>
    obtain ⟨n, rfl, hn⟩ := hx
    obtain ⟨nodes, rfl, hnodes⟩ := ih
    exact ⟨n :: nodes, rfl, .cons hn hnodes⟩

/-- A text that spells statements is a program of these statements. The grammar is unfolded at least
twice for each token. -/
theorem parse_of_spells_nested {text : String}
    (hspells : Spells text.toList (xs.flatMap spell ++ [.finish]))
    (hspell : ∀ x ∈ xs, spell x ≠ [] ∧ .finish ∉ spell x ∧ .hashbang ∉ spell x)
    (hstatement : ∀ x ∈ xs, ∀ place n limit t l more, 2 * (spell x).length + 16 ≤ n →
      (spell x).length < limit → t.Faces place (spell x ++ l :: more) →
      Runs (statementItem (grammar n) false) { limit } t fun item u => u.Faces place (l :: more) ∧
        ∃ node, item = .statement node ∧ fits x node) :
    ∃ nodes, Program.parse text = .ok ⟨nodes.map .statement⟩ ∧ List.Forall₂ fits xs nodes := by
  have hlength : (xs.flatMap spell).length ≤ text.toList.length := by
    refine hspells.prefix_length_le ?_
    simpa using fun x hx => (hspell x hx).2.1
  have hshort : ∀ x ∈ xs, (spell x).length ≤ (xs.flatMap spell).length := by
    intro x hx
    obtain ⟨before, after, hxs⟩ := List.append_of_mem hx
    rw [hxs, List.flatMap_append, List.flatMap_cons, List.length_append, List.length_append]
    omega
  obtain ⟨rest, hplace⟩ := hspells.exists_place (by simp)
  have hinit := faces_init hplace
  generalize Place.mk text.toList rest = place at hinit
  have hruns : Runs (programItems (grammar (2 * text.toList.length + 16)))
      { limit := text.toList.length + 2 } (ParserState.init text.toList) fun items t =>
        t.Faces place [.finish] ∧
          List.Forall₂ (fun x item => ∃ n, item = .statement n ∧ fits x n) xs items := by
    have hhashbang : ((ParserState.init text.toList).token.lexeme == .hashbang) = false := by
      rw [beq_eq_false_iff_ne]
      intro hhead
      have hmem := List.mem_of_mem_head? (Option.mem_def.2 hinit.head)
      rw [hhead] at hmem
      simp only [List.mem_append, List.mem_flatMap, List.mem_singleton, reduceCtorEq, or_false]
        at hmem
      obtain ⟨x, hx, hmem⟩ := hmem
      exact (hspell x hx).2.2 hmem
    unfold programItems skipHashbang
    simp only [runs_bind, runs_lexeme, hhashbang, Bool.false_eq_true, if_false, runs_pure]
    refine runs_repeatUntil (fun l => l == .finish) (fun _ => True)
      (fun t => runs_atFinish.2 ⟨rfl, rfl⟩) ⟨rfl, trivial⟩ ?_ ?_ ?_ hinit
    · have hcount := length_le_flatMap fun x hx => (hspell x hx).1
      exact Nat.lt_of_le_of_lt (Nat.le_trans hcount hlength) (by simp)
    · intro x hx
      obtain ⟨hne, hfinish, -⟩ := hspell x hx
      obtain ⟨l, more, hmore⟩ := List.exists_cons_of_ne_nil hne
      refine ⟨l, more, hmore, ?_, trivial⟩
      rw [beq_eq_false_iff_ne]
      rintro rfl
      exact hfinish (by simp [hmore])
    · intro x hx t l more _ ht
      have hle := hshort x hx
      exact hstatement x hx place _ _ t l more (by omega) (by omega) ht
  obtain ⟨items, t, hrun, ht, hitems⟩ := hruns
  obtain ⟨nodes, rfl, hnodes⟩ := items_of_fits hitems
  refine ⟨nodes, ?_, hnodes⟩
  have hnames : (nodes.map Item.statement).flatMap Item.exportedNames = [] := by
    simp [Item.exportedNames]
  have hparse : parseItems text.toList = .ok (nodes.map .statement) := by
    unfold parseItems
    simp only [hrun, ht.lexical, ht.grammar, ht.shorthand, List.reverse_nil, List.append_nil,
      firstFault?, hnames, duplicateExport?]
  rw [Program.parse, hparse]

theorem parse_of_spells {text : String}
    (hspells : Spells text.toList (xs.flatMap spell ++ [.finish]))
    (hspell : ∀ x ∈ xs, spell x ≠ [] ∧ .finish ∉ spell x ∧ .hashbang ∉ spell x)
    (hstatement : ∀ x ∈ xs, ∀ place n limit t l more, 16 ≤ n → (spell x).length < limit →
      t.Faces place (spell x ++ l :: more) →
      Runs (statementItem (grammar n) false) { limit } t fun item u => u.Faces place (l :: more) ∧
        ∃ node, item = .statement node ∧ fits x node) :
    ∃ nodes, Program.parse text = .ok ⟨nodes.map .statement⟩ ∧ List.Forall₂ fits xs nodes :=
  parse_of_spells_nested hspells hspell fun x hx place n limit t l more hn =>
    hstatement x hx place n limit t l more (by omega)

/-- A text that spells one statement. -/
theorem parse_of_spelling_nested {text : String} {spelling : List Lexeme} {fits : Node → Prop}
    (hspells : Spells text.toList (spelling ++ [.finish]))
    (hspelling : spelling ≠ [] ∧ .finish ∉ spelling ∧ .hashbang ∉ spelling)
    (hstatement : ∀ place n limit t l more, 2 * spelling.length + 16 ≤ n → spelling.length < limit →
      t.Faces place (spelling ++ l :: more) →
      Runs (statementItem (grammar n) false) { limit } t fun item u => u.Faces place (l :: more) ∧
        ∃ node, item = .statement node ∧ fits node) :
    ∃ node, Program.parse text = .ok ⟨[.statement node]⟩ ∧ fits node := by
  have hspells : Spells text.toList ([()].flatMap (fun _ => spelling) ++ [.finish]) := by
    simpa using hspells
  have hnodes : ∃ nodes, Program.parse text = .ok ⟨nodes.map .statement⟩ ∧
      List.Forall₂ (fun _ => fits) [()] nodes :=
    parse_of_spells_nested hspells (fun _ _ => hspelling) (fun _ _ => hstatement)
  obtain ⟨nodes, hparse, hnodes⟩ := hnodes
  obtain ⟨node, _, hnode, hnil, rfl⟩ := List.forall₂_cons_left_iff.1 hnodes
  obtain rfl := List.forall₂_nil_left_iff.1 hnil
  exact ⟨node, hparse, hnode⟩

theorem parse_of_spelling {text : String} {spelling : List Lexeme} {fits : Node → Prop}
    (hspells : Spells text.toList (spelling ++ [.finish]))
    (hspelling : spelling ≠ [] ∧ .finish ∉ spelling ∧ .hashbang ∉ spelling)
    (hstatement : ∀ place n limit t l more, 16 ≤ n → spelling.length < limit →
      t.Faces place (spelling ++ l :: more) →
      Runs (statementItem (grammar n) false) { limit } t fun item u => u.Faces place (l :: more) ∧
        ∃ node, item = .statement node ∧ fits node) :
    ∃ node, Program.parse text = .ok ⟨[.statement node]⟩ ∧ fits node :=
  parse_of_spelling_nested hspells hspelling fun place n limit t l more hn =>
    hstatement place n limit t l more (by omega)

end Program

end ModuleBundler.Script.Parser
