import ModuleBundler.Proofs.Script.Compound

/-!
# Operators and loops over keys

Operators that bind less and less tightly are read from left to right. Such a test can decide which
keys a loop over the keys of a variable goes on with.
-/

namespace ModuleBundler.Script.Parser

variable {rules : Rules} {ctx : Context} {s : ParserState} {l : Lexeme} {ls : List Lexeme}
  {place : Place}
  {name : String} {n : Nat}

/-! ## Operators -/

/-- No operator that binds tighter than `least` comes here. -/
structure Ends (least : Nat) (p : String) : Prop where
  follower : p ∈ followers
  power : p ≠ "**"
  looser : ∀ q ∈ binaryPrecedence? (.punctuator p), q ≤ least

/-- An operator with the operand behind it. -/
structure Link where
  operator : String
  precedence : Nat
  operand : List Lexeme
  fits : Node → Prop

namespace Link

def spell (o : Link) : List Lexeme := .punctuator o.operator :: o.operand

def shape (o : Link) : Shape :=
  if isLogicalOperator (.punctuator o.operator) then .logical false else .binary

/-- The operator is a usual one that binds tighter than `least`, and its operand is read. -/
structure Reads (rules : Rules) (ctx : Context) (least : Nat) (o : Link) : Prop where
  precedence : binaryPrecedence? (.punctuator o.operator) = some o.precedence
  plain : o.operator ∈ followers ∧ o.operator ≠ "**" ∧ o.operator ≠ "??"
  tighter : least < o.precedence
  operand : o.operand ≠ []
  runs : ∀ place (t : ParserState) p more, Ends o.precedence p →
    t.Faces place (o.operand ++ .punctuator p :: more) →
    Runs (rules (.binary o.precedence)) ctx t fun m u =>
      u.Faces place (.punctuator p :: more) ∧ o.fits m

end Link

/-- The operators are applied from left to right. -/
inductive Operated : Node → List Link → Node → Prop where
  | nil (left : Node) : Operated left [] left
  | cons {left right m : Node} {o : Link} {os : List Link} (hright : o.fits right)
    (span : Span) (h : Operated (.mk o.shape span [left, right]) os m) : Operated left (o :: os) m

theorem runs_checkMixing {start : Nat} {left right : Node} {Q : Unit → ParserState → Prop}
    (k : Q () s) : Runs (checkMixing start false left right) ctx s Q := by
  unfold checkMixing
  split <;> exact runs_pure.2 k

theorem runs_binaryRest_links {os : List Link} {least : Nat} {p : String}
    (hlimit : os.length < ctx.limit) (hos : ∀ o ∈ os, o.Reads rules ctx least)
    (hfall : os.Pairwise fun a b => b.precedence ≤ a.precedence) (hp : Ends least p)
    (h : s.Faces place (os.flatMap Link.spell ++ .punctuator p :: ls)) (start : Nat) (left : Node)
    (parenthesized : Bool) :
    Runs (binaryRest rules start left parenthesized least) ctx s fun m t =>
      t.Faces place (.punctuator p :: ls) ∧ Operated left os m := by
  refine runs_iterate (fun n (b : Node × Bool) t => ∃ todo, todo.length = n ∧
    (∀ o ∈ todo, o.Reads rules ctx least) ∧
    (todo.Pairwise fun a b => b.precedence ≤ a.precedence) ∧
    t.Faces place (todo.flatMap Link.spell ++ .punctuator p :: ls) ∧
    ∀ m, Operated b.1 todo m → Operated left os m) hlimit
    ⟨os, rfl, hos, hfall, h, fun _ => id⟩ ?_ ?_
  · rintro ⟨left', parenthesized'⟩ t ⟨todo, htodo, -, -, ht, hm⟩
    obtain rfl := List.length_eq_zero_iff.1 htodo
    rw [List.flatMap_nil, List.nil_append] at ht
    have hpower : (Lexeme.punctuator p == .punctuator "**") = false := by simpa using hp.power
    simp only [runs_bind, runs_lexeme, ht.lexeme]
    split
    · rename_i q hq
      simp only [hpower, Bool.false_eq_true, if_false, if_pos (hp.looser q hq), runs_pure]
      exact ⟨_, rfl, ht, hm _ (.nil _)⟩
    · exact runs_pure.2 ⟨_, rfl, ht, hm _ (.nil _)⟩
  · rintro n ⟨left', parenthesized'⟩ t ⟨todo, htodo, hreads, hfall, ht, hm⟩
    obtain ⟨o, todo, rfl⟩ := List.exists_cons_of_length_eq_add_one htodo
    obtain ⟨hprecedence, ⟨-, hpower, hcoalesce⟩, htighter, hoperand, hruns⟩ :=
      hreads o List.mem_cons_self
    have hpower : (Lexeme.punctuator o.operator == .punctuator "**") = false := by
      simpa using hpower
    have hcoalesce : (Lexeme.punctuator o.operator == .punctuator "??") = false := by
      simpa using hcoalesce
    rw [List.pairwise_cons] at hfall
    -- what stands behind the operand
    obtain ⟨p', more, hmore, hends⟩ : ∃ p' more, todo.flatMap Link.spell ++
        .punctuator p :: ls = .punctuator p' :: more ∧ Ends o.precedence p' := by
      cases todo with
      | nil => exact ⟨p, ls, rfl, hp.follower, hp.power, fun q hq =>
          Nat.le_trans (hp.looser q hq) (Nat.le_of_lt htighter)⟩
      | cons o' todo =>
        obtain ⟨hprecedence', ⟨hfollower, hpower', -⟩, -⟩ := hreads o' (by simp)
        refine ⟨o'.operator, _, rfl, hfollower, hpower', fun q hq => ?_⟩
        rw [hprecedence'] at hq
        obtain rfl := Option.some.inj hq
        exact hfall.1 o' List.mem_cons_self
    obtain ⟨l, rest, hl⟩ := List.exists_cons_of_ne_nil hoperand
    rw [List.flatMap_cons, List.append_assoc, hmore, Link.spell, hl] at ht
    simp only [runs_bind, runs_lexeme, ht.lexeme, hprecedence, hpower, hcoalesce, Bool.false_eq_true,
      if_false, if_neg (Nat.not_le_of_lt htighter), runs_atWord, Lexeme.isWord, Bool.false_and]
    rw [runs_read]
    apply runs_bump_punctuator ht
    intro u hu
    have hu : u.Faces place (o.operand ++ .punctuator p' :: more) := by
      rw [hl]
      exact hu
    apply (hruns place u p' more hends hu).mono
    rintro right v ⟨hv, hright⟩
    -- the round ends with the operator applied
    have hround : ∀ span, ∃ b', (.inl (.mk o.shape span [left', right], false) : Node × Bool ⊕ Node) =
        .inl b' ∧ ∃ todo : List Link, todo.length = n ∧
          (∀ o ∈ todo, o.Reads rules ctx least) ∧
          (todo.Pairwise fun a b => b.precedence ≤ a.precedence) ∧
          v.Faces place (todo.flatMap Link.spell ++ .punctuator p :: ls) ∧
          ∀ m, Operated b'.1 todo m → Operated left os m := fun span =>
      ⟨_, rfl, todo, Nat.succ.inj htodo, fun o ho => hreads o (List.mem_cons_of_mem _ ho), hfall.2,
        hmore ▸ hv, fun m hrest => hm m (.cons hright span hrest)⟩
    unfold Link.shape at hround
    split
    · rename_i hlogical
      rw [if_pos hlogical] at hround
      rw [runs_bind]
      apply runs_checkMixing
      simp only [runs_bind, runs_node, runs_pure]
      exact hround _
    · rename_i hlogical
      rw [if_neg hlogical] at hround
      simp only [runs_faultIf_false, runs_bind, runs_node, runs_pure]
      exact hround _

/-! ## Tests -/

/-- A variable and operators behind it. -/
theorem runs_links {os : List Link} {least : Nat} {p : String} (hpositive : 0 < ctx.limit)
    (hlimit : os.length < ctx.limit) (hname : ctx.MayName name)
    (hos : ∀ o ∈ os, o.Reads (grammar (n + 1)) ctx least)
    (hfall : os.Pairwise fun a b => b.precedence ≤ a.precedence) (hp : Ends least p)
    (h : s.Faces place (.word name false :: (os.flatMap Link.spell ++ .punctuator p :: ls))) :
    Runs (binaryExpression (grammar (n + 1)) least) ctx s fun m t =>
      t.Faces place (.punctuator p :: ls) ∧
        ∃ span, Operated (.mk (.identifier name) span []) os m := by
  obtain ⟨p', more, hmore, hp'⟩ : ∃ p' more, os.flatMap Link.spell ++ .punctuator p :: ls =
      .punctuator p' :: more ∧ p' ∈ followers := by
    cases os with
    | nil => exact ⟨p, ls, rfl, hp.follower⟩
    | cons o os => exact ⟨o.operator, _, rfl, (hos o List.mem_cons_self).plain.1⟩
  have hopen : p' ≠ "(" := by
    rintro rfl
    revert hp'
    decide
  rw [hmore] at h
  have hoperand : Runs (leftHandSide (grammar (n + 1))) ctx s fun m t =>
      t.Faces place (.punctuator p' :: more) ∧ ∃ span, m = .mk (.identifier name) span [] :=
    runs_leftHandSide hpositive hp' (runs_callee hname (by simp) h)
  apply runs_binaryExpression_left (.word hname fun _ => hopen) h hp' hoperand
  rintro _ t start parenthesized ht ⟨span, rfl⟩
  rw [← hmore] at ht
  apply (runs_binaryRest_links hlimit hos hfall hp ht start _ parenthesized).mono
  exact fun m u ⟨hu, hm⟩ => ⟨hu, span, hm⟩

/-- The variable is another one than a text. -/
def differs (value : String) : Link where
  operator := "!=="
  precedence := 7
  operand := [.string value true]
  fits m := ∃ span, m = .mk (.string value) span []

theorem reads_differs (hpositive : 0 < ctx.limit) {least : Nat} (hleast : least < 7)
    (value : String) : (differs value).Reads (grammar (n + 2)) ctx least where
  precedence := rfl
  plain := (by decide : "!==" ∈ followers ∧ "!==" ≠ "**" ∧ "!==" ≠ "??")
  tighter := hleast
  operand := by simp [differs]
  runs place t p more hp ht := by
    have hoperand : Runs (leftHandSide (grammar (n + 1))) ctx t fun m u =>
        u.Faces place (.punctuator p :: more) ∧ ∃ span, m = .mk (.string value) span [] :=
      runs_leftHandSide hpositive hp.follower
        (runs_primary_string ht fun span _ hu => ⟨hu, span, rfl⟩)
    apply runs_binaryExpression_left (.string value true _) ht hp.follower hoperand
    rintro _ u start _ hu ⟨span, rfl⟩
    exact runs_binaryRest hpositive ⟨hp.power, hp.looser⟩ hu _ _ _ ⟨hu, span, rfl⟩

/-- And the variable is another one than a text. -/
def andDiffers (name value : String) : Link where
  operator := "&&"
  precedence := 3
  operand := .word name false :: (differs value).spell
  fits m := ∃ span, Operated (.mk (.identifier name) span []) [differs value] m

theorem reads_andDiffers (hlimit : 1 < ctx.limit) (hname : ctx.MayName name) {least : Nat}
    (hleast : least < 3) (value : String) :
    (andDiffers name value).Reads (grammar (n + 3)) ctx least where
  precedence := rfl
  plain := (by decide : "&&" ∈ followers ∧ "&&" ≠ "**" ∧ "&&" ≠ "??")
  tighter := hleast
  operand := by simp [andDiffers]
  runs place t p more hp ht := by
    have hpositive : 0 < ctx.limit := Nat.zero_lt_of_lt hlimit
    have hreads : ∀ o ∈ [differs value], o.Reads (grammar (n + 2)) ctx 3 := by
      intro o ho
      obtain rfl := List.mem_singleton.1 ho
      exact reads_differs hpositive (by decide) value
    exact runs_links hpositive hlimit hname hreads (List.pairwise_singleton _ _) hp ht

/-- The test whether a variable is another one than each of two texts. -/
def testOf (name value other : String) : List Link := [differs value, andDiffers name other]

theorem runs_test {value other p : String} (hlimit : 2 < ctx.limit) (hname : ctx.MayName name)
    (hp : p ∈ closers)
    (h : s.Faces place (.word name false :: ((testOf name value other).flatMap Link.spell ++
      .punctuator p :: ls))) :
    Runs (grammar (n + 4) .assignment) ctx s fun m t => t.Faces place (.punctuator p :: ls) ∧
      ∃ span, Operated (.mk (.identifier name) span []) (testOf name value other) m := by
  have hpositive : 0 < ctx.limit := Nat.zero_lt_of_lt hlimit
  have hreads : ∀ o ∈ testOf name value other, o.Reads (grammar (n + 3)) ctx 0 := by
    intro o ho
    simp only [testOf, List.mem_cons, List.not_mem_nil, or_false] at ho
    obtain rfl | rfl := ho
    · exact reads_differs hpositive (by decide) value
    · exact reads_andDiffers (Nat.lt_of_succ_lt hlimit) hname (by decide) other
  have hfall : (testOf name value other).Pairwise fun a b => b.precedence ≤ a.precedence := by
    simp [testOf, differs, andDiffers]
  have hends : Ends 0 p :=
    (by decide : ∀ q ∈ closers, q ∈ followers ∧ q ≠ "**" ∧
      ∀ r ∈ binaryPrecedence? (.punctuator q), r ≤ 0) p hp |>.elim fun h₁ h₂ => ⟨h₁, h₂.1, h₂.2⟩
  exact runs_assignmentExpression_binary (.word hname (by simp [differs])) h hp
    (runs_links hpositive hlimit hname hreads hfall hends h)

/-! ## Statements -/

section Statement

variable {test body : Node → Prop} {first : Lexeme} {more after : List Lexeme}

theorem runs_ifStatement {l' : Lexeme} {ls' : List Lexeme} (hmore : more = l' :: ls')
    (hl : l.isWord "else" = false)
    (htest : ∀ t : ParserState, t.Faces place more →
      Runs (rules .assignment) { ctx with allowIn := true, inDecorator := false } t fun m u =>
        u.Faces place (.punctuator ")" :: first :: after) ∧ test m)
    (hbody : ∀ t : ParserState, t.Faces place (first :: after) →
      Runs (rules (.statement true)) ctx t fun m u => u.Faces place (l :: ls) ∧ body m)
    (h : s.Faces place (.word "if" false :: .punctuator "(" :: more)) :
    Runs (ifStatement rules) ctx s fun m t => t.Faces place (l :: ls) ∧
      ∃ span a b, m = .mk .statement span [a, b] ∧ test a ∧ body b := by
  subst hmore
  unfold ifStatement parenthesizedTest
  simp only [runs_bind, runs_tokenStart]
  apply runs_bump_word h
  intro t ht
  apply runs_expect ht
  intro u hu
  apply (runs_fullExpression (by decide) (htest u hu)).mono
  rintro a v ⟨hv, ha⟩
  apply runs_expect hv
  intro w hw
  simp only [runs_pure]
  apply (hbody w hw).mono
  rintro b x ⟨hx, hb⟩
  simp only [eatWord, runs_bind, runs_atWord, hx.lexeme, hl, Bool.false_eq_true, if_false, runs_pure,
    listIf, runs_node]
  exact ⟨hx, _, a, b, rfl, ha, hb⟩

/-- A loop over the keys of a variable, with a variable of its own. -/
inductive IsKeyLoop (key object : String) (body : Node → Prop) : Node → Prop where
  | loop {b : Node} (h : body b) (span list declarator bound inner : Span) :
    IsKeyLoop key object body (.mk .statement span
      [.mk .variableList list [.mk .declarator declarator [.mk (.binding key) bound []]],
       .mk (.identifier object) inner [], b])

theorem runs_keyLoop {key object : String} (hlimit : 0 < ctx.limit) (hkey : ctx.MayName key)
    (hobject : ctx.MayName object)
    (hbody : ∀ t : ParserState, t.Faces place (first :: more) →
      Runs (grammar (n + 2) (.statement true)) ctx t fun m u => u.Faces place (l :: ls) ∧ body m)
    (h : s.Faces place (.word "for" false :: .punctuator "(" :: .word "var" false :: .word key false ::
      .word "in" false :: .word object false :: .punctuator ")" :: first :: more)) :
    Runs (forStatement (grammar (n + 2))) ctx s fun m t =>
      t.Faces place (l :: ls) ∧ IsKeyLoop key object body m := by
  unfold forStatement loopAwaits
  simp only [runs_bind, runs_tokenStart]
  apply runs_bump_word h
  intro t ht
  simp only [runs_atWord, ht.lexeme, Lexeme.isWord, Bool.false_eq_true, if_false, runs_pure]
  apply runs_expect ht
  intro u hu
  have hvar : (Lexeme.word "var" false == .punctuator ";") = false ∧
      (Lexeme.word "var" false == .punctuator ")") = false := by decide
  unfold loopKind? variableKind?
  simp only [runs_atPunctuator, hu.lexeme, hvar, Bool.or_self, Bool.false_eq_true, if_false,
    runs_pure, runs_bind, runs_peek, runs_lexeme]
  have hdeclaration : Runs (withoutIn (variableList (grammar (n + 2)) .var true)) ctx u
      fun m v => v.Faces place (.word "in" false :: .word object false :: .punctuator ")" :: first ::
        more) ∧ ∃ list declarator bound, m = .mk .variableList list
          [.mk .declarator declarator [.mk (.binding key) bound []]] := by
    unfold withoutIn variableList commaSeparated variableDeclarator declarator endDeclaration
    simp only [runs_within, runs_bind, runs_tokenStart]
    apply runs_bump_word hu
    intro v hv
    apply (runs_name (by exact hkey) hv).mono
    rintro _ w ⟨hw, bound, rfl⟩
    apply runs_eat_other hw (by simp)
    simp only [Bool.false_eq_true, if_false, runs_node, if_true, runs_pure]
    apply runs_iterate_last (by exact hlimit)
    rw [runs_bind]
    apply runs_eat_other hw (by simp)
    simp only [Bool.false_eq_true, if_false, runs_pure]
    exact ⟨_, rfl, hw, _, _, bound, rfl⟩
  apply hdeclaration.mono
  rintro _ v ⟨hv, list, declarator, bound, rfl⟩
  have hin : ("in" == "in") = true := rfl
  unfold declaredLoop atIteration iterationLoop iterated
  simp only [runs_bind, runs_atWord, hv.lexeme, Lexeme.isWord, hin, runs_pure, Bool.true_or, if_true]
  apply runs_bump_word hv
  intro w hw
  apply (runs_fullExpression (by decide) (runs_variable (by exact hlimit) (by exact hobject)
    (by decide) hw)).mono
  rintro _ x ⟨hx, inner, rfl⟩
  apply runs_expect hx
  intro y hy
  simp only [Bool.false_and, runs_faultIf_false]
  apply (hbody y hy).mono
  rintro b z ⟨hz, hb⟩
  exact runs_node.2 ⟨hz, .loop hb _ _ _ _ _⟩

end Statement

end ModuleBundler.Script.Parser
