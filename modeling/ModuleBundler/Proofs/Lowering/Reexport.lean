import ModuleBundler.Proofs.Lowering.Reading
import ModuleBundler.Proofs.Script.Loop

/-!
# Exports are read back

What lowering writes for an export of another module's values is read as a function that is called
with that module, and what it writes for an exported variable is read as an assignment.
-/

namespace ModuleBundler.Lowering

open Script
open Script.Parser (Key IsMember IsAssignment IsApplication IsKeyLoop Link Operated testOf)

/-! ## Texts as tokens -/

def keyOf (name : String) : Key := if isPlainName name then .bare name else .quoted name

def Assignment.Readable (a : Assignment) : Prop := ReadableName a.exported ∧ IsVariable a.value

def ReexportStatement.Readable : ReexportStatement → Prop
  | .all _ => True
  | .whole exported _ => ReadableName exported
  | .named names _ => ∀ n ∈ names, ReadableName n.1 ∧ ReadableName n.2

/-- `exports` gets a value under a name. -/
def assignmentSpell (exported : String) (value : List Lexeme) : List Lexeme :=
  .word "exports" false :: ((keyOf exported).spell ++ .punctuator "=" ::
    (value ++ [.punctuator ";"]))

def Assignment.spell (a : Assignment) : List Lexeme :=
  assignmentSpell a.exported [.word a.value false]

/-- `exports` gets a property of the module. -/
def transferSpell (n : String × String) : List Lexeme :=
  assignmentSpell n.1 (.word "m" false :: (keyOf n.2).spell)

/-- `exports` gets the properties of the module but two. -/
def copySpell : List Lexeme :=
  [.word "for" false, .punctuator "(", .word "var" false, .word "k" false, .word "in" false,
   .word "m" false, .punctuator ")", .word "if" false, .punctuator "(", .word "k" false] ++
  (testOf "k" "default" "__esModule").flatMap Link.spell ++
  [.punctuator ")", .word "exports" false] ++ (Key.held "k").spell ++
  [.punctuator "=", .word "m" false] ++ (Key.held "k").spell ++ [.punctuator ";"]

/-- A function over a module is called with it. -/
def applicationSpell (body : List Lexeme) (specifier : String) : List Lexeme :=
  .punctuator "(" :: .word "function" false :: .punctuator "(" :: .word "m" false ::
    .punctuator ")" :: .punctuator "\x7b" :: (body ++ .punctuator "\x7d" :: .punctuator ")" ::
      .punctuator "(" :: ((Source.required specifier).spell ++ [.punctuator ")", .punctuator ";"]))

def ReexportStatement.spell : ReexportStatement → List Lexeme
  | .all specifier => applicationSpell copySpell specifier
  | .whole exported specifier => assignmentSpell exported (Source.required specifier).spell
  | .named names specifier => applicationSpell (names.flatMap transferSpell) specifier

section Spelling

variable {rest place : List Char} {ls : List Lexeme} {name : String}

theorem spells_accessor (h : ReadableName name) (hrest : EndsWord rest) (hls : SpellsTo place rest ls) :
    SpellsTo place ((accessor name).toList ++ rest) ((keyOf name).spell ++ ls) := by
  unfold accessor keyOf
  split
  · rename_i hplain
    have htext : ("." ++ name).toList ++ rest = '.' :: (name.toList ++ rest) := by simp
    rw [htext]
    exact spells_dot (h hplain) hrest hls
  · have htext : ("[" ++ Json.quote name ++ "]").toList ++ rest =
        '[' :: ((Json.quote name).toList ++ ']' :: rest) := by
      simp
    rw [htext]
    exact spells_mark (by decide) ((lexes_quote name _).spells (spells_mark (by decide) hls))

/-- An assignment, once its value and the end are spelt. -/
theorem spells_assignment (h : ReadableName name) {value : List Lexeme}
    (hls : SpellsTo place rest (value ++ .punctuator ";" :: ls)) :
    SpellsTo place ("exports".toList ++ ((accessor name).toList ++ ' ' :: '=' :: ' ' :: rest))
      (assignmentSpell name value ++ ls) := by
  have hspell : assignmentSpell name value ++ ls = .word "exports" false ::
      ((keyOf name).spell ++ .punctuator "=" :: (value ++ .punctuator ";" :: ls)) := by
    simp [assignmentSpell]
  rw [hspell]
  refine spells_word (by decide +kernel) ?_ ?_
  · unfold accessor
    split <;> simpa using endsWord_cons (by decide) _
  · exact spells_accessor h (endsWord_cons (by decide) _) (spells_assign hls)

/-- The text of an assignment for a pair of names. -/
def transferText (n : String × String) : String :=
  "exports" ++ accessor n.1 ++ " = m" ++ accessor n.2 ++ ";"

theorem spells_transfer {n : String × String} (h : ReadableName n.1 ∧ ReadableName n.2)
    (hls : SpellsTo place rest ls) :
    SpellsTo place ((transferText n).toList ++ rest) (transferSpell n ++ ls) := by
  have htext : (transferText n).toList ++ rest = "exports".toList ++ ((accessor n.1).toList ++
      ' ' :: '=' :: ' ' :: ("m".toList ++ ((accessor n.2).toList ++ ';' :: rest))) := by
    simp [transferText]
  rw [htext]
  refine spells_assignment h.1 (spells_word (by decide +kernel) ?_ ?_)
  · unfold accessor
    split <;> simpa using endsWord_cons (by decide) _
  · exact spells_accessor h.2 (endsWord_cons (by decide) _) (spells_mark (by decide) hls)

theorem spells_transfers {names : List (String × String)}
    (h : ∀ n ∈ names, ReadableName n.1 ∧ ReadableName n.2) (hls : SpellsTo place rest ls) :
    SpellsTo place ((" ".intercalate (names.map transferText)).toList ++ rest)
      (names.flatMap transferSpell ++ ls) := by
  induction names with
  | nil => simpa using hls
  | cons n names ih =>
    have hn := h n List.mem_cons_self
    have ih := ih fun n' hn' => h n' (List.mem_cons_of_mem _ hn')
    cases names with
    | nil => simpa using spells_transfer hn hls
    | cons n' names =>
      simp only [List.map_cons, String.intercalate_cons_cons, List.flatMap_cons,
        String.toList_append, List.append_assoc] at ih ⊢
      exact spells_transfer hn ih.blank

/-- A function over a module that is called with it, once its body is spelt. -/
theorem spells_application {text : List Char} {body : List Lexeme} {specifier : String}
    (hbody : ∀ {rest ls}, SpellsTo place rest ls → SpellsTo place (text ++ ' ' :: rest) (body ++ ls))
    (hls : SpellsTo place rest ls) :
    SpellsTo place ('(' :: ("function".toList ++ ' ' :: '(' :: ("m".toList ++ ')' :: ' ' :: '\x7b' ::
      ' ' :: (text ++ ' ' :: '\x7d' :: ')' :: '(' :: ((requireCall specifier).toList ++
        ')' :: ';' :: rest))))) (applicationSpell body specifier ++ ls) := by
  have hspell : applicationSpell body specifier ++ ls = .punctuator "(" ::
      .word "function" false :: .punctuator "(" :: .word "m" false :: .punctuator ")" ::
        .punctuator "\x7b" :: (body ++ .punctuator "\x7d" :: .punctuator ")" ::
          .punctuator "(" :: ((Source.required specifier).spell ++ .punctuator ")" ::
            .punctuator ";" :: ls)) := by
    simp [applicationSpell]
  rw [hspell]
  apply spells_mark (by decide)
  apply spells_word_blank (by decide +kernel)
  apply spells_mark (by decide)
  apply spells_word_mark (by decide +kernel) (by decide)
  apply SpellsTo.blank
  apply spells_mark (by decide)
  apply SpellsTo.blank
  apply hbody
  apply spells_mark (by decide)
  apply spells_mark (by decide)
  apply spells_mark (by decide)
  apply spells_source (readable_required specifier) (endsWord_cons (by decide) _)
  apply spells_mark (by decide)
  exact spells_mark (by decide) hls

/-- The text of the loop that copies properties. -/
def copyText : List Char :=
  "for".toList ++ ' ' :: '(' :: ("var".toList ++ ' ' :: ("k".toList ++ ' ' :: ("in".toList ++ ' ' ::
    ("m".toList ++ ')' :: ' ' :: ("if".toList ++ ' ' :: '(' :: ("k".toList ++ ' ' ::
    ("!==".toList ++ ' ' :: ((Json.quote "default").toList ++ ' ' :: ("&&".toList ++ ' ' ::
    ("k".toList ++ ' ' :: ("!==".toList ++ ' ' :: ((Json.quote "__esModule").toList ++ ')' :: ' ' ::
    ("exports".toList ++ '[' :: ("k".toList ++ ']' :: ' ' :: '=' :: ' ' :: ("m".toList ++ '[' ::
    ("k".toList ++ [']', ';']))))))))))))))))

theorem toList_copyExports : copyExports.toList = '(' :: ("function".toList ++ ' ' :: '(' ::
    ("m".toList ++ ')' :: ' ' :: '\x7b' :: ' ' :: (copyText ++ [' ', '\x7d', ')']))) := by
  decide +kernel

theorem spells_copy (hls : SpellsTo place rest ls) : SpellsTo place (copyText ++ rest) (copySpell ++ ls) := by
  simp only [copyText, List.append_assoc, List.cons_append, List.nil_append]
  apply spells_word_blank (by decide +kernel)
  apply spells_mark (by decide)
  apply spells_word_blank (by decide +kernel)
  apply spells_word_blank (by decide +kernel)
  apply spells_word_blank (by decide +kernel)
  apply spells_word_mark (by decide +kernel) (by decide)
  apply SpellsTo.blank
  apply spells_word_blank (by decide +kernel)
  apply spells_mark (by decide)
  apply spells_word (by decide +kernel) (endsWord_cons (by decide) _)
  apply spells_operator (by decide)
  apply (lexes_quote _ _).spells
  apply spells_operator (by decide)
  apply spells_word (by decide +kernel) (endsWord_cons (by decide) _)
  apply spells_operator (by decide)
  apply (lexes_quote _ _).spells
  apply spells_mark (by decide)
  apply SpellsTo.blank
  apply spells_word_mark (by decide +kernel) (by decide)
  apply spells_word_mark (by decide +kernel) (by decide)
  apply spells_assign
  apply spells_word_mark (by decide +kernel) (by decide)
  apply spells_word_mark (by decide +kernel) (by decide)
  exact spells_mark (by decide) hls

theorem spells_all (specifier : String) (hls : SpellsTo place rest ls) :
    SpellsTo place ((ReexportStatement.all specifier).render.toList ++ rest)
      ((ReexportStatement.all specifier).spell ++ ls) := by
  have htext : (ReexportStatement.all specifier).render.toList ++ rest = '(' ::
      ("function".toList ++ ' ' :: '(' :: ("m".toList ++ ')' :: ' ' :: '\x7b' :: ' ' ::
        (copyText ++ ' ' :: '\x7d' :: ')' :: '(' :: ((requireCall specifier).toList ++
          ')' :: ';' :: rest)))) := by
    change (copyExports ++ "(" ++ requireCall specifier ++ ");").toList ++ rest = _
    rw [String.toList_append, String.toList_append, String.toList_append, toList_copyExports]
    simp
  rw [htext]
  refine spells_application (fun hrest => ?_) hls
  exact spells_copy hrest.blank

theorem spells_whole {exported : String} (h : ReadableName exported) (specifier : String)
    (hls : SpellsTo place rest ls) :
    SpellsTo place ((ReexportStatement.whole exported specifier).render.toList ++ rest)
      ((ReexportStatement.whole exported specifier).spell ++ ls) := by
  have htext : (ReexportStatement.whole exported specifier).render.toList ++ rest =
      "exports".toList ++ ((accessor exported).toList ++ ' ' :: '=' :: ' ' ::
        ((requireCall specifier).toList ++ ';' :: rest)) := by
    change ("exports" ++ accessor exported ++ " = " ++ requireCall specifier ++ ";").toList ++
      rest = _
    simp
  rw [htext]
  apply spells_assignment h
  apply spells_source (readable_required specifier) (endsWord_cons (by decide) _)
  exact spells_mark (by decide) hls

theorem spells_named {names : List (String × String)}
    (h : ∀ n ∈ names, ReadableName n.1 ∧ ReadableName n.2) (specifier : String)
    (hls : SpellsTo place rest ls) :
    SpellsTo place ((ReexportStatement.named names specifier).render.toList ++ rest)
      ((ReexportStatement.named names specifier).spell ++ ls) := by
  have htext : (ReexportStatement.named names specifier).render.toList ++ rest = '(' ::
      ("function".toList ++ ' ' :: '(' :: ("m".toList ++ ')' :: ' ' :: '\x7b' :: ' ' ::
        ((" ".intercalate (names.map transferText)).toList ++
          ' ' :: '\x7d' :: ')' :: '(' :: ((requireCall specifier).toList ++
            ')' :: ';' :: rest)))) := by
    change ("(function (m) \x7b " ++ " ".intercalate (names.map transferText) ++ " \x7d)(" ++
      requireCall specifier ++ ");").toList ++ rest = _
    simp
  rw [htext]
  refine spells_application (fun hrest => ?_) hls
  exact spells_transfers h hrest.blank

theorem spells_reexport {statement : ReexportStatement} (h : statement.Readable)
    (hls : SpellsTo place rest ls) :
    SpellsTo place (statement.render.toList ++ rest) (statement.spell ++ ls) := by
  cases statement with
  | all specifier => exact spells_all specifier hls
  | whole exported specifier => exact spells_whole h specifier hls
  | named names specifier => exact spells_named h specifier hls

theorem spells_export {a : Assignment} (h : a.Readable) (hls : SpellsTo place rest ls) :
    SpellsTo place (a.render.toList ++ rest) (a.spell ++ ls) := by
  have htext : a.render.toList ++ rest = "exports".toList ++ ((accessor a.exported).toList ++
      ' ' :: '=' :: ' ' :: (a.value.toList ++ ';' :: rest)) := by
    simp [Assignment.render]
  rw [htext]
  apply spells_assignment h.1
  exact spells_word_mark h.2.word (by decide) hls

end Spelling

/-! ## Tokens as syntax -/

/-- The syntax of a variable. -/
def IsVariableNode (name : String) (n : Node) : Prop := ∃ span, n = .mk (.identifier name) span []

/-- `exports` gets a property of the module. -/
def IsTransfer (n : String × String) : Node → Prop :=
  IsAssignment "exports" (keyOf n.1) (IsMember "m" (keyOf n.2))

/-- `exports` gets the property of the module whose name the loop is at, unless it is one of two. -/
inductive IsCopy : Node → Prop where
  | copy {test body : Node} (span inner : Span)
    (htest : Operated (.mk (.identifier "k") inner []) (testOf "k" "default" "__esModule") test)
    (hbody : IsAssignment "exports" (.held "k") (IsMember "m" (.held "k")) body) :
    IsCopy (.mk .statement span [test, body])

/-- The syntax of a generated statement. -/
inductive ReexportStatement.Written : ReexportStatement → Node → Prop where
  | all {specifier : String} {n : Node}
    (h : IsApplication "m" (fun _ => IsKeyLoop "k" "m" IsCopy) [()]
      (Source.required specifier).Written n) : Written (.all specifier) n
  | whole {exported specifier : String} {n : Node}
    (h : IsAssignment "exports" (keyOf exported) (Source.required specifier).Written n) :
    Written (.whole exported specifier) n
  | named {names : List (String × String)} {specifier : String} {n : Node}
    (h : IsApplication "m" IsTransfer names (Source.required specifier).Written n) :
    Written (.named names specifier) n

def Assignment.Written (a : Assignment) : Node → Prop :=
  IsAssignment "exports" (keyOf a.exported) (IsVariableNode a.value)

section Parse

open Script.Parser

variable {ctx : Context} {t : ParserState} {l : Lexeme} {ls : List Lexeme} {n : Nat}
  {place : Place}

theorem mayStand_keyOf (name : String) : (keyOf name).MayStand ctx := by
  unfold keyOf
  split <;> exact trivial

theorem runs_transfer (hlimit : 1 < ctx.limit) (names : String × String)
    (h : t.Faces place (transferSpell names ++ l :: ls)) :
    Runs (statementItem (grammar (n + 4)) false) ctx t fun item u => u.Faces place (l :: ls) ∧
      ∃ m, item = .statement m ∧ IsTransfer names m := by
  have h : t.Faces place (.word "exports" false :: ((keyOf names.1).spell ++ .punctuator "=" ::
      .word "m" false :: ((keyOf names.2).spell ++ .punctuator ";" :: l :: ls))) := by
    simpa [transferSpell, assignmentSpell] using h
  exact runs_assignmentStatement hlimit (by decide) (.inl (by decide)) (mayStand_keyOf _)
    (fun u hu => runs_memberValue (by exact hlimit) rfl (.inl (by decide)) (mayStand_keyOf _)
      (by decide) hu) h

theorem bodies_transfers {limit : Nat} {names : List (String × String)}
    (hlimit : (names.flatMap transferSpell).length + 1 < limit) :
    Bodies (grammar (n + 4)) limit transferSpell IsTransfer names where
  fewer := by
    have hle : names.length ≤ (names.flatMap transferSpell).length :=
      length_le_flatMap fun x _ => by simp [transferSpell, assignmentSpell]
    omega
  head x _ := ⟨_, _, rfl, by simp, by simp, rfl⟩
  runs x _ place t l more _ ht := runs_transfer (Nat.lt_of_le_of_lt (Nat.le_add_left 1 _) hlimit) x ht

theorem runs_copyTest (hlimit : 2 < ctx.limit) (hl : l.isWord "else" = false)
    (h : t.Faces place (.word "if" false :: .punctuator "(" :: .word "k" false ::
      ((testOf "k" "default" "__esModule").flatMap Link.spell ++ .punctuator ")" ::
        .word "exports" false :: ((Key.held "k").spell ++ .punctuator "=" :: .word "m" false ::
          ((Key.held "k").spell ++ .punctuator ";" :: l :: ls))))) :
    Runs (statementItem (grammar (n + 5)) true) ctx t fun item u =>
      u.Faces place (l :: ls) ∧ ∃ m, item = .statement m ∧ IsCopy m := by
  have hk : ∀ ctx : Context, ctx.MayName "k" := fun _ => .inl (by decide)
  have hone : 1 < ctx.limit := Nat.lt_of_succ_lt hlimit
  have hif : Runs (ifStatement (grammar (n + 5))) ctx t fun m u =>
      u.Faces place (l :: ls) ∧ ∃ span a b, m = .mk .statement span [a, b] ∧
        (∃ inner, Operated (.mk (.identifier "k") inner []) (testOf "k" "default" "__esModule") a) ∧
        IsAssignment "exports" (.held "k") (IsMember "m" (.held "k")) b := by
    refine runs_ifStatement rfl hl
      (fun u hu => runs_test (by exact hlimit) (hk _) (by decide) hu) (fun u hu => ?_) h
    apply runs_statementNode
    exact runs_assignmentStatement hone (by decide) (.inl (by decide)) (by exact hk _)
      (fun v hv => runs_memberValue (by exact hone) rfl (.inl (by decide)) (by exact hk _)
        (by decide) hv) hu
  unfold statementItem
  simp only [runs_bind, runs_tokenStart, runs_lexeme, h.lexeme]
  apply hif.mono
  rintro _ u ⟨hu, span, a, b, rfl, ⟨inner, ha⟩, hb⟩
  exact runs_pure.2 ⟨hu, _, rfl, .copy _ _ ha hb⟩

/-- The loop that copies properties, as a statement of a function. -/
theorem runs_copy (hlimit : 2 < ctx.limit) (hl : l.isWord "else" = false)
    (h : t.Faces place (copySpell ++ l :: ls)) :
    Runs (statementItem (grammar (n + 6)) false) ctx t fun item u =>
      u.Faces place (l :: ls) ∧ ∃ m, item = .statement m ∧ IsKeyLoop "k" "m" IsCopy m := by
  have hloop : Runs (forStatement (grammar (n + 6))) ctx t fun m u =>
      u.Faces place (l :: ls) ∧ IsKeyLoop "k" "m" IsCopy m := by
    refine runs_keyLoop (Nat.zero_lt_of_lt hlimit) (.inl (by decide)) (.inl (by decide)) ?_ h
    intro u hu
    exact runs_statementNode (runs_copyTest hlimit hl hu)
  unfold statementItem
  simp only [runs_bind, runs_tokenStart, runs_lexeme, ParserState.Faces.lexeme h]
  apply hloop.mono
  rintro m u ⟨hu, hm⟩
  exact runs_pure.2 ⟨hu, _, rfl, hm⟩

theorem bodies_copy {limit : Nat} (hlimit : 2 < limit) :
    Bodies (grammar (n + 6)) limit (fun _ : Unit => copySpell)
      (fun _ => IsKeyLoop "k" "m" IsCopy) [()] where
  fewer := Nat.lt_of_succ_lt hlimit
  head _ _ := ⟨_, _, rfl, by simp, by simp, rfl⟩
  runs _ _ place t l more hl ht := runs_copy hlimit hl ht

/-- A function over a module that is called with it, once its body is read. -/
theorem runs_applied {X : Type} {spell : X → List Lexeme} {fits : X → Node → Prop} {xs : List X}
    {specifier : String} {limit : Nat} (hxs : Bodies (grammar n) limit spell fits xs)
    (hlimit : 1 < limit)
    (h : t.Faces place (applicationSpell (xs.flatMap spell) specifier ++ l :: ls)) :
    Runs (statementItem (grammar (n + 5)) false) { limit } t fun item u => u.Faces place (l :: ls) ∧
      ∃ m, item = .statement m ∧
        IsApplication "m" fits xs (Source.required specifier).Written m := by
  have hm : IsVariable "m" := ⟨by decide +kernel, .inl (by decide)⟩
  have h : t.Faces place (.punctuator "(" :: .word "function" false :: .punctuator "(" ::
      .word "m" false :: .punctuator ")" :: .punctuator "\x7b" :: (xs.flatMap spell ++
        .punctuator "\x7d" :: .punctuator ")" :: .punctuator "(" :: .word "require" false ::
          .punctuator "(" :: .string specifier true :: .punctuator ")" :: .punctuator ")" ::
            .punctuator ";" :: l :: ls)) := by
    simpa [applicationSpell, Source.spell] using h
  exact runs_application (by exact hlimit) hm (by exact hxs) (by simp)
    (fun u hu => runs_source (readable_required specifier) (by exact hlimit) rfl (by decide) hu) h

theorem length_applicationSpell (body : List Lexeme) (specifier : String) :
    (applicationSpell body specifier).length = body.length + 15 := by
  simp [applicationSpell, Source.spell]

theorem runs_reexport {statement : ReexportStatement} {limit : Nat}
    (hlimit : statement.spell.length < limit) (ht : t.Faces place (statement.spell ++ l :: ls)) :
    Runs (statementItem (grammar (n + 11)) false) { limit } t fun item u => u.Faces place (l :: ls) ∧
      ∃ m, item = .statement m ∧ statement.Written m := by
  cases statement with
  | all specifier =>
    rw [ReexportStatement.spell, length_applicationSpell] at hlimit
    have ht : t.Faces place
        (applicationSpell ([()].flatMap fun _ => copySpell) specifier ++ l :: ls) := by
      simpa [ReexportStatement.spell] using ht
    apply (runs_applied (bodies_copy (by omega)) (by omega) ht).mono
    rintro item u ⟨hu, m, hitem, hm⟩
    exact ⟨hu, m, hitem, .all hm⟩
  | whole exported specifier =>
    have ht : t.Faces place (.word "exports" false :: ((keyOf exported).spell ++ .punctuator "=" ::
        .word "require" false :: (.punctuator "(" :: .string specifier true :: .punctuator ")" ::
          .punctuator ";" :: l :: ls))) := by
      simpa [ReexportStatement.spell, assignmentSpell, Source.spell] using ht
    have hone : 1 < limit := by
      simp only [ReexportStatement.spell, assignmentSpell, List.length_cons, List.length_append]
        at hlimit
      omega
    apply (runs_assignmentStatement (by exact hone) (by decide) (.inl (by decide))
      (mayStand_keyOf _) (fun u hu => runs_source (readable_required specifier) (by exact hone) rfl
        (by decide) hu) ht).mono
    rintro item u ⟨hu, m, hitem, hm⟩
    exact ⟨hu, m, hitem, .whole hm⟩
  | named names specifier =>
    rw [ReexportStatement.spell, length_applicationSpell] at hlimit
    apply (runs_applied (bodies_transfers (by omega)) (by omega) ht).mono
    rintro item u ⟨hu, m, hitem, hm⟩
    exact ⟨hu, m, hitem, .named hm⟩

theorem runs_export {a : Assignment} (h : a.Readable) {limit : Nat}
    (hlimit : a.spell.length < limit) (ht : t.Faces place (a.spell ++ l :: ls)) :
    Runs (statementItem (grammar (n + 4)) false) { limit } t fun item u => u.Faces place (l :: ls) ∧
      ∃ m, item = .statement m ∧ a.Written m := by
  have hone : 1 < limit := by
    simp only [Assignment.spell, assignmentSpell, List.length_cons, List.length_append] at hlimit
    omega
  have ht : t.Faces place (.word "exports" false :: ((keyOf a.exported).spell ++ .punctuator "=" ::
      .word a.value false :: .punctuator ";" :: l :: ls)) := by
    simpa [Assignment.spell, assignmentSpell] using ht
  exact runs_assignmentStatement (by exact hone) (by decide) (.inl (by decide)) (mayStand_keyOf _)
    (fun u hu =>
      runs_variable (by exact Nat.zero_lt_of_lt hone) (h.2.mayName rfl) (by decide) hu) ht

end Parse

/-- Tokens that neither end a text nor may only start one. -/
def Inner (ls : List Lexeme) : Prop := .finish ∉ ls ∧ .hashbang ∉ ls

theorem inner_keyOf (name : String) : Inner (keyOf name).spell := by
  unfold Inner keyOf
  split <;> simp [Key.spell]

theorem inner_assignmentSpell {exported : String} {value : List Lexeme} (h : Inner value) :
    Inner (assignmentSpell exported value) := by
  have hkey := inner_keyOf exported
  simp only [Inner] at h hkey
  simp [Inner, assignmentSpell, h, hkey]

theorem inner_applicationSpell {body : List Lexeme} (h : Inner body) (specifier : String) :
    Inner (applicationSpell body specifier) := by
  simp only [Inner] at h
  simp [Inner, applicationSpell, Source.spell, h]

theorem ReexportStatement.spell_tokens (statement : ReexportStatement) :
    statement.spell ≠ [] ∧ Inner statement.spell := by
  cases statement with
  | all specifier =>
    have hcopy : Inner copySpell := by
      unfold Inner
      decide
    exact ⟨by simp [spell, applicationSpell], inner_applicationSpell hcopy _⟩
  | whole exported specifier =>
    exact ⟨by simp [spell, assignmentSpell], inner_assignmentSpell (by simp [Inner, Source.spell])⟩
  | named names specifier =>
    refine ⟨by simp [spell, applicationSpell], inner_applicationSpell ?_ _⟩
    have htransfer : ∀ n ∈ names, Inner (transferSpell n) := by
      intro n _
      have hkey := inner_keyOf n.2
      simp only [Inner] at hkey
      exact inner_assignmentSpell (by simp [Inner, hkey])
    simp only [Inner, List.mem_flatMap, not_exists, not_and]
    exact ⟨fun n hn => (htransfer n hn).1, fun n hn => (htransfer n hn).2⟩

/-- The text that replaces a re-export is read as the statement that it stands for. -/
theorem parse_reexport {statement : ReexportStatement} (h : statement.Readable) :
    ∃ node, Program.parse statement.render = .ok ⟨[.statement node]⟩ ∧ statement.Written node := by
  refine Parser.parse_of_spelling ?_ statement.spell_tokens ?_
  · simpa using (spells_reexport h spells_end).spells
  · intro place n limit t l more hn hlimit ht
    obtain ⟨n, rfl⟩ := Nat.exists_eq_add_of_le' hn
    exact runs_reexport hlimit ht

/-- So is an assignment of a variable. -/
theorem parse_export {a : Assignment} (h : a.Readable) :
    ∃ node, Program.parse a.render = .ok ⟨[.statement node]⟩ ∧ a.Written node := by
  have htokens : a.spell ≠ [] ∧ Inner a.spell :=
    ⟨by simp [Assignment.spell, assignmentSpell], inner_assignmentSpell (by simp [Inner])⟩
  refine Parser.parse_of_spelling ?_ htokens ?_
  · simpa using (spells_export h spells_end).spells
  · intro place n limit t l more hn hlimit ht
    obtain ⟨n, rfl⟩ := Nat.exists_eq_add_of_le' hn
    exact runs_export h hlimit ht

end ModuleBundler.Lowering
