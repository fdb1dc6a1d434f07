import ModuleBundler.Lowering.Lower
import ModuleBundler.Proofs.Script.Compound

/-!
# Imports are read back

What lowering writes for an import is read as the statements that it stands for, if the names that
it writes without quotes are identifiers.
-/

namespace ModuleBundler.Lowering

open Script
open Script.Parser (Field separated length_le_separated mem_separated)

/-! ## Texts as tokens -/

/-- The variable that a text in place of a module's value names. -/
def Source.Readable : Source → Prop
  | .required _ => True
  | .held name => IsVariable name

theorem readable_required (specifier : String) : (Source.required specifier).Readable := trivial

/-- The name is written in quotes, or it is a word. -/
def ReadableName (name : String) : Prop := isPlainName name = true → IsWord name

instance (name : String) : Decidable (ReadableName name) :=
  inferInstanceAs (Decidable (_ → _))

structure ReadableBinding (b : ImportBinding) : Prop where
  bound : IsVariable b.bound
  imported : b.imported ≠ b.bound → ReadableName b.imported

def ImportStatement.Readable : ImportStatement → Prop
  | .whole name source | .defaultExport name source => IsVariable name ∧ source.Readable
  | .fields bindings source => (∀ b ∈ bindings, ReadableBinding b) ∧ source.Readable
  | .evaluate _ => True

/-- How a field names its property. -/
def fieldOf (b : ImportBinding) : Field where
  key :=
    if b.imported = b.bound then .same
    else if isPlainName b.imported then .bare b.imported
    else .quoted b.imported
  bound := b.bound

def Source.spell : Source → List Lexeme
  | .required specifier =>
    [.word "require" false, .punctuator "(", .string specifier true, .punctuator ")"]
  | .held name => [.word name false]

def ImportStatement.spell : ImportStatement → List Lexeme
  | .whole name source =>
    .word "const" false :: .word name false :: .punctuator "=" ::
      (source.spell ++ [.punctuator ";"])
  | .defaultExport name source =>
    .word "const" false :: .word name false :: .punctuator "=" :: .word interopName false ::
      .punctuator "(" :: (source.spell ++ [.punctuator ")", .punctuator ";"])
  | .fields bindings source =>
    .word "const" false :: .punctuator "\x7b" ::
      (separated Field.spell (bindings.map fieldOf) ++
        .punctuator "\x7d" :: .punctuator "=" :: (source.spell ++ [.punctuator ";"]))
  | .evaluate specifier => (Source.required specifier).spell ++ [.punctuator ";"]

variable {rest place : List Char} {ls : List Lexeme}

theorem spells_source {source : Source} (h : source.Readable) (hrest : EndsWord rest)
    (hls : SpellsTo place rest ls) : SpellsTo place (source.render.toList ++ rest) (source.spell ++ ls) := by
  cases source with
  | required specifier =>
    have htext : (Source.required specifier).render.toList ++ rest =
        "require".toList ++ '(' :: ((Json.quote specifier).toList ++ ')' :: rest) := by
      simp [Source.render, requireCall]
    rw [htext]
    refine spells_word_mark (by decide +kernel) (by decide) ((lexes_quote specifier _).spells ?_)
    exact spells_mark (by decide) hls
  | held name => exact spells_word h.word hrest hls

theorem spells_field {b : ImportBinding} (h : ReadableBinding b) (hrest : EndsWord rest)
    (hls : SpellsTo place rest ls) :
    SpellsTo place ((bindingField b.imported b.bound).toList ++ rest) ((fieldOf b).spell ++ ls) := by
  have hvalue : SpellsTo place (':' :: ' ' :: (b.bound.toList ++ rest))
      (.punctuator ":" :: .word b.bound false :: ls) :=
    spells_mark (by decide) (spells_word h.bound.word hrest hls).blank
  unfold bindingField fieldOf
  split
  · rename_i hsame
    rw [hsame]
    exact spells_word h.bound.word hrest hls
  rename_i hother
  split
  · rename_i hplain
    have htext : (b.imported ++ ": " ++ b.bound).toList ++ rest =
        b.imported.toList ++ ':' :: ' ' :: (b.bound.toList ++ rest) := by
      simp
    rw [htext]
    exact spells_word (h.imported hother hplain) (endsWord_cons (by decide) _) hvalue
  · have htext : (Json.quote b.imported ++ ": " ++ b.bound).toList ++ rest =
        (Json.quote b.imported).toList ++ ':' :: ' ' :: (b.bound.toList ++ rest) := by
      simp
    rw [htext]
    exact (lexes_quote b.imported _).spells hvalue

theorem spells_fields {bindings : List ImportBinding} (h : ∀ b ∈ bindings, ReadableBinding b)
    (hrest : EndsWord rest) (hls : SpellsTo place rest ls) :
    SpellsTo place ((", ".intercalate (bindings.map fun b => bindingField b.imported b.bound)).toList ++
      rest) (separated Field.spell (bindings.map fieldOf) ++ ls) := by
  induction bindings with
  | nil => simpa [separated] using hls
  | cons b bindings ih =>
    have hb := h b List.mem_cons_self
    have ih := ih fun c hc => h c (List.mem_cons_of_mem _ hc)
    cases bindings with
    | nil => simpa [separated] using spells_field hb hrest hls
    | cons c bindings =>
      simp only [List.map_cons, String.intercalate_cons_cons, separated, String.toList_append,
        List.append_assoc] at ih ⊢
      exact spells_field hb (endsWord_cons (by decide) _) (spells_mark (by decide) ih.blank)

theorem spells_assign (hls : SpellsTo place rest ls) :
    SpellsTo place (' ' :: '=' :: ' ' :: rest) (.punctuator "=" :: ls) :=
  spells_operator (p := "=") (by decide) hls

theorem spells_statement {statement : ImportStatement} (h : statement.Readable)
    (hls : SpellsTo place rest ls) :
    SpellsTo place (statement.render.toList ++ rest) (statement.spell ++ ls) := by
  have hend : SpellsTo place (';' :: rest) (.punctuator ";" :: ls) := spells_mark (by decide) hls
  have hconst : IsWord "const" := by decide +kernel
  cases statement with
  | whole name source =>
    have htext : (ImportStatement.whole name source).render.toList ++ rest =
        "const".toList ++ ' ' ::
          (name.toList ++ ' ' :: '=' :: ' ' :: (source.render.toList ++ ';' :: rest)) := by
      simp [ImportStatement.render]
    simp only [htext, ImportStatement.spell, List.cons_append, List.append_assoc, List.nil_append]
    apply spells_word_blank hconst
    apply spells_word h.1.word (endsWord_cons (by decide) _)
    exact spells_assign (spells_source h.2 (endsWord_cons (by decide) _) hend)
  | defaultExport name source =>
    have htext : (ImportStatement.defaultExport name source).render.toList ++ rest =
        "const".toList ++ ' ' :: (name.toList ++ ' ' :: '=' :: ' ' :: (interopName.toList ++
          '(' :: (source.render.toList ++ ')' :: ';' :: rest))) := by
      simp [ImportStatement.render]
    simp only [htext, ImportStatement.spell, List.cons_append, List.append_assoc, List.nil_append]
    apply spells_word_blank hconst
    apply spells_word h.1.word (endsWord_cons (by decide) _)
    apply spells_assign
    apply spells_word_mark (by decide +kernel) (by decide)
    exact spells_source h.2 (endsWord_cons (by decide) _) (spells_mark (by decide) hend)
  | fields bindings source =>
    have htext : (ImportStatement.fields bindings source).render.toList ++ rest =
        "const".toList ++ ' ' :: '\x7b' :: ' ' ::
          ((", ".intercalate (bindings.map fun b => bindingField b.imported b.bound)).toList ++
            ' ' :: '\x7d' :: ' ' :: '=' :: ' ' :: (source.render.toList ++ ';' :: rest)) := by
      simp [ImportStatement.render, ImportStatement.renderFields]
    simp only [htext, ImportStatement.spell, List.cons_append, List.append_assoc, List.nil_append]
    apply spells_word_blank hconst
    apply spells_mark (by decide)
    apply SpellsTo.blank
    apply spells_fields h.1 (endsWord_cons (by decide) _)
    apply SpellsTo.blank
    apply spells_mark (by decide)
    exact spells_assign (spells_source h.2 (endsWord_cons (by decide) _) hend)
  | evaluate specifier =>
    have htext : (ImportStatement.evaluate specifier).render.toList ++ rest =
        (Source.required specifier).render.toList ++ ';' :: rest := by
      simp [ImportStatement.render, Source.render]
    simp only [htext, ImportStatement.spell, List.append_assoc, List.cons_append, List.nil_append]
    exact spells_source trivial (endsWord_cons (by decide) _) hend

theorem spells_statements {statements : List ImportStatement} (h : ∀ s ∈ statements, s.Readable) :
    SpellsTo [] (" ".intercalate (statements.map ImportStatement.render)).toList
      (statements.flatMap ImportStatement.spell ++ [.finish]) := by
  induction statements with
  | nil => exact spells_end
  | cons s statements ih =>
    have hs := h s List.mem_cons_self
    have ih := ih fun s' hs' => h s' (List.mem_cons_of_mem _ hs')
    cases statements with
    | nil => simpa using spells_statement hs spells_end
    | cons s' statements =>
      simp only [List.map_cons, String.intercalate_cons_cons, List.flatMap_cons,
        String.toList_append, List.append_assoc] at ih ⊢
      exact spells_statement hs ih.blank

/-! ## Tokens as syntax -/

/-- The syntax of a module's value. -/
inductive Source.Written : Source → Node → Prop where
  | required (specifier : String) (span inner inner' : Span) :
    Written (.required specifier) (.mk .call span
      [.mk (.identifier "require") inner [], .mk (.string specifier) inner' []])
  | held (name : String) (span : Span) : Written (.held name) (.mk (.identifier name) span [])

/-- The declaration of one constant, or of those in a pattern. -/
def constant (span inner : Span) (target value : Node) : Node :=
  .mk .variableList span [.mk .declarator inner [target, value]]

/-- The syntax of a generated statement. -/
inductive ImportStatement.Written : ImportStatement → Node → Prop where
  | whole (name : String) {source : Source} {n : Node} (h : source.Written n)
    (span inner bound : Span) :
    Written (.whole name source) (constant span inner (.mk (.binding name) bound []) n)
  | defaultExport (name : String) {source : Source} {n : Node} (h : source.Written n)
    (span inner bound call callee : Span) :
    Written (.defaultExport name source) (constant span inner (.mk (.binding name) bound [])
      (.mk .call call [.mk (.identifier interopName) callee [], n]))
  | fields {bindings : List ImportBinding} {source : Source} {n : Node} {fields : List Node}
    (h : source.Written n) (hfields : List.Forall₂ Field.Written (bindings.map fieldOf) fields)
    (span inner pattern : Span) :
    Written (.fields bindings source) (constant span inner (.mk .objectPattern pattern fields) n)
  | evaluate {specifier : String} {n : Node} (h : (Source.required specifier).Written n)
    (span : Span) : Written (.evaluate specifier) (.mk .expressionStatement span [n])

section Parse

open Script.Parser

variable {ctx : Context} {t : ParserState} {n : Nat} {place : Place}

theorem mayName_require : ctx.MayName "require" := .inl (by decide)

theorem runs_source {source : Source} (h : source.Readable) (hlimit : 1 < ctx.limit)
    (hyield : ctx.allowYield = false) {p : String} (hp : p ∈ closers)
    (ht : t.Faces place (source.spell ++ .punctuator p :: ls)) :
    Runs (grammar (n + 3) .assignment) ctx t fun m u =>
      u.Faces place (.punctuator p :: ls) ∧ source.Written m := by
  have hpositive : 0 < ctx.limit := Nat.zero_lt_of_lt hlimit
  cases source with
  | required specifier =>
    have ht : t.Faces place (.word "require" false :: .punctuator "(" :: .string specifier true ::
      .punctuator ")" :: .punctuator p :: ls) := ht
    apply runs_assignmentExpression hpositive (.word mayName_require (by simp)) ht hp
    apply (runs_leftHandSide_call hlimit (closer_mem_followers hp) (by simp)
      (runs_callee mayName_require (by simp) ht)
      fun u hu => runs_text (by exact hpositive) (by decide) hu).mono
    rintro _ u ⟨hu, span, _, _, rfl, ⟨inner, rfl⟩, ⟨inner', rfl⟩⟩
    exact ⟨hu, .required _ _ _ _⟩
  | held name =>
    have hname : ctx.MayName name := h.mayName hyield
    have hasync : p ≠ "(" := by
      rintro rfl
      revert hp
      decide
    apply runs_assignmentExpression hpositive (.word hname fun _ => hasync) ht hp
    apply runs_leftHandSide hpositive (closer_mem_followers hp)
    apply (runs_callee hname (by simp) ht).mono
    rintro _ u ⟨hu, span, rfl⟩
    exact ⟨hu, .held _ _⟩

theorem Source.spell_eq_cons (source : Source) : ∃ l more, source.spell = l :: more ∧
    l ∉ [.punctuator ")", .punctuator "...", .finish, .invalid] := by
  cases source <;> exact ⟨_, _, rfl, by simp⟩

theorem runs_interop {source : Source} (h : source.Readable) (hlimit : 1 < ctx.limit)
    (hyield : ctx.allowYield = false)
    (ht : t.Faces place (.word interopName false :: .punctuator "(" ::
      (source.spell ++ .punctuator ")" :: .punctuator ";" :: ls))) :
    Runs (grammar (n + 4) .assignment) ctx t fun m u =>
      u.Faces place (.punctuator ";" :: ls) ∧ ∃ span inner m', source.Written m' ∧
        m = .mk .call span [.mk (.identifier interopName) inner [], m'] := by
  have hpositive : 0 < ctx.limit := Nat.zero_lt_of_lt hlimit
  have hname : ctx.MayName interopName := .inl (by decide)
  have hp : ";" ∈ closers := by decide
  obtain ⟨first, more, hspell, hfirst⟩ := source.spell_eq_cons
  have hsource : ∀ u : ParserState, u.Faces place (first :: (more ++ .punctuator ")" ::
      .punctuator ";" :: ls)) → Runs (grammar (n + 3) .assignment)
        { ctx with allowIn := true, inDecorator := false } u fun m v =>
          v.Faces place (.punctuator ")" :: .punctuator ";" :: ls) ∧ source.Written m := by
    intro u hu
    rw [← List.cons_append, ← hspell] at hu
    exact runs_source h (by exact hlimit) (by exact hyield) (by decide) hu
  rw [hspell] at ht
  apply runs_assignmentExpression hpositive (.word hname (by decide)) ht hp
  apply (runs_leftHandSide_call hlimit (closer_mem_followers hp) hfirst
    (runs_callee hname (by simp) ht) hsource).mono
  rintro _ u ⟨hu, span, _, m, rfl, ⟨inner, rfl⟩, hm⟩
  exact ⟨hu, span, inner, m, hm, rfl⟩

theorem runs_fields {bindings : List ImportBinding} (h : ∀ b ∈ bindings, ReadableBinding b)
    {limit : Nat} (hlimit : bindings.length < limit) (l : Lexeme)
    (ht : t.Faces place (.punctuator "\x7b" :: (separated Field.spell (bindings.map fieldOf) ++
      .punctuator "\x7d" :: l :: ls))) :
    Runs (grammar (n + 2) .bindingTarget) { limit } t fun m u => u.Faces place (l :: ls) ∧
      ∃ span fields, m = .mk .objectPattern span fields ∧
        List.Forall₂ Field.Written (bindings.map fieldOf) fields := by
  refine runs_bindingTarget_object (by simpa using hlimit) ?_ rfl ht
  intro f hf
  obtain ⟨b, hb, rfl⟩ := List.mem_map.1 hf
  exact (h b hb).bound.mayName rfl

theorem runs_statement {statement : ImportStatement} (h : statement.Readable) {limit : Nat}
    (hlimit : statement.spell.length < limit) {l : Lexeme}
    (ht : t.Faces place (statement.spell ++ l :: ls)) :
    Runs (statementItem (grammar (n + 8)) false) { limit } t fun item u => u.Faces place (l :: ls) ∧
      ∃ m, item = .statement m ∧ statement.Written m := by
  have hone : 1 < limit := by
    refine Nat.lt_of_le_of_lt ?_ hlimit
    cases statement <;> simp [ImportStatement.spell, Source.spell]
  have hpositive : 0 < limit := Nat.zero_lt_of_lt hone
  -- the value of a constant whose name or pattern has been read
  have hvalue : ∀ {source : Source}, source.Readable → ∃ first more,
      source.spell ++ [.punctuator ";"] = first :: more ∧ ∀ u : ParserState,
        u.Faces place (first :: (more ++ l :: ls)) → Runs (grammar (n + 8) .assignment) { limit } u
          fun m v => v.Faces place (.punctuator ";" :: l :: ls) ∧ source.Written m := by
    intro source hsource
    obtain ⟨first, more, hspell, -⟩ := source.spell_eq_cons
    refine ⟨first, more ++ [.punctuator ";"], by rw [hspell]; rfl, fun u hu => ?_⟩
    have hu : u.Faces place (source.spell ++ .punctuator ";" :: l :: ls) := by
      simpa [hspell] using hu
    exact runs_source hsource hone rfl (by decide) hu
  cases statement with
  | whole name source =>
    obtain ⟨first, more, hspell, hruns⟩ := hvalue h.2
    rw [ImportStatement.spell, hspell] at ht
    apply (runs_declaration hpositive (by decide) (fun u hu => runs_name (h.1.mayName rfl) hu) hruns ht).mono
    rintro item u ⟨hu, span, inner, _, m, rfl, ⟨bound, rfl⟩, hm⟩
    exact ⟨hu, _, rfl, .whole _ hm _ _ _⟩
  | defaultExport name source =>
    simp only [ImportStatement.spell, List.cons_append, List.append_assoc, List.nil_append] at ht
    apply (runs_declaration hpositive (by decide) (fun u hu => runs_name (h.1.mayName rfl) hu)
      (fun u hu => runs_interop h.2 hone rfl hu) ht).mono
    rintro item u ⟨hu, span, inner, _, _, rfl, ⟨bound, rfl⟩, call, callee, m, hm, rfl⟩
    exact ⟨hu, _, rfl, .defaultExport _ hm _ _ _ _ _⟩
  | fields bindings source =>
    obtain ⟨first, more, hspell, hruns⟩ := hvalue h.2
    have hfields : ∀ f : Field, f.spell ≠ [] := by
      intro f
      obtain ⟨_, _, hf, -⟩ := f.spell_eq_cons
      simp [hf]
    have hlength : bindings.length < limit := by
      have hle := length_le_separated hfields (bindings.map fieldOf)
      simp only [ImportStatement.spell, List.length_cons, List.length_append, List.length_map]
        at hle hlimit
      omega
    simp only [ImportStatement.spell, hspell, List.cons_append, List.append_assoc] at ht
    apply (runs_declaration hpositive (by decide) (fun u hu => runs_fields h.1 hlength _ hu) hruns ht).mono
    rintro item u ⟨hu, span, inner, _, m, rfl, ⟨pattern, fields, rfl, hfields⟩, hm⟩
    exact ⟨hu, _, rfl, .fields hm hfields _ _ _⟩
  | evaluate specifier =>
    have ht : t.Faces place (.word "require" false :: .punctuator "(" :: .string specifier true ::
      .punctuator ")" :: .punctuator ";" :: l :: ls) := ht
    have hlabel : ∀ m, (Source.required specifier).Written m → m.isIdentifier = false := by
      rintro _ ⟨⟩
      rfl
    have hcall : Runs (grammar (n + 8) .assignment)
        { limit, allowIn := true, inDecorator := false } t fun m u =>
          u.Faces place (.punctuator ";" :: l :: ls) ∧ (Source.required specifier).Written m :=
      runs_source (readable_required specifier) (by exact hone) rfl (by decide) ht
    apply runs_statementItem_word (by decide) ht
    apply (runs_expressionStatement hlabel hcall).mono
    rintro _ u ⟨hu, span, m, rfl, hm⟩
    exact ⟨hu, _, rfl, .evaluate hm span⟩

end Parse

theorem ImportStatement.spell_tokens (statement : ImportStatement) :
    statement.spell ≠ [] ∧ .finish ∉ statement.spell ∧ .hashbang ∉ statement.spell := by
  have hsource : ∀ source : Source, .finish ∉ source.spell ∧ .hashbang ∉ source.spell := by
    intro source
    cases source <;> simp [Source.spell]
  have hfield : ∀ f : Field, .finish ∉ f.spell ∧ .hashbang ∉ f.spell := by
    rintro ⟨key | key | key, bound⟩ <;> simp [Field.spell]
  have hfields : ∀ (fs : List Field) (l : Lexeme), l ∈ separated Field.spell fs →
      l ≠ .finish ∧ l ≠ .hashbang := by
    intro fs l hl
    obtain rfl | ⟨f, -, hl⟩ := mem_separated hl
    · simp
    · constructor <;> rintro rfl
      · exact (hfield f).1 hl
      · exact (hfield f).2 hl
  cases statement with
  | fields bindings source =>
    have hnone : .finish ∉ separated Field.spell (bindings.map fieldOf) ∧
        .hashbang ∉ separated Field.spell (bindings.map fieldOf) :=
      ⟨fun hl => (hfields _ _ hl).1 rfl, fun hl => (hfields _ _ hl).2 rfl⟩
    simp [ImportStatement.spell, hsource, hnone]
  | whole | defaultExport | evaluate => simp [ImportStatement.spell, hsource]

/-- The text that replaces an import is read as the statements that it stands for. -/
theorem parse_statements {statements : List ImportStatement} (h : ∀ s ∈ statements, s.Readable) :
    ∃ nodes, Program.parse (" ".intercalate (statements.map ImportStatement.render)) =
        .ok ⟨nodes.map .statement⟩ ∧ List.Forall₂ ImportStatement.Written statements nodes := by
  refine Parser.parse_of_spells (spells_statements h).spells (fun s _ => s.spell_tokens) ?_
  intro s hs place n limit t l more hn hlimit ht
  obtain ⟨n, rfl⟩ := Nat.exists_eq_add_of_le' hn
  exact runs_statement (h s hs) hlimit ht

end ModuleBundler.Lowering
