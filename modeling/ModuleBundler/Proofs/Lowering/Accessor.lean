import ModuleBundler.Proofs.Json.Compact
import ModuleBundler.Proofs.Lowering.Evaluation
import ModuleBundler.Proofs.Script.Scan

/-!
# Names of properties

A property of a variable and a field of a pattern are read back with the name that they were written
for. A name that is written without quotes has to be an identifier for that; a name in quotes may be
any text.
-/

namespace ModuleBundler.Lowering

open Script
open Script.Parser

/-! ## What texts name -/

/-- A property of a variable. -/
def access? : Node → Option (String × String)
  | .mk .member _ [.mk (.identifier object) _ _, key] =>
    (keyName? key).map fun name => (object, name)
  | _ => none

/-- The property that a field of a pattern reads, and the variable that it binds. -/
def field? : Node → Option (String × String)
  | .mk .patternProperty _ [.mk (.binding bound) _ _] => some (bound, bound)
  | .mk .patternProperty _ [key, .mk (.binding bound) _ _] =>
    (keyName? key).map fun name => (name, bound)
  | _ => none

def fields? : Node → Option (List (String × String))
  | .mk .objectPattern _ fields => fields.mapM field?
  | _ => none

/-- The variable and the property of it that a statement consists of. -/
def accessed? : List Node → Option (String × String)
  | [.mk .expressionStatement _ [e]] => access? e
  | _ => none

/-- The fields of the pattern by which a statement declares constants. -/
def destructured? : List Node → Option (List (String × String))
  | [.mk .variableList _ [.mk .declarator _ [target, _]]] => fields? target
  | _ => none

variable {name object bound : String}

/-! ## Properties -/

/-- The tokens of a property of a variable, as a statement. -/
def accessSpell (object name : String) : List Lexeme :=
  .word object false :: ((keyOf name).spell ++ [.punctuator ";"])

theorem spells_access (hobject : IsWord object) (h : ReadableName name) :
    SpellsTo [] (object ++ accessor name ++ ";").toList (accessSpell object name ++ [.finish]) := by
  have htext : (object ++ accessor name ++ ";").toList =
      object.toList ++ ((accessor name).toList ++ [';']) := by
    simp
  have hend : SpellsTo [] [';'] [.punctuator ";", .finish] :=
    spells_mark (by decide) spells_end
  have hbegins : EndsWord ((accessor name).toList ++ [';']) := by
    unfold accessor
    split <;> simpa using endsWord_cons (by decide) _
  rw [htext]
  simpa [accessSpell] using
    spells_word hobject hbegins (spells_accessor h (endsWord_cons (by decide) _) hend)

/-- A statement that consists of a property of a variable. -/
def IsAccess (object name : String) (statement : Node) : Prop :=
  ∃ span e, statement = .mk .expressionStatement span [e] ∧ IsMember object (keyOf name) e

theorem parse_access (hobject : IsVariable object) (hword : object ∉ statementWords)
    (h : ReadableName name) :
    ∃ node, Program.parse (object ++ accessor name ++ ";") = .ok ⟨[.statement node]⟩ ∧
      IsAccess object name node := by
  have hspelling : accessSpell object name ≠ [] ∧ .finish ∉ accessSpell object name ∧
      .hashbang ∉ accessSpell object name := by
    unfold accessSpell keyOf
    split <;> simp [Key.spell]
  refine parse_of_spelling (spells_access hobject.word h).spells hspelling
    fun place n limit t l more hn hlimit ht => ?_
  obtain ⟨n, rfl⟩ := Nat.exists_eq_add_of_le' hn
  have hone : 1 < limit := by
    refine Nat.lt_of_le_of_lt ?_ hlimit
    simp [accessSpell]
  have hmay : (keyOf name).MayStand { limit, allowIn := true, inDecorator := false } := by
    unfold keyOf
    split <;> trivial
  have ht : t.Faces place (.word object false :: ((keyOf name).spell ++
      .punctuator ";" :: l :: more)) := by
    simpa [accessSpell] using ht
  apply runs_statementItem_word hword ht
  refine (runs_expressionStatement ?_
    (runs_memberValue (by exact hone) rfl (hobject.mayName rfl) hmay (by decide) ht)).mono ?_
  · rintro _ ⟨⟩
    rfl
  · rintro _ u ⟨hu, span, e, rfl, he⟩
    exact ⟨hu, _, rfl, span, e, rfl, he⟩

theorem accessed?_of_parse {text : String} {statement : Node}
    (hparse : Program.parse text = .ok ⟨[.statement statement]⟩)
    (h : IsAccess object name statement) :
    (statements? text).bind accessed? = some (object, name) := by
  obtain ⟨span, e, rfl, hmember⟩ := h
  have hnodes : statements? text = some [.mk .expressionStatement span [e]] :=
    statements?_of_parse hparse
  rw [hnodes, Option.bind_some, accessed?]
  cases hmember with
  | member hkey => simp only [access?, keyName?_written hkey, Option.map_some]

theorem accessed?_eq (hobject : IsVariable object) (hword : object ∉ statementWords)
    (h : ReadableName name) :
    (statements? (object ++ accessor name ++ ";")).bind accessed? = some (object, name) := by
  obtain ⟨node, hparse, haccess⟩ := parse_access hobject hword h
  exact accessed?_of_parse hparse haccess

/-! ## Fields -/

theorem field?_of_written {b : ImportBinding} {n : Node} (h : (fieldOf b).Written n) :
    field? n = some (b.imported, b.bound) := by
  obtain ⟨imported, bound⟩ := b
  unfold fieldOf at h
  split at h
  · rename_i hsame
    obtain rfl : imported = bound := hsame
    cases h
    rfl
  · split at h <;> cases h <;> rfl

theorem mapM_field? {bindings : List ImportBinding} {ns : List Node}
    (h : List.Forall₂ Field.Written (bindings.map fieldOf) ns) :
    ns.mapM field? = some (bindings.map fun b => (b.imported, b.bound)) := by
  induction bindings generalizing ns with
  | nil =>
    cases h
    rfl
  | cons b bindings ih =>
    obtain ⟨n, ns, hn, hns, rfl⟩ := List.forall₂_cons_left_iff.1 h
    simp [field?_of_written hn, ih hns]

theorem destructured?_of_written {text : String} {bindings : List ImportBinding}
    {source : Source} {nodes : List Node}
    (hparse : Program.parse text = .ok ⟨nodes.map .statement⟩)
    (h : List.Forall₂ ImportStatement.Written [.fields bindings source] nodes) :
    (statements? text).bind destructured? = some (bindings.map fun b => (b.imported, b.bound)) := by
  obtain ⟨node, _, hnode, hnil, rfl⟩ := List.forall₂_cons_left_iff.1 h
  obtain rfl := List.forall₂_nil_left_iff.1 hnil
  cases hnode with
  | fields hsource hfields span inner pattern =>
    rw [statements?_of_parse hparse, Option.bind_some]
    exact mapM_field? hfields

theorem destructured?_eq {bindings : List ImportBinding} (h : ∀ b ∈ bindings, ReadableBinding b) :
    (statements? ("const " ++ ImportStatement.renderFields bindings ++ " = exports;")).bind
      destructured? = some (bindings.map fun b => (b.imported, b.bound)) := by
  have hreadable : ∀ s ∈ [ImportStatement.fields bindings (.held "exports")], s.Readable := by
    intro s hs
    rw [List.mem_singleton.1 hs]
    exact ⟨h, by decide +kernel, .inl (by decide)⟩
  have htext : "const " ++ ImportStatement.renderFields bindings ++ " = exports;" =
      " ".intercalate ([ImportStatement.fields bindings (.held "exports")].map
        ImportStatement.render) := by
    simp [ImportStatement.render, Source.render, String.append_assoc]
  obtain ⟨nodes, hparse, hwritten⟩ := parse_statements hreadable
  rw [htext]
  exact destructured?_of_written hparse hwritten

/-! ## Names without quotes -/

/-- A word is only read where an identifier stands. -/
theorem isWord_of_lexes {cs rest : List Char} {escaped : Bool}
    (h : Lexes cs (.word name escaped) rest) : IsWord name := by
  obtain ⟨span, start, m, hscan⟩ := h.scan 0
  have hafter := Cursor.scan_after ⟨cs, 0⟩
  rw [hscan] at hafter
  exact hafter.word rfl name escaped rfl

theorem isWord_of_spells_access {cs : List Char} {ls : List Lexeme}
    (h : Spells cs (.word object false :: .punctuator "." :: .word name false :: ls)) :
    IsWord name := by
  obtain ⟨_, -, _, -, _, hname, -⟩ := h
  exact isWord_of_lexes hname

/-- A property of `exports` or of a module is read back as the property that is meant, and so are
the fields of a pattern, in their order, if the names among them that are written without quotes are
identifiers. No other name is read where it is written without quotes. A name that is written in
quotes is what these denote. -/
theorem names_read_back (name : String) (bindings : List ImportBinding) :
    (ReadableName name → ∀ object ∈ ["exports", "m"],
      (statements? (object ++ accessor name ++ ";")).bind accessed? = some (object, name)) ∧
    ((∀ b ∈ bindings, ReadableBinding b) →
      (statements? ("const " ++ ImportStatement.renderFields bindings ++ " = exports;")).bind
        destructured? = some (bindings.map fun b => (b.imported, b.bound))) ∧
    (∀ (rest : List Char) (ls : List Lexeme),
      Spells (("exports" ++ accessor name).toList ++ rest)
        (.word "exports" false :: .punctuator "." :: .word name false :: ls) → IsWord name) ∧
    (isPlainName name = false → accessor name = "[" ++ Json.quote name ++ "]" ∧
      (∀ bound, name ≠ bound → bindingField name bound = Json.quote name ++ ": " ++ bound) ∧
      Json.parse (Json.quote name) = .ok (.string name)) := by
  refine ⟨fun h object hobject => ?_, destructured?_eq,
    fun rest ls h => isWord_of_spells_access h, fun h => ?_⟩
  · have hvariable : IsVariable object ∧ object ∉ statementWords := by
      simp only [List.mem_cons, List.not_mem_nil, or_false] at hobject
      rcases hobject with rfl | rfl
      · exact ⟨⟨by decide +kernel, .inl (by decide)⟩, by decide⟩
      · exact ⟨⟨by decide +kernel, .inl (by decide)⟩, by decide⟩
    exact accessed?_eq hvariable.1 hvariable.2 h
  · refine ⟨?_, fun bound hbound => ?_, Json.parse_quote name⟩
    · rw [accessor, if_neg (by simp [h])]
    · rw [bindingField, if_neg hbound, if_neg (by simp [h])]

/-- A name that has to stand in quotes, beside one that is bound as it is. -/
theorem names_read_back_quoted :
    (statements? "exports[\"d-e\"];").bind accessed? = some ("exports", "d-e") ∧
    (statements? "const \x7b \"d-e\": f, g \x7d = exports;").bind destructured? =
      some [("d-e", "f"), ("g", "g")] := by
  have hf : IsVariable "f" := ⟨by decide +kernel, .inl (by decide)⟩
  have hg : IsVariable "g" := ⟨by decide +kernel, .inl (by decide)⟩
  have hname : ReadableName "d-e" := by decide +kernel
  obtain ⟨haccess, hfields, -⟩ := names_read_back "d-e" [⟨"d-e", "f"⟩, ⟨"g", "g"⟩]
  refine ⟨haccess hname "exports" (by decide), hfields ?_⟩
  simp only [List.forall_mem_cons]
  exact ⟨⟨hf, fun _ => hname⟩, ⟨hg, fun h => absurd rfl h⟩, List.forall_mem_nil _⟩

/-- A digit above the line is numeric without being part of an identifier, but it is written without
quotes: nothing can be read where such a name is accessed or bound. -/
theorem accessor_unreadable : isPlainName "a²" = true ∧ ¬ IsWord "a²" ∧
    statements? ("exports" ++ accessor "a²" ++ ";") = none ∧
    statements? ("const " ++ ImportStatement.renderFields [⟨"a²", "b"⟩] ++ " = exports;") = none ∧
    ∃ program, Program.parse "export \x7b a as \x27a²\x27 \x7d from \x27./x\x27" = .ok program ∧
      (contributionOfProgram program).edits =
        [⟨0, 31, "(function (m) \x7b exports.a² = m.a; \x7d)(require(\"./x\"));"⟩] := by
  have hread : (Program.parse "export \x7b a as \x27a²\x27 \x7d from \x27./x\x27").toOption.map
      (fun program => (contributionOfProgram program).edits) =
        some [⟨0, 31, "(function (m) \x7b exports.a² = m.a; \x7d)(require(\"./x\"));"⟩] := by
    decide +kernel
  have hnone : ∀ {text : String}, (Program.parse text).toOption.isNone = true →
      statements? text = none := by
    intro text h
    rw [statements?, Option.isNone_iff_eq_none.1 h]
    rfl
  refine ⟨by decide +kernel, by decide +kernel, hnone (by decide +kernel),
    hnone (by decide +kernel), ?_⟩
  cases h : Program.parse "export \x7b a as \x27a²\x27 \x7d from \x27./x\x27" with
  | error line => simp [h, Except.toOption] at hread
  | ok program =>
    simp only [h, Except.toOption, Option.map_some, Option.some.injEq] at hread
    exact ⟨program, rfl, hread⟩

end ModuleBundler.Lowering
