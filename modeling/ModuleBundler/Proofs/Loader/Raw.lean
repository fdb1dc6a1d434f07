import ModuleBundler.Loader.Builtin
import ModuleBundler.Proofs.Json.Compact
import ModuleBundler.Proofs.Loader.Pipeline
import ModuleBundler.Proofs.Lowering.Reexport
import ModuleBundler.Proofs.Lowering.Rewriting
import ModuleBundler.Proofs.World

/-!
# Texts as modules

A text that is exported as it stands becomes a script of one statement, whatever the text holds:
its quotation is one token, which denotes the text. Lowering has nothing to do there, and the module
depends on nothing.
-/

namespace ModuleBundler

open Script (Item Node Span Program Lexeme SpellsTo)
open Script.Parser (Key IsAssignment)

/-! ## The script of a text -/

namespace Loader

/-- The syntax of a text. -/
def IsText (value : String) (n : Node) : Prop := ∃ span, n = .mk (.string value) span []

/-- `module.exports` gets a value. -/
def exportSpell (value : List Lexeme) : List Lexeme :=
  .word "module" false :: ((Key.bare "exports").spell ++ .punctuator "=" ::
    (value ++ [.punctuator ";"]))

theorem spells_exporting {expression : String} {value : List Lexeme}
    (h : SpellsTo [] (expression.toList ++ [';']) (value ++ [.punctuator ";", .finish])) :
    SpellsTo [] (exporting expression).toList (exportSpell value ++ [.finish]) := by
  have htext : (exporting expression).toList = "module".toList ++ '.' ::
      ("exports".toList ++ ' ' :: '=' :: ' ' :: (expression.toList ++ [';'])) := by
    have htarget : "module.exports = ".toList = "module".toList ++ '.' ::
        ("exports".toList ++ [' ', '=', ' ']) := by decide +kernel
    change ("module.exports = " ++ expression ++ ";").toList = _
    rw [String.toList_append, String.toList_append, htarget]
    simp
  have hspell : exportSpell value ++ [.finish] = .word "module" false :: .punctuator "." ::
      .word "exports" false :: .punctuator "=" :: (value ++ [.punctuator ";", .finish]) := by
    simp [exportSpell, Key.spell]
  rw [htext, hspell]
  apply Script.spells_word (by decide +kernel) (Script.endsWord_cons (by decide) _)
  apply Script.spells_dot (by decide +kernel) (Script.endsWord_cons (by decide) _)
  exact Lowering.spells_assign h

/-- Exporting an expression is one assignment, however deep the expression is. -/
theorem parse_exporting {expression : String} {value : List Lexeme} {fits : Node → Prop}
    (hspells : SpellsTo [] (expression.toList ++ [';']) (value ++ [.punctuator ";", .finish]))
    (hvalue : value ≠ [] ∧ .finish ∉ value ∧ .hashbang ∉ value)
    (hruns : ∀ place n ctx t l more, 2 * value.length ≤ n → value.length < ctx.limit →
      t.Faces place (value ++ .punctuator ";" :: l :: more) →
      Script.Parser.Runs (Script.grammar n .assignment) ctx t fun m u =>
        u.Faces place (.punctuator ";" :: l :: more) ∧ fits m) :
    ∃ node, Program.parse (exporting expression) = .ok ⟨[.statement node]⟩ ∧
      IsAssignment "module" (.bare "exports") fits node := by
  obtain ⟨hne, hfinish, hhashbang⟩ := hvalue
  obtain ⟨first, others, rfl⟩ := List.exists_cons_of_ne_nil hne
  refine Script.Parser.parse_of_spelling_nested (spells_exporting hspells).spells ?_ ?_
  · simpa [exportSpell, Key.spell] using And.intro hfinish hhashbang
  · intro place n limit t l more hn hlimit ht
    simp only [exportSpell, List.length_cons, List.length_append] at hn hlimit
    obtain ⟨n, rfl⟩ : ∃ k, n = k + 3 := ⟨n - 3, by omega⟩
    have ht : t.Faces place (.word "module" false :: ((Key.bare "exports").spell ++ .punctuator "=" ::
        first :: (others ++ .punctuator ";" :: l :: more))) := by
      simpa [exportSpell] using ht
    refine Script.Parser.runs_assignmentStatement (show 1 < limit by omega) (by decide)
      (.inl (by decide)) (by exact trivial) (fun u hu => ?_) ht
    refine hruns _ _ _ _ _ _ ?_ ?_ hu
    · simp only [List.length_cons]
      omega
    · simp only [List.length_cons]
      omega

theorem spells_raw (text : String) : SpellsTo [] ((Json.quote text).toList ++ [';'])
    ([.string text true] ++ [.punctuator ";", .finish]) :=
  (Script.lexes_quote _ _).spells (Script.spells_mark (by decide) Script.spells_end)

/-- The script is one assignment of the text that was quoted. -/
theorem parse_raw (text : String) : ∃ node,
    Program.parse (exporting (Json.quote text)) = .ok ⟨[.statement node]⟩ ∧
      IsAssignment "module" (.bare "exports") (IsText text) node := by
  refine parse_exporting (spells_raw text) (by simp) ?_
  intro place n ctx t l more hn hlimit ht
  obtain ⟨n, rfl⟩ : ∃ k, n = k + 2 := ⟨n - 2, by simp at hn; omega⟩
  exact Script.Parser.runs_text (Nat.zero_lt_of_lt hlimit) (by decide) ht

end Loader

namespace Lowering

open Loader (IsText)

variable {text source : String} {node : Node}

/-- Neither the key nor the text asks for a module or gives way to anything. -/
theorem contribution_raw (h : IsAssignment "module" (.bare "exports") (IsText text) node) :
    contributionOfProgram ⟨[.statement node]⟩ = {} := by
  obtain ⟨⟨⟨_, _⟩, _, _⟩, ⟨_, rfl⟩, _, _⟩ := h
  rfl

theorem specifiersOf_nil : specifiersOf [] = [] := by
  rw [specifiersOf, List.mergeSort_nil]
  rfl

theorem render_nothing (source : String) : render source.toList {} = source := by
  have hbare := Contribution.bare_empty
  have hsplice : splice source.toList [] = source.toList := by
    rw [splice, Edit.sort, List.mergeSort_nil]
    rfl
  rw [render, hbare.header, hbare.footer, hsplice]
  simp

/-- A script that has nothing to be lowered is its own output. -/
theorem transform_nothing {items : List Item} (hparse : Program.parse source = .ok ⟨items⟩)
    (h : contributionOfProgram ⟨items⟩ = {}) (path : String) :
    Transformer.imports.transform source path = .ok ⟨.empty, source⟩ := by
  have hlower : lower source path = .ok ⟨.empty, source⟩ := by
    rw [lower, hparse]
    simp only [bind, Except.bind, h, render_nothing, specifiersOf_nil]
    rfl
  change (lower source path).mapError _ = _
  rw [hlower]
  rfl

theorem transform_raw (hparse : Program.parse source = .ok ⟨[.statement node]⟩)
    (h : IsAssignment "module" (.bare "exports") (IsText text) node) (path : String) :
    Transformer.imports.transform source path = .ok ⟨.empty, source⟩ :=
  transform_nothing hparse (contribution_raw h) path

end Lowering

/-- Code that the transformer leaves alone and finds no dependencies in becomes the module. -/
theorem Builder.build_inert {m : Type → Type} [Monad m] {σ : Type} [World m σ] {b : Builder m}
    {I : σ → Prop} {id : ModuleId} {bytes : Text.Bytes} {text code : String}
    (hread : Gives I (b.host.read id.path) (.ok bytes)) (hbytes : Text.decode? bytes = some text)
    (hload : b.loaders.apply id.path text = .ok code)
    (htransform : b.transformer.transform code id.path = .ok ⟨.empty, code⟩) :
    Gives I (b.build id) (.ok ⟨id, .empty, code⟩) := by
  have hcompile : b.compile id.path bytes = .ok ⟨.empty, code⟩ := by
    unfold compile
    rw [hbytes]
    simp only [hload]
    change (b.transformer.transform code id.path).mapError _ = _
    rw [htransform]
    rfl
  have hresolved : Gives I (b.resolveAll id .empty []) (.ok .empty) := .pure _
  unfold build
  refine Gives.bind hread ?_
  simp only [hcompile]
  exact hresolved.bind (.pure _)

namespace Loader

open Script (Program)

/-- Whatever a text holds, the module that exports it is a script of one statement, which assigns
one string to `module.exports`, and this string is the text. Lowering returns that script letter by
letter and finds no dependencies in it, at every path. So a file whose only loader this is becomes a
module without dependencies, as long as it holds a text at all. -/
theorem raw_inert {m : Type → Type} [Monad m] {σ : Type} [World m σ] (text : String) : ∃ code node,
    raw.run text = .ok code ∧ code = "module.exports = " ++ Json.quote text ++ ";" ∧
    Json.parse (Json.quote text) = .ok (.string text) ∧
    Program.parse code = .ok ⟨[.statement node]⟩ ∧
    IsAssignment "module" (.bare "exports") (IsText text) node ∧
    (∀ path, Transformer.imports.transform code path = .ok ⟨.empty, code⟩) ∧
    ∀ (b : Builder m) (id : ModuleId) (bytes : Text.Bytes) (I : σ → Prop),
      b.transformer = .imports → b.loaders.loadersFor id.path = [raw] →
      Text.decode? bytes = some text → Gives I (b.host.read id.path) (.ok bytes) →
      Gives I (b.build id) (.ok ⟨id, .empty, code⟩) := by
  obtain ⟨node, hparse, hnode⟩ := parse_raw text
  have htransform := Lowering.transform_raw hparse hnode
  refine ⟨_, node, rfl, rfl, Json.parse_quote text, hparse, hnode, htransform, ?_⟩
  intro b id bytes I htransformer hloaders hbytes hread
  refine Builder.build_inert hread hbytes ?_ ?_
  · rw [Pipeline.apply_eq, hloaders]
    rfl
  · rw [htransformer, htransform]

/-- A text that looks as if it ended the quotation and asked for a module. -/
def breakingText : String := "\"; require('./x');\n/* \u2028\x60"

theorem raw_inert_breaking :
    let s := FileSystem.Memory.ofFiles "/" [("/a.txt", Text.encode breakingText)]
    let b : Builder (StateM FileSystem.Memory) :=
      { host := FileSystem.Memory.host, loaders := [⟨.extension "txt", .single raw⟩] }
    ∃ code, raw.run breakingText = .ok code ∧
      Transformer.imports.transform code "/a.txt" = .ok ⟨.empty, code⟩ ∧
      (World.run (b.build (.ofRooted "/a.txt")) s).1 = .ok ⟨.ofRooted "/a.txt", .empty, code⟩ := by
  intro s b
  obtain ⟨code, node, hcode, -, -, -, -, htransform, hbuild⟩ :=
    raw_inert (m := StateM FileSystem.Memory) breakingText
  have hloaders : b.loaders.loadersFor (ModuleId.ofRooted "/a.txt").path = [raw] := by
    have hpasses : (Test.extension "txt").passes (ModuleId.ofRooted "/a.txt").path = true := by
      decide +kernel
    rw [Pipeline.loadersFor_cons, if_pos hpasses]
    rfl
  have hbytes : Text.decode? (Text.encode breakingText) = some breakingText := by decide +kernel
  have hread : Gives (fun t => t = s) (b.host.read (ModuleId.ofRooted "/a.txt").path)
      (.ok (Text.encode breakingText)) := by
    rintro _ rfl
    have hstored : s.read (ModuleId.ofRooted "/a.txt").path = .ok (Text.encode breakingText) := by
      decide +kernel
    exact ⟨hstored, rfl⟩
  exact ⟨code, hcode, htransform _, (hbuild b _ _ _ rfl hloaders hbytes hread s rfl).1⟩

end Loader

end ModuleBundler
