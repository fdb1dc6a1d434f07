import ModuleBundler.Proofs.Lowering.Preamble
import ModuleBundler.Proofs.Script.Chain
import ModuleBundler.Proofs.Script.Gap

/-!
# Generated statements in a row

Every statement that lowering writes ends with a semicolon, so that several of them with gaps between
them are read as just these statements, whatever text comes behind the last one.
-/

namespace ModuleBundler.Lowering

open Script
open Script.Parser

/-- A statement that lowering writes. -/
inductive Generated where
  | marker
  | interop
  | imported (statement : ImportStatement)
  | reexported (statement : ReexportStatement)
  | exported (a : Assignment)

namespace Generated

def render : Generated → String
  | .marker => markerText
  | .interop => interopText
  | .imported statement => statement.render
  | .reexported statement => statement.render
  | .exported a => a.render

def spell : Generated → List Lexeme
  | .marker => markerSpell
  | .interop => interopSpell
  | .imported statement => statement.spell
  | .reexported statement => statement.spell
  | .exported a => a.spell

def Readable : Generated → Prop
  | .marker | .interop => True
  | .imported statement => statement.Readable
  | .reexported statement => statement.Readable
  | .exported a => a.Readable

/-- The syntax of a generated statement. -/
def Written : Generated → Node → Prop
  | .marker => IsMarker
  | .interop => IsInterop
  | .imported statement => statement.Written
  | .reexported statement => statement.Written
  | .exported a => a.Written

variable {g : Generated} {rest place : List Char} {ls : List Lexeme} {l : Lexeme}

theorem spells (h : g.Readable) (hls : SpellsTo place rest ls) :
    SpellsTo place (g.render.toList ++ rest) (g.spell ++ ls) := by
  cases g with
  | marker => exact spells_marker hls
  | interop => exact spells_interop hls
  | imported statement => exact spells_statement h hls
  | reexported statement => exact spells_reexport h hls
  | exported a => exact spells_export h hls

theorem spell_tokens (g : Generated) : g.spell ≠ [] ∧ Inner g.spell := by
  cases g with
  | marker => exact ⟨by decide, by unfold Inner; decide⟩
  | interop => exact ⟨by decide, by unfold Inner; decide⟩
  | imported statement => exact statement.spell_tokens
  | reexported statement => exact statement.spell_tokens
  | exported a =>
    exact ⟨by simp [spell, Assignment.spell, assignmentSpell],
      inner_assignmentSpell (by simp [Inner])⟩

theorem runs (h : g.Readable) {n limit : Nat} {place : Place} {t : ParserState}
    (hlimit : g.spell.length < limit) (ht : t.Faces place (g.spell ++ l :: ls)) :
    Runs (statementItem (grammar (n + 11)) false) { limit } t fun item u => u.Faces place (l :: ls) ∧
      ∃ m, item = .statement m ∧ g.Written m := by
  cases g with
  | marker => exact runs_marker (Nat.lt_of_le_of_lt (by decide) hlimit) ht
  | interop => exact runs_interopHelper (Nat.lt_of_le_of_lt (by decide) hlimit) ht
  | imported statement => exact runs_statement h hlimit ht
  | reexported statement => exact runs_reexport hlimit ht
  | exported a => exact runs_export h hlimit ht

theorem toList_semicolon (text : String) : ∃ front, (text ++ ";").toList = front ++ [';'] :=
  ⟨text.toList, by simp⟩

theorem toList_closed (text : String) : ∃ front, (text ++ ");").toList = front ++ [';'] :=
  ⟨text.toList ++ [')'], by simp⟩

/-- Every generated statement ends with a semicolon. -/
theorem exists_end (g : Generated) : ∃ front, g.render.toList = front ++ [';'] := by
  cases g with
  | marker =>
    have hend : markerText.toList.getLast? = some ';' := by decide +kernel
    exact List.getLast?_eq_some_iff.1 hend
  | interop =>
    have hend : interopText.toList.getLast? = some ';' := by decide +kernel
    exact List.getLast?_eq_some_iff.1 hend
  | imported statement =>
    cases statement with
    | whole | fields | evaluate => exact toList_semicolon _
    | defaultExport => exact toList_closed _
  | reexported statement =>
    cases statement with
    | whole => exact toList_semicolon _
    | all | named => exact toList_closed _
  | exported a => exact toList_semicolon _

end Generated

end ModuleBundler.Lowering
