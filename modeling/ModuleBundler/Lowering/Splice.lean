/-!
# Splicing text

An edit replaces a stretch of a text, or inserts at a point when the stretch is empty. Edits are
applied in the order of their positions; everything between them is kept.
-/

namespace ModuleBundler.Lowering

/-- Replaces the characters from `start` up to but without `stop`. -/
structure Edit where
  start : Nat
  stop : Nat
  text : String
  deriving DecidableEq

namespace Edit

/-- By start, then by stop. -/
def le (a b : Edit) : Bool :=
  a.start < b.start || (a.start == b.start && a.stop ≤ b.stop)

def sort (edits : List Edit) : List Edit := edits.mergeSort le

end Edit

/-- Applies sorted edits to the characters that start at `offset`. -/
def spliceFrom (source : List Char) (offset : Nat) : List Edit → List Char
  | [] => source
  | e :: es =>
    source.take (e.start - offset) ++ e.text.toList ++
      spliceFrom (source.drop (e.stop - offset)) e.stop es

def splice (source : List Char) (edits : List Edit) : List Char :=
  spliceFrom source 0 (Edit.sort edits)

end ModuleBundler.Lowering
