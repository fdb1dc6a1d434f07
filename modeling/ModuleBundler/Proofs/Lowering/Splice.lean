import ModuleBundler.Lowering.Splice
import ModuleBundler.Proofs.Script.Site

/-!
# Edits that do not overlap

Edits whose ranges follow each other in the text can be collected in any order: sorting restores
the order, and the splice then cuts the text exactly at the ends of the ranges.
-/

namespace ModuleBundler.Lowering

open Script (Span Fits)

/-- A text is cut into pieces that are kept and pieces that edits replace. -/
inductive Spliced : Nat → List Char → List Edit → List Char → Prop
  | done (offset : Nat) (source : List Char) : Spliced offset source [] source
  | edit {offset : Nat} {kept old rest body : List Char} {e : Edit} {edits : List Edit}
      (hstart : e.start = offset + kept.length) (hstop : e.stop = e.start + old.length)
      (hrest : Spliced e.stop rest edits body) :
      Spliced offset (kept ++ old ++ rest) (e :: edits) (kept ++ e.text.toList ++ body)

namespace Edit

def range (e : Edit) : Span := ⟨e.start, e.stop⟩

/-- By start, then by stop. -/
def Precedes (a b : Span) : Prop :=
  a.start < b.start ∨ a.start = b.start ∧ a.stop ≤ b.stop

theorem Precedes.antisymm {a b : Span} (hab : Precedes a b) (hba : Precedes b a) : a = b := by
  obtain ⟨start, stop⟩ := a
  obtain ⟨start', stop'⟩ := b
  simp only [Precedes] at hab hba
  have hstart : start = start' := by omega
  have hstop : stop = stop' := by omega
  rw [hstart, hstop]

theorem le_iff {a b : Edit} : le a b = true ↔ Precedes a.range b.range := by
  simp [le, Precedes, range]

theorem le_trans (a b c : Edit) (hab : le a b = true) (hbc : le b c = true) : le a c = true := by
  rw [le_iff, Precedes] at *
  omega

theorem le_total (a b : Edit) : (le a b || le b a) = true := by
  rw [Bool.or_eq_true, le_iff, le_iff, Precedes, Precedes]
  omega

variable {lo hi : Nat} {edits : List Edit} {ranges : List Span}

/-- Ranges that follow each other are in order. -/
theorem pairwise_of_fits (h : Fits lo hi ranges) : ranges.Pairwise Precedes := by
  induction ranges generalizing lo with
  | nil => exact .nil
  | cons a r ih =>
    obtain ⟨hlo, hle, hhi, hr⟩ := h
    refine .cons (fun b hb => ?_) (ih hr)
    have hb := hr.bounds hb
    rw [Precedes]
    omega

theorem sort_perm (edits : List Edit) : (sort edits).Perm edits := List.mergeSort_perm edits le

theorem sort_pairwise (edits : List Edit) : ((sort edits).map range).Pairwise Precedes :=
  List.pairwise_map.mpr ((List.pairwise_mergeSort le_trans le_total edits).imp le_iff.mp)

/-- Sorting finds the arrangement in which the ranges follow each other. -/
theorem range_sort (hp : (edits.map range).Perm ranges) (hf : Fits lo hi ranges) :
    (sort edits).map range = ranges := by
  have hperm : ((sort edits).map range).Perm ranges := ((sort_perm edits).map range).trans hp
  have hanti (a b : Span) (_ : a ∈ (sort edits).map range) (_ : b ∈ ranges)
      (hab : Precedes a b) (hba : Precedes b a) : a = b := hab.antisymm hba
  exact hperm.eq_of_pairwise hanti (sort_pairwise edits) (pairwise_of_fits hf)

end Edit

/-- Every cut falls inside what is left of the text. -/
theorem spliced_spliceFrom {offset : Nat} {source : List Char} {edits : List Edit}
    (h : Fits offset (offset + source.length) (edits.map Edit.range)) :
    Spliced offset source edits (spliceFrom source offset edits) := by
  induction edits generalizing offset source with
  | nil => exact .done offset source
  | cons e r ih =>
    obtain ⟨hlo, hle, hhi, hr⟩ := h
    simp only [Edit.range] at hlo hle hhi hr
    have hcut : source = source.take (e.start - offset) ++
        (source.drop (e.start - offset)).take (e.stop - e.start) ++
          source.drop (e.stop - offset) := by
      have hstop : e.stop - offset = (e.start - offset) + (e.stop - e.start) := by omega
      rw [hstop, ← List.drop_drop, List.append_assoc, List.take_append_drop,
        List.take_append_drop]
    have hrest : Fits e.stop (e.stop + (source.drop (e.stop - offset)).length)
        (r.map Edit.range) := by
      rw [List.length_drop]
      exact hr.mono (Nat.le_refl _) (by omega)
    rw [spliceFrom]
    conv => arg 2; rw [hcut]
    refine .edit ?_ ?_ (ih hrest)
    · rw [List.length_take]
      omega
    · rw [List.length_take, List.length_drop]
      omega

end ModuleBundler.Lowering
