import Mathlib.Data.List.Chain
import ModuleBundler.Script.Lexer

/-!
# Words

A word that is read without fault is made of identifier characters, also where escapes spell them.
-/

namespace ModuleBundler.Unicode

namespace Boundaries

variable {lo hi : Nat} {r a b : Boundaries} {c : Char}

/-- A range in front that ends by then makes no difference. -/
theorem contains_cons_cons (hlo : lo ≤ c.toNat) (hhi : hi ≤ c.toNat) :
    contains (lo :: hi :: r) c = r.contains c := by
  have hcount : (lo :: hi :: r).countP (· ≤ c.toNat) = r.countP (· ≤ c.toNat) + 2 := by
    simp [hlo, hhi]
  rw [contains, contains, hcount, Nat.add_mod_right]

theorem not_contains (h : ∀ n ∈ r, c.toNat < n) : r.contains c = false := by
  have hzero : r.countP (· ≤ c.toNat) = 0 := by
    rw [List.countP_eq_zero]
    intro n hn
    simpa using h n hn
  rw [contains, hzero]
  rfl

theorem contains_inside (h : (lo :: hi :: r).Pairwise (· < ·)) (hlo : lo ≤ c.toNat)
    (hhi : c.toNat < hi) : contains (lo :: hi :: r) c = true := by
  have hlater : (hi :: r).countP (· ≤ c.toNat) = 0 := by
    rw [List.countP_eq_zero]
    intro n hn
    rcases List.mem_cons.1 hn with rfl | hn
    · simpa using hhi
    · have hlt : hi < n := (List.pairwise_cons.1 (List.pairwise_cons.1 h).2).1 n hn
      simpa using Nat.lt_trans hhi hlt
  rw [contains, List.countP_cons, hlater]
  simp [hlo]

theorem le_of_contains (h : (lo :: r).Pairwise (· < ·)) (hc : contains (lo :: r) c = true) :
    lo ≤ c.toNat := by
  by_contra hlt
  have hnone : contains (lo :: r) c = false := by
    apply not_contains
    intro n hn
    rcases List.mem_cons.1 hn with rfl | hn
    · omega
    · have hlo : lo < n := (List.pairwise_cons.1 h).1 n hn
      omega
  rw [hc] at hnone
  cases hnone

/-- Each range of the first set lies in a range of the second one. -/
def within : Nat → Boundaries → Boundaries → Bool
  | _, [], _ => true
  | n + 1, lo :: hi :: r, lo' :: hi' :: r' =>
    if hi' ≤ lo then within n (lo :: hi :: r) r'
    else lo' ≤ lo && hi ≤ hi' && within n r (lo' :: hi' :: r')
  | _, _, _ => false

theorem contains_of_within {n : Nat} (ha : a.Pairwise (· < ·)) (hb : b.Pairwise (· < ·))
    (h : within n a b = true) (hc : a.contains c = true) : b.contains c = true := by
  fun_induction within n a b with
  | case1 => simp [contains] at hc
  | case2 n lo hi r lo' hi' r' hle ih =>
    have hlo := le_of_contains ha hc
    have hlt : lo' < hi' := (List.pairwise_cons.1 hb).1 hi' List.mem_cons_self
    rw [contains_cons_cons (by omega) (by omega)]
    exact ih ha (List.pairwise_cons.1 (List.pairwise_cons.1 hb).2).2 h hc
  | case3 n lo hi r lo' hi' r' hle ih =>
    simp only [Bool.and_eq_true, decide_eq_true_eq] at h
    have hlo := le_of_contains ha hc
    by_cases hinside : c.toNat < hi
    · exact contains_inside hb (by omega) (by omega)
    · rw [contains_cons_cons hlo (by omega)] at hc
      exact ih (List.pairwise_cons.1 (List.pairwise_cons.1 ha).2).2 hb h.2 hc
  | case4 => cases h

end Boundaries

theorem isIdContinue_of_isIdStart {c : Char} (h : isIdStart c = true) : isIdContinue c = true := by
  have hstart : idStart.Pairwise (· < ·) :=
    List.isChain_iff_pairwise.1 (by decide +kernel)
  have hcontinue : idContinue.Pairwise (· < ·) :=
    List.isChain_iff_pairwise.1 (by decide +kernel)
  have hwithin : Boundaries.within 4096 idStart idContinue = true := by decide +kernel
  unfold isIdStart at h
  unfold isIdContinue
  split at h
  · rename_i hsmall
    simp [hsmall, Char.isAlphanum, h]
  · rename_i hbig
    rw [if_neg hbig]
    exact Boundaries.contains_of_within hstart hcontinue hwithin h

end ModuleBundler.Unicode

namespace ModuleBundler.Script

theorem isIdentifierPart_of_start {c : Char} (h : isIdentifierStart c = true) :
    isIdentifierPart c = true := by
  simp only [isIdentifierStart, Bool.or_eq_true, beq_iff_eq] at h
  rcases h with (rfl | rfl) | h
  · decide
  · decide
  · simp [isIdentifierPart, Unicode.isIdContinue_of_isIdStart h]

/-- A name that is made of identifier characters. -/
structure IsWord (name : String) : Prop where
  start : ∃ c ∈ name.toList.head?, isIdentifierStart c = true
  part : ∀ c ∈ name.toList, isIdentifierPart c = true

theorem isWord_iff (name : String) : IsWord name ↔
    name.toList.head?.any isIdentifierStart = true ∧ name.toList.all isIdentifierPart = true := by
  rw [Option.any_eq_true, List.all_eq_true]
  exact ⟨fun h => ⟨h.start, h.part⟩, fun h => ⟨h.1, h.2⟩⟩

-- looked up in the name, not among all characters
instance (name : String) : Decidable (IsWord name) := decidable_of_iff' _ (isWord_iff name)

/-- A word that may name a variable at the top of a module. -/
structure IsVariable (name : String) : Prop where
  word : IsWord name
  free : isReserved name = false ∨ name = "yield"

/-- What has been read of a word, newest first, may go on to be one. -/
structure BeginsWord (name : List Char) : Prop where
  start : ∀ c ∈ name.getLast?, isIdentifierStart c = true
  part : ∀ c ∈ name, isIdentifierPart c = true

theorem BeginsWord.cons {name : List Char} (h : BeginsWord name) {c : Char}
    (hc : (if name.isEmpty then isIdentifierStart c else isIdentifierPart c) = true) :
    BeginsWord (c :: name) := by
  cases name with
  | nil =>
    refine ⟨?_, ?_⟩
    · simpa using hc
    · simpa using isIdentifierPart_of_start hc
  | cons d name =>
    refine ⟨?_, ?_⟩
    · simpa [List.getLast?_cons_cons] using h.start
    · intro e he
      rcases List.mem_cons.1 he with rfl | he
      · exact hc
      · exact h.part e he

theorem BeginsWord.isWord {name : List Char} (h : BeginsWord name) (hne : name ≠ []) :
    IsWord (String.ofList name.reverse) := by
  refine ⟨⟨name.getLast hne, ?_, h.start _ (List.getLast?_eq_some_getLast hne)⟩, ?_⟩
  · simp [List.head?_reverse, List.getLast?_eq_some_getLast hne]
  · simpa using h.part

/-- Faults that have been found stay. -/
theorem faults_of_scanWord {skip : Nat} {cs : List Char} {n : Nat} {name : List Char}
    {escaped : Bool} {faults : List Nat}
    (h : (scanWord skip cs n name escaped faults).faults = []) : faults = [] := by
  fun_induction scanWord skip cs n name escaped faults with
  | case1 | case9 => simpa using h
  | case2 | case3 | case8 =>
    rename_i ih
    exact ih h
  | case4 | case5 | case6 | case7 =>
    rename_i ih
    cases ih h

/-- Nothing of a word has been read only before its first character. -/
theorem isWord_scanWord {skip : Nat} {cs : List Char} {n : Nat} {name : List Char}
    {escaped : Bool} {faults : List Nat} (hname : BeginsWord name)
    (hempty : name = [] → skip = 0 ∧ startsWord cs = true)
    (h : (scanWord skip cs n name escaped faults).faults = []) :
    IsWord (String.ofList (scanWord skip cs n name escaped faults).name) := by
  have hstart : ∀ {c : Char} {r : List Char}, startsWord (c :: r) = true →
      ¬ (c == '\\') = true → isIdentifierStart c = true := by
    intro c r hstarts hslash
    simpa [startsWord, hslash] using hstarts
  fun_induction scanWord skip cs n name escaped faults with
  | case1 skip n name escaped faults =>
    refine hname.isWord fun hnil => ?_
    cases (hempty hnil).2
  | case2 skip d r n name escaped faults ih =>
    refine ih hname (fun hnil => ?_) h
    exact absurd (hempty hnil).1 (Nat.succ_ne_zero skip)
  | case3 c n name escaped faults _ r d used _ valid pair hvalid ih =>
    exact ih (hname.cons (Bool.and_eq_true_iff.1 hvalid).1) (by simp) h
  | case4 | case5 | case6 | case7 => cases faults_of_scanWord h
  | case8 c r n name escaped faults hslash hpart ih =>
    refine ih (hname.cons ?_) (by simp) h
    split
    · rename_i hnil
      exact hstart (hempty (List.isEmpty_iff.1 hnil)).2 hslash
    · exact hpart
  | case9 c r n name escaped faults hslash hpart =>
    refine hname.isWord fun hnil => ?_
    exact hpart (isIdentifierPart_of_start (hstart (hempty hnil).2 hslash))

end ModuleBundler.Script
