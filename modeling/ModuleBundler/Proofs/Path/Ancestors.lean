import Mathlib.Data.List.Infix
import Mathlib.Logic.Relation
import ModuleBundler.Proofs.Path.Steps

/-!
# What lies above a path

The parent of a rooted path has the same steps but the last. So the places above a path are those
that a part of its steps leads to, taken from the front, whether or not the path is folded.
-/

namespace ModuleBundler.Path

variable {path : String} {steps : List String} {step : String}

/-- A place is above another one when it is the parent, or the parent of the parent, and so on. -/
def IsAncestor (above path : String) : Prop :=
  Relation.TransGen (fun p q => parent? p = some q) path above

/-! ## Numbered steps -/

/-- Whether a piece leads somewhere. -/
def leads (piece : String) : Bool := piece != "" && piece != "."

/-- The steps among some pieces, with their positions. -/
def numbered (first : Nat) (pieces : List String) : List (Nat × String) :=
  (pieces.zipIdx first).filterMap fun (piece, i) => if leads piece then some (i, piece) else none

theorem numbered_append (first : Nat) (front back : List String) :
    numbered first (front ++ back) =
      numbered first front ++ numbered (first + front.length) back := by
  rw [numbered, List.zipIdx_append, List.filterMap_append]
  rfl

theorem numbered_cons (first : Nat) (piece : String) (rest : List String) :
    numbered first (piece :: rest) =
      (if leads piece then [(first, piece)] else []) ++ numbered (first + 1) rest := by
  rw [numbered, List.zipIdx_cons, List.filterMap_cons]
  cases h : leads piece <;> simp only [h, if_true, if_false, Bool.false_eq_true] <;> rfl

theorem numbered_eq_nil (first : Nat) {ps : List String} (h : ps.filter leads = []) :
    numbered first ps = [] := by
  rw [numbered, List.filterMap_eq_nil_iff]
  rintro ⟨piece, i⟩ hpiece
  have hstay := List.filter_eq_nil_iff.1 h piece (List.fst_mem_of_mem_zipIdx hpiece)
  exact if_neg hstay

/-- The last step and where it stands. -/
theorem numbered_concat (first : Nat) {ps : List String} (h : ps.filter leads = steps ++ [step]) :
    ∃ front back, ps = front ++ step :: back ∧ front.filter leads = steps ∧
      numbered first ps = numbered first front ++ [(first + front.length, step)] := by
  obtain ⟨start, rest, rfl, hstart, hrest⟩ := List.filter_eq_append_iff.1 h
  obtain ⟨between, back, rfl, hbetween, hstep, hback⟩ := List.filter_eq_cons_iff.1 hrest
  have hnone : between.filter leads = [] := List.filter_eq_nil_iff.2 hbetween
  refine ⟨start ++ between, back, (List.append_assoc ..).symm, ?_, ?_⟩
  · rw [List.filter_append, hstart, hnone, List.append_nil]
  · rw [← List.append_assoc, numbered_append, numbered_cons, if_pos hstep,
      numbered_eq_nil _ hback, List.append_nil]

/-! ## Parents of rooted paths -/

/-- In front of the first slash there is no text. -/
theorem exists_pieces_of_isRooted (h : isRooted path = true) :
    ∃ rest, pieces path = "" :: rest := by
  obtain ⟨cs, hcs⟩ := List.head?_eq_some_iff.1 (beq_iff_eq.1 h)
  exact ⟨(piecesOf cs).map String.ofList, by rw [pieces, hcs, piecesOf, if_pos rfl]; rfl⟩

theorem componentIndices_of_rooted {rest : List String} (h : pieces path = "" :: rest) :
    componentIndices path = numbered 1 rest := by
  rw [componentIndices, h, List.zipIdx_cons, List.filterMap_cons, numbered]
  simp only [isComponent, bne_self_eq_false, Bool.false_and, Bool.false_eq_true, if_false]
  apply List.filterMap_congr
  rintro ⟨piece, i⟩ hpiece
  have hfirst : (i == 0) = false := by
    have := List.le_snd_of_mem_zipIdx hpiece
    simp only [beq_eq_false_iff_ne]
    omega
  simp only [hfirst, Bool.or_false]
  rfl

theorem stepsOf_of_rooted {rest : List String} (h : pieces path = "" :: rest) :
    stepsOf path = rest.filter leads := by
  rw [stepsOf, h]
  rfl

theorem parent?_of_no_steps (hrooted : isRooted path = true) (h : stepsOf path = []) :
    parent? path = none := by
  obtain ⟨rest, hpieces⟩ := exists_pieces_of_isRooted hrooted
  rw [parent?, componentIndices_of_rooted hpieces,
    numbered_eq_nil 1 ((stepsOf_of_rooted hpieces).symm.trans h)]
  rfl

/-- The text of some pieces is made of these pieces. -/
theorem pieces_of_prefix {ps : List String} (hne : ps ≠ []) (h : ps <+: pieces path) :
    pieces ("/".intercalate ps) = ps :=
  pieces_intercalate hne fun _ hp => not_mem_of_mem_pieces (h.subset hp)

/-- The parent of a rooted path is rooted and lacks the last step. -/
theorem exists_parent? (hrooted : isRooted path = true) (h : stepsOf path = steps ++ [step]) :
    ∃ parent, parent? path = some parent ∧ isRooted parent = true ∧ stepsOf parent = steps := by
  obtain ⟨rest, hpieces⟩ := exists_pieces_of_isRooted hrooted
  obtain ⟨front, back, rfl, hfront, hnumbered⟩ :=
    numbered_concat 1 ((stepsOf_of_rooted hpieces).symm.trans h)
  have hindices := (componentIndices_of_rooted hpieces).trans hnumbered
  have hempty : (componentIndices path).isEmpty = false := by
    rw [hindices]
    simp
  rw [parent?, hempty, hindices, List.dropLast_concat]
  obtain rfl | ⟨init, last, rfl⟩ := List.eq_nil_or_concat' steps
  · rw [numbered_eq_nil 1 hfront]
    refine ⟨"/", ?_, by decide, by decide⟩
    rw [List.getLast?_nil, if_pos hrooted]
  · obtain ⟨front, between, rfl, hinit, hlast⟩ := numbered_concat 1 hfront
    have htake : (pieces path).take (1 + front.length + 1) = "" :: (front ++ [last]) := by
      have hsplit : front ++ last :: between ++ step :: back =
          (front ++ [last]) ++ (between ++ step :: back) := by simp
      rw [hpieces, hsplit, List.take_succ_cons, List.take_left' (by simp [Nat.add_comm])]
    have hprefix : "" :: (front ++ [last]) <+: pieces path := htake ▸ List.take_prefix ..
    have hparent := pieces_of_prefix (by simp) hprefix
    rw [hlast, List.getLast?_concat]
    refine ⟨_, rfl, ?_, ?_⟩
    · rw [htake, String.intercalate_cons_of_ne_nil (by simp)]
      simp [isRooted]
    · rw [htake, stepsOf_of_rooted hparent]
      have hleads : leads last = true :=
        (List.mem_filter.1 (hfront ▸ List.mem_append_right init List.mem_cons_self)).2
      rw [List.filter_append, hinit, List.filter_cons_of_pos hleads]
      rfl

theorem tidy_of_rooted (h : isRooted path = true) : tidy path = ofNames (stepsOf path) := by
  obtain ⟨rest, hpieces⟩ := exists_pieces_of_isRooted h
  have hsteps : ∀ first, (numbered first rest).map Prod.snd = rest.filter leads := by
    intro first
    clear hpieces
    induction rest generalizing first with
    | nil => rfl
    | cons piece rest ih =>
      rw [numbered_cons, List.map_append, ih, List.filter_cons]
      cases leads piece <;> rfl
  rw [tidy, if_pos h, componentIndices_of_rooted hpieces, hsteps, stepsOf_of_rooted hpieces]
  rfl

/-! ## Paths made of steps -/

theorem pieces_ofSteps (h : ∀ n ∈ steps, IsStep n) (hne : steps ≠ []) :
    pieces (ofNames steps) = "" :: steps := by
  have hslash : ofNames steps = "" ++ "/" ++ "/".intercalate steps := by simp [ofNames]
  rw [hslash, pieces_slash, pieces_of_not_mem (by simp),
    pieces_intercalate hne fun n hn => (h n hn).2.2]
  rfl

theorem stepsOf_ofSteps (h : ∀ n ∈ steps, IsStep n) : stepsOf (ofNames steps) = steps := by
  by_cases hnil : steps = []
  · rw [hnil]
    decide
  · rw [stepsOf, pieces_ofSteps h hnil, List.filter_cons_of_neg (by simp), filter_steps h]

theorem isStep_of_mem_stepsOf {n : String} (h : n ∈ stepsOf path) : IsStep n := by
  obtain ⟨hpiece, hleads⟩ := List.mem_filter.1 h
  simp only [Bool.and_eq_true, bne_iff_ne] at hleads
  exact ⟨hleads.1, hleads.2, not_mem_of_mem_pieces hpiece⟩

theorem parent?_ofSteps (h : ∀ n ∈ steps ++ [step], IsStep n) :
    parent? (ofNames (steps ++ [step])) = some (ofNames steps) := by
  have hpieces : pieces (ofNames (steps ++ [step])) = [""] ++ (steps ++ [step]) :=
    pieces_ofSteps h (by simp)
  rw [parent?_of_pieces hpieces (by simp) h, isRooted_ofNames]
  split
  · rename_i hnil
    rw [hnil]
    rfl
  · rename_i hne
    rw [List.singleton_append, String.intercalate_cons_of_ne_nil hne]
    simp [ofNames]

theorem parent?_ofSteps_eq_some {parent : String} (h : ∀ n ∈ steps, IsStep n)
    (hparent : parent? (ofNames steps) = some parent) :
    ∃ init last, steps = init ++ [last] ∧ parent = ofNames init := by
  obtain rfl | ⟨init, last, rfl⟩ := List.eq_nil_or_concat' steps
  · rw [parent?_of_no_steps isRooted_ofNames (stepsOf_ofSteps h)] at hparent
    cases hparent
  · rw [parent?_ofSteps h, Option.some_inj] at hparent
    exact ⟨init, last, rfl, hparent.symm⟩

/-- What is above a path is reached with some of its steps, but not with all of them. -/
theorem IsAncestor.exists_prefix {above : String} (h : ∀ n ∈ steps, IsStep n)
    (habove : IsAncestor above (ofNames steps)) :
    ∃ init, init <+: steps ∧ init ≠ steps ∧ above = ofNames init := by
  induction habove with
  | single hparent =>
    obtain ⟨init, last, rfl, rfl⟩ := parent?_ofSteps_eq_some h hparent
    exact ⟨init, List.prefix_append .., by simp, rfl⟩
  | tail _ hparent ih =>
    obtain ⟨middle, hprefix, hne, rfl⟩ := ih
    have hmiddle : ∀ n ∈ middle, IsStep n := fun n hn => h n (List.IsPrefix.subset hprefix hn)
    obtain ⟨init, last, rfl, rfl⟩ := parent?_ofSteps_eq_some hmiddle hparent
    have hshorter : init <+: init ++ [last] := List.prefix_append ..
    refine ⟨init, hshorter.trans hprefix, fun heq => ?_, rfl⟩
    have hlength := hprefix.length_le
    rw [heq, List.length_append, List.length_singleton] at hlength
    omega

/-! ## All ancestors -/

theorem reverse_inits_concat (steps : List String) (step : String) :
    (steps ++ [step]).inits.reverse = (steps ++ [step]) :: steps.inits.reverse := by
  rw [List.inits_append]
  simp

theorem ancestorsUpTo_ofSteps {bound : Nat} (h : ∀ n ∈ steps, IsStep n)
    (hbound : steps.length ≤ bound) :
    ancestorsUpTo bound (ofNames steps) = steps.inits.reverse.map ofNames := by
  induction bound generalizing steps with
  | zero =>
    rw [List.eq_nil_of_length_eq_zero (Nat.le_zero.1 hbound)]
    rfl
  | succ bound ih =>
    obtain rfl | ⟨init, last, rfl⟩ := List.eq_nil_or_concat' steps
    · rw [ancestorsUpTo, parent?_of_no_steps isRooted_ofNames (stepsOf_ofSteps h)]
      rfl
    · rw [List.length_append, List.length_singleton, Nat.add_le_add_iff_right] at hbound
      rw [ancestorsUpTo, parent?_ofSteps h, reverse_inits_concat, List.map_cons]
      exact congrArg _ (ih (fun n hn => h n (List.mem_append_left _ hn)) hbound)

/-- What is strictly above a path that has nothing to fold. -/
theorem mem_tail_ancestors_iff (h : ∀ n ∈ steps, IsStep n) {place : String} :
    place ∈ (ancestors (ofNames steps)).tail ↔
      ∃ init, init <+: steps ∧ init ≠ steps ∧ place = ofNames init := by
  have hbound : steps.length ≤ (pieces (ofNames steps)).length :=
    (congrArg List.length (stepsOf_ofSteps h)).ge.trans (List.length_filter_le ..)
  rw [ancestors, ancestorsUpTo_ofSteps h hbound]
  obtain rfl | ⟨init, last, rfl⟩ := List.eq_nil_or_concat' steps
  · simp
  · rw [reverse_inits_concat, List.map_cons, List.tail_cons, List.mem_map]
    simp only [List.mem_reverse, List.mem_inits, List.prefix_concat_iff]
    constructor
    · rintro ⟨front, hfront, rfl⟩
      refine ⟨front, .inr hfront, ?_, rfl⟩
      rintro rfl
      exact absurd hfront.length_le (by simp)
    · rintro ⟨front, hfront | hfront, hne, rfl⟩
      · exact absurd hfront hne
      · exact ⟨front, hfront, rfl⟩

theorem map_tidy_ancestorsUpTo {bound : Nat} (hrooted : isRooted path = true)
    (hbound : (stepsOf path).length ≤ bound) :
    (ancestorsUpTo bound path).map tidy = (stepsOf path).inits.reverse.map ofNames := by
  induction bound generalizing path with
  | zero =>
    rw [ancestorsUpTo, List.map_singleton, tidy_of_rooted hrooted,
      List.eq_nil_of_length_eq_zero (Nat.le_zero.1 hbound)]
    rfl
  | succ bound ih =>
    obtain hnil | ⟨init, last, hconcat⟩ := List.eq_nil_or_concat' (stepsOf path)
    · rw [ancestorsUpTo, parent?_of_no_steps hrooted hnil, List.map_singleton,
        tidy_of_rooted hrooted, hnil]
      rfl
    · obtain ⟨parent, hparent, hparentRooted, rfl⟩ := exists_parent? hrooted hconcat
      rw [hconcat, List.length_append, List.length_singleton, Nat.add_le_add_iff_right] at hbound
      rw [ancestorsUpTo, hparent, List.map_cons, ih hparentRooted hbound, tidy_of_rooted hrooted,
        hconcat, reverse_inits_concat, List.map_cons]

/-- The places from a path up to the root, whatever its spelling. -/
theorem mem_ancestors_iff (hrooted : isRooted path = true) {place : String} :
    place ∈ (ancestors path).map tidy ↔
      ∃ init, init <+: stepsOf path ∧ place = ofNames init := by
  rw [ancestors, map_tidy_ancestorsUpTo hrooted (List.length_filter_le ..), List.mem_map]
  simp only [List.mem_reverse, List.mem_inits, eq_comm]

end ModuleBundler.Path
