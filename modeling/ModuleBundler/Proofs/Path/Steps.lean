import ModuleBundler.Proofs.Path

/-!
# The steps of folded paths

A folded path goes up first, if it is relative, and then only down. Folding it once more changes
nothing, and its parent is the path that lacks its last step. So the parent of one folded path is
another one when it lies directly in there, or when neither does anything but go up.
-/

namespace ModuleBundler.Path

variable {base path : String} {steps : List String}

/-- The pieces that lead somewhere. -/
def stepsOf (path : String) : List String :=
  (pieces path).filter fun piece => piece != "" && piece != "."

theorem filter_steps (h : ∀ n ∈ steps, IsStep n) :
    (steps.filter fun piece => piece != "" && piece != ".") = steps := by
  rw [List.filter_eq_self]
  intro n hn
  obtain ⟨hne, hdot, -⟩ := h n hn
  simp [hne, hdot]

theorem stepsOf_intercalate (h : ∀ n ∈ steps, IsStep n) :
    stepsOf ("/".intercalate steps) = steps := by
  by_cases hnil : steps = []
  · rw [hnil]
    decide
  · rw [stepsOf, pieces_intercalate hnil fun n hn => (h n hn).2.2, filter_steps h]

theorem stepsOf_ofNames (h : ∀ n ∈ steps, IsName n) : stepsOf (ofNames steps) = steps := by
  by_cases hnil : steps = []
  · rw [hnil]
    decide
  · rw [stepsOf, pieces_ofNames hnil h, List.filter_cons_of_neg (by simp),
      filter_steps fun n hn => (h n hn).isStep]

/-- Folding keeps the steps that a path amounts to. -/
theorem stepsOf_clean (path : String) : stepsOf (clean path) = folded path := by
  cases hrooted : isRooted path with
  | true => rw [clean_rooted hrooted, stepsOf_ofNames fun n hn => isName_of_mem_folded hrooted hn]
  | false =>
    rw [clean_relative hrooted]
    split
    · rename_i hnil
      rw [hnil]
      decide
    · exact stepsOf_intercalate fun n hn => isStep_of_mem_folded hn

theorem isRooted_clean (path : String) : isRooted (clean path) = isRooted path := by
  cases hrooted : isRooted path with
  | true => rw [clean_rooted hrooted, isRooted_ofNames]
  | false =>
    rw [clean_relative hrooted]
    split
    · rfl
    · exact isRooted_intercalate fun n hn => isStep_of_mem_folded hn

/-- Only a path that leads nowhere is folded to `.`. -/
theorem clean_eq_dot_iff : clean path = "." ↔ isRooted path = false ∧ folded path = [] := by
  constructor
  · intro h
    rw [← isRooted_clean, ← stepsOf_clean, h]
    decide
  · rintro ⟨hrelative, hnil⟩
    rw [clean_relative hrelative, if_pos hnil]

/-! ## Up first, then down -/

/-- Some steps up, and then names. -/
def UpThenDown (steps : List String) : Prop :=
  ∃ ups names, steps = List.replicate ups ".." ++ names ∧ ∀ n ∈ names, IsName n

theorem upThenDown_of_names (h : ∀ n ∈ steps, IsName n) : UpThenDown steps :=
  ⟨0, steps, rfl, h⟩

theorem enterRelative_name {name : String} (h : IsName name) :
    enterRelative steps name = steps ++ [name] := by
  simp [enterRelative, h.1, h.2.1, h.2.2.1]

theorem enterRelative_ups (ups : Nat) :
    enterRelative (List.replicate ups "..") ".." = List.replicate (ups + 1) ".." := by
  cases ups with
  | zero => rfl
  | succ ups =>
    rw [List.replicate_succ', enterRelative]
    simp [List.replicate_succ']

theorem enterRelative_up_from_name {name : String} (hname : IsName name) :
    enterRelative (steps ++ [name]) ".." = steps := by
  obtain ⟨-, -, hup, -⟩ := hname
  simp [enterRelative]

theorem UpThenDown.enterRelative {piece : String} (h : UpThenDown steps)
    (hpiece : '/' ∉ piece.toList) : UpThenDown (enterRelative steps piece) := by
  obtain ⟨ups, names, rfl, hnames⟩ := h
  by_cases hstay : piece = "" ∨ piece = "."
  · rw [Path.enterRelative, if_pos hstay]
    exact ⟨ups, names, rfl, hnames⟩
  · by_cases hup : piece = ".."
    · subst hup
      obtain rfl | ⟨init, last, rfl⟩ := List.eq_nil_or_concat' names
      · rw [List.append_nil, enterRelative_ups]
        exact ⟨ups + 1, [], (List.append_nil _).symm, hnames⟩
      · rw [← List.append_assoc, enterRelative_up_from_name (hnames last (by simp))]
        exact ⟨ups, init, rfl, fun n hn => hnames n (List.mem_append_left _ hn)⟩
    · have hname : IsName piece :=
        ⟨fun e => hstay (.inl e), fun e => hstay (.inr e), hup, hpiece⟩
      rw [enterRelative_name hname, List.append_assoc]
      refine ⟨ups, names ++ [piece], rfl, fun n hn => ?_⟩
      rcases List.mem_append.1 hn with hn | hn
      · exact hnames n hn
      · exact List.mem_singleton.1 hn ▸ hname

theorem UpThenDown.foldl {ps : List String} (h : UpThenDown steps)
    (hps : ∀ p ∈ ps, '/' ∉ p.toList) : UpThenDown (ps.foldl Path.enterRelative steps) := by
  induction ps generalizing steps with
  | nil => exact h
  | cons p ps ih =>
    exact ih (h.enterRelative (hps p List.mem_cons_self))
      fun q hq => hps q (List.mem_cons_of_mem _ hq)

theorem upThenDown_folded (path : String) : UpThenDown (folded path) := by
  cases hrooted : isRooted path with
  | true => exact upThenDown_of_names fun n hn => isName_of_mem_folded hrooted hn
  | false =>
    rw [folded, stepOf, if_neg (by simp [hrooted])]
    exact (upThenDown_of_names (by simp)).foldl fun p hp => not_mem_of_mem_pieces hp

theorem foldl_enterRelative_ups (ups : Nat) :
    (List.replicate ups "..").foldl enterRelative [] = List.replicate ups ".." := by
  induction ups with
  | zero => rfl
  | succ ups ih =>
    rw [List.replicate_succ', List.foldl_concat, ih, enterRelative_ups, List.replicate_succ']

theorem foldl_enterRelative_names {names : List String} (h : ∀ n ∈ names, IsName n)
    (steps : List String) : names.foldl enterRelative steps = steps ++ names := by
  induction names generalizing steps with
  | nil => exact (List.append_nil _).symm
  | cons n ns ih =>
    rw [List.foldl_cons, enterRelative_name (h n List.mem_cons_self),
      ih fun m hm => h m (List.mem_cons_of_mem _ hm)]
    exact List.append_assoc ..

/-- Steps up are taken one by one, and so are names after them. -/
theorem foldl_enterRelative (h : UpThenDown steps) : steps.foldl enterRelative [] = steps := by
  obtain ⟨ups, names, rfl, hnames⟩ := h
  rw [List.foldl_append, foldl_enterRelative_ups, foldl_enterRelative_names hnames]

/-- What is folded has nothing to fold. -/
theorem folded_clean (path : String) : folded (clean path) = folded path := by
  cases hrooted : isRooted path with
  | true => rw [clean_rooted hrooted, folded_ofNames fun n hn => isName_of_mem_folded hrooted hn]
  | false =>
    have hstep : stepOf (clean path) = enterRelative := by
      rw [stepOf, isRooted_clean, if_neg (by simp [hrooted])]
    rw [folded, hstep, clean_relative hrooted]
    split
    · rename_i hnil
      rw [hnil]
      decide
    · rename_i hne
      rw [pieces_intercalate hne fun n hn => (isStep_of_mem_folded hn).2.2,
        foldl_enterRelative (upThenDown_folded path)]

/-- It does not matter whether a directory is folded before something is joined to it. -/
theorem clean_join_clean (base path : String) :
    clean (join (clean base) path) = clean (join base path) := by
  cases hrooted : isRooted path with
  | true => rw [join, join, if_pos hrooted, if_pos hrooted]
  | false =>
    have hsame : isRooted (join (clean base) path) = isRooted (join base path) := by
      rw [isRooted_join_relative hrooted, isRooted_join_relative hrooted, isRooted_clean]
    have hstep : stepOf (clean base) = stepOf base := by
      rw [stepOf, stepOf, isRooted_clean]
    have hfolded : folded (join (clean base) path) = folded (join base path) := by
      rw [folded_join hrooted, folded_join hrooted, folded_clean, hstep]
    cases hbase : isRooted (join base path) with
    | true => rw [clean_rooted hbase, clean_rooted (hsame.trans hbase), hfolded]
    | false => rw [clean_relative hbase, clean_relative (hsame.trans hbase), hfolded]

/-! ## Parents -/

/-- The target is an entry of the directory. -/
def IsChild (directory target : String) : Prop :=
  isRooted target = isRooted directory ∧
    ∃ name, IsName name ∧ stepsOf target = stepsOf directory ++ [name]

/-- The directory is reached by going up only, and the target by going up once more. -/
structure IsAbove (directory target : String) : Prop where
  directory_relative : isRooted directory = false
  target_relative : isRooted target = false
  directory_up : ∀ step ∈ stepsOf directory, step = ".."
  target_up : stepsOf target = stepsOf directory ++ [".."]

theorem parent?_clean_eq_of_nil (h : folded path = []) :
    parent? (clean path) = if isRooted path then none else some "" := by
  cases hrooted : isRooted path with
  | true =>
    rw [clean_rooted hrooted, h]
    decide
  | false =>
    rw [clean_relative hrooted, if_pos h]
    decide

/-- The parent of a folded path is a folded path that lacks its last step; it is never `.`. -/
theorem parent?_clean_eq_iff : parent? (clean path) = some (clean base) ↔
    clean base ≠ "." ∧ isRooted path = isRooted base ∧
      ∃ last, folded path = folded base ++ [last] := by
  obtain hnil | ⟨init, last, hconcat⟩ := List.eq_nil_or_concat' (folded path)
  · have hparent : parent? (clean path) ≠ some (clean base) := by
      rw [parent?_clean_eq_of_nil hnil]
      split
      · simp
      · rw [ne_eq, Option.some_inj]
        intro hempty
        have hrelative : isRooted base = false := by
          rw [← isRooted_clean, ← hempty]
          rfl
        have hdot : clean base = "." := by
          rw [clean_eq_dot_iff, ← stepsOf_clean, ← hempty]
          exact ⟨hrelative, by decide⟩
        rw [hdot] at hempty
        exact absurd hempty (by decide)
    simp [hparent, hnil]
  · rw [parent?_clean_eq_of_concat hconcat, Option.some_inj, hconcat]
    cases hrooted : isRooted path with
    | true =>
      have hinit : ∀ n ∈ init, IsName n := fun n hn =>
        isName_of_folded_eq hrooted hconcat n (List.mem_append_left _ hn)
      rw [if_pos rfl]
      constructor
      · intro heq
        have hbase : isRooted base = true := by
          rw [← isRooted_clean, ← heq, isRooted_ofNames]
        have hdot : clean base ≠ "." := by
          rw [ne_eq, clean_eq_dot_iff, hbase]
          simp
        refine ⟨hdot, hbase.symm, last, ?_⟩
        rw [← stepsOf_clean base, ← heq, stepsOf_ofNames hinit]
      · rintro ⟨-, hbase, last', heq⟩
        rw [clean_rooted hbase.symm, (List.append_inj' heq rfl).1]
    | false =>
      have hinit : ∀ n ∈ init, IsStep n := fun n hn =>
        isStep_of_folded_eq hconcat n (List.mem_append_left _ hn)
      rw [if_neg (by simp)]
      constructor
      · intro heq
        have hbase : isRooted base = false := by
          rw [← isRooted_clean, ← heq, isRooted_intercalate hinit]
        have hsteps : init = folded base := by
          rw [← stepsOf_clean base, ← heq, stepsOf_intercalate hinit]
        refine ⟨fun hdot => ?_, hbase.symm, last, by rw [hsteps]⟩
        rw [hsteps, (clean_eq_dot_iff.1 hdot).2, hdot] at heq
        exact absurd heq (by decide)
      · rintro ⟨hdot, hbase, last', heq⟩
        have hne : folded base ≠ [] := fun hnil => hdot (clean_eq_dot_iff.2 ⟨hbase.symm, hnil⟩)
        rw [clean_relative hbase.symm, if_neg hne, (List.append_inj' heq rfl).1]

/-- One step further from steps that go up and then down is a name, unless it is one more step
up. -/
theorem UpThenDown.last {last : String} (h : UpThenDown (steps ++ [last])) :
    IsName last ∨ last = ".." ∧ ∀ step ∈ steps, step = ".." := by
  obtain ⟨ups, names, heq, hnames⟩ := h
  obtain rfl | ⟨init, last', rfl⟩ := List.eq_nil_or_concat' names
  · have hall : ∀ step ∈ steps ++ [last], step = ".." := by
      rw [heq, List.append_nil]
      exact fun step hstep => List.eq_of_mem_replicate hstep
    exact .inr ⟨hall last (by simp), fun step hstep => hall step (List.mem_append_left _ hstep)⟩
  · rw [← List.append_assoc] at heq
    obtain ⟨-, hlast⟩ := List.append_inj' heq rfl
    rw [List.singleton_inj.1 hlast]
    exact .inl (hnames last' (by simp))

/-- A folded path has another one as its parent when it is an entry there, or when both only go
up. The path `.` is the parent of none. -/
theorem parent?_clean_iff : parent? (clean path) = some (clean base) ↔ clean base ≠ "." ∧
    (IsChild (clean base) (clean path) ∨ IsAbove (clean base) (clean path)) := by
  rw [parent?_clean_eq_iff]
  refine and_congr_right fun _ => ?_
  rw [IsChild, isRooted_clean, isRooted_clean, stepsOf_clean, stepsOf_clean]
  constructor
  · rintro ⟨hrooted, last, hfolded⟩
    obtain hname | ⟨rfl, hups⟩ := (hfolded ▸ upThenDown_folded path).last
    · exact .inl ⟨hrooted, last, hname, hfolded⟩
    · have hrelative : isRooted path = false := by
        by_contra hpath
        have hup : IsName ".." :=
          isName_of_folded_eq (by simpa using hpath) hfolded _ (List.mem_append_right _ (by simp))
        exact hup.2.2.1 rfl
      refine .inr ⟨?_, ?_, ?_, ?_⟩
      · rw [isRooted_clean, ← hrooted, hrelative]
      · rw [isRooted_clean, hrelative]
      · rw [stepsOf_clean]
        exact hups
      · rw [stepsOf_clean, stepsOf_clean, hfolded]
  · rintro (⟨hrooted, name, -, hfolded⟩ | ⟨hbase, hpath, -, hfolded⟩)
    · exact ⟨hrooted, name, hfolded⟩
    · rw [isRooted_clean] at hbase hpath
      rw [stepsOf_clean, stepsOf_clean] at hfolded
      exact ⟨hpath.trans hbase.symm, "..", hfolded⟩

end ModuleBundler.Path
