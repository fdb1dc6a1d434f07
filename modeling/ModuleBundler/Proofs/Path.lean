import ModuleBundler.ModuleId
import Mathlib.Data.List.Basic

/-!
# Folded paths

A path made of names is read back as these names. Folding such a path, joining a name to it and
taking its parent are then operations on lists of names.
-/

namespace ModuleBundler.Path

variable {names : List String} {name : String}

theorem piecesOf_of_not_mem {cs : List Char} (h : '/' ∉ cs) : piecesOf cs = [cs] := by
  induction cs with
  | nil => rfl
  | cons c cs ih =>
    obtain ⟨hc, hcs⟩ := List.ne_and_not_mem_of_not_mem_cons h
    have hc' : c ≠ '/' := fun e => hc e.symm
    rw [piecesOf, if_neg hc', ih hcs]

theorem piecesOf_ne_nil (cs : List Char) : piecesOf cs ≠ [] := by
  cases cs with
  | nil => simp [piecesOf]
  | cons c cs =>
    rw [piecesOf]
    split
    · simp
    · split <;> simp

/-- A slash ends a piece. -/
theorem piecesOf_slash (cs rest : List Char) :
    piecesOf (cs ++ '/' :: rest) = piecesOf cs ++ piecesOf rest := by
  induction cs with
  | nil => simp [piecesOf]
  | cons c cs ih =>
    rw [List.cons_append, piecesOf, piecesOf]
    by_cases hc : c = '/'
    · rw [if_pos hc, if_pos hc, ih, List.cons_append]
    · rw [if_neg hc, if_neg hc, ih]
      cases hcs : piecesOf cs with
      | nil => exact absurd hcs (piecesOf_ne_nil cs)
      | cons p ps => rfl

theorem pieces_of_not_mem {p : String} (h : '/' ∉ p.toList) : pieces p = [p] := by
  rw [pieces, piecesOf_of_not_mem h]
  simp

theorem pieces_slash (base rest : String) :
    pieces (base ++ "/" ++ rest) = pieces base ++ pieces rest := by
  have : (base ++ "/" ++ rest).toList = base.toList ++ '/' :: rest.toList := by simp
  rw [pieces, this, piecesOf_slash, List.map_append]
  rfl

theorem pieces_intercalate (hne : names ≠ []) (h : ∀ n ∈ names, '/' ∉ n.toList) :
    pieces ("/".intercalate names) = names := by
  induction names with
  | nil => exact absurd rfl hne
  | cons n ns ih =>
    have hn := h n (List.mem_cons_self ..)
    cases ns with
    | nil => rw [String.intercalate_singleton, pieces_of_not_mem hn]
    | cons n' ns =>
      rw [String.intercalate_cons_cons, pieces_slash, pieces_of_not_mem hn,
        ih (by simp) fun p hp => h p (List.mem_cons_of_mem _ hp)]
      rfl

theorem pieces_ofNames (hne : names ≠ []) (h : ∀ n ∈ names, IsName n) :
    pieces (ofNames names) = "" :: names := by
  have : ofNames names = "" ++ "/" ++ "/".intercalate names := by simp [ofNames]
  rw [this, pieces_slash, pieces_of_not_mem (by simp),
    pieces_intercalate hne fun n hn => (h n hn).2.2.2]
  rfl

theorem isRooted_ofNames : isRooted (ofNames names) = true := by
  simp [isRooted, ofNames]

theorem enter_name (h : IsName name) : enter names name = names ++ [name] := by
  simp [enter, h.1, h.2.1, h.2.2.1]

theorem foldl_enter_names {start : List String} (h : ∀ n ∈ names, IsName n) :
    names.foldl enter start = start ++ names := by
  induction names generalizing start with
  | nil => simp
  | cons n ns ih =>
    rw [List.foldl_cons, enter_name (h n (List.mem_cons_self ..)),
      ih fun p hp => h p (List.mem_cons_of_mem _ hp)]
    simp

theorem resolve_ofNames (h : ∀ n ∈ names, IsName n) : resolve (ofNames names) = names := by
  by_cases hne : names = []
  · subst hne
    rfl
  · rw [resolve, pieces_ofNames hne h, List.foldl_cons]
    exact foldl_enter_names h

theorem clean_ofNames (h : ∀ n ∈ names, IsName n) : clean (ofNames names) = ofNames names := by
  rw [clean, if_pos isRooted_ofNames, resolve_ofNames h]

/-- Folding a rooted path gives a path made of names. -/
theorem exists_clean_eq {path : String} (h : isRooted path = true) :
    ∃ names, (∀ n ∈ names, IsName n) ∧ clean path = ofNames names :=
  ⟨resolve path, fun _ hn => isName_of_mem_resolve hn, by rw [clean, if_pos h]⟩

theorem isRooted_append {base : String} (h : base ≠ "") (rest : String) :
    isRooted (base ++ rest) = isRooted base := by
  have hne : base.toList ≠ [] := by simpa using h
  rw [isRooted, isRooted, String.toList_append, List.head?_append_of_ne_nil _ hne]

theorem isRooted_join {base path : String} (h : isRooted base = true) :
    isRooted (join base path) = true := by
  have hne : base ≠ "" := by
    rintro rfl
    cases h
  unfold join
  split
  · assumption
  · split
    · rename_i hnil
      exact absurd (by simpa using hnil) hne
    · rw [isRooted_append hne, h]
    · rw [String.append_assoc, isRooted_append hne, h]

theorem isRooted_of_not_mem {piece : String} (h : '/' ∉ piece.toList) : isRooted piece = false := by
  simp only [isRooted, beq_eq_false_iff_ne]
  intro hhead
  exact h (List.mem_of_mem_head? hhead)

theorem isRooted_name (h : IsName name) : isRooted name = false :=
  isRooted_of_not_mem h.2.2.2

theorem ofNames_append (hne : names ≠ []) :
    ofNames (names ++ [name]) = ofNames names ++ "/" ++ name := by
  rw [ofNames, String.intercalate_append_of_ne_nil hne (by simp), String.intercalate_singleton,
    ofNames]
  simp only [String.append_assoc]

/-- The path of a name ends in a letter of that name. -/
theorem getLast?_ofNames (hname : IsName name) :
    ∃ c, c ≠ '/' ∧ (ofNames (names ++ [name])).toList.getLast? = some c := by
  have hne : name.toList ≠ [] := by simpa using hname.1
  have hend : ∃ front, (ofNames (names ++ [name])).toList = front ++ name.toList := by
    by_cases hnames : names = []
    · exact ⟨['/'], by simp [ofNames, hnames]⟩
    · exact ⟨_, by rw [ofNames_append hnames, String.toList_append]⟩
  obtain ⟨front, hfront⟩ := hend
  refine ⟨name.toList.getLast hne, fun h => ?_, ?_⟩
  · exact hname.2.2.2 (h ▸ List.getLast_mem hne)
  · rw [hfront, List.getLast?_append_of_ne_nil _ hne, List.getLast?_eq_some_getLast hne]

/-- Joining a name to a path made of names adds the name. -/
theorem join_ofNames (h : ∀ n ∈ names, IsName n) (hname : IsName name) :
    join (ofNames names) name = ofNames (names ++ [name]) := by
  have hrooted := isRooted_name hname
  obtain rfl | ⟨init, last, rfl⟩ := List.eq_nil_or_concat' names
  · simp [join, hrooted, ofNames]
  · have hlast : IsName last := h last (by simp)
    obtain ⟨c, hc, hget⟩ : ∃ c, c ≠ '/' ∧ (ofNames (init ++ [last])).toList.getLast? = some c :=
      getLast?_ofNames hlast
    have hsnoc : ofNames (init ++ [last] ++ [name]) = ofNames (init ++ [last]) ++ "/" ++ name :=
      ofNames_append (by simp)
    rw [hsnoc, join, hget]
    simp [hrooted]

/-- A piece that stays when a path is folded: a name, or the `..` of a relative path. -/
def IsStep (piece : String) : Prop :=
  piece ≠ "" ∧ piece ≠ "." ∧ '/' ∉ piece.toList

theorem IsName.isStep (h : IsName name) : IsStep name :=
  ⟨h.1, h.2.1, h.2.2.2⟩

/-- The steps of a path are its components. -/
theorem componentIndices_of_pieces {path : String} {front : List String}
    (hpieces : pieces path = front ++ names) (hfront : ∀ p ∈ front, p = "")
    (h : ∀ n ∈ names, IsStep n) :
    componentIndices path = (names.zipIdx front.length).map fun (n, i) => (i, n) := by
  have hskip : (front.zipIdx 0).filterMap (fun (piece, i) =>
      if isComponent (i == 0) piece then some (i, piece) else none) = [] := by
    rw [List.filterMap_eq_nil_iff]
    rintro ⟨p, i⟩ hp
    simp [isComponent, hfront p (List.fst_mem_of_mem_zipIdx hp)]
  rw [componentIndices, hpieces, List.zipIdx_append, List.filterMap_append, hskip,
    List.nil_append, Nat.zero_add, ← List.filterMap_eq_map]
  apply List.filterMap_congr
  rintro ⟨n, i⟩ hn
  obtain ⟨hne, hdot, -⟩ := h n (List.fst_mem_of_mem_zipIdx hn)
  simp [isComponent, hne, hdot]

/-- The parent of a path is what its steps but the last lead to. -/
theorem parent?_of_pieces {path : String} {front : List String}
    (hpieces : pieces path = front ++ (names ++ [name])) (hfront : ∀ p ∈ front, p = "")
    (h : ∀ n ∈ names ++ [name], IsStep n) :
    parent? path =
      if names = [] then some (if isRooted path then "/" else "")
      else some ("/".intercalate (front ++ names)) := by
  have hidx := componentIndices_of_pieces hpieces hfront h
  rw [List.zipIdx_append, List.map_append] at hidx
  have hempty : (componentIndices path).isEmpty = false := by
    rw [hidx]
    simp
  have hdrop : (componentIndices path).dropLast =
      (names.zipIdx front.length).map fun (n, i) => (i, n) := by
    rw [hidx]
    simp
  rw [parent?, hempty, hdrop]
  obtain rfl | ⟨init, last, rfl⟩ := List.eq_nil_or_concat' names
  · rfl
  · have hlast : ((init ++ [last]).zipIdx front.length).map (fun (n, i) => (i, n)) =
        (init.zipIdx front.length).map (fun (n, i) => (i, n)) ++
          [(front.length + init.length, last)] := by
      rw [List.zipIdx_append, List.map_append]
      simp
    have htake : (front ++ (init ++ [last] ++ [name])).take (front.length + init.length + 1) =
        front ++ (init ++ [last]) := by
      rw [← List.append_assoc]
      exact List.take_left' (by simp [Nat.add_assoc])
    have hne : init ++ [last] ≠ [] := by simp
    rw [hlast, List.getLast?_concat, hpieces, if_neg hne]
    simp only [htake]

theorem parent?_ofNames (h : ∀ n ∈ names, IsName n) (hname : IsName name) :
    parent? (ofNames (names ++ [name])) = some (ofNames names) := by
  have hall : ∀ n ∈ names ++ [name], IsName n := by
    intro n hn
    rcases List.mem_append.1 hn with hn | hn
    · exact h n hn
    · exact List.mem_singleton.1 hn ▸ hname
  have hpieces : pieces (ofNames (names ++ [name])) = [""] ++ (names ++ [name]) :=
    pieces_ofNames (by simp) hall
  rw [parent?_of_pieces hpieces (by simp) fun n hn => (hall n hn).isStep]
  split
  · rename_i hnil
    rw [hnil, isRooted_ofNames]
    rfl
  · rename_i hne
    rw [List.singleton_append, String.intercalate_cons_of_ne_nil hne]
    simp [ofNames]

/-- The parent of a relative path. -/
theorem parent?_intercalate (h : ∀ n ∈ names ++ [name], IsStep n) :
    parent? ("/".intercalate (names ++ [name])) = some ("/".intercalate names) := by
  have hpieces : pieces ("/".intercalate (names ++ [name])) = [] ++ (names ++ [name]) :=
    pieces_intercalate (by simp) fun n hn => (h n hn).2.2
  rw [parent?_of_pieces hpieces (by simp) h, List.nil_append]
  split
  · rename_i hnil
    have hslash : '/' ∉ name.toList := (h name (by simp)).2.2
    rw [hnil, List.nil_append, String.intercalate_singleton, isRooted_of_not_mem hslash]
    rfl
  · rfl

/-- A file name that is its own last component, and that no slash is part of, is a name. -/
theorem isName_of_fileName? (h : fileName? name = some name) (hslash : '/' ∉ name.toList) :
    IsName name := by
  have hpieces := pieces_of_not_mem hslash
  have hne : name ≠ "" := by
    rintro rfl
    simp [fileName?, componentIndices, hpieces, isComponent] at h
  have hidx : componentIndices name = [(0, name)] := by
    simp [componentIndices, hpieces, isComponent, hne]
  simp only [fileName?, hidx, List.getLast?_singleton] at h
  split at h
  · cases h
  · rename_i hdots
    exact ⟨hne, fun e => hdots (.inl e), fun e => hdots (.inr e), hslash⟩

/-! ## Folding what is joined -/

/-- How a path is folded: a rooted one does not go up from the root. -/
def stepOf (path : String) : List String → String → List String :=
  if isRooted path then enter else enterRelative

/-- The steps of a path once it is folded. -/
def folded (path : String) : List String :=
  (pieces path).foldl (stepOf path) []

variable {base path : String} {steps : List String}

theorem stepOf_empty : stepOf path steps "" = steps := by
  unfold stepOf
  split <;> simp [enter, enterRelative]

theorem stepOf_name (h : IsName name) : stepOf path steps name = steps ++ [name] := by
  unfold stepOf
  split
  · exact enter_name h
  · simp [enterRelative, h.1, h.2.1, h.2.2.1]

theorem clean_rooted (h : isRooted path = true) : clean path = ofNames (folded path) := by
  rw [clean, if_pos h, folded, stepOf, if_pos h]
  rfl

theorem clean_relative (h : isRooted path = false) :
    clean path = if folded path = [] then "." else "/".intercalate (folded path) := by
  have hrooted : ¬ isRooted path = true := by simp [h]
  rw [clean, if_neg hrooted, folded, stepOf, if_neg hrooted]
  split
  · rename_i hnil
    rw [if_pos hnil]
  · rename_i hne
    rw [if_neg hne]

theorem isStep_dots : IsStep ".." := by
  simp [IsStep]

theorem isStep_of_mem_stepOf {piece n : String} (hsteps : ∀ n ∈ steps, IsStep n)
    (hpiece : '/' ∉ piece.toList) (h : n ∈ stepOf path steps piece) : IsStep n := by
  have hinit : n ∈ steps.dropLast → IsStep n := fun hn => 
    hsteps n ((List.dropLast_sublist _).subset hn)
  have hnew : ∀ new, IsStep new → n ∈ steps ++ [new] → IsStep n := by
    intro new hstep hn
    rcases List.mem_append.1 hn with hn | hn
    · exact hsteps n hn
    · exact List.mem_singleton.1 hn ▸ hstep
  by_cases hstay : piece = "" ∨ piece = "."
  · have hsame : stepOf path steps piece = steps := by
      unfold stepOf
      split
      · exact if_pos hstay
      · exact if_pos hstay
    exact hsteps n (hsame ▸ h)
  · have hstep : IsStep piece := ⟨fun e => hstay (.inl e), fun e => hstay (.inr e), hpiece⟩
    unfold stepOf at h
    split at h
    · rw [enter, if_neg hstay] at h
      split at h
      · exact hinit h
      · exact hnew piece hstep h
    · rw [enterRelative, if_neg hstay] at h
      split at h
      · split at h
        · exact List.mem_singleton.1 h ▸ isStep_dots
        · exact hnew ".." isStep_dots h
        · exact hinit h
      · exact hnew piece hstep h

theorem isStep_of_mem_foldl {ps : List String} {n : String} (hsteps : ∀ n ∈ steps, IsStep n)
    (hps : ∀ p ∈ ps, '/' ∉ p.toList) (h : n ∈ ps.foldl (stepOf path) steps) : IsStep n := by
  induction ps generalizing steps with
  | nil => exact hsteps n h
  | cons p ps ih =>
    exact ih (fun m hm => isStep_of_mem_stepOf hsteps (hps p (by simp)) hm)
      (fun q hq => hps q (by simp [hq])) h

theorem isStep_of_mem_folded {n : String} (h : n ∈ folded path) : IsStep n :=
  isStep_of_mem_foldl (by simp) (fun _ hp => not_mem_of_mem_pieces hp) h

theorem isName_of_mem_folded {n : String} (hrooted : isRooted path = true) (h : n ∈ folded path) :
    IsName n := by
  rw [folded, stepOf, if_pos hrooted] at h
  exact isName_of_mem_resolve h

/-- A relative path that is joined is rooted where its base is. -/
theorem isRooted_join_relative (h : isRooted path = false) :
    isRooted (join base path) = isRooted base := by
  rw [join, if_neg (by simp [h])]
  split
  · rename_i hnil
    rw [h, isRooted, List.getLast?_eq_none_iff.1 hnil]
    rfl
  · rename_i hlast
    exact isRooted_append (by rintro rfl; simp at hlast) path
  · rename_i hlast
    rw [String.append_assoc]
    exact isRooted_append (by rintro rfl; simp at hlast) ("/" ++ path)

/-- The pieces of a joined path come one after the other, but for empty ones. -/
theorem foldl_pieces_join {f : List String → String → List String}
    (hf : ∀ steps, f steps "" = steps) (h : isRooted path = false) (steps : List String) :
    (pieces (join base path)).foldl f steps =
      (pieces path).foldl f ((pieces base).foldl f steps) := by
  have hnil : pieces "" = [""] := pieces_of_not_mem (by simp)
  rw [join, if_neg (by simp [h])]
  split
  · rename_i hbase
    obtain rfl : base = "" := by simpa using hbase
    rw [hnil, List.foldl_cons, hf, List.foldl_nil]
  · rename_i hbase
    obtain ⟨front, rfl⟩ : ∃ front, base = front ++ "/" := by
      obtain ⟨cs, hcs⟩ := List.getLast?_eq_some_iff.1 hbase
      exact ⟨String.ofList cs, by rw [← String.ofList_toList (s := base), hcs]; simp⟩
    have hfront : pieces (front ++ "/") = pieces front ++ [""] := by
      rw [← hnil, ← pieces_slash, String.append_empty]
    rw [pieces_slash, hfront, List.foldl_append, List.foldl_append, List.foldl_cons, hf,
      List.foldl_nil]
  · rw [pieces_slash, List.foldl_append]

theorem folded_join (h : isRooted path = false) :
    folded (join base path) = (pieces path).foldl (stepOf base) (folded base) := by
  have hstep : stepOf (join base path) = stepOf base := by
    rw [stepOf, stepOf, isRooted_join_relative h]
  rw [folded, hstep, foldl_pieces_join (fun _ => stepOf_empty) h]
  rfl

theorem folded_join_name (h : IsName name) : folded (join base name) = folded base ++ [name] := by
  rw [folded_join (isRooted_name h), pieces_of_not_mem h.2.2.2]
  exact stepOf_name h

theorem isStep_of_folded_eq (h : folded path = steps) : ∀ n ∈ steps, IsStep n :=
  h ▸ fun _ hn => isStep_of_mem_folded hn

theorem isName_of_folded_eq (hrooted : isRooted path = true) (h : folded path = steps) :
    ∀ n ∈ steps, IsName n :=
  h ▸ fun _ hn => isName_of_mem_folded hrooted hn

/-- The parent of a folded path lacks its last step. -/
theorem parent?_clean_eq_of_concat {last : String} (h : folded path = steps ++ [last]) :
    parent? (clean path) =
      some (if isRooted path then ofNames steps else "/".intercalate steps) := by
  cases hrooted : isRooted path with
  | true =>
    have hnames := isName_of_folded_eq hrooted h
    rw [clean_rooted hrooted, h, if_pos rfl]
    exact parent?_ofNames (fun n hn => hnames n (List.mem_append_left _ hn)) (hnames last (by simp))
  | false =>
    rw [clean_relative hrooted, h, if_neg (by simp),
      parent?_intercalate (isStep_of_folded_eq h), if_neg (by simp)]

/-- The parent of a path with one step more than another; from `.` one goes up to the empty path. -/
theorem parent?_clean {last : String} (hrooted : isRooted path = isRooted base)
    (hfolded : folded path = folded base ++ [last]) :
    parent? (clean path) = some (clean base) ∨
      clean base = "." ∧ parent? (clean path) = some "" := by
  rw [parent?_clean_eq_of_concat hfolded, hrooted]
  cases hbase : isRooted base with
  | true =>
    rw [clean_rooted hbase]
    exact .inl rfl
  | false =>
    rw [if_neg (by simp), clean_relative hbase]
    split
    · rename_i hnil
      rw [hnil]
      exact .inr ⟨rfl, rfl⟩
    · exact .inl rfl

theorem folded_ofNames (h : ∀ n ∈ names, IsName n) : folded (ofNames names) = names := by
  rw [folded, stepOf, if_pos isRooted_ofNames]
  exact resolve_ofNames h

theorem isRooted_intercalate (h : ∀ n ∈ names, IsStep n) :
    isRooted ("/".intercalate names) = false := by
  cases names with
  | nil => rfl
  | cons n ns =>
    obtain ⟨hne, -, hslash⟩ := h n (List.mem_cons_self ..)
    cases ns with
    | nil => rw [String.intercalate_singleton, isRooted_of_not_mem hslash]
    | cons n' ns =>
      rw [String.intercalate_cons_cons, String.append_assoc, isRooted_append hne,
        isRooted_of_not_mem hslash]

/-- A folded path below a base leads one name further than the directory that is its parent. -/
theorem folded_join_clean (base : String) {directory : String} (hname : IsName name)
    (hparent : parent? (clean (join directory name)) = some directory) :
    isRooted (join base (clean (join directory name))) = isRooted (join base directory) ∧
      folded (join base (clean (join directory name))) =
        folded (join base directory) ++ [name] := by
  have hfolded : folded (join directory name) = folded directory ++ [name] :=
    folded_join_name hname
  have hrooted : isRooted (join directory name) = isRooted directory :=
    isRooted_join_relative (isRooted_name hname)
  cases hdirectory : isRooted directory with
  | true =>
    have hnames : ∀ n ∈ folded directory ++ [name], IsName n := fun n hn =>
      isName_of_mem_folded (hrooted.trans hdirectory) (hfolded ▸ hn)
    rw [clean_rooted (hrooted.trans hdirectory), hfolded, join, join, if_pos isRooted_ofNames,
      if_pos hdirectory, isRooted_ofNames, hdirectory, folded_ofNames hnames]
    exact ⟨rfl, rfl⟩
  | false =>
    have hsteps : ∀ n ∈ folded directory ++ [name], IsStep n := fun n hn =>
      isStep_of_mem_folded (hfolded ▸ hn)
    have hclean : clean (join directory name) = "/".intercalate (folded directory ++ [name]) := by
      rw [clean_relative (hrooted.trans hdirectory), hfolded, if_neg (by simp)]
    rw [hclean, parent?_intercalate hsteps, Option.some_inj] at hparent
    have hrelative := isRooted_intercalate hsteps
    have hpieces : ∀ steps, (pieces directory).foldl (stepOf base) steps =
        (folded directory).foldl (stepOf base) steps := by
      intro steps
      by_cases hnil : folded directory = []
      · rw [hnil] at hparent ⊢
        rw [← hparent, String.intercalate_nil, pieces_of_not_mem (by simp)]
        exact stepOf_empty
      · have heq := pieces_intercalate hnil fun n hn => (hsteps n (by simp [hn])).2.2
        rw [hparent] at heq
        rw [heq]
    rw [hclean, isRooted_join_relative hrelative, isRooted_join_relative hdirectory,
      folded_join hrelative, folded_join hdirectory,
      pieces_intercalate (by simp) fun n hn => (hsteps n hn).2.2, hpieces, List.foldl_append]
    exact ⟨rfl, stepOf_name hname⟩

end ModuleBundler.Path

namespace ModuleBundler

/-- A path tells which module it is of. -/
theorem ModuleId.path_injective : Function.Injective ModuleId.path := by
  intro a b hpath
  have hnames : a.names = b.names := by
    rw [← Path.resolve_ofNames a.isName, ← Path.resolve_ofNames b.isName]
    exact congrArg Path.resolve hpath
  cases a
  cases b
  cases hnames
  rfl

end ModuleBundler
