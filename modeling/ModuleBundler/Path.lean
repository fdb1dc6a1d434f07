/-!
# Slash-separated paths

A path is a text in which `/` separates pieces. This module folds `.` and `..` lexically, joins
paths, and reads off parent, file name and extension without touching a file system.
-/

namespace ModuleBundler.Path

/-- The pieces between slashes; a text without a slash is one piece. -/
def piecesOf : List Char → List (List Char)
  | [] => [[]]
  | c :: r =>
    if c = '/' then [] :: piecesOf r
    else match piecesOf r with
      | [] => [[c]]
      | p :: ps => (c :: p) :: ps

def pieces (path : String) : List String :=
  (piecesOf path.toList).map String.ofList

/-- A rooted path starts with a slash. -/
def isRooted (path : String) : Bool :=
  path.toList.head? == some '/'

/-- A name is a piece that denotes an entry of a directory. -/
def IsName (piece : String) : Prop :=
  piece ≠ "" ∧ piece ≠ "." ∧ piece ≠ ".." ∧ '/' ∉ piece.toList

instance (piece : String) : Decidable (IsName piece) := by
  unfold IsName; infer_instance

/-- One step down from the root: `.` stays, `..` goes up and stops at the root. -/
def enter (names : List String) (piece : String) : List String :=
  if piece = "" ∨ piece = "." then names
  else if piece = ".." then names.dropLast
  else names ++ [piece]

/-- The step of a relative path, which keeps the `..` that leave its starting directory. -/
def enterRelative (names : List String) (piece : String) : List String :=
  if piece = "" ∨ piece = "." then names
  else if piece = ".." then
    match names.getLast? with
    | none => [".."]
    | some ".." => names ++ [".."]
    | some _ => names.dropLast
  else names ++ [piece]

/-- The names that a rooted path passes through once `.` and `..` are folded. -/
def resolve (path : String) : List String :=
  (pieces path).foldl enter []

def ofNames (names : List String) : String :=
  "/" ++ "/".intercalate names

/-- The shortest path that denotes the same place lexically. -/
def clean (path : String) : String :=
  if isRooted path then ofNames (resolve path)
  else match (pieces path).foldl enterRelative [] with
    | [] => "."
    | names => "/".intercalate names

/-- Appends a path; a rooted one replaces the base. -/
def join (base path : String) : String :=
  if isRooted path then path
  else match base.toList.getLast? with
    | none => path
    | some '/' => base ++ path
    | some _ => base ++ "/" ++ path

/-- Whether a piece is a component of its path; only a `.` in front of a relative path is. -/
def isComponent (first : Bool) (piece : String) : Bool :=
  piece != "" && (piece != "." || first)

/-- The pieces that are components, each with its position. -/
def componentIndices (path : String) : List (Nat × String) :=
  (pieces path).zipIdx.filterMap fun (piece, i) =>
    if isComponent (i == 0) piece then some (i, piece) else none

/-- The last component, when it is a name. -/
def fileName? (path : String) : Option String :=
  match (componentIndices path).getLast? with
  | some (_, piece) => if piece = "." ∨ piece = ".." then none else some piece
  | none => none

/-- The path without its last component; the root and the empty path have no parent. -/
def parent? (path : String) : Option String :=
  match (componentIndices path).dropLast.getLast?, (componentIndices path).isEmpty with
  | _, true => none
  | some (i, _), false => some ("/".intercalate ((pieces path).take (i + 1)))
  | none, false => some (if isRooted path then "/" else "")

/-- Splits a text at its last dot. -/
private def splitLastDot : List Char → Option (List Char × List Char)
  | [] => none
  | c :: r =>
    match splitLastDot r with
    | some (a, b) => some (c :: a, b)
    | none => if c = '.' then some ([], r) else none

/-- The text after the last dot of the file name, unless that dot leads the name. -/
def extension? (path : String) : Option String :=
  match fileName? path with
  | none => none
  | some name =>
    match splitLastDot name.toList with
    | some (_ :: _, ext) => some (String.ofList ext)
    | _ => none

/-- The components with single slashes between them; paths with the same components are the same
place. -/
def tidy (path : String) : String :=
  (if isRooted path then "/" else "") ++
    "/".intercalate ((componentIndices path).map Prod.snd)

/-- The path and its parents, nearest first. The measure bounds how often a parent is taken. -/
def ancestorsUpTo : Nat → String → List String
  | 0, path => [path]
  | n + 1, path =>
    match parent? path with
    | none => [path]
    | some up => path :: ancestorsUpTo n up

def ancestors (path : String) : List String :=
  ancestorsUpTo (pieces path).length path

/-! ## Names stay names -/

theorem not_mem_of_mem_piecesOf {cs p : List Char} (h : p ∈ piecesOf cs) : '/' ∉ p := by
  induction cs generalizing p with
  | nil => simp_all [piecesOf]
  | cons c r ih =>
    by_cases hc : c = '/'
    · simp only [piecesOf, hc, if_true, List.mem_cons] at h
      rcases h with rfl | h
      · simp
      · exact ih h
    · have hc' : ¬ '/' = c := fun e => hc e.symm
      simp only [piecesOf, hc, if_false] at h
      cases hr : piecesOf r with
      | nil =>
        rw [hr] at h
        simp [hc', List.mem_singleton.1 h]
      | cons q qs =>
        rw [hr] at h ih
        rcases List.mem_cons.1 h with rfl | h
        · simpa [hc'] using ih (List.mem_cons_self ..)
        · exact ih (List.mem_cons_of_mem _ h)

theorem not_mem_of_mem_pieces {path p : String} (h : p ∈ pieces path) : '/' ∉ p.toList := by
  obtain ⟨q, hq, rfl⟩ := List.mem_map.1 h
  simpa using not_mem_of_mem_piecesOf hq

theorem isName_of_mem_enter {names : List String} {piece n : String}
    (hn : ∀ n ∈ names, IsName n) (hp : '/' ∉ piece.toList) (h : n ∈ enter names piece) :
    IsName n := by
  unfold enter at h
  split at h
  · exact hn n h
  · split at h
    · exact hn n ((List.dropLast_sublist _).subset h)
    · rcases List.mem_append.1 h with h | h
      · exact hn n h
      · simp_all [IsName]

theorem isName_of_mem_foldl_enter {ps names : List String} {n : String}
    (hn : ∀ n ∈ names, IsName n) (hp : ∀ p ∈ ps, '/' ∉ p.toList)
    (h : n ∈ ps.foldl enter names) : IsName n := by
  induction ps generalizing names with
  | nil => exact hn n h
  | cons p ps ih =>
    exact ih (fun m hm => isName_of_mem_enter hn (hp p (by simp)) hm)
      (fun q hq => hp q (by simp [hq])) h

theorem isName_of_mem_resolve {path n : String} (h : n ∈ resolve path) : IsName n :=
  isName_of_mem_foldl_enter (by simp) (fun _ hp => not_mem_of_mem_pieces hp) h

end ModuleBundler.Path
