import ModuleBundler.Proofs.Path

/-!
# Modules in canonical form

Folding a path drops what stays in place and takes back a name for each `..`, as far as there is
one. A module is what is left of a rooted path then, so that its own path has nothing to fold.
-/

namespace ModuleBundler.Path

/-- The texts between slashes. -/
def components (path : String) : List String :=
  (path.split '/').toList.map String.Slice.copy

theorem piecesOf_eq_splitOn (cs : List Char) : piecesOf cs = cs.splitOn '/' := by
  induction cs with
  | nil => rfl
  | cons c cs ih =>
    rw [piecesOf, ih, List.splitOn_cons_eq_if_modifyHead]
    by_cases hc : c = '/'
    · simp [hc]
    · cases hcs : cs.splitOn '/' with
      | nil => exact absurd hcs (List.splitOn_ne_nil _ _)
      | cons p ps => simp [hc]

theorem pieces_eq_components (path : String) : pieces path = components path := by
  rw [pieces, piecesOf_eq_splitOn, components, String.toList_split_char]

/-- Puts components on a stack of names, the innermost name on top. Going up from the root leads
nowhere. -/
def stack : List String → List String → List String
  | names, [] => names
  | names, component :: rest =>
    if component = "" ∨ component = "." then stack names rest
    else if component = ".." then stack names.tail rest
    else stack (component :: names) rest

/-- The names from the root to the place that components lead to. -/
def place (components : List String) : List String :=
  (stack [] components).reverse

theorem reverse_stack (names components : List String) :
    (stack names components).reverse = components.foldl enter names.reverse := by
  induction components generalizing names with
  | nil => rfl
  | cons component rest ih =>
    rw [stack, List.foldl_cons, enter]
    split
    · exact ih names
    · split
      · rw [ih, List.dropLast_reverse]
      · rw [ih, List.reverse_cons]

theorem resolve_eq_place (path : String) : resolve path = place (components path) := by
  rw [place, reverse_stack, ← pieces_eq_components]
  rfl

/-- A path from the root with nothing to fold. -/
structure IsCanonical (path : String) : Prop where
  rooted : isRooted path = true
  /-- In front of the first slash there is no text. -/
  components : path ≠ "/" → ∀ c ∈ (components path).tail, c ≠ "" ∧ c ≠ "." ∧ c ≠ ".."
  trailing : path ≠ "/" → path.toList.getLast? ≠ some '/'

variable {names : List String}

theorem isCanonical_ofNames (h : ∀ n ∈ names, IsName n) : IsCanonical (ofNames names) := by
  obtain rfl | ⟨init, last, rfl⟩ := List.eq_nil_or_concat' names
  · exact ⟨isRooted_ofNames, fun hne => absurd rfl hne, fun hne => absurd rfl hne⟩
  · refine ⟨isRooted_ofNames, fun _ c hc => ?_, fun _ => ?_⟩
    · rw [← pieces_eq_components, pieces_ofNames (by simp) h, List.tail_cons] at hc
      obtain ⟨hempty, hdot, hdots, -⟩ := h c hc
      exact ⟨hempty, hdot, hdots⟩
    · obtain ⟨c, hc, hlast⟩ : ∃ c, c ≠ '/' ∧ (ofNames (init ++ [last])).toList.getLast? = some c :=
        getLast?_ofNames (h last (by simp))
      rw [hlast]
      exact fun heq => hc (Option.some.inj heq)

theorem join_ne_empty {base path : String} (h : path ≠ "") : join base path ≠ "" := by
  unfold join
  split
  · exact h
  · split <;> simp [h]

end ModuleBundler.Path

namespace ModuleBundler.ModuleId

open Path

variable {id : ModuleId} {p base specifier : String}

theorem not_isEmpty_of_isRooted (h : isRooted p = true) : ¬ p.isEmpty = true := by
  intro hempty
  rw [String.isEmpty_iff.1 hempty] at h
  cases h

theorem ofPath_rooted (h : isRooted p = true) : ofPath p = .ok (ofRooted p) := by
  rw [ofPath, if_neg (not_isEmpty_of_isRooted h), if_pos h]

theorem names_ofRooted (p : String) : (ofRooted p).names = place (components p) :=
  resolve_eq_place p

theorem eq_iff_names {a b : ModuleId} : a = b ↔ a.names = b.names := by
  cases a
  cases b
  simp

theorem ofRooted_path (id : ModuleId) : ofRooted id.path = id := by
  rw [eq_iff_names]
  exact resolve_ofNames id.isName

/-- The path of a module is rooted and folded. -/
theorem isRooted_path (id : ModuleId) : isRooted id.path = true := isRooted_ofNames

theorem clean_path (id : ModuleId) : clean id.path = id.path := clean_ofNames id.isName

theorem ofPath_path (id : ModuleId) : ofPath id.path = .ok id := by
  rw [ofPath_rooted id.isRooted_path, ofRooted_path]

theorem path_ofRooted (h : isRooted p = true) : (ofRooted p).path = clean p := by
  rw [clean, if_pos h]
  rfl

/-- A rooted path does not depend on where it starts. -/
theorem ofBase_of_rooted (h : isRooted p = true) (base : String) :
    ofBase p base = .ok (ofRooted p) := by
  rw [ofBase, if_neg (not_isEmpty_of_isRooted h), if_pos h, ofPath_rooted h]

theorem ofBase_of_relative (hp : p ≠ "") (hrelative : isRooted p = false)
    (hbase : isRooted base = true) : ofBase p base = .ok (ofRooted (join base p)) := by
  have hempty : ¬ p.isEmpty = true := by simpa using hp
  rw [ofBase, if_neg hempty, if_neg (by simp [hrelative]), ofPath_rooted (isRooted_join hbase)]

theorem names_ofRooted_join (h : isRooted p = false) :
    (ofRooted (join base p)).names = (pieces p).foldl enter (ofRooted base).names :=
  foldl_pieces_join (fun _ => by simp [enter]) h []

/-- The path of a module leads to it from everywhere. -/
theorem joinSpecifier_path (other id : ModuleId) : other.joinSpecifier id.path = .ok id := by
  rw [joinSpecifier, ofBase_of_rooted id.isRooted_path, ofRooted_path]

theorem isCanonical_path (id : ModuleId) : IsCanonical id.path :=
  isCanonical_ofNames id.isName

/-- The directory of a module is the parent of its path; the root is its own directory. -/
theorem path_directory (id : ModuleId) : id.directory.path = (parent? id.path).getD "/" := by
  obtain ⟨names, isName⟩ := id
  obtain rfl | ⟨init, last, rfl⟩ := List.eq_nil_or_concat' names
  · change ofNames [] = (parent? (ofNames [])).getD "/"
    decide +kernel
  · have hinit : ∀ n ∈ init, IsName n := fun n hn => isName n (List.mem_append_left _ hn)
    rw [path, path, parent?_ofNames hinit (isName last (by simp))]
    simp only [directory, List.dropLast_concat, Option.getD_some]

theorem ofPath_eq_error_iff {e : Error} : ofPath p = .error e ↔
    p = "" ∧ e = .empty ∨ p ≠ "" ∧ isRooted p = false ∧ e = .notAbsolute p := by
  have herror : ∀ e', (.error e' : Except Error ModuleId) = .error e ↔ e = e' := fun e' => by
    rw [Except.error.injEq, eq_comm]
  unfold ofPath
  split
  · simp_all
  · split <;> simp_all

/-- A relative path that starts at a rooted base goes on where the base leads to. -/
theorem ofBase_rooted (hp : p ≠ "") (hrelative : isRooted p = false)
    (hbase : isRooted base = true) : ∃ id, ofBase p base = .ok id ∧
      id.names = place (components base ++ components p) := by
  refine ⟨_, ofBase_of_relative hp hrelative hbase, ?_⟩
  rw [names_ofRooted_join hrelative, place, reverse_stack, ← pieces_eq_components,
    ← pieces_eq_components, List.foldl_append]
  rfl

theorem ofBase_eq_error_iff {e : Error} : ofBase p base = .error e ↔
    p = "" ∧ e = .empty ∨
      p ≠ "" ∧ isRooted p = false ∧ isRooted base = false ∧ e = .notAbsolute (join base p) := by
  unfold ofBase
  split
  · rename_i hempty
    obtain rfl : p = "" := by simpa using hempty
    simp [Except.error.injEq, eq_comm (b := e)]
  · split
    · simp_all [ofPath_eq_error_iff]
    · rename_i hempty hrooted
      have hp : p ≠ "" := by simpa using hempty
      have hrelative : isRooted p = false := by simpa using hrooted
      rw [ofPath_eq_error_iff, isRooted_join_relative hrelative]
      simp [join_ne_empty hp, hp, hrelative]

/-- What a module mentions is found from its directory, or from the root. -/
theorem joinSpecifier_place (id : ModuleId) (hne : specifier ≠ "") : ∃ target,
    id.joinSpecifier specifier = .ok target ∧
      target.names = place (if isRooted specifier then components specifier
        else components ((parent? id.path).getD "/") ++ components specifier) := by
  cases hrooted : isRooted specifier with
  | true => exact ⟨_, ofBase_of_rooted hrooted _, names_ofRooted specifier⟩
  | false =>
    rw [← path_directory]
    exact ofBase_rooted hne hrooted isRooted_ofNames

/-- A relative path tells bases apart only by where they lead. -/
theorem ofBase_congr {base' : String} (hp : p ≠ "") (hrelative : isRooted p = false)
    (hbase : isRooted base = true) (hbase' : isRooted base' = true)
    (h : place (components base) = place (components base')) : ofBase p base = ofBase p base' := by
  obtain ⟨id, hid, hnames⟩ := ofBase_rooted hp hrelative hbase
  obtain ⟨id', hid', hnames'⟩ := ofBase_rooted hp hrelative hbase'
  rw [place, place, reverse_stack, reverse_stack] at h
  rw [hid, hid', Except.ok.injEq, eq_iff_names, hnames, hnames', place, place, reverse_stack,
    reverse_stack, List.foldl_append, List.foldl_append]
  exact congrArg (fun names => (components p).foldl enter names) h

/-- Every rooted path is of one module, and two are of the same module when they lead to the same
place. The path of a module leads there without a detour, and it is of that module. What a module
mentions leads to a module, however often it goes up. A relative path depends on its base only as
far as on the module that the base is of. Only a path that is empty or stays relative is of no
module. -/
theorem canonical_form :
    (∀ p, isRooted p = true → ∃ id, ofPath p = .ok id ∧
      id.path = ofNames (place (components p)) ∧ IsCanonical id.path ∧ ofPath id.path = .ok id) ∧
    (∀ p q, isRooted p = true → isRooted q = true →
      (ofPath p = ofPath q ↔ place (components p) = place (components q))) ∧
    (∀ (id : ModuleId) (specifier : String), specifier ≠ "" → ∃ target,
      id.joinSpecifier specifier = .ok target ∧ IsCanonical target.path ∧
        target.path = ofNames (place (if isRooted specifier then components specifier
          else components ((parent? id.path).getD "/") ++ components specifier))) ∧
    (∀ p base base', p ≠ "" → isRooted p = false → isRooted base = true →
      isRooted base' = true → ofPath base = ofPath base' → ofBase p base = ofBase p base') ∧
    (∀ p e, ofPath p = .error e ↔
      p = "" ∧ e = .empty ∨ p ≠ "" ∧ isRooted p = false ∧ e = .notAbsolute p) ∧
    (∀ p base e, ofBase p base = .error e ↔
      p = "" ∧ e = .empty ∨
        p ≠ "" ∧ isRooted p = false ∧ isRooted base = false ∧ e = .notAbsolute (join base p)) := by
  have hequal : ∀ p q, isRooted p = true → isRooted q = true →
      (ofPath p = ofPath q ↔ place (components p) = place (components q)) := by
    intro p q hp hq
    rw [ofPath_rooted hp, ofPath_rooted hq, Except.ok.injEq, eq_iff_names, names_ofRooted,
      names_ofRooted]
  refine ⟨fun p hp => ?_, hequal, fun id specifier hne => ?_, ?_, fun p e => ofPath_eq_error_iff,
    fun p base e => ofBase_eq_error_iff⟩
  · refine ⟨_, ofPath_rooted hp, ?_, isCanonical_path _, ofPath_path _⟩
    rw [path, names_ofRooted]
  · obtain ⟨target, htarget, hnames⟩ := id.joinSpecifier_place hne
    exact ⟨target, htarget, isCanonical_path target, congrArg ofNames hnames⟩
  · intro p base base' hp hrelative hbase hbase' hsame
    exact ofBase_congr hp hrelative hbase hbase' ((hequal base base' hbase hbase').1 hsame)

/-- Two spellings of one place, a specifier that goes up from the root, and a base with a detour. -/
theorem canonical_form_dots :
    ofPath "/src/./lib//../index.js" = ofPath "/src/index.js" ∧
    (∃ target, (ofRooted "/src/index.js").joinSpecifier "../../util//b.js" = .ok target ∧
      IsCanonical target.path ∧ target.path = "/util/b.js") ∧
    ofBase "../a.js" "/src/lib/.." = ofBase "../a.js" "/src" := by
  obtain ⟨-, hequal, hjoin, hbase, -, -⟩ := canonical_form
  obtain ⟨target, htarget, hcanonical, hpath⟩ :=
    hjoin (ofRooted "/src/index.js") "../../util//b.js" (by decide)
  refine ⟨?_, ⟨target, htarget, hcanonical, ?_⟩, ?_⟩
  · rw [hequal _ _ (by decide) (by decide), ← pieces_eq_components, ← pieces_eq_components]
    decide
  · rw [hpath, ← pieces_eq_components, ← pieces_eq_components]
    decide +kernel
  · apply hbase _ _ _ (by decide) (by decide) (by decide) (by decide)
    rw [hequal _ _ (by decide) (by decide), ← pieces_eq_components, ← pieces_eq_components]
    decide

end ModuleBundler.ModuleId
