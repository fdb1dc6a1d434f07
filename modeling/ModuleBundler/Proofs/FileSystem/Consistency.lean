import ModuleBundler.Proofs.FileSystem.Memory
import ModuleBundler.Proofs.ModuleId
import ModuleBundler.Proofs.Path.Ancestors

/-!
# Consistency of a store in memory

Files and directories are kept apart, and a change may touch either. Whatever changes a store goes
through, the directories above everything in it stay known, and a path leads to what was last
stored at its place, however it is spelled.
-/

namespace ModuleBundler.FileSystem.Memory

open Text (Bytes)
open Path (IsAncestor IsStep IsName isRooted ofNames parent? components place stepsOf)

/-- What may be done to a store. -/
inductive Change where
  | addFile (path : String) (bytes : Bytes)
  | write (path : String) (bytes : Bytes)
  | createDirectory (path : String) (all : Bool)

namespace Change

def path : Change → String
  | addFile path _ => path
  | write path _ => path
  | createDirectory path _ => path

def perform : Change → StateM Memory (Except Error Unit)
  | addFile path bytes => fun s => (.ok (), s.addFile path bytes)
  | write path bytes => host.write path bytes
  | createDirectory path all => host.createDirectory path all

/-- What a change does that only succeeds in a directory that is there. -/
def operation? : Change → Option Operation
  | addFile .. => none
  | write .. => some .write
  | createDirectory _ all => if all then none else some .createDirectory

def bytes? : Change → Option Bytes
  | addFile _ bytes => some bytes
  | write _ bytes => some bytes
  | createDirectory .. => none

end Change

def outcome (s : Memory) (c : Change) : Except Error Unit := (World.run c.perform s).1

def after (s : Memory) (c : Change) : Memory := (World.run c.perform s).2

def afterAll (s : Memory) (changes : List Change) : Memory := changes.foldl after s

/-- The names from the root to where a path leads; a relative path goes on from a directory. -/
def destination (directory path : String) : List String :=
  place (if isRooted path then components path else components directory ++ components path)

/-- What a change stores, and where; one that fails stores nothing. -/
def stored (s : Memory) (c : Change) : List (List String × Bytes) :=
  match s.outcome c, c.bytes? with
  | .ok (), some bytes => [(destination s.workingDirectory c.path, bytes)]
  | _, _ => []

/-- What changes store one after the other, the last of it first. -/
def storedAll : Memory → List Change → List (List String × Bytes)
  | _, [] => []
  | s, c :: changes => storedAll (s.after c) changes ++ s.stored c

variable {s t : Memory} {c : Change} {wd p path : String} {names steps : List String}

/-! ## Destinations -/

theorem isName_of_mem_destination {directory n : String} (h : n ∈ destination directory path) :
    IsName n := by
  rw [destination, place, Path.reverse_stack] at h
  refine Path.isName_of_mem_foldl_enter (by simp) (fun p hp => ?_) h
  split at hp
  · exact Path.not_mem_of_mem_pieces (Path.pieces_eq_components path ▸ hp)
  · rcases List.mem_append.1 hp with hp | hp
    · exact Path.not_mem_of_mem_pieces (Path.pieces_eq_components directory ▸ hp)
    · exact Path.not_mem_of_mem_pieces (Path.pieces_eq_components path ▸ hp)

theorem locate_eq (h : isRooted s.workingDirectory = true) (path : String) :
    s.locate path = ofNames (destination s.workingDirectory path) := by
  rw [destination]
  split
  · rename_i hrooted
    rw [locate_rooted hrooted, Path.clean, if_pos hrooted, Path.resolve_eq_place]
  · rename_i hrooted
    have hfold : (Path.pieces (Path.join s.workingDirectory path)).foldl Path.enter [] =
        (Path.pieces path).foldl Path.enter ((Path.pieces s.workingDirectory).foldl Path.enter []) :=
      Path.foldl_pieces_join (fun _ => by simp [Path.enter]) (by simpa using hrooted) []
    rw [locate, Path.clean, if_pos (Path.isRooted_join h), Path.resolve, hfold, place,
      Path.reverse_stack, List.foldl_append, Path.pieces_eq_components, Path.pieces_eq_components]
    rfl

theorem destination_eq_iff (h : isRooted s.workingDirectory = true) {path other : String} :
    s.locate path = s.locate other ↔
      destination s.workingDirectory path = destination s.workingDirectory other := by
  rw [locate_eq h, locate_eq h]
  have hnames (p : String) : ∀ n ∈ destination s.workingDirectory p, IsName n :=
    fun _ => isName_of_mem_destination
  refine ⟨fun heq => ?_, congrArg ofNames⟩
  rw [← Path.resolve_ofNames (hnames path), ← Path.resolve_ofNames (hnames other), heq]

/-! ## One change -/

/-- A path lies in a directory that is known, or it is the root. -/
theorem hasParent_iff : s.hasParent p = true ↔ ∀ d, parent? p = some d → d ∈ s.directories := by
  rw [hasParent]
  cases parent? p with
  | none => simp
  | some d => simp

/-- What a change comes to that is not refused. -/
def applied (s : Memory) : Change → Memory
  | .addFile path bytes => s.addFile path bytes
  | .write path bytes => s.withFile path bytes
  | .createDirectory path true => s.withDirectory path
  | .createDirectory path false =>
    { s with directories := addDirectories s.directories [s.locate path] }

/-- A change is refused when it needs a directory that is not there. -/
def refusal? (s : Memory) (c : Change) : Option Error :=
  match c.operation?, s.hasParent (s.locate c.path) with
  | some operation, false =>
    some (.failed operation (s.locate c.path) "parent directory does not exist")
  | _, _ => none

theorem run_addFile (s : Memory) (path : String) (bytes : Bytes) :
    World.run (Change.addFile path bytes).perform s = (.ok (), s.addFile path bytes) := rfl

/-- A change is refused and leaves the store as it was, or it is applied. -/
theorem run_perform (s : Memory) (c : Change) : World.run c.perform s =
    match s.refusal? c with
    | some e => (.error e, s)
    | none => (.ok (), s.applied c) := by
  rcases c with ⟨path, bytes⟩ | ⟨path, bytes⟩ | ⟨path, _ | _⟩
  · simp only [run_addFile, refusal?, Change.operation?, applied]
  · simp only [Change.perform, host, run_change, write, refusal?, Change.operation?, Change.path,
      applied, withFile]
    cases s.hasParent (s.locate path) <;> rfl
  · simp only [Change.perform, host, run_change, createDirectory, refusal?, Change.operation?,
      Change.path, applied, Bool.false_eq_true, if_false]
    cases s.hasParent (s.locate path) <;> rfl
  · simp only [Change.perform, run_createDirectory, refusal?, Change.operation?, if_true, applied]

theorem outcome_eq_error_iff {e : Error} : s.outcome c = .error e ↔ s.refusal? c = some e := by
  rw [outcome, run_perform]
  cases s.refusal? c <;> simp

theorem after_of_refused {e : Error} (h : s.refusal? c = some e) : s.after c = s := by
  rw [after, run_perform, h]

theorem after_of_applied (h : s.refusal? c = none) : s.after c = s.applied c := by
  rw [after, run_perform, h]

theorem outcome_of_applied (h : s.refusal? c = none) : s.outcome c = .ok () := by
  rw [outcome, run_perform, h]

theorem refusal?_eq_some_iff {e : Error} : s.refusal? c = some e ↔ ∃ operation d,
    c.operation? = some operation ∧ parent? (s.locate c.path) = some d ∧ d ∉ s.directories ∧
      e = .failed operation (s.locate c.path) "parent directory does not exist" := by
  have hiff := hasParent_iff (s := s) (p := s.locate c.path)
  rw [refusal?]
  cases c.operation? with
  | none => simp
  | some operation =>
    cases hparent : s.hasParent (s.locate c.path) with
    | true =>
      simp only [reduceCtorEq, false_iff]
      rintro ⟨_, d, -, hd, hunknown, -⟩
      exact hunknown (hiff.1 hparent d hd)
    | false =>
      have hmissing : ∃ d, parent? (s.locate c.path) = some d ∧ d ∉ s.directories := by
        simpa [hparent] using hiff
      obtain ⟨d, hd, hunknown⟩ := hmissing
      simp only [Option.some.injEq]
      constructor
      · rintro rfl
        exact ⟨operation, d, rfl, hd, hunknown, rfl⟩
      · rintro ⟨_, _, rfl, -, -, rfl⟩
        rfl

theorem workingDirectory_after (s : Memory) (c : Change) :
    (s.after c).workingDirectory = s.workingDirectory := by
  cases h : s.refusal? c with
  | some e => rw [after_of_refused h]
  | none =>
    rw [after_of_applied h]
    rcases c with _ | _ | ⟨_, _ | _⟩ <;> simp only [applied, addFile, withFile, withDirectory]

theorem workingDirectory_afterAll (s : Memory) (changes : List Change) :
    (s.afterAll changes).workingDirectory = s.workingDirectory := by
  induction changes generalizing s with
  | nil => rfl
  | cons c changes ih => rw [afterAll, List.foldl_cons, ← afterAll, ih, workingDirectory_after]

/-! ## What files hold -/

theorem get?_congr (h : t.files = s.files) (hwd : t.workingDirectory = s.workingDirectory)
    (path : String) : t.get? path = s.get? path := by
  rw [get?, get?, h, locate, locate, hwd]

theorem get?_addFile (s : Memory) (target : String) (bytes : Bytes) (path : String) :
    (s.addFile target bytes).get? path = (s.withFile target bytes).get? path :=
  get?_congr (by simp only [addFile, withFile]) (by simp only [addFile, withFile]) path

/-- A file holds what was stored at its place last, or what it held before. -/
theorem get?_after (h : isRooted s.workingDirectory = true) (c : Change) (path : String) :
    (s.after c).get? path =
      ((s.stored c).lookup (destination s.workingDirectory path)).or (s.get? path) := by
  rw [stored]
  cases hrefusal : s.refusal? c with
  | some e =>
    rw [after_of_refused hrefusal, outcome_eq_error_iff.2 hrefusal]
    rfl
  | none =>
    have hfile : ∀ (target : String) (bytes : Bytes), (s.withFile target bytes).get? path =
        (([(destination s.workingDirectory target, bytes)] : List _).lookup
          (destination s.workingDirectory path)).or (s.get? path) := by
      intro target bytes
      rw [get?_withFile]
      simp only [destination_eq_iff h, List.lookup_cons, List.lookup_nil]
      by_cases heq : destination s.workingDirectory path = destination s.workingDirectory target
      · simp [heq]
      · simp [heq, beq_eq_false_iff_ne.2 heq]
    rw [after_of_applied hrefusal, outcome_of_applied hrefusal]
    rcases c with ⟨target, bytes⟩ | ⟨target, bytes⟩ | ⟨target, _ | _⟩
    · exact (get?_addFile s target bytes path).trans (hfile target bytes)
    · exact hfile target bytes
    · exact get?_congr (by simp only [applied]) (by simp only [applied]) path
    · exact get?_congr (by simp only [applied, withDirectory]) (by simp only [applied, withDirectory]) path

theorem lookup_stored_of_ne
    (h : destination s.workingDirectory path ≠ destination s.workingDirectory c.path) :
    (s.stored c).lookup (destination s.workingDirectory path) = none := by
  rw [stored]
  split
  · rw [List.lookup_cons, beq_eq_false_iff_ne.2 h, List.lookup_nil]
  · rfl

theorem get?_afterAll (h : isRooted s.workingDirectory = true) (changes : List Change)
    (path : String) : (s.afterAll changes).get? path =
      ((s.storedAll changes).lookup (destination s.workingDirectory path)).or (s.get? path) := by
  induction changes generalizing s with
  | nil => rfl
  | cons c changes ih =>
    have hwd := workingDirectory_after s c
    rw [afterAll, List.foldl_cons, ← afterAll, ih (hwd ▸ h), storedAll, List.lookup_append, hwd,
      get?_after h, Option.or_assoc]

theorem get?_empty (wd path : String) : (empty wd).get? path = none := rfl

/-! ## What is known stays within what is known -/

theorem mem_addDirectories_iff {known new : List String} {d : String} :
    d ∈ addDirectories known new ↔ d ∈ known ∨ d ∈ new := by
  refine ⟨fun h => ?_, fun h => h.elim mem_addDirectories_of_known mem_addDirectories_of_new⟩
  induction new generalizing known with
  | nil => exact .inl h
  | cons n new ih =>
    rw [addDirectories, List.foldl_cons, ← addDirectories] at h
    rcases ih h with hknown | hnew
    · split at hknown
      · exact .inl hknown
      · rcases List.mem_append.1 hknown with hknown | hn
        · exact .inl hknown
        · exact .inr (List.mem_singleton.1 hn ▸ List.mem_cons_self)
    · exact .inr (List.mem_cons_of_mem _ hnew)

/-- A path without detours, all of whose ancestors are known. -/
def Within (known : List String) (p : String) : Prop :=
  ∃ steps, (∀ n ∈ steps, IsStep n) ∧ p = ofNames steps ∧
    ∀ init, init <+: steps → init ≠ steps → ofNames init ∈ known

theorem Within.mono {known more : List String} (h : Within known p) (hmore : known ⊆ more) :
    Within more p := by
  obtain ⟨steps, hsteps, rfl, habove⟩ := h
  exact ⟨steps, hsteps, rfl, fun init hinit hne => hmore (habove init hinit hne)⟩

theorem Within.known {known : List String} {above : String} (h : Within known p)
    (habove : IsAncestor above p) : above ∈ known := by
  obtain ⟨steps, hsteps, rfl, hknown⟩ := h
  obtain ⟨init, hinit, hne, rfl⟩ := habove.exists_prefix hsteps
  exact hknown init hinit hne

/-- Everything in a store lies within the directories that it knows. -/
def Consistent (s : Memory) : Prop :=
  ∀ p, p ∈ s.directories ∨ p ∈ s.files.keys → Within s.directories p

theorem mem_directories_empty (h : isRooted wd = true) : p ∈ (empty wd).directories ↔
    ∃ steps, steps <+: stepsOf wd ∧ p = ofNames steps := by
  rw [← Path.mem_ancestors_iff h]
  exact mem_addDirectories_iff.trans (by simp)

theorem consistent_empty (h : isRooted wd = true) : (empty wd).Consistent := by
  rintro p (hp | hp)
  · obtain ⟨steps, hsteps, rfl⟩ := (mem_directories_empty h).1 hp
    refine ⟨steps, fun n hn => Path.isStep_of_mem_stepsOf (hsteps.subset hn), rfl, ?_⟩
    intro init hinit _
    exact (mem_directories_empty h).2 ⟨init, hinit.trans hsteps, rfl⟩
  · cases hp

/-- A store stays consistent when what is new lies within what is known then. -/
theorem Consistent.extend (h : s.Consistent) (hknown : s.directories ⊆ t.directories)
    (hnew : ∀ p, p ∈ t.directories ∨ p ∈ t.files.keys →
      (p ∈ s.directories ∨ p ∈ s.files.keys) ∨ Within t.directories p) : t.Consistent := by
  intro p hp
  rcases hnew p hp with hold | hwithin
  · exact (h p hold).mono hknown
  · exact hwithin

/-- What lies in a known directory lies within the known directories. -/
theorem Consistent.within_of_hasParent (h : s.Consistent) (hnames : ∀ n ∈ names, IsStep n)
    (hparent : s.hasParent (ofNames names) = true) : Within s.directories (ofNames names) := by
  refine ⟨names, hnames, rfl, fun init hinit hne => ?_⟩
  obtain rfl | ⟨front, last, rfl⟩ := List.eq_nil_or_concat' names
  · exact absurd (List.prefix_nil.1 hinit) hne
  · have hfront : ofNames front ∈ s.directories :=
      hasParent_iff.1 hparent _ (Path.parent?_ofSteps hnames)
    rcases List.prefix_concat_iff.1 hinit with rfl | hinit
    · exact absurd rfl hne
    · by_cases heq : init = front
      · exact heq ▸ hfront
      · obtain ⟨steps, hsteps, hsame, habove⟩ := h _ (.inl hfront)
        obtain rfl : front = steps := by
          rw [← Path.stepsOf_ofSteps fun n hn => hnames n (List.mem_append_left _ hn), hsame,
            Path.stepsOf_ofSteps hsteps]
        exact habove init hinit heq

/-- A path lies within the directories above it. -/
theorem within_above {known : List String} (hnames : ∀ n ∈ names, IsStep n)
    (h : (Path.ancestors (ofNames names)).tail ⊆ known) : Within known (ofNames names) :=
  ⟨names, hnames, rfl, fun init hinit hne =>
    h ((Path.mem_tail_ancestors_iff hnames).2 ⟨init, hinit, hne, rfl⟩)⟩

/-- So does each of these directories. -/
theorem within_of_mem_ancestors {known : List String} {d : String}
    (hnames : ∀ n ∈ names, IsStep n) (h : (Path.ancestors (ofNames names)).tail ⊆ known)
    (hd : d ∈ (Path.ancestors (ofNames names)).tail) : Within known d := by
  obtain ⟨steps, hsteps, -, rfl⟩ := (Path.mem_tail_ancestors_iff hnames).1 hd
  refine ⟨steps, fun n hn => hnames n (hsteps.subset hn), rfl, fun init hinit hne => ?_⟩
  refine h ((Path.mem_tail_ancestors_iff hnames).2 ⟨init, hinit.trans hsteps, ?_, rfl⟩)
  rintro rfl
  exact hne (hinit.eq_of_length_le hsteps.length_le)

/-- A new directory lies within the known ones, and so does what was there. -/
theorem Consistent.addDirectories {new : List String} (h : s.Consistent)
    (hnew : ∀ p ∈ new, Within (Memory.addDirectories s.directories new) p) :
    Consistent { s with directories := Memory.addDirectories s.directories new } := by
  refine h.extend (fun p => mem_addDirectories_of_known) fun p hp => ?_
  rcases hp with hp | hp
  · rcases mem_addDirectories_iff.1 hp with hp | hp
    · exact .inl (.inl hp)
    · exact .inr (hnew p hp)
  · exact .inl (.inr hp)

theorem Consistent.addAncestors {new : List String} (h : s.Consistent)
    (hnames : ∀ n ∈ names, IsStep n) (habove : (Path.ancestors (ofNames names)).tail ⊆ new)
    (hnew : ∀ p ∈ new, p ∈ (Path.ancestors (ofNames names)).tail ∨ p = ofNames names) :
    Consistent { s with directories := Memory.addDirectories s.directories new } := by
  have hknown : (Path.ancestors (ofNames names)).tail ⊆
      Memory.addDirectories s.directories new := fun d hd => mem_addDirectories_of_new (habove hd)
  refine h.addDirectories fun p hp => ?_
  rcases hnew p hp with hp | rfl
  · exact within_of_mem_ancestors hnames hknown hp
  · exact within_above hnames hknown

theorem Consistent.insert (bytes : Bytes) (h : s.Consistent) (hp : Within s.directories p) :
    Consistent { s with files := s.files.insert p bytes } := by
  refine h.extend (List.Subset.refl _) fun q hq => ?_
  rcases hq with hq | hq
  · exact .inl (.inl hq)
  · rw [OrderedMap.keys_insert] at hq
    split at hq
    · exact .inl (.inr hq)
    · rcases List.mem_append.1 hq with hq | hq
      · exact .inl (.inr hq)
      · exact .inr (List.mem_singleton.1 hq ▸ hp)

theorem consistent_after (hwd : isRooted s.workingDirectory = true) (h : s.Consistent)
    (c : Change) : (s.after c).Consistent := by
  cases hrefusal : s.refusal? c with
  | some e => rwa [after_of_refused hrefusal]
  | none =>
    have hnames : ∀ n ∈ destination s.workingDirectory c.path, IsStep n := fun n hn =>
      (isName_of_mem_destination hn).isStep
    have hparent : ∀ operation, c.operation? = some operation →
        Within s.directories (s.locate c.path) := by
      intro operation hoperation
      rw [locate_eq hwd]
      refine h.within_of_hasParent hnames ?_
      by_contra hunknown
      rw [refusal?, hoperation, locate_eq hwd] at hrefusal
      simp [hunknown] at hrefusal
    rw [after_of_applied hrefusal]
    rcases c with ⟨path, bytes⟩ | ⟨path, bytes⟩ | ⟨path, _ | _⟩
    · have hadded := h.addAncestors hnames (List.Subset.refl _) fun p hp => .inl hp
      have hwithin := within_above hnames fun _ hd => show _ ∈ addDirectories s.directories _ from
        mem_addDirectories_of_new hd
      have hinserted := hadded.insert bytes hwithin
      simp only [Change.path, ← locate_eq hwd] at hinserted
      exact hinserted
    · exact h.insert _ (hparent _ rfl)
    · refine h.addDirectories fun p hp => ?_
      rw [List.mem_singleton.1 hp]
      exact (hparent _ rfl).mono fun d => mem_addDirectories_of_known
    · have hadded := h.addAncestors hnames (List.subset_append_left _ [s.locate path]) fun p hp => by
        simpa [Change.path, locate_eq hwd] using hp
      simp only [Change.path, ← locate_eq hwd] at hadded
      exact hadded

theorem consistent_afterAll (hwd : isRooted s.workingDirectory = true) (h : s.Consistent)
    (changes : List Change) : (s.afterAll changes).Consistent := by
  induction changes generalizing s with
  | nil => exact h
  | cons c changes ih =>
    exact ih (workingDirectory_after s c ▸ hwd) (consistent_after hwd h c)

/-! ## Directories stay -/

theorem directories_subset_after (s : Memory) (c : Change) :
    s.directories ⊆ (s.after c).directories := by
  cases hrefusal : s.refusal? c with
  | some e =>
    rw [after_of_refused hrefusal]
    exact List.Subset.refl _
  | none =>
    intro d hd
    rw [after_of_applied hrefusal]
    rcases c with _ | _ | ⟨_, _ | _⟩
    · simp only [applied, addFile]
      exact mem_addDirectories_of_known hd
    · simpa only [applied, withFile] using hd
    · simp only [applied]
      exact mem_addDirectories_of_known hd
    · rw [applied, directories_withDirectory]
      exact mem_addDirectories_of_known hd

theorem directories_subset_afterAll (s : Memory) (changes : List Change) :
    s.directories ⊆ (s.afterAll changes).directories := by
  induction changes generalizing s with
  | nil => exact List.Subset.refl _
  | cons c changes ih => exact List.Subset.trans (directories_subset_after s c) (ih (s.after c))

/-- Once a directory is there, files directly in it are not refused. -/
theorem refusal?_of_known {name bytes} (hwd : isRooted s.workingDirectory = true)
    (h : ofNames names ∈ s.directories)
    (hpath : destination s.workingDirectory path = names ++ [name]) :
    s.refusal? (.write path bytes) = none := by
  rw [Option.eq_none_iff_forall_not_mem]
  intro e he
  obtain ⟨_, d, -, hd, hunknown, -⟩ := refusal?_eq_some_iff.1 he
  have hnames : ∀ n ∈ names ++ [name], IsStep n := fun n hn =>
    (isName_of_mem_destination (hpath ▸ hn)).isStep
  rw [Change.path, locate_eq hwd, hpath, Path.parent?_ofSteps hnames, Option.some_inj] at hd
  exact hunknown (hd ▸ h)

/-- Whatever changes a store has gone through: the ancestors of all its directories and files are
directories that it knows. Reading a path, in whatever spelling, gives the bytes that were last
stored where it leads, if there are any, and only then it is a file. A change leaves alone what is
read elsewhere. It fails exactly if it needs a directory that is not known, and does nothing then.
A directory that is created with those above it takes files from then on. -/
theorem changes_consistent (hwd : isRooted wd = true) (changes : List Change) :
    let s := (empty wd).afterAll changes
    (∀ p, p ∈ s.directories ∨ p ∈ s.files.keys →
      ∀ above, IsAncestor above p → above ∈ s.directories) ∧
    (∀ path, s.read path =
      match ((empty wd).storedAll changes).lookup (destination wd path) with
      | some bytes => .ok bytes
      | none => .error (.notFound (ofNames (destination wd path)))) ∧
    (∀ path, s.isFile path = true ↔ ∃ bytes, s.read path = .ok bytes) ∧
    (∀ (c : Change) path, destination wd path ≠ destination wd c.path →
      (s.after c).read path = s.read path) ∧
    (∀ (c : Change) e, s.outcome c = .error e ↔ ∃ operation d, c.operation? = some operation ∧
      parent? (ofNames (destination wd c.path)) = some d ∧ d ∉ s.directories ∧
        e = .failed operation (ofNames (destination wd c.path))
          "parent directory does not exist") ∧
    (∀ (c : Change) e, s.outcome c = .error e → s.after c = s) ∧
    (∀ directory, s.outcome (.createDirectory directory true) = .ok () ∧
      ∀ (later : List Change) path name bytes,
        destination wd path = destination wd directory ++ [name] →
          ((s.after (.createDirectory directory true)).afterAll later).outcome
            (.write path bytes) = .ok ()) := by
  intro s
  have hempty : isRooted (empty wd).workingDirectory = true := hwd
  have hsame : s.workingDirectory = wd := workingDirectory_afterAll (empty wd) changes
  have hrooted : isRooted s.workingDirectory = true := hsame ▸ hwd
  have hlocate : ∀ path, s.locate path = ofNames (destination wd path) := fun path =>
    hsame ▸ locate_eq hrooted path
  refine ⟨fun p hp above habove => ?_, fun path => ?_, fun path => ?_, fun c path hother => ?_,
    fun c e => ?_, fun c e he => ?_, fun directory => ⟨rfl, fun later path name bytes hpath => ?_⟩⟩
  · exact (consistent_afterAll hempty (consistent_empty hwd) changes p hp).known habove
  · rw [read, get?_afterAll hempty, get?_empty, Option.or_none, hlocate]
    rfl
  · rw [isFile_eq_isSome, read]
    cases s.get? path <;> simp
  · refine read_congr (workingDirectory_after s c) ?_
    rw [get?_after hrooted, lookup_stored_of_ne (hsame ▸ hother), Option.none_or]
  · rw [outcome_eq_error_iff, refusal?_eq_some_iff, hlocate]
  · exact after_of_refused (outcome_eq_error_iff.1 he)
  · have hcreated : ofNames (destination wd directory) ∈
        (s.after (.createDirectory directory true)).directories := by
      rw [← hlocate]
      exact locate_mem_withDirectory
    have hlater := directories_subset_afterAll _ later hcreated
    have hwhere : ((s.after (.createDirectory directory true)).afterAll later).workingDirectory =
        wd := by
      rw [workingDirectory_afterAll, workingDirectory_after, hsame]
    exact outcome_of_applied (refusal?_of_known (by rw [hwhere]; exact hwd) hlater
      (by rw [hwhere]; exact hpath))

/-- A working directory with a detour: files go where it leads once that directory is created. -/
theorem changes_consistent_detour :
    let wd := "/a/../b"
    let s := (empty wd).afterAll
      [.write "x" [1], .createDirectory "./out" true, .write "out//x" [2], .addFile "/b/out/y" [3]]
    s.read "/b/out/../out/x" = .ok [2] ∧ s.read "x" = .error (.notFound "/b/x") ∧
      "/b" ∈ s.directories ∧ s.isFile "out/y" = true ∧
      s.outcome (.write "lost/x" []) =
        .error (.failed .write "/b/lost/x" "parent directory does not exist") := by
  intro wd s
  have hpieces : destination = fun directory path => place
      (if isRooted path then Path.pieces path
        else Path.pieces directory ++ Path.pieces path) := by
    funext directory path
    rw [destination, ← Path.pieces_eq_components, ← Path.pieces_eq_components]
  have hwd : isRooted wd = true := by decide
  obtain ⟨habove, hread, hfile, -, hfails, -, -⟩ := changes_consistent hwd
    [.write "x" [1], .createDirectory "./out" true, .write "out//x" [2], .addFile "/b/out/y" [3]]
  simp only [storedAll, stored, hpieces] at hread hfails
  refine ⟨?_, ?_, ?_, ?_, ?_⟩
  · rw [hread]
    decide +kernel
  · rw [hread]
    decide +kernel
  · refine habove "/b/out" (.inl (by decide +kernel)) _ (.single (by decide +kernel))
  · rw [hfile, hread]
    exact ⟨[3], by decide +kernel⟩
  · rw [hfails]
    exact ⟨.write, "/b/lost", rfl, by decide +kernel⟩

end ModuleBundler.FileSystem.Memory
