import ModuleBundler.Proofs.FileSystem.Dependence
import ModuleBundler.Proofs.OrderedMap
import ModuleBundler.Proofs.Path

/-!
# Writing into memory

A store in memory refuses a file whose directory is not there. An artifact goes into a directory
that was created before it, so that it is never refused. Nothing but its own file changes.
-/

namespace ModuleBundler.FileSystem.Memory

open Text (Bytes)

variable {s : Memory} {directory name path : String}

theorem mem_addDirectories_of_known {known new : List String} {d : String} (h : d ∈ known) :
    d ∈ addDirectories known new := by
  unfold addDirectories
  induction new generalizing known with
  | nil => exact h
  | cons n new ih =>
    rw [List.foldl_cons]
    apply ih
    split
    · exact h
    · exact List.mem_append_left _ h

theorem mem_addDirectories_of_new {known new : List String} {d : String} (h : d ∈ new) :
    d ∈ addDirectories known new := by
  induction new generalizing known with
  | nil => cases h
  | cons n new ih =>
    rcases List.mem_cons.1 h with rfl | h
    · rw [addDirectories, List.foldl_cons]
      apply mem_addDirectories_of_known
      split
      · rename_i hknown
        exact List.contains_iff_mem.1 hknown
      · exact List.mem_append_right _ (List.mem_singleton_self d)
    · exact ih h

/-- A rooted path does not depend on the working directory. -/
theorem locate_rooted (h : Path.isRooted path = true) : s.locate path = Path.clean path := by
  rw [locate, Path.join, if_pos h]

/-- A store with one more directory and the ones above it. -/
def withDirectory (s : Memory) (directory : String) : Memory :=
  let path := s.locate directory
  { s with directories :=
    addDirectories s.directories ((Path.ancestors path).tail ++ [path]) }

/-- A store with one more file. -/
def withFile (s : Memory) (path : String) (bytes : Bytes) : Memory :=
  { s with files := s.files.insert (s.locate path) bytes }

theorem createDirectory_all (s : Memory) (directory : String) :
    s.createDirectory directory true = .ok (s.withDirectory directory) := rfl

theorem workingDirectory_withDirectory :
    (s.withDirectory directory).workingDirectory = s.workingDirectory := by
  simp only [withDirectory]

theorem files_withDirectory : (s.withDirectory directory).files = s.files := by
  simp only [withDirectory]

theorem directories_withDirectory : (s.withDirectory directory).directories =
    addDirectories s.directories
      ((Path.ancestors (s.locate directory)).tail ++ [s.locate directory]) := by
  simp only [withDirectory]

theorem locate_withDirectory (path : String) :
    (s.withDirectory directory).locate path = s.locate path := by
  rw [locate, workingDirectory_withDirectory, locate]

theorem locate_mem_withDirectory : s.locate directory ∈ (s.withDirectory directory).directories := by
  rw [directories_withDirectory]
  exact mem_addDirectories_of_new (List.mem_append_right _ (List.mem_singleton_self _))

theorem above_mem_withDirectory {d : String}
    (h : d ∈ (Path.ancestors (s.locate directory)).tail) :
    d ∈ (s.withDirectory directory).directories := by
  rw [directories_withDirectory]
  exact mem_addDirectories_of_new (List.mem_append_left _ h)

/-- The file goes directly into the directory. -/
theorem parent?_locate (hname : Path.IsName name)
    (hpath : Bundle.outputPath directory name = .ok path) :
    Path.parent? (s.locate path) = some (s.locate directory) ∨
      s.locate directory = "." ∧ Path.parent? (s.locate path) = some "" := by
  unfold Bundle.outputPath at hpath
  simp only at hpath
  split at hpath
  · cases hpath
  · split at hpath
    · rename_i hparent
      cases hpath
      obtain ⟨hrooted, hfolded⟩ := Path.folded_join_clean s.workingDirectory hname hparent
      exact Path.parent?_clean hrooted hfolded
    · cases hpath

theorem hasParent_withDirectory (hname : Path.IsName name)
    (hpath : Bundle.outputPath directory name = .ok path) :
    (s.withDirectory directory).hasParent (s.locate path) = true := by
  rcases parent?_locate (s := s) hname hpath with hparent | ⟨hdot, hparent⟩
  · rw [hasParent, hparent]
    exact List.contains_iff_mem.2 locate_mem_withDirectory
  · have habove : "" ∈ (Path.ancestors (s.locate directory)).tail := by
      rw [hdot]
      decide
    rw [hasParent, hparent]
    exact List.contains_iff_mem.2 (above_mem_withDirectory habove)

theorem write_withDirectory (hname : Path.IsName name)
    (hpath : Bundle.outputPath directory name = .ok path) (bytes : Bytes) :
    (s.withDirectory directory).write path bytes =
      .ok ((s.withDirectory directory).withFile path bytes) := by
  rw [write]
  simp only [locate_withDirectory]
  rw [if_pos (hasParent_withDirectory hname hpath), withFile, locate_withDirectory]

theorem run_change (f : Memory → Except Error Memory) (s : Memory) :
    World.run (change f) s =
      match f s with
      | .ok t => (.ok (), t)
      | .error e => (.error e, s) := rfl

theorem run_createDirectory (s : Memory) (directory : String) :
    World.run (host.createDirectory directory true) s = (.ok (), s.withDirectory directory) := by
  simp only [host, run_change, createDirectory_all]

theorem run_write_withDirectory (hname : Path.IsName name)
    (hpath : Bundle.outputPath directory name = .ok path) (bytes : Bytes) :
    World.run (host.write path bytes) (s.withDirectory directory) =
      (.ok (), (s.withDirectory directory).withFile path bytes) := by
  simp only [host, run_change, write_withDirectory hname hpath]

theorem workingDirectory_withFile (s : Memory) (path : String) (bytes : Bytes) :
    (s.withFile path bytes).workingDirectory = s.workingDirectory := rfl

theorem get?_withFile (s : Memory) (path : String) (bytes : Bytes) (other : String) :
    (s.withFile path bytes).get? other =
      if s.locate other = s.locate path then some bytes else s.get? other :=
  OrderedMap.get?_insert s.files _ _ _

theorem isFile_eq_isSome (s : Memory) (path : String) : s.isFile path = (s.get? path).isSome :=
  OrderedMap.contains_eq_isSome s.files _

/-- What a file holds that is not the one that was written. -/
theorem get?_written {other : String} (bytes : Bytes) (h : s.locate other ≠ s.locate path) :
    ((s.withDirectory directory).withFile path bytes).get? other = s.get? other := by
  rw [get?_withFile, locate_withDirectory, locate_withDirectory, if_neg h, get?, get?,
    files_withDirectory, locate_withDirectory]

theorem read_congr {t : Memory} {path : String} (hcwd : s.workingDirectory = t.workingDirectory)
    (h : s.get? path = t.get? path) : s.read path = t.read path := by
  rw [read, read, h, locate, locate, hcwd]

theorem sameAnswer_workingDirectory {t : Memory}
    (h : s.workingDirectory = t.workingDirectory) :
    SameAnswer (fun x => x = s) (fun x => x = t) host.workingDirectory host.workingDirectory :=
  ⟨.ok s.workingDirectory, by rintro _ rfl; exact ⟨rfl, rfl⟩,
    by rintro _ rfl; exact ⟨congrArg Except.ok h.symm, rfl⟩⟩

theorem sameAnswer_read {t : Memory} (h : s.read path = t.read path) :
    SameAnswer (fun x => x = s) (fun x => x = t) (host.read path) (host.read path) :=
  ⟨s.read path, by rintro _ rfl; exact ⟨rfl, rfl⟩, by rintro _ rfl; exact ⟨h.symm, rfl⟩⟩

theorem sameAnswer_isFile {t : Memory} (h : s.isFile path = t.isFile path) :
    SameAnswer (fun x => x = s) (fun x => x = t) (host.isFile path) (host.isFile path) :=
  ⟨s.isFile path, by rintro _ rfl; exact ⟨rfl, rfl⟩, by rintro _ rfl; exact ⟨h.symm, rfl⟩⟩

/-- Two stores agree on what was asked of one when they do on the paths that were looked at. -/
theorem agreeOn {t : Memory} {r : Record} (hcwd : s.workingDirectory = t.workingDirectory)
    (hread : ∀ path ∈ r.sources, s.read path = t.read path)
    (hprobe : ∀ path ∈ r.probes, s.isFile path = t.isFile path) :
    Host.AgreeOn r.requests (fun x y => x = s ∧ y = t) host host where
  read path hpath := (sameAnswer_read (hread path (Record.mem_sources hpath))).agree
  isFile path answer hpath x y hxy hanswer := by
    obtain ⟨hsame, hkept⟩ :=
      (sameAnswer_isFile (hprobe path (Record.mem_probes hpath))).agree x y hxy
    exact ⟨hsame.trans hanswer, hkept⟩
  workingDirectory := (sameAnswer_workingDirectory hcwd).agree
  createDirectory path hpath := by
    rintro _ _ ⟨rfl, rfl⟩
    rw [run_createDirectory, run_createDirectory]
  write directory name path bytes hname houtput _ _ := by
    rintro _ _ ⟨rfl, rfl⟩
    rw [run_createDirectory, run_createDirectory, run_write_withDirectory hname houtput,
      run_write_withDirectory hname houtput]

end ModuleBundler.FileSystem.Memory
