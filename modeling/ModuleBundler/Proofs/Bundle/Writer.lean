import ModuleBundler.Proofs.Compiler.Artifact
import ModuleBundler.Proofs.Path.Steps

/-!
# Where the writer writes

The writer looks at its two paths before it asks the host for anything. What it refuses leaves the
host alone. What it accepts is a file that lies directly in its directory, or else, where the
directory only goes up, the directory above that one. A directory that is folded to `.` is refused
with every file name.
-/

namespace ModuleBundler.Bundle

open FileSystem (Host Request Memory)
open FileSystem.Record (of run_createDirectory_of run_write_of)
open Path (clean join isRooted IsChild IsAbove stepsOf)
open Text (Bytes)

variable {directory filename : String}

/-- What the writer accepts. -/
def Admits (directory filename : String) : Prop :=
  filename ≠ "" ∧ clean directory ≠ "." ∧
    (IsChild (clean directory) (clean (join directory filename)) ∨
      IsAbove (clean directory) (clean (join directory filename)))

/-- Why the writer refuses a path. -/
def refusal (directory filename : String) : String :=
  if filename.isEmpty then "empty filename"
  else "'" ++ filename ++ "' escapes output directory '" ++ clean directory ++ "'"

/-! ## What is accepted -/

theorem outputPath_of_admits (h : Admits directory filename) :
    outputPath (clean directory) filename = .ok (clean (join directory filename)) := by
  obtain ⟨hname, haccepted⟩ := h
  have hempty : ¬ filename.isEmpty = true := by simpa using hname
  rw [outputPath, if_neg hempty]
  dsimp only
  rw [Path.clean_join_clean, if_pos (Path.parent?_clean_iff.2 haccepted)]

theorem outputPath_of_not_admits (h : ¬ Admits directory filename) :
    outputPath (clean directory) filename =
      .error (.invalidOutputPath (refusal directory filename)) := by
  unfold outputPath refusal
  split
  · rfl
  · rename_i hempty
    have hname : filename ≠ "" := by simpa using hempty
    have hparent : ¬ Path.parent? (clean (join directory filename)) = some (clean directory) :=
      fun hparent => h ⟨hname, Path.parent?_clean_iff.1 hparent⟩
    dsimp only
    rw [Path.clean_join_clean, if_neg hparent]

/-- A name leads from every directory to an entry of it. -/
theorem isChild_of_isName (directory : String) (h : Path.IsName filename) :
    IsChild (clean directory) (clean (join directory filename)) := by
  refine ⟨?_, filename, h, ?_⟩
  · rw [Path.isRooted_clean, Path.isRooted_clean,
      Path.isRooted_join_relative (Path.isRooted_name h)]
  · rw [Path.stepsOf_clean, Path.stepsOf_clean, Path.folded_join_name h]

theorem admits_iff_of_isName (h : Path.IsName filename) :
    Admits directory filename ↔ clean directory ≠ "." :=
  ⟨fun hadmits => hadmits.2.1, fun hdot => ⟨h.1, hdot, .inl (isChild_of_isName directory h)⟩⟩

/-- A directory that is rooted or named is never left. -/
theorem admits_iff_of_named (h : isRooted (clean directory) = true ∨
      ∃ step ∈ stepsOf (clean directory), step ≠ "..") :
    Admits directory filename ↔
      filename ≠ "" ∧ IsChild (clean directory) (clean (join directory filename)) := by
  have hdot : clean directory ≠ "." := by
    rintro hdot
    rw [hdot] at h
    obtain hrooted | ⟨step, hstep, -⟩ := h
    · cases hrooted
    · have hnone : stepsOf "." = [] := by decide
      rw [hnone] at hstep
      cases hstep
  have habove : ¬ IsAbove (clean directory) (clean (join directory filename)) := by
    rintro ⟨hrelative, -, hups, -⟩
    obtain hrooted | ⟨step, hstep, hne⟩ := h
    · rw [hrelative] at hrooted
      cases hrooted
    · exact hne (hups step hstep)
  constructor
  · rintro ⟨hname, -, hchild | hup⟩
    · exact ⟨hname, hchild⟩
    · exact absurd hup habove
  · rintro ⟨hname, hchild⟩
    exact ⟨hname, hdot, .inl hchild⟩

/-! ## What is asked of the host -/

variable {m : Type → Type} [Monad m] {σ : Type} [World m σ] {h : Host m}

/-- What becomes of a path that was accepted: its directory is created and its file is written, up
to the first failure. -/
inductive Writing (h : Host m) (directory target : String) (bytes : Bytes)
    (before : FileSystem.Record × σ) : Except Error String → FileSystem.Record × σ → Prop
  | uncreated (e : FileSystem.Error) (s : σ)
    (hcreate : World.run (h.createDirectory directory true) before.2 = (.error e, s)) :
    Writing h directory target bytes before
      (.error (.writeFailure
        ("Failed to create output directory '" ++ directory ++ "': " ++ e.message)))
      (before.1.ask (.createDirectory directory true), s)
  | unwritten (e : FileSystem.Error) (s t : σ)
    (hcreate : World.run (h.createDirectory directory true) before.2 = (.ok (), s))
    (hwrite : World.run (h.write target bytes) s = (.error e, t)) :
    Writing h directory target bytes before
      (.error (.writeFailure ("Failed to write '" ++ target ++ "': " ++ e.message)))
      ((before.1.ask (.createDirectory directory true)).ask (.write target), t)
  | written (s t : σ)
    (hcreate : World.run (h.createDirectory directory true) before.2 = (.ok (), s))
    (hwrite : World.run (h.write target bytes) s = (.ok (), t)) :
    Writing h directory target bytes before (.ok target)
      ({ (before.1.ask (.createDirectory directory true)).ask (.write target) with
        writes := before.1.writes ++ [(target, bytes)] }, t)

/-- All that is asked for is the directory and then the file. -/
theorem Writing.asked {target : String} {bytes : Bytes} {before after : FileSystem.Record × σ}
    {result : Except Error String} (hw : Writing h directory target bytes before result after) :
    ∃ asked, after.1.requests = before.1.requests ++ asked ∧ asked ≠ [] ∧
      asked <+: [.createDirectory directory true, .write target] := by
  have hboth : ∀ q q' : Request, before.1.requests ++ [q] ++ [q'] = before.1.requests ++ [q, q'] :=
    fun q q' => List.append_assoc ..
  cases hw with
  | uncreated e s _ => exact ⟨_, rfl, by simp, by simp⟩
  | unwritten e s t _ _ => exact ⟨_, hboth _ _, by simp, List.prefix_rfl⟩
  | written s t _ _ => exact ⟨_, hboth _ _, by simp, List.prefix_rfl⟩

theorem run_writeArtifact_of_not_admits (h : Host m) (hadmits : ¬ Admits directory filename)
    (code : String) (before : FileSystem.Record × σ) :
    World.run (writeArtifact (of h) directory filename code) before =
      (.error (.invalidOutputPath (refusal directory filename)), before) := by
  unfold writeArtifact
  simp only [outputPath_of_not_admits hadmits]
  rw [World.run_pure]

theorem writing_of_admits (h : Host m) (hadmits : Admits directory filename) (code : String)
    (before : FileSystem.Record × σ) :
    Writing h (clean directory) (clean (join directory filename)) (Text.encode code) before
      (World.run (writeArtifact (of h) directory filename code) before).1
      (World.run (writeArtifact (of h) directory filename code) before).2 := by
  unfold writeArtifact
  simp only [outputPath_of_admits hadmits]
  rw [World.run_bind, run_createDirectory_of]
  rcases hcreate : World.run (h.createDirectory (clean directory) true) before.2 with ⟨e | u, s⟩
  · simp only [World.run_pure]
    exact .uncreated e s hcreate
  · simp only
    rw [World.run_bind, run_write_of]
    rcases hwrite : World.run (h.write (clean (join directory filename)) (Text.encode code)) s
      with ⟨e | u, t⟩
    · simp only [World.run_pure]
      exact .unwritten e s t hcreate hwrite
    · simp only [World.run_pure]
      exact .written s t hcreate hwrite

/-- A path that is not accepted is refused before anything is asked, and the host is left as it
is. One that is accepted has its directory created and its file written, up to the first failure,
and nothing else is asked for. Accepted is what lies directly in the directory, with two exceptions:
in a directory folded to `.` nothing is, and from one that only goes up so is the directory above
it. So a directory that is rooted or named is never left, and a file name that passed validation is
accepted in every directory but `.`. -/
theorem writeArtifact_confined (h : Host m) (directory filename code : String) :
    let target := clean (join directory filename)
    (∀ before : FileSystem.Record × σ,
      let after := World.run (writeArtifact (of h) directory filename code) before
      (¬ Admits directory filename →
        after = (.error (.invalidOutputPath (refusal directory filename)), before)) ∧
      (Admits directory filename →
        Writing h (clean directory) target (Text.encode code) before after.1 after.2) ∧
      ∃ asked, after.2.1.requests = before.1.requests ++ asked ∧
        (asked ≠ [] ↔ Admits directory filename) ∧
        asked <+: [.createDirectory (clean directory) true, .write target]) ∧
    (isRooted (clean directory) = true ∨ (∃ step ∈ stepsOf (clean directory), step ≠ "..") →
      (Admits directory filename ↔ filename ≠ "" ∧ IsChild (clean directory) target)) ∧
    ∀ s : Compiler.Settings, s.validate = .ok () →
      (Admits directory s.output.filename ↔ clean directory ≠ ".") := by
  refine ⟨fun before => ⟨fun hadmits => run_writeArtifact_of_not_admits h hadmits code before,
    fun hadmits => writing_of_admits h hadmits code before, ?_⟩, admits_iff_of_named,
    fun s hvalid => ?_⟩
  · by_cases hadmits : Admits directory filename
    · obtain ⟨asked, hrequests, hne, hprefix⟩ := (writing_of_admits h hadmits code before).asked
      exact ⟨asked, hrequests, by simp [hne, hadmits], hprefix⟩
    · rw [run_writeArtifact_of_not_admits h hadmits code before]
      exact ⟨[], (List.append_nil _).symm, by simp [hadmits], List.nil_prefix⟩
  · exact admits_iff_of_isName (Compiler.isName_of_plain (Compiler.plain_of_validate hvalid))

/-- A plain name and one that goes up, in a directory from the root. -/
theorem writeArtifact_confined_rooted :
    (let asked := (World.run (writeArtifact (of Memory.host) "/dist/./js" "main.js" "1;")
      (({} : FileSystem.Record), Memory.ofFiles "/" [])).2.1.requests
    asked ≠ [] ∧ asked <+: [.createDirectory "/dist/js" true, .write "/dist/js/main.js"]) ∧
    World.run (writeArtifact (of Memory.host) "/dist/js" "../main.js" "1;")
        (({} : FileSystem.Record), Memory.ofFiles "/" []) =
      (.error (.invalidOutputPath "'../main.js' escapes output directory '/dist/js'"),
        {}, Memory.ofFiles "/" []) := by
  obtain ⟨hrun, -, hvalid⟩ := writeArtifact_confined Memory.host "/dist/./js" "main.js" "1;"
  obtain ⟨hrun', hrooted, -⟩ := writeArtifact_confined Memory.host "/dist/js" "../main.js" "1;"
  have hsettings : ({ entry := "a" } : Compiler.Settings).validate = .ok () := by decide +kernel
  constructor
  · obtain ⟨-, -, asked, hrequests, hne, hprefix⟩ := hrun ({}, Memory.ofFiles "/" [])
    have hadmits : Admits "/dist/./js" "main.js" :=
      (hvalid { entry := "a" } hsettings).2 (by decide +kernel)
    have hdirectory : clean "/dist/./js" = "/dist/js" := by decide +kernel
    have htarget : clean (join "/dist/./js" "main.js") = "/dist/js/main.js" := by decide +kernel
    rw [hdirectory, htarget] at hprefix
    rw [List.nil_append] at hrequests
    rw [hrequests]
    exact ⟨hne.2 hadmits, hprefix⟩
  · obtain ⟨hrefused, -⟩ := hrun' ({}, Memory.ofFiles "/" [])
    have hadmits : ¬ Admits "/dist/js" "../main.js" := by
      rw [hrooted (.inl (by decide +kernel))]
      rintro ⟨-, -, name, -, hsteps⟩
      have hlength := congrArg List.length hsteps
      have hsame : (stepsOf (clean (join "/dist/js" "../main.js"))).length =
          (stepsOf (clean "/dist/js")).length := by decide +kernel
      rw [hsame, List.length_append] at hlength
      simp at hlength
    rw [hrefused hadmits]
    have hreason : refusal "/dist/js" "../main.js" =
        "'../main.js' escapes output directory '/dist/js'" := by decide +kernel
    rw [hreason]

/-- Below `.` lies `main.js`, and it is refused. Above `..` lies `../..`, which is no entry of it,
and it is written to. -/
theorem writeArtifact_strays :
    (IsChild (clean ".") (clean (join "." "main.js")) ∧
      World.run (writeArtifact (of Memory.host) "." "main.js" "")
          (({} : FileSystem.Record), Memory.ofFiles "/" []) =
        (.error (.invalidOutputPath "'main.js' escapes output directory '.'"),
          {}, Memory.ofFiles "/" [])) ∧
    ¬ IsChild (clean "..") (clean (join ".." "..")) ∧
      (World.run (writeArtifact (of Memory.host) ".." ".." "")
          (({} : FileSystem.Record), Memory.ofFiles "/a/b/c" [])).2.1.requests =
        [.createDirectory ".." true, .write "../.."] := by
  refine ⟨⟨isChild_of_isName "." (by decide), ?_⟩, ?_, by decide +kernel⟩
  · have hadmits : ¬ Admits "." "main.js" := by
      rw [admits_iff_of_isName (by decide)]
      decide +kernel
    have hreason : refusal "." "main.js" = "'main.js' escapes output directory '.'" := by
      decide +kernel
    rw [run_writeArtifact_of_not_admits Memory.host hadmits, hreason]
  · rintro ⟨-, name, hname, hsteps⟩
    have hups : stepsOf (clean (join ".." "..")) = [".."] ++ [".."] := by decide +kernel
    have hup : stepsOf (clean "..") = [".."] := by decide +kernel
    rw [hups, hup, List.append_cancel_left_eq, List.singleton_inj] at hsteps
    exact hname.2.2.1 hsteps.symm

end ModuleBundler.Bundle
