import ModuleBundler.Proofs.FileSystem.Memory
import ModuleBundler.Proofs.World
import ModuleBundler.Proofs.ModuleId

/-!
# Probing

A path that leads to no file may have an extension left out. What is resolved is the first of a few
paths that leads to a file, and resolving its path again changes nothing, wherever that is done.
-/

namespace ModuleBundler.Builder

open FileSystem (Memory)
open Path (clean isRooted)

variable {m : Type → Type} [Monad m] {σ : Type} [World m σ] {I : σ → Prop} {b : Builder m}

/-- The builder with extensions that are given with or without their dots. -/
def withExtensions (b : Builder m) (extensions : List String) : Builder m :=
  { b with extensions := extensions.map dotted }

/-- What a path may stand for: itself, or itself with an extension that was left out. -/
def probes (exact : String) (extensions : List String) : List String :=
  exact :: extensions.map fun e => exact ++ dotted e

/-- The first of these that is there, or else the path itself. Whether a path is there depends on
where it leads. -/
def probed (present : String → Bool) (extensions : List String) (exact : String) : String :=
  ((probes exact extensions).find? fun path => present (clean path)).getD exact

/-- The module at that place. -/
def answer (present : String → Bool) (extensions : List String) (exact : ModuleId) : ModuleId :=
  .ofRooted (probed present extensions exact.path)

theorem firstFile_gives {present : String → Bool} {paths : List String}
    (h : ∀ path ∈ paths, Gives I (b.host.isFile path) (present path)) (otherwise : String) :
    Gives I (firstFile b.host otherwise paths) ((paths.find? present).getD otherwise) := by
  induction paths with
  | nil => exact .pure _
  | cons path paths ih =>
    have hpath : Gives I (b.host.isFile path) (present path) := h path List.mem_cons_self
    rw [firstFile]
    cases hpresent : present path with
    | true =>
      rw [List.find?_cons_of_pos hpresent]
      rw [hpresent] at hpath
      exact hpath.bind (.pure _)
    | false =>
      rw [List.find?_cons_of_neg (by simp [hpresent])]
      rw [hpresent] at hpath
      exact hpath.bind (ih fun p hp => h p (List.mem_cons_of_mem _ hp))

theorem resolve_unprobed (b : Builder m) (importer : ModuleId) (path : String) :
    (b.withExtensions []).resolve importer path = pure (importer.joinSpecifier path) := by
  unfold resolve
  cases importer.joinSpecifier path <;> rfl

theorem isRooted_of_mem_probes {exact : ModuleId} {extensions : List String} {path : String}
    (h : path ∈ probes exact.path extensions) : isRooted path = true := by
  have hexact : isRooted exact.path = true := Path.isRooted_ofNames
  rcases List.mem_cons.1 h with rfl | h
  · exact hexact
  · obtain ⟨e, -, rfl⟩ := List.mem_map.1 h
    rw [Path.isRooted_append _ _, hexact]
    rintro hempty
    rw [hempty] at hexact
    cases hexact

theorem candidates_withExtensions {m : Type → Type} (b : Builder m) (extensions : List String)
    (exact : ModuleId) :
    (b.withExtensions extensions).candidates exact = probes exact.path extensions := by
  rw [candidates, probes, withExtensions, List.map_map]
  rfl

section Present

variable {present : String → Bool} {extensions : List String} {exact : ModuleId}

theorem isRooted_probed (extensions : List String) (exact : ModuleId) :
    isRooted (probed present extensions exact.path) = true := by
  rw [probed]
  cases h : (probes exact.path extensions).find? fun path => present (clean path) with
  | none => exact Path.isRooted_ofNames
  | some found => exact isRooted_of_mem_probes (List.mem_of_find?_eq_some h)

theorem resolve_gives (hpresent : ∀ path, isRooted path = true →
      Gives I (b.host.isFile path) (present (clean path)))
    (extensions : List String) {importer : ModuleId} {path : String}
    (hexact : importer.joinSpecifier path = .ok exact) :
    Gives I ((b.withExtensions extensions).resolve importer path)
      (.ok (answer present extensions exact)) := by
  cases extensions with
  | nil =>
    have hprobed : probed present [] exact.path = exact.path := by
      cases hfound : present (clean exact.path) <;> simp [probed, probes, hfound]
    rw [resolve_unprobed, hexact, answer, hprobed, ModuleId.ofRooted_path]
    exact .pure _
  | cons e extensions =>
    have hfirst : Gives I (firstFile b.host exact.path (probes exact.path (e :: extensions)))
        (probed present (e :: extensions) exact.path) :=
      firstFile_gives (fun p hp => hpresent p (isRooted_of_mem_probes hp)) _
    rw [← candidates_withExtensions b] at hfirst
    unfold resolve
    rw [hexact]
    exact hfirst.bind (.pure _)

/-- What is there among the probes is there as the path of the answer. -/
theorem present_answer (h : ∃ path ∈ probes exact.path extensions, present (clean path) = true) :
    present (answer present extensions exact).path = true := by
  rw [answer, ModuleId.path_ofRooted (isRooted_probed extensions exact), probed]
  cases hfound : (probes exact.path extensions).find? fun path => present (clean path) with
  | some found =>
    have hthere : present (clean found) = true :=
      List.find?_some (p := fun path => present (clean path)) hfound
    exact hthere
  | none =>
    obtain ⟨path, hpath, hthere⟩ := h
    exact absurd hthere (List.find?_eq_none.1 hfound path hpath)

/-- Probing from the path of an answer ends at once, or finds nothing once more. -/
theorem answer_answer : answer present extensions (answer present extensions exact) =
    answer present extensions exact := by
  by_cases h : ∃ path ∈ probes exact.path extensions, present (clean path) = true
  · have hself : present (clean (answer present extensions exact).path) = true := by
      rw [ModuleId.path, Path.clean_ofNames (answer present extensions exact).isName]
      exact present_answer h
    have hfirst : probed present extensions (answer present extensions exact).path =
        (answer present extensions exact).path := by
      rw [probed, probes, List.find?_cons_of_pos (by exact hself), Option.getD_some]
    conv => lhs; rw [answer, hfirst]
    exact ModuleId.ofRooted_path _
  · have hnone : (probes exact.path extensions).find? (fun path => present (clean path)) = none := by
      rw [List.find?_eq_none]
      exact fun path hpath hthere => h ⟨path, hpath, hthere⟩
    have hexact : answer present extensions exact = exact := by
      rw [answer, probed, hnone]
      exact ModuleId.ofRooted_path exact
    rw [hexact, hexact]

theorem answer_eq_iff {other : ModuleId} :
    answer present extensions exact = answer present extensions other ↔
      clean (probed present extensions exact.path) =
        clean (probed present extensions other.path) := by
  rw [← ModuleId.path_ofRooted (isRooted_probed extensions exact),
    ← ModuleId.path_ofRooted (isRooted_probed extensions other)]
  exact ModuleId.path_injective.eq_iff.symm

end Present

/-! ## Files in memory -/

section Memory

variable {b : Builder (StateM Memory)} {s : Memory}

theorem memory_isFile (s : Memory) {path : String} (h : isRooted path = true) :
    s.isFile path = s.isFile (clean path) := by
  obtain ⟨names, hnames, hclean⟩ := Path.exists_clean_eq h
  rw [Memory.isFile, Memory.isFile, Memory.locate_rooted h, hclean,
    Memory.locate_rooted Path.isRooted_ofNames, Path.clean_ofNames hnames]

/-- A store in memory says of a path what it says of where the path leads. -/
theorem memory_gives (hb : b.host = Memory.host) (s : Memory) {path : String}
    (h : isRooted path = true) :
    Gives (fun t => t = s) (b.host.isFile path) (s.isFile (clean path)) := by
  rw [hb, ← memory_isFile s h]
  rintro _ rfl
  exact ⟨rfl, rfl⟩

theorem built_of_isFile (hb : b.host = Memory.host) {id : ModuleId} (h : s.isFile id.path = true)
    (missing : String) : b.built s id ≠ .error (.fileNotFound missing) := by
  intro hbuilt
  rw [Memory.isFile_eq_isSome] at h
  obtain ⟨bytes, hbytes⟩ := Option.isSome_iff_exists.1 h
  obtain ⟨cause, hread, -⟩ | h | ⟨_, h⟩ | ⟨_, h⟩ | ⟨_, h⟩ := built_error hbuilt
  · rw [hb] at hread
    change s.read id.path = .error cause at hread
    rw [Memory.read, hbytes] at hread
    cases hread
  all_goals cases h

theorem built_resolved (hb : b.host = Memory.host) (s : Memory) (extensions : List String)
    {importer exact : ModuleId} {path : String} (hexact : importer.joinSpecifier path = .ok exact)
    (h : ∃ p ∈ probes exact.path extensions, s.isFile p = true) : ∃ found,
      (World.run ((b.withExtensions extensions).resolve importer path) s).1 = .ok found ∧
      ∀ missing, (b.withExtensions extensions).built s found ≠ .error (.fileNotFound missing) := by
  obtain ⟨p, hp, hfile⟩ := h
  rw [memory_isFile s (isRooted_of_mem_probes hp)] at hfile
  have hgives : Gives (fun t => t = s) ((b.withExtensions extensions).resolve importer path)
      (.ok (answer s.isFile extensions exact)) :=
    resolve_gives (fun _ => memory_gives hb s) extensions hexact
  have hthere : s.isFile (answer s.isFile extensions exact).path = true :=
    present_answer ⟨p, hp, hfile⟩
  exact ⟨_, (hgives s rfl).1, built_of_isFile (b := b.withExtensions extensions) hb hthere⟩

end Memory

/-- What a path is resolved to is the module at the first place that is there: the path itself, or
the path with an extension, in their order. It is the module at the path itself if none of them is
there, and without extensions nobody asks. The path of a resolved module is resolved to that
module, so that two paths are of one module when probing leads them to one place. A store in memory
that has a file at one of the probes has one for the module. -/
theorem resolve_probes {present : String → Bool}
    (hpresent : ∀ path, isRooted path = true →
      Gives I (b.host.isFile path) (present (clean path)))
    (extensions : List String) (importer : ModuleId) {path : String} (hpath : path ≠ "") :
    ∃ exact, importer.joinSpecifier path = .ok exact ∧
      Gives I ((b.withExtensions extensions).resolve importer path)
        (.ok (answer present extensions exact)) ∧
      (b.withExtensions []).resolve importer path = pure (.ok exact) ∧
      (∀ other, Gives I ((b.withExtensions extensions).resolve other
          (answer present extensions exact).path) (.ok (answer present extensions exact))) ∧
      (∀ other path', path' ≠ "" → ∃ exact', other.joinSpecifier path' = .ok exact' ∧
        Gives I ((b.withExtensions extensions).resolve other path')
          (.ok (answer present extensions exact')) ∧
        (answer present extensions exact = answer present extensions exact' ↔
          clean (probed present extensions exact.path) =
            clean (probed present extensions exact'.path))) ∧
      ∀ (c : Builder (StateM Memory)) (s : Memory), c.host = Memory.host →
        (∃ p ∈ probes exact.path extensions, s.isFile p = true) → ∃ found,
          (World.run ((c.withExtensions extensions).resolve importer path) s).1 = .ok found ∧
          ∀ missing,
            (c.withExtensions extensions).built s found ≠ .error (.fileNotFound missing) := by
  obtain ⟨exact, hexact, -⟩ := importer.joinSpecifier_place hpath
  refine ⟨exact, hexact, resolve_gives hpresent extensions hexact, ?_, fun other => ?_,
    fun other path' hpath' => ?_, fun c s hc => built_resolved hc s extensions hexact⟩
  · rw [resolve_unprobed, hexact]
  · have hself := other.joinSpecifier_path (answer present extensions exact)
    have hagain := resolve_gives hpresent extensions hself
    rwa [answer_answer] at hagain
  · obtain ⟨exact', hexact', -⟩ := other.joinSpecifier_place hpath'
    exact ⟨exact', hexact', resolve_gives hpresent extensions hexact', answer_eq_iff⟩

/-- A specifier that leaves its extension out, in a store that has the file with it. -/
theorem resolve_probes_leftOut :
    let s := Memory.ofFiles "/" [("/src/a.js", []), ("/src/a.mjs", [])]
    let b : Builder (StateM Memory) := { host := Memory.host }
    (World.run ((b.withExtensions ["ts", ".js", "mjs"]).resolve (.ofRooted "/src/index.js") "./a")
        s).1 = .ok (.ofRooted "/src/a.js") ∧
      ∀ missing, (b.withExtensions ["ts", ".js", "mjs"]).built s (.ofRooted "/src/a.js") ≠
        .error (.fileNotFound missing) := by
  intro s b
  obtain ⟨exact, hexact, hgives, -, -, -, hbuilt⟩ := resolve_probes (b := b) (I := fun t => t = s)
    (fun _ => memory_gives rfl s) ["ts", ".js", "mjs"] (.ofRooted "/src/index.js")
    (by decide : "./a" ≠ "")
  have hjoin : (ModuleId.ofRooted "/src/index.js").joinSpecifier "./a" =
      .ok (.ofRooted "/src/a") := by decide +kernel
  rw [hjoin] at hexact
  cases hexact
  have hanswer : answer s.isFile ["ts", ".js", "mjs"] (.ofRooted "/src/a") =
      .ofRooted "/src/a.js" := by decide +kernel
  have hrun := (hgives s rfl).1
  rw [hanswer] at hrun
  obtain ⟨found, hfound, hmissing⟩ := hbuilt b s rfl ⟨"/src/a.js", by decide +kernel, by decide +kernel⟩
  rw [hrun] at hfound
  cases hfound
  exact ⟨hrun, hmissing⟩

end ModuleBundler.Builder
