import ModuleBundler.Proofs.Graph.Breadth
import ModuleBundler.Proofs.ModuleId
import ModuleBundler.Proofs.OrderedMap
import ModuleBundler.Proofs.World

/-!
# Specifiers that are joined before they are resolved

A transformer may give a specifier as it stands or join it to the directory of its file first. A
builder joins what it is given once more, and folds it. Neither the detour nor the second join shows
in the module that a specifier is resolved to, but for the empty specifier: on its own it is of no
module, while joined it is the directory.
-/

namespace ModuleBundler

namespace ModuleId

open Path (isRooted isRooted_join join)

variable {specifier : String}

theorem joinSpecifier_empty (id : ModuleId) : id.joinSpecifier "" = .error .empty := rfl

/-- Joining nothing to a path leads where the path leads. -/
theorem ofRooted_join_empty (base : String) : ofRooted (join base "") = ofRooted base := by
  rw [eq_iff_names, names_ofRooted_join rfl]
  rfl

/-- A second join finds a path that is rooted already. -/
theorem joinSpecifier_join (id : ModuleId) (hne : specifier ≠ "") :
    id.joinSpecifier (join id.directory.path specifier) = id.joinSpecifier specifier := by
  rw [joinSpecifier, joinSpecifier, ofBase_of_rooted (isRooted_join id.directory.isRooted_path)]
  cases hrooted : isRooted specifier with
  | true => rw [ofBase_of_rooted hrooted, join, if_pos hrooted]
  | false => rw [ofBase_of_relative hne hrooted id.directory.isRooted_path]

theorem joinSpecifier_join_empty (id : ModuleId) :
    id.joinSpecifier (join id.directory.path "") = .ok id.directory := by
  rw [joinSpecifier, ofBase_of_rooted (isRooted_join id.directory.isRooted_path),
    ofRooted_join_empty, ofRooted_path]

end ModuleId

namespace Lowering

/-- The transformer and the builder agree on the directory of a module. -/
theorem importerDirectory_path (id : ModuleId) : importerDirectory id.path = id.directory.path :=
  id.path_directory.symm

/-- A specifier as lowering the code of a module gives it. -/
def joined (importer : ModuleId) (specifier : String) : String :=
  Path.join (importerDirectory importer.path) specifier

/-- Every path that lowering gives is its specifier, joined. -/
theorem entries_lower {source : String} {importer : ModuleId} {out : Output}
    (h : lower source importer.path = .ok out) :
    out.dependencies.entries = out.dependencies.keys.map fun s => (s, joined importer s) := by
  unfold lower at h
  cases hparse : Script.Program.parse source with
  | error line =>
    rw [hparse] at h
    cases h
  | ok program =>
    rw [hparse] at h
    cases h
    have hnodup : (specifiersOf (contributionOfProgram program).requests).Nodup :=
      Graph.Breadth.nodup_eraseDups _
    dsimp only
    rw [OrderedMap.entries_ofList_map hnodup, OrderedMap.keys_ofList_map hnodup]
    rfl

end Lowering

namespace Builder

open Lowering (joined lower)

variable {m : Type → Type} [Monad m] {b : Builder m} {importer : ModuleId}

/-- Two paths are resolved alike when they are joined to one place. -/
theorem resolve_congr (b : Builder m) {path path' : String}
    (h : importer.joinSpecifier path = importer.joinSpecifier path') :
    b.resolve importer path = b.resolve importer path' := by
  unfold resolve
  rw [h]

theorem joinSpecifier_joined (importer : ModuleId) {specifier : String} (hne : specifier ≠ "") :
    importer.joinSpecifier (joined importer specifier) = importer.joinSpecifier specifier := by
  rw [joined, Lowering.importerDirectory_path, importer.joinSpecifier_join hne]

theorem joinSpecifier_joined_empty (importer : ModuleId) :
    importer.joinSpecifier (joined importer "") = .ok importer.directory := by
  rw [joined, Lowering.importerDirectory_path, importer.joinSpecifier_join_empty]

theorem resolve_joined_nonempty (b : Builder m) {specifier : String} (hne : specifier ≠ "") :
    b.resolve importer (joined importer specifier) = b.resolve importer specifier :=
  b.resolve_congr (joinSpecifier_joined importer hne)

theorem resolve_empty (b : Builder m) (importer : ModuleId) :
    b.resolve importer "" = pure (.error .empty) := by
  unfold resolve
  rw [importer.joinSpecifier_empty]

theorem resolve_joined_empty (b : Builder m) (importer : ModuleId) :
    b.resolve importer (joined importer "") = b.resolve importer importer.directory.path := by
  apply b.resolve_congr
  rw [joinSpecifier_joined_empty, importer.joinSpecifier_path]

theorem resolveAll_joined (b : Builder m) (found : Dependencies) {specifiers : List String}
    (h : "" ∉ specifiers) :
    b.resolveAll importer found (specifiers.map fun s => (s, joined importer s)) =
      b.resolveAll importer found (specifiers.map fun s => (s, s)) := by
  induction specifiers generalizing found with
  | nil => rfl
  | cons s specifiers ih =>
    rw [List.mem_cons, not_or] at h
    simp only [List.map_cons, resolveAll, b.resolve_joined_nonempty (Ne.symm h.1), ih _ h.2]

section Answers

variable {σ : Type} [World m σ]

/-- Once a path is joined to a place, something is found for it: that place at worst. -/
theorem resolve_answers (b : Builder m) {path : String} {exact : ModuleId}
    (h : importer.joinSpecifier path = .ok exact) (w : σ) :
    ∃ id, (World.run (b.resolve importer path) w).1 = .ok id := by
  unfold resolve
  rw [h]
  dsimp only
  split
  · exact ⟨exact, by rw [World.run_pure]⟩
  · exact ⟨_, by rw [World.run_bind, World.run_pure]⟩

theorem resolve_answers_nonempty (b : Builder m) (importer : ModuleId) {specifier : String}
    (hne : specifier ≠ "") (w : σ) :
    ∃ id, (World.run (b.resolve importer specifier) w).1 = .ok id := by
  obtain ⟨exact, hexact, -⟩ := importer.joinSpecifier_place hne
  exact b.resolve_answers hexact w

theorem resolve_answers_joined_empty (b : Builder m) (importer : ModuleId) (w : σ) :
    ∃ id, (World.run (b.resolve importer (joined importer "")) w).1 = .ok id :=
  b.resolve_answers (joinSpecifier_joined_empty importer) w

/-- Only for the empty specifier does it matter whether it was joined. -/
theorem resolve_joined_eq_iff (b : Builder m) (importer : ModuleId) (specifier : String) (w : σ) :
    (World.run (b.resolve importer (joined importer specifier)) w).1 =
      (World.run (b.resolve importer specifier) w).1 ↔ specifier ≠ "" := by
  constructor
  · rintro heq rfl
    obtain ⟨id, hid⟩ := b.resolve_answers_joined_empty importer w
    rw [hid, resolve_empty, World.run_pure] at heq
    cases heq
  · intro hne
    rw [b.resolve_joined_nonempty hne]

/-- Whether a specifier is given as it stands or joined to the directory of its module, the builder
asks the same questions and finds the same module, and it does find one. The empty specifier is the
only exception: as it stands it is refused, and joined it is taken for the directory. So the paths
that lowering gives, each of which is joined, may be replaced by their specifiers. -/
theorem resolve_joined (b : Builder m) (importer : ModuleId) :
    (∀ s, s ≠ "" → b.resolve importer (joined importer s) = b.resolve importer s ∧
      ∀ w : σ, ∃ id, (World.run (b.resolve importer s) w).1 = .ok id) ∧
    (∀ s (w : σ), (World.run (b.resolve importer (joined importer s)) w).1 =
      (World.run (b.resolve importer s) w).1 ↔ s ≠ "") ∧
    b.resolve importer "" = pure (.error .empty) ∧
    (b.resolve importer (joined importer "") = b.resolve importer importer.directory.path ∧
      importer.joinSpecifier importer.directory.path = .ok importer.directory ∧
      ∀ w : σ, ∃ id, (World.run (b.resolve importer (joined importer "")) w).1 = .ok id) ∧
    ∀ source out, lower source importer.path = .ok out →
      (∀ e ∈ out.dependencies.entries, e.2 = joined importer e.1) ∧
      ("" ∉ out.dependencies.keys → ∀ found,
        b.resolveAll importer found out.dependencies.entries =
          b.resolveAll importer found (out.dependencies.keys.map fun s => (s, s))) := by
  refine ⟨fun s hne => ⟨b.resolve_joined_nonempty hne, b.resolve_answers_nonempty importer hne⟩,
    b.resolve_joined_eq_iff importer, b.resolve_empty importer,
    ⟨b.resolve_joined_empty importer, importer.joinSpecifier_path importer.directory,
      b.resolve_answers_joined_empty importer⟩, fun source out hlower => ?_⟩
  have hentries := Lowering.entries_lower hlower
  refine ⟨fun e he => ?_, fun hempty found => ?_⟩
  · rw [hentries] at he
    obtain ⟨s, -, rfl⟩ := List.mem_map.1 he
    rfl
  · rw [hentries]
    exact b.resolveAll_joined found hempty

/-- A script that mentions a module by a detour, at a place where a directory is missing. -/
theorem resolve_joined_detour :
    let importer := ModuleId.ofRooted "/src/index.js"
    let b : Builder (StateM FileSystem.Memory) :=
      { host := FileSystem.Memory.host, extensions := [".js"] }
    ∃ out, lower "import b from './lib//../b';" "/src/index.js" = .ok out ∧
      b.resolve importer (joined importer "./lib//../b") = b.resolve importer "./lib//../b" ∧
      ∀ found, b.resolveAll importer found out.dependencies.entries =
        b.resolveAll importer found [("./lib//../b", "./lib//../b")] := by
  intro importer b
  have hpath : importer.path = "/src/index.js" := by decide +kernel
  have hkeys : (lower "import b from './lib//../b';" "/src/index.js").toOption.map
      (fun out => out.dependencies.keys) = some ["./lib//../b"] := by decide +kernel
  cases hlower : lower "import b from './lib//../b';" "/src/index.js" with
  | error line => simp [hlower, Except.toOption] at hkeys
  | ok out =>
    simp only [hlower, Except.toOption, Option.map_some, Option.some.injEq] at hkeys
    rw [← hpath] at hlower
    obtain ⟨hnonempty, -, -, -, hentries⟩ := b.resolve_joined importer
    obtain ⟨-, hall⟩ := hentries _ out hlower
    refine ⟨out, rfl, (hnonempty _ (by decide)).1, fun found => ?_⟩
    rw [hall (by simp [hkeys]) found, hkeys]
    rfl

end Answers

end Builder

end ModuleBundler
