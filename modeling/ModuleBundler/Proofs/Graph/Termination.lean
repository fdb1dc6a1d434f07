import ModuleBundler.Proofs.FileSystem.Memory
import ModuleBundler.Proofs.Graph.Course

/-!
# Walks over finitely many files end

Each module that a walk adds has a file of its own. In a store with finitely many files a walk
therefore ends, whatever the files mention.
-/

namespace ModuleBundler

open FileSystem (Memory)

namespace FileSystem.Memory

/-- The path of a module leads to itself. -/
theorem locate_path (s : Memory) (id : ModuleId) : s.locate id.path = id.path := by
  have hrooted : Path.isRooted id.path = true := Path.isRooted_ofNames
  rw [locate_rooted hrooted]
  exact Path.clean_ofNames id.isName

/-- A module that is built from a store has its file there, and the store stays as it is. -/
theorem run_build {b : Builder (StateM Memory)} (hb : b.host = host) {id : ModuleId} {s t : Memory}
    {built : Module} (h : World.run (b.build id) s = (.ok built, t)) :
    t = s ∧ id.path ∈ s.files.keys := by
  have hleaves : b.host.Leaves fun s : Memory => s := by
    rw [hb]
    exact ⟨fun _ _ => rfl, fun _ _ => rfl⟩
  have hstate : (World.run (b.build id) s).2 = s := Builder.build_preserves hleaves id s
  rw [h] at hstate
  refine ⟨hstate, ?_⟩
  by_contra habsent
  have hread : World.run (b.host.read id.path) s = (.error (.notFound id.path), s) := by
    have hnone : s.files.entries.find? (·.1 == id.path) = none := by
      rw [List.find?_eq_none]
      intro e he heq
      exact habsent (List.mem_map.2 ⟨e, he, by simpa using heq⟩)
    rw [hb]
    change (s.read id.path, s) = _
    rw [read, get?, OrderedMap.get?, locate_path, hnone]
    rfl
  rw [Builder.build, World.run_bind, hread, World.run_pure] at h
  cases h

end FileSystem.Memory

namespace Graph

namespace Walk

variable {b : Builder (StateM Memory)} {limit : Option Nat} {fuel : Nat} {w : Walk} {s : Memory}

/-- A graph that has grown by modules with files of their own has not grown beyond their number. -/
theorem size_le_of_files {g after : Graph}
    (h : ∀ id ∈ after.ids, id ∈ g.ids ∨ id.path ∈ s.files.keys) :
    after.size ≤ g.size + s.files.size := by
  have hnew : (after.ids.toFinset \ g.ids.toFinset).card ≤ s.files.size := by
    rw [← Finset.card_image_of_injective _ ModuleId.path_injective]
    calc ((after.ids.toFinset \ g.ids.toFinset).image ModuleId.path).card
        ≤ s.files.keys.toFinset.card := by
          apply Finset.card_le_card
          intro path hpath
          obtain ⟨id, hid, rfl⟩ := Finset.mem_image.1 hpath
          rw [Finset.mem_sdiff, List.mem_toFinset, List.mem_toFinset] at hid
          exact List.mem_toFinset.2 ((h id hid.1).resolve_left hid.2)
      _ ≤ s.files.keys.length := List.toFinset_card_le _
      _ = s.files.size := List.length_map ..
  have hsplit := Finset.le_card_sdiff g.ids.toFinset after.ids.toFinset
  rw [card_ids, card_ids] at hsplit
  omega

/-- A walk with more fuel than there are files ends. -/
theorem run_isSome (hb : b.host = Memory.host) (hw : w.Tracked) (hfuel : s.files.size < fuel) :
    (World.run (run b.build limit fuel w) s).1.isSome := by
  have hid : ∀ id s n, (World.run (b.build id) s).1 = .ok n → n.id = id :=
    fun _ _ _ h => Builder.id_of_built h
  -- whatever the walk has added has its file in the store
  have hstep : ∀ (v : Walk) (n : Module) (h : n.id ∉ v.graph.ids) (queue : List ModuleId)
      (u t : Memory), v.Tracked →
      (u = s ∧ ∀ id ∈ v.graph.ids, id ∈ w.graph.ids ∨ id.path ∈ s.files.keys) →
      v.next? = some (n.id, { v with queue }) → checkLimit limit v.graph = .ok () →
      World.run (b.build n.id) u = (.ok n, t) →
      t = s ∧ ∀ id ∈ (take { v with queue } n h).graph.ids,
        id ∈ w.graph.ids ∨ id.path ∈ s.files.keys := by
    intro v n h queue u t _ ⟨hu, hfiles⟩ _ _ hbuild
    subst hu
    obtain ⟨rfl, hfile⟩ := Memory.run_build hb hbuild
    refine ⟨rfl, fun id hmem => ?_⟩
    rw [take, ids_push, List.mem_append, List.mem_singleton] at hmem
    obtain hmem | rfl := hmem
    · exact hfiles id hmem
    · exact .inr hfile
  rcases hrun : World.run (run b.build limit fuel w) s with ⟨_ | o, t⟩
  · obtain ⟨v, u, -, ⟨-, hfiles⟩, -, hsize⟩ :=
      run_ends hid hstep hw ⟨rfl, fun _ hmem => .inl hmem⟩ hrun
    have hle := size_le_of_files hfiles
    rw [hsize rfl] at hle
    omega
  · rfl

end Walk

/-- Expanding an entry over finitely many files ends, whatever limit there is and whatever the files
mention. -/
theorem expandInto_isSome {b : Builder (StateM Memory)} (hb : b.host = Memory.host)
    (limit : Option Nat) {fuel : Nat} (entry : Module) (g : Graph) {s : Memory}
    (hfuel : s.files.size < fuel) :
    (World.run (expandInto b limit fuel entry g) s).1.isSome := by
  by_cases hold : entry.id ∈ g.ids
  · rw [expandInto, Walk.start_along hold]
    exact Walk.run_isSome hb Walk.tracked_along hfuel
  · cases hlimit : Walk.checkLimit limit g with
    | error e =>
      rw [expandInto, Walk.start_full hold hlimit]
      simp only
      rw [World.run_pure]
      rfl
    | ok _ =>
      rw [expandInto, Walk.start_beyond hold hlimit]
      exact Walk.run_isSome hb (Walk.tracked_beyond hold) hfuel

end Graph

end ModuleBundler
