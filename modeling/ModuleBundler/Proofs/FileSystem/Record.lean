import ModuleBundler.FileSystem.Recorder
import ModuleBundler.Proofs.World

/-!
# What a record shows of writing

A record notes the paths that were to be written and the writes that succeeded. Requests of any
other kind leave both as they are.
-/

namespace ModuleBundler.FileSystem

open Text (Bytes)

/-- The path that a request asks to be written. -/
def Request.target? : Request → Option String
  | .write path => some path
  | _ => none

namespace Record

/-- The paths that were to be written, in order. -/
def targets (r : Record) : List String := r.requests.filterMap Request.target?

/-- What a state shows of writing. -/
def writing {σ : Type} (s : Record × σ) : List String × List (String × Bytes) :=
  (s.1.targets, s.1.writes)

theorem targets_ask (r : Record) (q : Request) :
    (r.ask q).targets = r.targets ++ q.target?.toList := by
  rw [targets, ask, List.filterMap_append]
  cases q <;> rfl

@[simp] theorem writes_ask (r : Record) (q : Request) : (r.ask q).writes = r.writes := rfl

variable {m : Type → Type} [Monad m] {σ : Type} [World m σ] {h : Host m}
variable {refuse : Request → Option String} {α : Type}

/-- A guarded action answers somehow and is noted. -/
theorem run_guarded (refuse : Request → Option String) (q : Request) (error : String → Error)
    (action : m (Except Error α)) (s : Record × σ) :
    ∃ (answer : Except Error α) (t : σ),
      World.run (guarded refuse q error action) s = (answer, s.1.ask q, t) := by
  rw [guarded, World.run_bind, World.run_modify]
  cases refuse q with
  | some reason => exact ⟨_, _, World.run_pure _ _⟩
  | none => exact ⟨_, _, World.run_lift _ _⟩

theorem guarded_preserves {q : Request} (hq : q.target? = none) (error : String → Error)
    (action : m (Except Error α)) : Preserves writing (guarded refuse q error action) := by
  intro s
  obtain ⟨answer, t, hrun⟩ := run_guarded refuse q error action s
  rw [hrun, writing, targets_ask, hq, writes_ask]
  simp [writing]

/-- A probe is noted together with its answer, and never refused. -/
theorem run_isFile (h : Host m) (refuse : Request → Option String) (path : String) (r : Record)
    (s : σ) :
    World.run ((host h refuse).isFile path) (r, s) =
      ((World.run (h.isFile path) s).1, r.ask (.isFile path (World.run (h.isFile path) s).1),
        (World.run (h.isFile path) s).2) := by
  change World.run (StateT.lift (h.isFile path) >>= fun answer =>
    modify (·.ask (.isFile path answer)) >>= fun _ => pure answer) (r, s) = _
  rw [World.run_bind, World.run_bind, World.run_lift, World.run_modify, World.run_pure]

theorem host_leaves : (host h refuse).Leaves (writing (σ := σ)) where
  read path := guarded_preserves rfl _ _
  isFile path := by
    rintro ⟨r, s⟩
    rw [run_isFile]
    simp [writing, targets_ask, Request.target?]

theorem createDirectory_preserves (h : Host m) (refuse : Request → Option String) (path : String)
    (all : Bool) :
    Preserves (writing (σ := σ)) ((host h refuse).createDirectory path all) :=
  guarded_preserves rfl _ _

theorem workingDirectory_preserves (h : Host m) (refuse : Request → Option String) :
    Preserves (writing (σ := σ)) (host h refuse).workingDirectory :=
  guarded_preserves rfl _ _

/-- What is done in the world beneath is not recorded. -/
theorem lift_preserves {α : Type} (x : m α) :
    Preserves (writing (σ := σ)) (liftM x : StateT Record m α) := by
  intro s
  change writing (World.run (StateT.lift x) s).2 = _
  rw [World.run_lift]
  rfl

/-- A working directory that a recorded host answers is one that the host answers. -/
theorem workingDirectory_ok {s : Record × σ} {directory : String}
    (hd : (World.run (host h refuse).workingDirectory s).1 = .ok directory) :
    (World.run h.workingDirectory s.2).1 = .ok directory := by
  change (World.run (guarded refuse _ _ _) s).1 = _ at hd
  rw [guarded, World.run_bind, World.run_modify] at hd
  cases hr : refuse .workingDirectory with
  | some reason =>
    rw [hr, World.run_pure] at hd
    cases hd
  | none =>
    rw [hr] at hd
    change (World.run (StateT.lift h.workingDirectory) _).1 = _ at hd
    rw [World.run_lift] at hd
    exact hd

/-- A request to write is noted, and so are the bytes when it succeeds. -/
theorem run_write (h : Host m) (refuse : Request → Option String) (path : String) (bytes : Bytes)
    (s : Record × σ) :
    ∃ (answer : Except Error Unit) (t : Record × σ),
      World.run ((host h refuse).write path bytes) s = (answer, t) ∧
      writing t = (s.1.targets ++ [path],
        s.1.writes ++ match answer with
          | .ok _ => [(path, bytes)]
          | .error _ => []) := by
  obtain ⟨answer, t, hrun⟩ := run_guarded refuse (.write path) (.failed .write path)
    (h.write path bytes) s
  change ∃ answer t, World.run (guarded refuse (.write path) (.failed .write path)
    (h.write path bytes) >>= _) s = (answer, t) ∧ _
  rw [World.run_bind, hrun]
  cases answer with
  | error e =>
    refine ⟨.error e, (s.1.ask (.write path), t), World.run_pure _ _, ?_⟩
    simp [writing, targets_ask, Request.target?]
  | ok u =>
    refine ⟨.ok u, ({ s.1.ask (.write path) with
      writes := s.1.writes ++ [(path, bytes)] }, t), ?_, ?_⟩
    · simp only [if_true, World.run_bind, World.run_modify, World.run_pure, writes_ask]
    · have htargets : ({ s.1.ask (.write path) with
          writes := s.1.writes ++ [(path, bytes)] } : Record).targets = s.1.targets ++ [path] :=
        targets_ask s.1 (.write path)
      rw [writing, htargets]

/-! ## Hosts that refuse nothing -/

/-- Records the requests to a host and refuses none. -/
abbrev of (h : Host m) : Host (StateT Record m) := host h fun _ => none

theorem run_guarded_of (q : Request) (error : String → Error) (action : m (Except Error α))
    (r : Record) (s : σ) :
    World.run (guarded (fun _ => none) q error action) (r, s) =
      ((World.run action s).1, r.ask q, (World.run action s).2) := by
  change World.run (modify (·.ask q) >>= fun _ => StateT.lift action) (r, s) = _
  rw [World.run_bind, World.run_modify, World.run_lift]

theorem run_read_of (h : Host m) (path : String) (r : Record) (s : σ) :
    World.run ((of h).read path) (r, s) =
      ((World.run (h.read path) s).1, r.ask (.read path), (World.run (h.read path) s).2) :=
  run_guarded_of (.read path) (.failed .read path) (h.read path) r s

theorem run_createDirectory_of (h : Host m) (path : String) (all : Bool) (r : Record) (s : σ) :
    World.run ((of h).createDirectory path all) (r, s) =
      ((World.run (h.createDirectory path all) s).1, r.ask (.createDirectory path all),
        (World.run (h.createDirectory path all) s).2) :=
  run_guarded_of (.createDirectory path all) (.failed .createDirectory path)
    (h.createDirectory path all) r s

theorem run_workingDirectory_of (h : Host m) (r : Record) (s : σ) :
    World.run (of h).workingDirectory (r, s) =
      ((World.run h.workingDirectory s).1, r.ask .workingDirectory,
        (World.run h.workingDirectory s).2) :=
  run_guarded_of .workingDirectory .noWorkingDirectory h.workingDirectory r s

theorem run_write_of (h : Host m) (path : String) (bytes : Bytes) (r : Record) (s : σ) :
    World.run ((of h).write path bytes) (r, s) =
      ((World.run (h.write path bytes) s).1,
        match (World.run (h.write path bytes) s).1 with
        | .ok _ => { r.ask (.write path) with writes := r.writes ++ [(path, bytes)] }
        | .error _ => r.ask (.write path),
        (World.run (h.write path bytes) s).2) := by
  change World.run (guarded (fun _ => none) (.write path) (.failed .write path)
    (h.write path bytes) >>= _) (r, s) = _
  rw [World.run_bind, run_guarded_of]
  rcases World.run (h.write path bytes) s with ⟨e | u, t⟩
  · exact World.run_pure _ _
  · simp only [if_true, World.run_bind, World.run_modify, World.run_pure, writes_ask]

end Record

end ModuleBundler.FileSystem
