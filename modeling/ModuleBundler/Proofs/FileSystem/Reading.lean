import ModuleBundler.Proofs.FileSystem.Record
import ModuleBundler.Proofs.Mirror

/-!
# What a record shows of reading

A record notes the paths that were to be read. Building a module asks once for its own file to be
read and for no other; what else is asked of a host shows nothing here.
-/

namespace ModuleBundler

open FileSystem (Host Record)

namespace FileSystem

/-- The path that a request asks to be read. -/
def Request.source? : Request → Option String
  | .read path => some path
  | _ => none

namespace Record

/-- The paths that were to be read, in order. -/
def sources (r : Record) : List String := r.requests.filterMap Request.source?

/-- What a state shows of reading. -/
def reading {σ : Type} (s : Record × σ) : List String := s.1.sources

theorem sources_ask (r : Record) (q : Request) :
    (r.ask q).sources = r.sources ++ q.source?.toList := by
  rw [sources, ask, List.filterMap_append]
  cases q <;> rfl

variable {m : Type → Type} [Monad m] {σ : Type} [World m σ] {h : Host m}
variable {refuse : Request → Option String} {α : Type}

theorem reading_guarded (q : Request) (error : String → Error) (action : m (Except Error α))
    (s : Record × σ) :
    reading (World.run (guarded refuse q error action) s).2 = reading s ++ q.source?.toList := by
  obtain ⟨answer, t, hrun⟩ := run_guarded refuse q error action s
  rw [hrun, reading, sources_ask]
  rfl

/-- A request of another kind shows nothing of reading. -/
theorem guarded_unread {q : Request} (hq : q.source? = none) (error : String → Error)
    (action : m (Except Error α)) :
    Preserves (reading (σ := σ)) (guarded refuse q error action) := by
  intro s
  rw [reading_guarded, hq]
  exact List.append_nil _

theorem reading_read (path : String) (s : Record × σ) :
    reading (World.run ((host h refuse).read path) s).2 = reading s ++ [path] :=
  reading_guarded (.read path) _ _ s

theorem isFile_unread (path : String) :
    Preserves (reading (σ := σ)) ((host h refuse).isFile path) := by
  rintro ⟨r, s⟩
  rw [run_isFile]
  simp [reading, sources_ask, Request.source?]

theorem write_unread (path : String) (bytes : Text.Bytes) :
    Preserves (reading (σ := σ)) ((host h refuse).write path bytes) := by
  refine (guarded_unread (q := .write path) rfl _ _).bind fun result => ?_
  cases result with
  | error e => exact .pure _
  | ok _ =>
    apply Preserves.bind (x := modify _)
    · intro s
      rw [World.run_modify]
      rfl
    · exact fun _ => .pure _

theorem createDirectory_unread (path : String) (all : Bool) :
    Preserves (reading (σ := σ)) ((host h refuse).createDirectory path all) :=
  guarded_unread rfl _ _

theorem workingDirectory_unread :
    Preserves (reading (σ := σ)) (host h refuse).workingDirectory :=
  guarded_unread rfl _ _

/-- Keeping a record of what is asked does not change what is answered. -/
theorem host_mirrored (h : Host m) : h.MirroredBy (Prod.snd : Record × σ → σ) (of h) where
  read path := fun ⟨r, s⟩ => by
    rw [run_read_of]
    rfl
  write path bytes := fun ⟨r, s⟩ => by
    rw [run_write_of]
    rfl
  createDirectory path all := fun ⟨r, s⟩ => by
    rw [run_createDirectory_of]
    rfl
  isFile path := fun ⟨r, s⟩ => by
    rw [run_isFile]
    rfl
  workingDirectory := fun ⟨r, s⟩ => by
    rw [run_workingDirectory_of]
    rfl

end Record

end FileSystem

open FileSystem.Record (reading)

variable {m : Type → Type} [Monad m] {σ : Type} [World m σ] {h : Host m}
variable {refuse : FileSystem.Request → Option String}

/-- Building a module asks for its file to be read, and for no other. -/
theorem Builder.reading_build {b : Builder (StateT Record m)} (hb : b.host = Record.host h refuse)
    (id : ModuleId) (s : Record × σ) :
    reading (World.run (b.build id) s).2 = reading s ++ [id.path] := by
  have hprobe : ∀ path, Preserves (reading (σ := σ)) (b.host.isFile path) := by
    rw [hb]
    exact Record.isFile_unread
  have hread : reading (World.run ((Record.host h refuse).read id.path) s).2 =
      reading s ++ [id.path] := Record.reading_read id.path s
  rw [← hb] at hread
  rw [build, World.run_bind, ← hread]
  rcases World.run (b.host.read id.path) s with ⟨e | bytes, t⟩
  · rw [World.run_pure]
  · simp only
    cases b.compile id.path bytes with
    | error e => rw [World.run_pure]
    | ok output =>
      refine Preserves.bind (resolveAll_preserves hprobe id .empty output.dependencies.entries)
        (fun targets => ?_) t
      cases targets with
      | error e => exact .pure _
      | ok d => exact .pure _

/-- The builder with a record of what it asks. -/
def Builder.recorded (b : Builder m) : Builder (StateT Record m) :=
  b.withHost (Record.host b.host fun _ => none)

/-- With a record a builder does what it does without, and notes the file of the module. -/
theorem Builder.run_recorded_build (b : Builder m) (id : ModuleId) (s : Record × σ) :
    ∃ r, World.run (b.recorded.build id) s =
        ((World.run (b.build id) s.2).1, r, (World.run (b.build id) s.2).2) ∧
      r.sources = reading s ++ [id.path] := by
  have hmirror := Builder.build_mirrors (b := b) (Record.host_mirrored b.host) id s
  have hreading := reading_build (b := b.recorded) rfl id s
  refine ⟨(World.run (b.recorded.build id) s).2.1, ?_, hreading⟩
  rw [hmirror]
  rfl

end ModuleBundler
