import ModuleBundler.Proofs.Coupling
import ModuleBundler.Proofs.FileSystem.Reading

/-!
# What an action depends on

A record lists what was asked of a host. Another host that gives the same answers to all of this is
asked the same, and the same comes of it, whatever it would have answered to other requests.
-/

namespace ModuleBundler

open FileSystem (Host Record Request)

variable {m n : Type → Type} [Monad m] [Monad n] {σ τ : Type} [World m σ] [World n τ]
variable {α β : Type} {asked : List Request} {P Q R : σ → τ → Prop}

/-- From related states two actions give the same answer, and leave states that are related too. -/
def Agree (P Q : σ → τ → Prop) (x : m α) (y : n α) : Prop :=
  ∀ s t, P s t → (World.run y t).1 = (World.run x s).1 ∧ Q (World.run x s).2 (World.run y t).2

/-- While nothing is asked but what is in `asked`, the second action goes where the first one goes,
and keeps the same record. -/
structure Retraces (asked : List Request) (P Q : σ → τ → Prop) (x : StateT Record m α)
    (y : StateT Record n α) : Prop where
  notes (s : Record × σ) : s.1.requests ⊆ (World.run x s).2.1.requests
  follows (r : Record) (s : σ) (t : τ) : P s t → (World.run x (r, s)).2.1.requests ⊆ asked →
    ∃ u, World.run y (r, t) = ((World.run x (r, s)).1, (World.run x (r, s)).2.1, u) ∧
      Q (World.run x (r, s)).2.2 u

namespace Retraces

theorem pure (a : α) (h : ∀ s t, P s t → Q s t) :
    Retraces asked P Q (Pure.pure a : StateT Record m α) (Pure.pure a : StateT Record n α) where
  notes s := by
    rw [World.run_pure]
    exact List.Subset.refl _
  follows r s t hst _ := by
    rw [World.run_pure, World.run_pure]
    exact ⟨t, rfl, h s t hst⟩

theorem bind {x : StateT Record m α} {y : StateT Record n α} {f : α → StateT Record m β}
    {g : α → StateT Record n β} (hx : Retraces asked P Q x y)
    (hf : ∀ a, Retraces asked Q R (f a) (g a)) : Retraces asked P R (x >>= f) (y >>= g) where
  notes s := by
    rw [World.run_bind]
    exact List.Subset.trans (hx.notes s) ((hf _).notes _)
  follows r s t hst hasked := by
    rw [World.run_bind] at hasked
    obtain ⟨u, hu, hQ⟩ := hx.follows r s t hst (List.Subset.trans ((hf _).notes _) hasked)
    rw [World.run_bind, World.run_bind, hu]
    exact (hf _).follows _ _ u hQ hasked

/-- What keeps two states related goes along with sequencing. -/
def coupling (asked : List Request) (P : σ → τ → Prop) :
    Coupling (StateT Record m) (StateT Record n) where
  Rel := Retraces asked P P
  pure a := .pure a fun _ _ h => h
  bind := .bind

end Retraces

namespace FileSystem

/-- Two hosts give the same answers to what is in `asked`. Of requests that change something only
those count that create a directory and then write a file directly into it. -/
structure Host.AgreeOn (asked : List Request) (P : σ → τ → Prop) (h : Host m) (h' : Host n) :
    Prop where
  read (path : String) : .read path ∈ asked → Agree P P (h.read path) (h'.read path)
  isFile (path : String) (answer : Bool) : .isFile path answer ∈ asked →
    ∀ s t, P s t → (World.run (h.isFile path) s).1 = answer →
      (World.run (h'.isFile path) t).1 = answer ∧
        P (World.run (h.isFile path) s).2 (World.run (h'.isFile path) t).2
  workingDirectory : Agree P P h.workingDirectory h'.workingDirectory
  createDirectory (path : String) : .createDirectory path true ∈ asked →
    ∀ s t, P s t → (World.run (h'.createDirectory path true) t).1 =
      (World.run (h.createDirectory path true) s).1
  write (directory name path : String) (bytes : Text.Bytes) : Path.IsName name →
    Bundle.outputPath directory name = .ok path → .createDirectory directory true ∈ asked →
    .write path ∈ asked → ∀ s t, P s t →
      (World.run (h'.write path bytes) (World.run (h'.createDirectory directory true) t).2).1 =
        (World.run (h.write path bytes) (World.run (h.createDirectory directory true) s).2).1

/-- Two actions give the same answer, the one while `I` holds and the other while `J` does. -/
def SameAnswer (I : σ → Prop) (J : τ → Prop) (x : m α) (y : n α) : Prop :=
  ∃ answer, Gives I x answer ∧ Gives J y answer

theorem SameAnswer.agree {I : σ → Prop} {J : τ → Prop} {x : m α} {y : n α}
    (h : SameAnswer I J x y) :
    Agree (fun s t => I s ∧ J t) (fun s t => I s ∧ J t) x y := by
  rintro s t ⟨hs, ht⟩
  obtain ⟨answer, hx, hy⟩ := h
  exact ⟨(hy t ht).1.trans (hx s hs).1.symm, (hx s hs).2, (hy t ht).2⟩

/-- While `I` holds, directories can be created as they are in `asked`, and then files written. -/
structure Host.Admits (h : Host m) (I : σ → Prop) (asked : List Request) : Prop where
  createDirectory (path : String) : .createDirectory path true ∈ asked →
    ∀ s, I s → (World.run (h.createDirectory path true) s).1 = .ok ()
  write (directory path : String) (bytes : Text.Bytes) : .createDirectory directory true ∈ asked →
    .write path ∈ asked → ∀ s, I s →
      (World.run (h.write path bytes) (World.run (h.createDirectory directory true) s).2).1 = .ok ()

/-- The path that a request probes. -/
def Request.probe? : Request → Option String
  | .isFile path _ => some path
  | _ => none

/-- The paths that were probed, in order. -/
def Record.probes (r : Record) : List String := r.requests.filterMap Request.probe?

theorem Record.mem_sources {r : Record} {path : String} (h : .read path ∈ r.requests) :
    path ∈ r.sources :=
  List.mem_filterMap.2 ⟨_, h, rfl⟩

theorem Record.mem_probes {r : Record} {path : String} {answer : Bool}
    (h : .isFile path answer ∈ r.requests) : path ∈ r.probes :=
  List.mem_filterMap.2 ⟨_, h, rfl⟩

/-- It is enough to agree on the paths that were read and probed, where nothing that was to be
changed is refused. -/
theorem Host.AgreeOn.of_admits {r : Record} {I : σ → Prop} {J : τ → Prop} {h : Host m}
    {h' : Host n} (hcwd : SameAnswer I J h.workingDirectory h'.workingDirectory)
    (hread : ∀ path ∈ r.sources, SameAnswer I J (h.read path) (h'.read path))
    (hprobe : ∀ path ∈ r.probes, SameAnswer I J (h.isFile path) (h'.isFile path))
    (hadmits : h.Admits I r.requests) (hadmits' : h'.Admits J r.requests) :
    Host.AgreeOn r.requests (fun s t => I s ∧ J t) h h' where
  read path hpath := (hread path (Record.mem_sources hpath)).agree
  isFile path answer hpath s t hst hanswer := by
    obtain ⟨hsame, hkept⟩ := (hprobe path (Record.mem_probes hpath)).agree s t hst
    exact ⟨hsame.trans hanswer, hkept⟩
  workingDirectory := hcwd.agree
  createDirectory path hpath s t hst := by
    rw [hadmits.createDirectory path hpath s hst.1, hadmits'.createDirectory path hpath t hst.2]
  write directory name path bytes _ _ hdirectory hpath s t hst := by
    rw [hadmits.write directory path bytes hdirectory hpath s hst.1,
      hadmits'.write directory path bytes hdirectory hpath t hst.2]

namespace Record

theorem subset_ask (r : Record) (q : Request) : r.requests ⊆ (r.ask q).requests :=
  List.subset_append_left _ _

theorem mem_ask (r : Record) (q : Request) : q ∈ (r.ask q).requests :=
  List.mem_append_right _ (List.mem_singleton_self q)

variable {h : Host m} {h' : Host n}

theorem guarded_retraces {q : Request} (error : String → Error) {x : m (Except Error α)}
    {y : n (Except Error α)} (hxy : q ∈ asked → Agree P Q x y) :
    Retraces asked P Q (guarded (fun _ => none) q error x)
      (guarded (fun _ => none) q error y) where
  notes := by
    rintro ⟨r, s⟩
    rw [run_guarded_of]
    exact r.subset_ask q
  follows r s t hst hasked := by
    rw [run_guarded_of] at hasked
    obtain ⟨hanswer, hQ⟩ := hxy (hasked (r.mem_ask q)) s t hst
    rw [run_guarded_of, run_guarded_of, hanswer]
    exact ⟨_, rfl, hQ⟩

theorem reads_of (hh : Host.AgreeOn asked P h h') :
    (Retraces.coupling asked P).Reads (of h) (of h') where
  read path := guarded_retraces (.failed .read path) (hh.read path)
  isFile path := {
    notes := by
      rintro ⟨r, s⟩
      rw [run_isFile]
      exact r.subset_ask _
    follows := fun r s t hst hasked => by
      rw [run_isFile] at hasked
      obtain ⟨hanswer, hP⟩ := hh.isFile path _ (hasked (r.mem_ask _)) s t hst rfl
      rw [run_isFile, run_isFile, hanswer]
      exact ⟨_, rfl, hP⟩ }

theorem workingDirectory_retraces (hh : Host.AgreeOn asked P h h') :
    Retraces asked P P (of h).workingDirectory (of h').workingDirectory :=
  guarded_retraces .noWorkingDirectory fun _ => hh.workingDirectory

/-- The states that two hosts are in once a directory was created. -/
def Created (h : Host m) (h' : Host n) (P : σ → τ → Prop) (directory : String) (s : σ) (t : τ) :
    Prop :=
  ∃ s₀ t₀, P s₀ t₀ ∧ s = (World.run (h.createDirectory directory true) s₀).2 ∧
    t = (World.run (h'.createDirectory directory true) t₀).2

theorem createDirectory_retraces (hh : Host.AgreeOn asked P h h') (directory : String) :
    Retraces asked P
      (fun s t => .createDirectory directory true ∈ asked ∧ Created h h' P directory s t)
      ((of h).createDirectory directory true) ((of h').createDirectory directory true) :=
  guarded_retraces (.failed .createDirectory directory) fun hmem s t hst =>
    ⟨hh.createDirectory directory hmem s t hst, hmem, s, t, hst, rfl, rfl⟩

theorem write_retraces (hh : Host.AgreeOn asked P h h') {directory name path : String}
    (hname : Path.IsName name) (houtput : Bundle.outputPath directory name = .ok path)
    (bytes : Text.Bytes) :
    Retraces asked
      (fun s t => .createDirectory directory true ∈ asked ∧ Created h h' P directory s t)
      (fun _ _ => True) ((of h).write path bytes) ((of h').write path bytes) where
  notes := by
    rintro ⟨r, s⟩
    rw [run_write_of]
    cases (World.run (h.write path bytes) s).1 <;> exact r.subset_ask _
  follows := by
    rintro r s t ⟨hmem, s₀, t₀, hst, rfl, rfl⟩ hasked
    rw [run_write_of] at hasked
    have hpath : .write path ∈ asked := by
      apply hasked
      cases (World.run (h.write path bytes) _).1 <;> exact r.mem_ask _
    rw [run_write_of, run_write_of, hh.write directory name path bytes hname houtput hmem hpath s₀ t₀ hst]
    exact ⟨_, rfl, trivial⟩

end Record

end FileSystem

open FileSystem.Record (of)

/-- Writing the artifact goes the same way in both hosts. -/
theorem Bundle.writeArtifact_retraces {h : Host m} {h' : Host n} (hh : Host.AgreeOn asked P h h')
    (directory : String) {filename : String} (hname : Path.IsName filename) (code : String) :
    Retraces asked P (fun _ _ => True) (writeArtifact (of h) directory filename code)
      (writeArtifact (of h') directory filename code) := by
  unfold writeArtifact
  simp only
  cases houtput : outputPath (Path.clean directory) filename with
  | error e => exact .pure _ fun _ _ _ => trivial
  | ok target =>
    refine (Record.createDirectory_retraces hh _).bind fun created => ?_
    cases created with
    | error e => exact .pure _ fun _ _ _ => trivial
    | ok _ =>
      refine (Record.write_retraces hh hname houtput _).bind fun written => ?_
      cases written with
      | error e => exact .pure _ fun _ _ _ => trivial
      | ok _ => exact .pure _ fun _ _ _ => trivial

end ModuleBundler
