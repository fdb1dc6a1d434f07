import ModuleBundler.Compiler.Run
import ModuleBundler.Proofs.Hook.Frame

/-!
# What a stage of a run guarantees

A stage is described by what holds before it, what holds after it for the value that it gives, and
what holds of an error that ends the run there.
-/

namespace ModuleBundler.Compiler

open Hook (Along Framed Grows)

variable {n : Type → Type} [Monad n] {τ : Type} [World n τ] {α γ : Type}

theorem workingDirectory_preserves {c : Compiler} {h : FileSystem.Host n} {β : Type}
    {view : τ → β} (hview : Preserves view h.workingDirectory) :
    Preserves view (c.workingDirectory h) := by
  have hcoupled : (Preserves.coupling view : Coupling n n).Rel h.workingDirectory
      h.workingDirectory := hview
  exact workingDirectory_coupled hcoupled

/-- What a run starts with, in a working directory from which its entry has an identity. -/
theorem start_of_compilationIn {c : Compiler} {directory : String} {start : Compilation}
    (h : c.compilationIn directory = .ok start) :
    ∃ entry, ModuleId.ofBase c.settings.entry directory = .ok entry ∧ start =
      { entry
        output := ⟨Path.clean (Path.join directory c.settings.output.directory),
          c.settings.output.filename⟩
        hooks := c.registry.summaries } := by
  unfold compilationIn at h
  cases he : ModuleId.ofBase c.settings.entry directory with
  | error e =>
    rw [he] at h
    cases h
  | ok entry =>
    rw [he] at h
    cases h
    exact ⟨entry, rfl, rfl⟩

theorem run_pure (a : α) (s : Compilation × τ) :
    World.run (Pure.pure a : Step n α).run.run s = (some (.ok a), s) :=
  Framed.run_pure (Except.ok a) s

theorem run_bind (x : Step n α) (f : α → Step n γ) (s : Compilation × τ) :
    World.run (x >>= f).run.run s =
      match World.run x.run.run s with
      | (none, t) => (none, t)
      | (some (.error e), t) => (some (.error e), t)
      | (some (.ok a), t) => World.run (f a).run.run t := by
  change World.run (x.run >>= ExceptT.bindCont f).run s = _
  rw [Framed.run_bind]
  rcases World.run x.run.run s with ⟨_ | (e | a), t⟩
  · rfl
  · exact Framed.run_pure _ _
  · rfl

theorem run_action (x : Hook.Action n α) (s : Compilation × τ) :
    World.run (liftM x : Step n α).run.run s =
      match World.run x.run s with
      | (some a, t) => (some (.ok a), t)
      | (none, t) => (none, t) := by
  change World.run (x >>= fun a => Pure.pure (Except.ok a)).run s = _
  rw [Framed.run_bind]
  rcases World.run x.run s with ⟨_ | a, t⟩
  · rfl
  · exact Framed.run_pure _ _

theorem run_modify (f : Compilation → Compilation) (s : Compilation × τ) :
    World.run (modifyThe Compilation f : Step n PUnit).run.run s = (some (.ok ⟨⟩), f s.1, s.2) := by
  have hr := run_action (modifyThe Compilation f : Hook.Action n PUnit) s
  rw [Framed.run_modify] at hr
  exact hr

theorem run_get (s : Compilation × τ) :
    World.run (getThe Compilation : Step n Compilation).run.run s = (some (.ok s.1), s) := by
  have hr := run_action (getThe Compilation : Hook.Action n Compilation) s
  rw [Framed.run_look] at hr
  exact hr

theorem run_inHost (x : n α) (s : Compilation × τ) :
    World.run (inHost x : Step n α).run.run s =
      (some (.ok (World.run x s.2).1), s.1, (World.run x s.2).2) := by
  have hr := run_action (liftM x : Hook.Action n α) s
  rw [Framed.run_host] at hr
  exact hr

theorem run_withHooks (x : Hook.Action n α) (s : Compilation × τ) :
    World.run (withHooks x : Step n α).run.run s =
      match World.run x.run s with
      | (some a, t) => (some (.ok a), t)
      | (none, t) => (none, t) :=
  run_action x s

theorem run_check {ε : Type} (wrap : ε → Bundle.Error) (result : Except ε α)
    (s : Compilation × τ) :
    World.run (check wrap result : Step n α).run.run s = (some (result.mapError wrap), s) := by
  cases result with
  | error e => exact Framed.run_pure _ _
  | ok a => exact Framed.run_pure _ _

theorem run_bind_assoc {δ : Type} (x : Step n α) (f : α → Step n γ) (g : γ → Step n δ)
    (s : Compilation × τ) :
    World.run (x >>= fun a => f a >>= g).run.run s = World.run (x >>= f >>= g).run.run s := by
  rw [run_bind, run_bind, run_bind]
  rcases World.run x.run.run s with ⟨_ | (e | a), t⟩
  · rfl
  · rfl
  · exact run_bind _ _ _

/-- A run of these stages in this working directory. -/
def runIn (c : Compiler) (directory : n (Except FileSystem.Error String))
    (stages : Step n Success) : n (Option Ending) := do
  match ← directory with
  | .error e => return some ⟨.error (.fileSystem e), none⟩
  | .ok directory =>
    match c.compilationIn directory with
    | .error e => return some ⟨.error (.build (.invalidId e)), none⟩
    | .ok start =>
      let (result?, final) ← (stages.run.run).run start
      return result?.map fun result => ⟨result, some final⟩

theorem run_runIn (c : Compiler) (directory : n (Except FileSystem.Error String))
    (stages : Step n Success) (t : τ) :
    World.run (c.runIn directory stages) t =
      match World.run directory t with
      | (.error e, u) => (some ⟨.error (.fileSystem e), none⟩, u)
      | (.ok directory, u) =>
        match c.compilationIn directory with
        | .error e => (some ⟨.error (.build (.invalidId e)), none⟩, u)
        | .ok start =>
          match World.run stages.run.run (start, u) with
          | (result?, final, v) => (result?.map fun result => ⟨result, some final⟩, v) := by
  rw [runIn, World.run_bind]
  rcases World.run directory t with ⟨e | directory, u⟩
  · exact World.run_pure _ _
  · simp only
    cases c.compilationIn directory with
    | error e => exact World.run_pure _ _
    | ok start =>
      simp only
      rw [World.run_bind, World.run_run]
      exact World.run_pure _ _

/-- From a state with `P` the stage gives a value with `Q`, or ends the run with an error with
`E`. Nothing is said about a stage that lacks fuel. -/
def Meets (P : Compilation × τ → Prop) (x : Step n α) (Q : α → Compilation × τ → Prop)
    (E : Bundle.Error → Compilation × τ → Prop) : Prop :=
  ∀ s, P s → match World.run x.run.run s with
    | (none, _) => True
    | (some (.ok a), t) => Q a t
    | (some (.error e), t) => E e t

namespace Meets

variable {P P' : Compilation × τ → Prop} {Q Q' : α → Compilation × τ → Prop}
variable {R : γ → Compilation × τ → Prop} {E E' : Bundle.Error → Compilation × τ → Prop}

theorem weaken {x : Step n α} (h : Meets P x Q E) (hP : ∀ s, P' s → P s)
    (hQ : ∀ a s, Q a s → Q' a s) (hE : ∀ e s, E e s → E' e s) : Meets P' x Q' E' := by
  intro s hs
  have hx := h s (hP s hs)
  rcases hr : World.run x.run.run s with ⟨_ | (e | a), t⟩
  · trivial
  · rw [hr] at hx
    exact hE e t hx
  · rw [hr] at hx
    exact hQ a t hx

/-- What a stage gives from one state, together with the run that gives it. -/
theorem exact {x : Step n α} (h : Meets P x Q E) {s : Compilation × τ} (hs : P s) :
    Meets (fun t => t = s) x (fun a t => Q a t ∧ World.run x.run.run s = (some (.ok a), t)) E := by
  intro t ht
  rw [ht]
  have hx := h s hs
  rcases hr : World.run x.run.run s with ⟨_ | (e | a), u⟩
  · trivial
  · rw [hr] at hx
    exact hx
  · rw [hr] at hx
    exact ⟨hx, rfl⟩

theorem pure {a : α} (h : ∀ s, P s → Q a s) : Meets P (Pure.pure a : Step n α) Q E := by
  intro s hs
  rw [run_pure]
  exact h s hs

theorem bind {x : Step n α} {f : α → Step n γ} (hx : Meets P x Q E)
    (hf : ∀ a, Meets (Q a) (f a) R E) : Meets P (x >>= f) R E := by
  intro s hs
  rw [run_bind]
  have hx := hx s hs
  rcases hr : World.run x.run.run s with ⟨_ | (e | a), t⟩
  · trivial
  · rw [hr] at hx
    exact hx
  · rw [hr] at hx
    exact hf a t hx

/-- An action of the world beneath. -/
theorem action {x : Hook.Action n α}
    (h : ∀ s, P s → ∀ a, (World.run x.run s).1 = some a → Q a (World.run x.run s).2) :
    Meets P (liftM x : Step n α) Q E := by
  intro s hs
  rw [run_action]
  have hx := h s hs
  rcases hx' : World.run x.run s with ⟨_ | a, t⟩
  · trivial
  · rw [hx'] at hx
    exact hx a rfl

theorem get : Meets P (getThe Compilation : Step n Compilation) (fun c s => P s ∧ c = s.1) E := by
  apply action (x := getThe Compilation)
  intro s hs a ha
  rw [Framed.run_look] at ha ⊢
  cases ha
  exact ⟨hs, rfl⟩

theorem modifying {f : Compilation → Compilation} (h : ∀ s, P s → P' (f s.1, s.2)) :
    Meets P (modifyThe Compilation f : Step n PUnit) (fun _ => P') E := by
  intro s hs
  rw [run_modify]
  exact h s hs

theorem enter {phase : Phase} (h : ∀ s, P s → P' ({ s.1 with phase }, s.2)) :
    Meets P (enter phase : Step n Unit) (fun _ => P') E :=
  modifying h

theorem check {ε : Type} {wrap : ε → Bundle.Error} {result : Except ε α}
    (hok : ∀ a s, result = .ok a → P s → Q a s)
    (herror : ∀ e s, result = .error e → P s → E (wrap e) s) :
    Meets P (check wrap result : Step n α) Q E := by
  intro s hs
  rw [run_check]
  cases hresult : result with
  | ok a => exact hok a s hresult hs
  | error e => exact herror e s hresult hs

/-- An action of the host's world, which knows nothing of the compilation. -/
theorem inHost {x : n α}
    (h : ∀ s, P s → Q (World.run x s.2).1 (s.1, (World.run x s.2).2)) :
    Meets P (inHost x : Step n α) Q E := by
  apply action (x := liftM x)
  intro s hs a ha
  rw [Framed.run_host] at ha ⊢
  cases ha
  exact h s hs

/-- An action of the listeners: what holds must survive wherever it leads. -/
theorem along {r : Compilation × τ → Compilation × τ → Prop} {x : Hook.Action n α} {V : α → Prop}
    (hx : Along r V x) (h : ∀ a s t, P s → V a → r s t → Q a t) :
    Meets P (withHooks x : Step n α) Q E :=
  action fun s hs a ha => h a s _ hs ((hx s).2 a ha) (hx s).1

/-- An action of the listeners: what it gives is framed, and what holds must survive growth. -/
theorem withHooks {β : Type} {view : τ → β} {x : Hook.Action n α} {V : α → Prop}
    (hx : Framed view V x) (h : ∀ a s t, P s → V a → Grows view s t → Q a t) :
    Meets P (withHooks x : Step n α) Q E :=
  along hx h

end Meets

end ModuleBundler.Compiler
