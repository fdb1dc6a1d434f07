import Mathlib.Data.List.Count
import ModuleBundler.Execution
import ModuleBundler.Proofs.Bundle.Loader

/-!
# The table follows the loader

Modules that are loaded in process run as the script of the bundle runs them: in the same order and
with the same outcome, until too many are nested. The table looks at its limit before it looks for
the module, so a missing module below the limit's last one is too deep for the table and missing
for the script.
-/

namespace ModuleBundler.Bundle

open Execution (Behaviour Entry Table Trace)

variable {α : Type}

/-- The behaviour of a module whose code does this. -/
def Body.behaviour (id : ModuleId) : Body α → Behaviour α
  | .done exports => .done exports
  | .fail reason => .fail (.failed id reason)
  | .require specifier next => .require specifier fun
    | .ok exports => (next exports).behaviour id
    | .error e => .fail e

/-- The entry of a module whose factory does this. -/
def entryOf (factory : Module → Nat → Body α) (m : Module) : Entry α where
  id := m.id
  dependencies := m.dependencies
  unit := fun n => (factory m n).behaviour m.id

/-- Outcomes that say the same about the same module and specifier. -/
inductive Agrees : Except Execution.Error α → Except Thrown α → Prop where
  | done (exports : α) : Agrees (.ok exports) (.ok exports)
  | missingModule (id : ModuleId) :
    Agrees (.error (.unknownModule id)) (.error (.missingModule id.path))
  | missingSpecifier (id : ModuleId) (specifier : String) :
    Agrees (.error (.unresolved id specifier)) (.error (.missingSpecifier specifier id.path))
  | own (id : ModuleId) (reason : String) :
    Agrees (.error (.failed id reason)) (.error (.own id.path reason))

/-- A missing module or specifier is reported in the same words. -/
theorem Agrees.message_eq {e : Execution.Error} {thrown : Thrown}
    (h : Agrees (α := α) (.error e) (.error thrown)) :
    e.message = thrown.message ∨
      ∃ id reason, e = .failed id reason ∧ thrown = .own id.path reason := by
  cases h with
  | missingModule id => exact .inl rfl
  | missingSpecifier id specifier => exact .inl rfl
  | own id reason => exact .inr ⟨id, reason, rfl, rfl⟩

theorem Agrees.exists_thrown {e : Execution.Error} {outcome : Except Thrown α}
    (h : Agrees (.error e) outcome) : ∃ thrown, outcome = .error thrown := by
  cases h <;> exact ⟨_, rfl⟩

/-- The table of a graph's modules. -/
def tableOf (g : Graph) (factory : Module → Nat → Body α) (limit : Nat) : Table α :=
  ⟨g.modules.map (entryOf factory), limit⟩

theorem ofGraph_entryOf (g : Graph) (factory : Module → Nat → Body α) :
    Table.ofGraph g (fun m => .ok (entryOf factory m).unit) =
      .ok (tableOf g factory Execution.defaultLimit) := by
  have hentries : g.modules.mapM (fun m => (pure (entryOf factory m) : Except Execution.Error _)) =
      .ok (g.modules.map (entryOf factory)) := List.mapM_pure
  change (g.modules.mapM (fun m => (pure (entryOf factory m) : Except Execution.Error _))).bind
    (fun entries => .ok (Table.mk entries Execution.defaultLimit)) = _
  rw [hentries]
  rfl

theorem get?_tableOf (g : Graph) (factory : Module → Nat → Body α) (limit : Nat) (id : ModuleId) :
    (tableOf g factory limit).get? id = (g.get? id).map (entryOf factory) := by
  rw [Table.get?, tableOf, List.find?_map]
  rfl

section

variable {p : Printed α} {limit : Nat} {waiting : List (Frame α)} {start : State α}

/-- The machine comes to an end that agrees with a result, or to the load of the module that was
too deep. -/
def Follows (p : Printed α) (limit : Nat) (start : State α) (waiting : List (Frame α)) :
    Except Execution.Error α × Trace → Prop
  | (result, t) =>
    (∃ outcome, Agrees result outcome ∧
      p.RunWithin limit start ⟨.ended outcome, waiting, t.map ModuleId.path⟩) ∨
    ∃ id deep, result = .error (.tooDeep id limit) ∧ deep.length = limit ∧
      p.RunWithin limit start ⟨.load id.path, deep, t.map ModuleId.path⟩

theorem Follows.after {mid : State α} {result : Except Execution.Error α × Trace}
    (hfirst : p.RunWithin limit start mid) (h : Follows p limit mid waiting result) :
    Follows p limit start waiting result := by
  obtain ⟨outcome, hagrees, hrun⟩ | ⟨id, deep, hresult, hdeep, hrun⟩ := h
  · exact .inl ⟨outcome, hagrees, hfirst.trans hrun⟩
  · exact .inr ⟨id, deep, hresult, hdeep, hfirst.trans hrun⟩

theorem Follows.step {next : State α} {result : Except Execution.Error α × Trace}
    (hstep : p.step start = some next) (hnested : next.nested ≤ limit)
    (h : Follows p limit next waiting result) : Follows p limit start waiting result :=
  .after (.last hstep hnested) h

theorem Follows.ended {result : Except Execution.Error α} {outcome : Except Thrown α} {t : Trace}
    (hagrees : Agrees result outcome)
    (hstep : p.step start = some ⟨.ended outcome, waiting, t.map ModuleId.path⟩)
    (hnested : waiting.length ≤ limit) : Follows p limit start waiting (result, t) :=
  .inl ⟨outcome, hagrees, .last hstep hnested⟩

end

section

variable (banner? : Option String) (g : Graph) (entry : ModuleId)
  (factory : Module → Nat → Body α) (limit : Nat)

/-- A module's code is followed when the loads of its requires are. -/
theorem runBehaviour_follows {load : ModuleId → Trace → Except Execution.Error α × Trace}
    (m : Module) (waiting : List (Frame α)) (hnested : waiting.length < limit)
    (hload : ∀ f target t, Follows (.ofGraph banner? g entry factory) limit
      ⟨.load target.path, f :: waiting, t.map ModuleId.path⟩ (f :: waiting) (load target t))
    (body : Body α) (t : Trace) :
    Follows (.ofGraph banner? g entry factory) limit
      ⟨.run m.id.path (.ofModule m (factory m)) body, waiting, t.map ModuleId.path⟩ waiting
      (Table.runBehaviour load (entryOf factory m) (body.behaviour m.id) t) := by
  have hle : waiting.length ≤ limit := Nat.le_of_lt hnested
  induction body generalizing t with
  | done exports => exact .ended (.done exports) rfl hle
  | fail reason => exact .ended (.own m.id reason) rfl hle
  | require specifier next ih =>
    have hlook := dependency?_ofModule m (factory m) specifier
    rw [Body.behaviour, Table.runBehaviour]
    cases htarget : m.dependencies.get? specifier with
    | none =>
      rw [htarget] at hlook
      have hget : (entryOf factory m).dependencies.get? specifier = none := htarget
      rw [hget]
      refine .ended (.missingSpecifier m.id specifier) ?_ hle
      rw [Printed.step, hlook]
      rfl
    | some target =>
      rw [htarget] at hlook
      have hget : (entryOf factory m).dependencies.get? specifier = some target := htarget
      rw [hget]
      have hstep : (Printed.ofGraph banner? g entry factory).step
          ⟨.run m.id.path (.ofModule m (factory m)) (.require specifier next), waiting,
            t.map ModuleId.path⟩ =
          some ⟨.load target.path, ⟨m.id.path, .ofModule m (factory m), next⟩ :: waiting,
            t.map ModuleId.path⟩ := by
        rw [Printed.step, hlook]
        rfl
      refine .step hstep hnested ?_
      have hfollows := hload ⟨m.id.path, .ofModule m (factory m), next⟩ target t
      dsimp only
      generalize load target t = loaded at hfollows
      obtain ⟨result, t'⟩ := loaded
      obtain ⟨outcome, hagrees, hrun⟩ | ⟨id, deep, rfl, hdeep, hrun⟩ := hfollows
      · refine .after hrun ?_
        cases result with
        | ok exports =>
          cases hagrees
          exact .step rfl hnested (ih exports t')
        | error e =>
          obtain ⟨thrown, rfl⟩ := hagrees.exists_thrown
          exact .ended hagrees rfl hle
      · exact .inr ⟨id, deep, rfl, hdeep, hrun⟩

/-- Loading a module is followed from every state in which as many modules are nested as there is
room left. -/
theorem loadWithin_follows (room : Nat) (id : ModuleId) (waiting : List (Frame α))
    (hroom : waiting.length + room = limit) (t : Trace) :
    Follows (.ofGraph banner? g entry factory) limit
      ⟨.load id.path, waiting, t.map ModuleId.path⟩ waiting
      ((tableOf g factory limit).loadWithin room id t) := by
  induction room generalizing id waiting t with
  | zero => exact .inr ⟨id, waiting, rfl, hroom, .refl⟩
  | succ room ih =>
    have hlook := record?_ofGraph banner? g entry factory id
    rw [Table.loadWithin, get?_tableOf]
    cases hmodule : g.get? id with
    | none =>
      rw [hmodule] at hlook
      refine .ended (.missingModule id) ?_ (by omega)
      rw [Printed.step, hlook]
      rfl
    | some m =>
      rw [hmodule] at hlook
      have hid : m.id = id := by
        rw [Graph.get?] at hmodule
        simpa using List.find?_some hmodule
      subst hid
      have hstep : (Printed.ofGraph banner? g entry factory).step
          ⟨.load m.id.path, waiting, t.map ModuleId.path⟩ =
          some ⟨.run m.id.path (.ofModule m (factory m)) (factory m (t.count m.id)), waiting,
            (t ++ [m.id]).map ModuleId.path⟩ := by
        rw [Printed.step, hlook]
        simp only [Option.map_some, Record.ofModule, List.map_append, List.map_cons, List.map_nil,
          List.count_map_of_injective _ _ ModuleId.path_injective]
      refine .step hstep (show waiting.length + 1 ≤ limit by omega) ?_
      exact runBehaviour_follows banner? g entry factory limit m waiting (by omega)
        (fun f target t => ih target (f :: waiting) (by simp; omega) t) _ _

end

/-- The script of a graph starts by loading its entry. -/
theorem start?_ofGraph (banner? : Option String) (g : Graph) (factory : Module → Nat → Body α)
    (id : ModuleId) (ran : List String) :
    (Printed.ofGraph banner? g id factory).start? ran = some ⟨.load id.path, [], ran⟩ := by
  rw [Printed.start?, Printed.ofGraph, textOf?_path]
  rfl

/-- Loading an entry is followed by the script from its start. -/
theorem load_follows (banner? : Option String) (g : Graph) (factory : Module → Nat → Body α)
    (limit : Nat) (id : ModuleId) (t : Trace) :
    Follows (.ofGraph banner? g id factory) limit ⟨.load id.path, [], t.map ModuleId.path⟩ []
      ((tableOf g factory limit).load id t) :=
  loadWithin_follows banner? g id factory limit limit id [] (Nat.zero_add _) t

/-- Where a module was too deep that is missing, the script ends with that. -/
theorem endsWithin_of_missing (banner? : Option String) (g : Graph)
    (factory : Module → Nat → Body α) (limit : Nat) {id x : ModuleId} {t t' : Trace}
    (hload : (tableOf g factory limit).load id t = (.error (.tooDeep x limit), t'))
    (hx : g.get? x = none) :
    (Printed.ofGraph banner? g id factory).EndsWithin limit (t.map ModuleId.path)
      (.error (.missingModule x.path)) (t'.map ModuleId.path) := by
  have hfollows := load_follows banner? g factory limit id t
  rw [hload] at hfollows
  obtain ⟨outcome, hagrees, -⟩ | ⟨y, deep, hy, hdeep, hrun⟩ := hfollows
  · cases hagrees
  · cases hy
    have hlook := record?_ofGraph banner? g id factory x
    rw [hx] at hlook
    have hstep : (Printed.ofGraph banner? g id factory).step
        ⟨.load x.path, deep, t'.map ModuleId.path⟩ =
        some ⟨.ended (.error (.missingModule x.path)), deep, t'.map ModuleId.path⟩ := by
      rw [Printed.step, hlook]
      rfl
    refine ⟨_, start?_ofGraph banner? g factory id _, hrun.trans ?_⟩
    exact Printed.RunWithin.step hstep (Nat.le_of_eq hdeep) (.unwind _ deep _ (Nat.le_of_eq hdeep))

/-- The table of a graph and the script of its bundle, which are given the same code for the
modules, run the same modules in the same order and agree on the outcome, unless the table finds a
module too deep or the script nests more modules than the limit. The one difference is a missing
module that is asked for where no more may be nested. -/
theorem load_follows_script (banner? : Option String) (g : Graph)
    (factory : Module → Nat → Body α) (limit : Nat) (id : ModuleId) (t : Trace) :
    (Printed.ofGraph banner? g id factory).render = Bundle.render banner? g id ∧
    ∃ table, Table.ofGraph g (fun m => .ok fun n => (factory m n).behaviour m.id) = .ok table ∧
      ∀ result t', Table.load { table with limit := limit } id t = (result, t') →
        ((∀ x, result ≠ .error (.tooDeep x limit)) →
          ∃ outcome, Agrees result outcome ∧
            (Printed.ofGraph banner? g id factory).EndsWithin limit (t.map ModuleId.path) outcome
              (t'.map ModuleId.path)) ∧
        ∀ outcome ran,
          (Printed.ofGraph banner? g id factory).EndsWithin limit (t.map ModuleId.path) outcome
              ran →
            ran = t'.map ModuleId.path ∧
            (Agrees result outcome ∨
              ∃ x deep, result = .error (.tooDeep x limit) ∧
                outcome = .error (.missingModule x.path) ∧ deep.length = limit ∧
                (Printed.ofGraph banner? g id factory).Reaches limit (t.map ModuleId.path)
                  ⟨.load x.path, deep, ran⟩) := by
  refine ⟨Printed.render_ofGraph banner? g id factory, _, ofGraph_entryOf g factory, ?_⟩
  intro result t' hload
  have hstart := start?_ofGraph banner? g factory id (t.map ModuleId.path)
  have hfollows := load_follows banner? g factory limit id t
  rw [show (tableOf g factory limit).load id t = (result, t') from hload] at hfollows
  obtain ⟨outcome, hagrees, hrun⟩ | ⟨x, deep, rfl, hdeep, hrun⟩ := hfollows
  · refine ⟨fun _ => ⟨outcome, hagrees, _, hstart, hrun⟩, ?_⟩
    rintro outcome' ran ⟨start, hstart', hrun'⟩
    rw [hstart] at hstart'
    cases hstart'
    cases hrun.end_unique (Printed.step_end _ _) hrun' (Printed.step_end _ _)
    exact ⟨rfl, .inl hagrees⟩
  · refine ⟨fun h => absurd rfl (h x), ?_⟩
    rintro outcome' ran ⟨start, hstart', hrun'⟩
    rw [hstart] at hstart'
    cases hstart'
    obtain ⟨rfl, rfl⟩ := (hrun.toEnd hrun' (Printed.step_end _ _)).missing_of_full hdeep
    exact ⟨rfl, .inr ⟨x, deep, rfl, rfl, hdeep, _, hstart, hrun⟩⟩

/-- Three modules, the last of which is required by both others. -/
def sharedGraph : Graph where
  modules := [
    ⟨⟨["a"], by decide⟩, .ofList [("./b", ⟨["b"], by decide⟩), ("./c", ⟨["c"], by decide⟩)], ""⟩,
    ⟨⟨["b"], by decide⟩, .ofList [("./c", ⟨["c"], by decide⟩)], ""⟩,
    ⟨⟨["c"], by decide⟩, .empty, ""⟩]
  nodup := by decide

/-- Every module exports one more than what it requires, in the order of the specifiers. -/
def summing (m : Module) (_ : Nat) : Body Nat :=
  m.dependencies.keys.foldr (fun specifier rest n => .require specifier fun x => rest (n + x))
    (fun n => .done (n + 1)) 0

theorem load_follows_script_shared :
    ∃ outcome ran, (Printed.ofGraph none sharedGraph ⟨["a"], by decide⟩ summing).EndsWithin 3 []
        outcome ran ∧
      outcome = .ok 4 ∧ ran = ["/a", "/b", "/c", "/c"] := by
  obtain ⟨-, table, htable, hload⟩ :=
    load_follows_script none sharedGraph summing 3 ⟨["a"], by decide⟩ []
  cases (ofGraph_entryOf sharedGraph summing).symm.trans htable
  obtain ⟨hends, hagrees⟩ := hload (.ok 4) [⟨["a"], by decide⟩, ⟨["b"], by decide⟩,
    ⟨["c"], by decide⟩, ⟨["c"], by decide⟩] (by decide +kernel)
  obtain ⟨outcome, -, hend⟩ := hends (by simp)
  obtain ⟨-, hsame | ⟨_, _, hdeep, -⟩⟩ := hagrees _ _ hend
  · cases hsame
    exact ⟨_, _, hend, rfl, rfl⟩
  · cases hdeep

/-- A module whose only dependency is missing. -/
def missingGraph : Graph where
  modules := [⟨⟨["a"], by decide⟩, .ofList [("./x", ⟨["x"], by decide⟩)], ""⟩]
  nodup := by decide

/-- At the limit the table looks for no module: it finds the missing one too deep, which the script
finds missing without nesting more than the limit. -/
theorem load_missing_at_limit :
    (Printed.ofGraph none missingGraph ⟨["a"], by decide⟩ summing).EndsWithin 1 []
        (.error (.missingModule "/x")) ["/a"] ∧
      ∃ table, Table.ofGraph missingGraph (fun m => .ok fun n => (summing m n).behaviour m.id) =
          .ok table ∧
        (Table.load { table with limit := 1 } ⟨["a"], by decide⟩ []).1 =
          .error (.tooDeep ⟨["x"], by decide⟩ 1) ∧
        ¬ Agrees (Table.load { table with limit := 1 } ⟨["a"], by decide⟩ []).1
          (.error (.missingModule "/x")) := by
  have hload : (tableOf missingGraph summing 1).load ⟨["a"], by decide⟩ [] =
      (.error (.tooDeep ⟨["x"], by decide⟩ 1), [⟨["a"], by decide⟩]) := by decide +kernel
  have hmissing : missingGraph.get? ⟨["x"], by decide⟩ = none := by decide +kernel
  have htable : { tableOf missingGraph summing Execution.defaultLimit with limit := 1 } =
      tableOf missingGraph summing 1 := rfl
  have hpath : ModuleId.path ⟨["x"], by decide⟩ = "/x" := by decide +kernel
  have hran : [ModuleId.path ⟨["a"], by decide⟩] = ["/a"] := by decide +kernel
  have hends := endsWithin_of_missing none missingGraph summing 1 hload hmissing
  rw [hpath, List.map_cons, List.map_nil, hran] at hends
  refine ⟨hends, _, ofGraph_entryOf missingGraph summing, ?_⟩
  rw [htable, hload]
  refine ⟨rfl, ?_⟩
  intro hagrees
  cases hagrees

end ModuleBundler.Bundle
