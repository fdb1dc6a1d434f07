import ModuleBundler.Execution
import ModuleBundler.Proofs.Graph.Expansion
import ModuleBundler.Proofs.OrderedMap

/-!
# Loading under a limit

A load that comes to an end under one limit comes to the same end under every higher one, as long
as units pass on that a module was too deep. In a closed graph no module is ever missing, and a
specifier is missing only where the module that asks for it does not have it.
-/

namespace ModuleBundler.Execution

variable {α : Type}

/-! ## What units do with the failures of their requires -/

/-- Too many modules were nested. -/
def Error.IsTooDeep : Error → Prop
  | .tooDeep _ _ => True
  | _ => False

/-- A module or a specifier was not found. -/
def Error.IsMissing : Error → Prop
  | .unknownModule _ => True
  | .unresolved _ _ => True
  | _ => False

/-- The error of a result, if it is one. -/
def errorsOf : Except Error α → List Error
  | .ok _ => []
  | .error e => [e]

/-- Whatever its requires give, the behaviour ends in a result that `P` allows after the errors
that they gave. -/
def Behaviour.Ends (P : List Error → Except Error α → Prop) : Behaviour α → List Error → Prop
  | .done exports, given => P given (.ok exports)
  | .fail e, given => P given (.error e)
  | .require _ next, given => ∀ result, (next result).Ends P (given ++ errorsOf result)

/-- The behaviour fails whenever one of its requires fails. -/
def Behaviour.Fails (b : Behaviour α) : Prop :=
  b.Ends (fun given result => given ≠ [] → ∃ e, result = .error e) []

/-- The behaviour fails with too great a depth whenever one of its requires does. -/
def Behaviour.AdmitsDepth (b : Behaviour α) : Prop :=
  b.Ends (fun given result => (∃ e ∈ given, e.IsTooDeep) → ∃ e, result = .error e ∧ e.IsTooDeep) []

/-- That something was not found, the behaviour only passes on. -/
def Behaviour.RelaysMissing (b : Behaviour α) : Prop :=
  b.Ends (fun given result => ∀ e, result = .error e → e.IsMissing → e ∈ given) []

/-- Requires the specifiers in order, passes on the first failure, and exports this otherwise. -/
def Behaviour.inOrder (exports : α) : List String → Behaviour α
  | [] => .done exports
  | specifier :: rest => .require specifier fun
    | .ok _ => inOrder exports rest
    | .error e => .fail e

theorem Behaviour.admitsDepth_inOrder (exports : α) (specifiers : List String) :
    (inOrder exports specifiers).AdmitsDepth := by
  induction specifiers with
  | nil => simp [AdmitsDepth, inOrder, Ends]
  | cons specifier rest ih =>
    intro result
    cases result with
    | ok _ => exact ih
    | error e => simp [Ends, errorsOf]

theorem Behaviour.relaysMissing_inOrder (exports : α) (specifiers : List String) :
    (inOrder exports specifiers).RelaysMissing := by
  induction specifiers with
  | nil => simp [RelaysMissing, inOrder, Ends]
  | cons specifier rest ih =>
    intro result
    cases result with
    | ok _ => exact ih
    | error e => simp [Ends, errorsOf]

namespace Table

/-! ## The table of a graph -/

section Graph

variable {g : Graph} {compile : Module → Except Error (Unit α)} {table : Table α}

/-- The unit of a module; a module that does not compile has none, and fails like its
compilation. -/
def unitOf (compile : Module → Except Error (Unit α)) (m : Module) : Unit α :=
  match compile m with
  | .ok unit => unit
  | .error e => fun _ => .fail e

/-- The entry of a module with this unit. -/
def entryOf (units : Module → Unit α) (m : Module) : Entry α := ⟨m.id, m.dependencies, units m⟩

theorem mapM_entryOf {ms : List Module} {entries : List (Entry α)}
    (h : (ms.mapM fun m => do return Entry.mk m.id m.dependencies (← compile m)) =
      Except.ok entries) :
    (∀ m ∈ ms, compile m = .ok (unitOf compile m)) ∧
      entries = ms.map (entryOf (unitOf compile)) := by
  induction ms generalizing entries with
  | nil =>
    cases h
    exact ⟨by simp, rfl⟩
  | cons m ms ih =>
    rw [List.mapM_cons] at h
    cases hunit : compile m with
    | error e =>
      rw [hunit] at h
      cases h
    | ok unit =>
      have hof : unitOf compile m = unit := by rw [unitOf, hunit]
      rw [hunit] at h
      cases hrest : ms.mapM fun m => do return Entry.mk m.id m.dependencies (← compile m) with
      | error e =>
        rw [hrest] at h
        cases h
      | ok rest =>
        rw [hrest] at h
        cases h
        obtain ⟨hcompiled, rfl⟩ := ih hrest
        refine ⟨?_, ?_⟩
        · rw [List.forall_mem_cons, hof]
          exact ⟨hunit, hcompiled⟩
        · rw [List.map_cons, entryOf, hof]

/-- A table has the modules of its graph, each with the unit that it was compiled to. -/
theorem ofGraph_ok (h : ofGraph g compile = .ok table) :
    (∀ m ∈ g.modules, compile m = .ok (unitOf compile m)) ∧
      table = ⟨g.modules.map (entryOf (unitOf compile)), defaultLimit⟩ := by
  rw [ofGraph] at h
  cases hentries : g.modules.mapM fun m => do
      return Entry.mk m.id m.dependencies (← compile m) with
  | error e =>
    rw [hentries] at h
    cases h
  | ok entries =>
    rw [hentries] at h
    cases h
    obtain ⟨hcompiled, rfl⟩ := mapM_entryOf hentries
    exact ⟨hcompiled, rfl⟩

theorem get?_entryOf (g : Graph) (units : Module → Unit α) (limit : Nat) (id : ModuleId) :
    (Table.mk (g.modules.map (entryOf units)) limit).get? id =
      (g.get? id).map (entryOf units) := by
  rw [get?, List.find?_map]
  rfl

end Graph

/-! ## One module at a time -/

section Run

variable {load load' : ModuleId → Trace → Except Error α × Trace} {e : Entry α} {b : Behaviour α}

/-- A require of the entry can fail like this. -/
inductive Gives (load : ModuleId → Trace → Except Error α × Trace) (e : Entry α) :
    Error → Prop where
  | unresolved {specifier : String} (h : e.dependencies.get? specifier = none) :
    Gives load e (.unresolved e.id specifier)
  | load {specifier : String} {target : ModuleId} {t : Trace} {error : Error}
    (htarget : e.dependencies.get? specifier = some target)
    (hload : (load target t).1 = .error error) : Gives load e error

/-- A run ends in a result that its behaviour allows after failures that its requires can have. -/
theorem runBehaviour_ends (load : ModuleId → Trace → Except Error α × Trace) (e : Entry α)
    {P : List Error → Except Error α → Prop} {given : List Error} (h : b.Ends P given)
    (t : Trace) : ∃ more, (∀ error ∈ more, Gives load e error) ∧
      P (given ++ more) (runBehaviour load e b t).1 := by
  induction b generalizing given t with
  | done exports => exact ⟨[], by simp, (List.append_nil given).symm ▸ h⟩
  | fail error => exact ⟨[], by simp, (List.append_nil given).symm ▸ h⟩
  | require specifier next ih =>
    rw [runBehaviour]
    cases htarget : e.dependencies.get? specifier with
    | none =>
      obtain ⟨more, hmore, hends⟩ := ih _ (h (.error (.unresolved e.id specifier))) t
      refine ⟨.unresolved e.id specifier :: more, ?_, ?_⟩
      · exact List.forall_mem_cons.2 ⟨.unresolved htarget, hmore⟩
      · simpa [errorsOf] using hends
    | some target =>
      obtain ⟨more, hmore, hends⟩ := ih _ (h (load target t).1) (load target t).2
      refine ⟨errorsOf (load target t).1 ++ more, ?_, ?_⟩
      · rw [List.forall_mem_append]
        refine ⟨fun error herror => .load htarget (t := t) ?_, hmore⟩
        cases hresult : (load target t).1 with
        | ok exports => simp [hresult, errorsOf] at herror
        | error error' =>
          rw [hresult, errorsOf, List.mem_singleton] at herror
          rw [herror]
      · simpa using hends

/-- A run that does not become too deep stays the same where loads do that do not. -/
theorem runBehaviour_mono {given : List Error}
    (hload : ∀ target t, (∀ error, (load target t).1 = .error error → ¬ error.IsTooDeep) →
      load' target t = load target t)
    (h : b.Ends (fun given result => (∃ e ∈ given, e.IsTooDeep) →
      ∃ e, result = .error e ∧ e.IsTooDeep) given) (t : Trace)
    (hend : ∀ error, (runBehaviour load e b t).1 = .error error → ¬ error.IsTooDeep) :
    runBehaviour load' e b t = runBehaviour load e b t := by
  induction b generalizing given t with
  | done exports => rfl
  | fail error => rfl
  | require specifier next ih =>
    rw [runBehaviour] at hend ⊢
    rw [runBehaviour]
    cases htarget : e.dependencies.get? specifier with
    | none =>
      rw [htarget] at hend
      exact ih _ (h _) t hend
    | some target =>
      rw [htarget] at hend
      have hsame : load' target t = load target t := by
        refine hload target t fun error herror hdeep => ?_
        obtain ⟨more, -, hends⟩ := runBehaviour_ends load e (h (load target t).1) (load target t).2
        obtain ⟨error', herror', hdeep'⟩ := hends ⟨error, by simp [herror, errorsOf], hdeep⟩
        exact hend error' herror' hdeep'
      dsimp only
      rw [hsame]
      exact ih _ (h _) _ hend

end Run

/-! ## Every nesting -/

section Nested

variable {table : Table α}

theorem loadWithin_mono (hunits : ∀ e ∈ table.entries, ∀ n, (e.unit n).AdmitsDepth)
    {room more : Nat} (hroom : room ≤ more) (limit : Nat) (id : ModuleId) (t : Trace)
    (hend : ∀ error, (table.loadWithin room id t).1 = .error error → ¬ error.IsTooDeep) :
    loadWithin { table with limit } more id t = table.loadWithin room id t := by
  induction room generalizing more id t with
  | zero => exact absurd trivial (hend _ rfl)
  | succ room ih =>
    obtain ⟨more, rfl⟩ : ∃ k, more = k + 1 := ⟨more - 1, by omega⟩
    rw [loadWithin, loadWithin]
    rw [loadWithin] at hend
    have hget : get? { table with limit } id = table.get? id := rfl
    rw [hget]
    cases hentry : table.get? id with
    | none => rfl
    | some e =>
      rw [hentry] at hend
      have hmem : e ∈ table.entries := List.mem_of_find?_eq_some hentry
      exact runBehaviour_mono (fun target t => ih (by omega) target t) (hunits e hmem _) _ hend

/-- A module is not missing, and a specifier only from a module that does not have it. -/
def Explained (g : Graph) : Error → Prop
  | .unknownModule _ => False
  | .unresolved importer specifier =>
    ∃ m, g.get? importer = some m ∧ specifier ∉ m.dependencies.keys
  | _ => True

theorem explained_of_gives {g : Graph} {units : Module → Unit α} {m : Module} {error : Error}
    {load : ModuleId → Trace → Except Error α × Trace} (hm : m ∈ g.modules)
    (hload : ∀ target ∈ m.dependencyIds, ∀ t error, (load target t).1 = .error error →
      Explained g error)
    (h : Gives load (entryOf units m) error) : Explained g error := by
  cases h with
  | unresolved hspecifier =>
    exact ⟨m, Graph.get?_of_mem hm, OrderedMap.get?_eq_none.1 hspecifier⟩
  | load htarget herror =>
    exact hload _ (OrderedMap.mem_values_of_get? htarget) _ _ herror

/-- In a closed graph every failure is explained. -/
theorem loadWithin_explained {g : Graph} {units : Module → Unit α} {limit : Nat}
    (hclosed : ∀ m ∈ g.modules, ∀ d ∈ m.dependencyIds, d ∈ g.ids)
    (hunits : ∀ m ∈ g.modules, ∀ n, (units m n).RelaysMissing)
    (room : Nat) (id : ModuleId) (hid : id ∈ g.ids) (t : Trace) (error : Error)
    (herror : (loadWithin ⟨g.modules.map (entryOf units), limit⟩ room id t).1 = .error error) :
    Explained g error := by
  induction room generalizing id t error with
  | zero =>
    cases herror
    trivial
  | succ room ih =>
    obtain ⟨m, hm, rfl⟩ := Graph.mem_ids_iff.1 hid
    rw [loadWithin, get?_entryOf, Graph.get?_of_mem hm] at herror
    obtain ⟨more, hmore, hends⟩ :=
      runBehaviour_ends _ (entryOf units m) (hunits m hm (t.count m.id)) (t ++ [m.id])
    by_cases hmissing : error.IsMissing
    · have hgiven : error ∈ more := by simpa using hends error herror hmissing
      exact explained_of_gives hm (fun d hd => ih d (hclosed m hm d hd)) (hmore error hgiven)
    · cases error <;> simp_all [Explained, Error.IsMissing]

end Nested

/-- Where units pass on that something was too deep, a load that does not become too deep under one
limit runs the same units in the same order under every higher one, and ends in the same way. Where
they only pass on that something is missing, a load of a closed graph never misses a module, and
misses a specifier only where the module that asks for it does not have it. -/
theorem load_under_limits {g : Graph} {compile : Module → Except Error (Unit α)} {table : Table α}
    (htable : ofGraph g compile = .ok table) (id : ModuleId) (t : Trace) :
    ((∀ m ∈ g.modules, ∀ unit, compile m = .ok unit → ∀ n, (unit n).AdmitsDepth) →
      ∀ limit more, limit ≤ more →
        (∀ error, (load { table with limit } id t).1 = .error error → ¬ error.IsTooDeep) →
        load { table with limit := more } id t = load { table with limit } id t) ∧
    ((∀ m ∈ g.modules, ∀ unit, compile m = .ok unit → ∀ n, (unit n).RelaysMissing) →
      ∀ entry, g.validate entry = .ok () → id ∈ g.ids → ∀ limit error,
        (load { table with limit } id t).1 = .error error →
        (∀ x, error ≠ .unknownModule x) ∧
        ∀ importer specifier, error = .unresolved importer specifier →
          ∃ m, g.get? importer = some m ∧ specifier ∉ m.dependencies.keys) := by
  obtain ⟨hcompiled, rfl⟩ := ofGraph_ok htable
  refine ⟨?_, ?_⟩
  · intro hunits limit more hmore hend
    refine loadWithin_mono ?_ hmore more id t hend
    simp only [List.forall_mem_map]
    exact fun m hm => hunits m hm _ (hcompiled m hm)
  · intro hunits entry hvalid hid limit error herror
    have hclosed := (Graph.validate_eq_ok.1 hvalid).2
    have hexplained := loadWithin_explained hclosed
      (fun m hm => hunits m hm _ (hcompiled m hm)) limit id hid t error herror
    refine ⟨?_, ?_⟩
    · rintro x rfl
      exact hexplained
    · rintro importer specifier rfl
      exact hexplained

/-- A module that requires another. -/
def pairGraph : Graph where
  modules := [
    ⟨.ofRooted "/a", .ofList [("./b", .ofRooted "/b")], ""⟩,
    ⟨.ofRooted "/b", .empty, ""⟩]
  nodup := by decide

theorem load_under_limits_pair :
    ∃ table : Table Nat,
      ofGraph pairGraph (fun m => .ok fun _ => .inOrder 0 m.dependencies.keys) = .ok table ∧
      load { table with limit := 5 } (.ofRooted "/a") [] =
        (.ok 0, [.ofRooted "/a", .ofRooted "/b"]) ∧
      ∀ error, (load { table with limit := 1 } (.ofRooted "/a") []).1 = .error error →
        ∀ x, error ≠ .unknownModule x := by
  have htable : ofGraph pairGraph (fun m => .ok fun _ => .inOrder 0 m.dependencies.keys) =
      .ok ⟨pairGraph.modules.map (entryOf fun m _ => .inOrder 0 m.dependencies.keys),
        defaultLimit⟩ := rfl
  obtain ⟨hmono, hclosed⟩ := load_under_limits htable (.ofRooted "/a") []
  refine ⟨_, htable, ?_, ?_⟩
  · have hload : load { Table.mk (pairGraph.modules.map
        (entryOf fun m _ => .inOrder 0 m.dependencies.keys)) defaultLimit with limit := 2 }
        (.ofRooted "/a") [] = (.ok 0, [.ofRooted "/a", .ofRooted "/b"]) := by
      decide +kernel
    rw [← hload]
    refine hmono ?_ 2 5 (by decide) (by simp [hload])
    rintro m - unit hunit n
    cases hunit
    exact Behaviour.admitsDepth_inOrder 0 _
  · intro error herror
    refine (hclosed ?_ (.ofRooted "/a") (by decide +kernel) (by decide +kernel) 1 error herror).1
    rintro m - unit hunit n
    cases hunit
    exact Behaviour.relaysMissing_inOrder 0 _

/-- Fails in its own way, whatever its requires give. -/
def stubborn (m : Module) : Behaviour Nat :=
  match m.dependencies.keys with
  | [] => .done 0
  | specifier :: _ => .require specifier fun _ => .fail (.failed m.id "boom")

/-- Fails as if a module were missing. -/
def pretending (_ : Module) : Behaviour Nat := .fail (.unknownModule (.ofRooted "/x"))

/-- Units that fail whenever one of their requires fails, but in their own way, can hide that
something was too deep: they answer under a limit of one already, and run one more unit under a
limit of two. And they can report a missing module where none is. -/
theorem load_hides_depth :
    (∃ table, ofGraph pairGraph (fun m => .ok fun _ => stubborn m) = .ok table ∧
      (∀ m ∈ pairGraph.modules, (stubborn m).Fails) ∧
      load { table with limit := 1 } (.ofRooted "/a") [] =
        (.error (.failed (.ofRooted "/a") "boom"), [.ofRooted "/a"]) ∧
      load { table with limit := 2 } (.ofRooted "/a") [] =
        (.error (.failed (.ofRooted "/a") "boom"),
          [.ofRooted "/a", .ofRooted "/b"])) ∧
    ∃ table, ofGraph pairGraph (fun m => .ok fun _ => pretending m) = .ok table ∧
      (∀ m ∈ pairGraph.modules, (pretending m).Fails) ∧
      pairGraph.validate (.ofRooted "/a") = .ok () ∧
      load { table with limit := 1 } (.ofRooted "/a") [] =
        (.error (.unknownModule (.ofRooted "/x")), [.ofRooted "/a"]) := by
  refine ⟨⟨_, rfl, ?_, by decide +kernel, by decide +kernel⟩,
    _, rfl, ?_, by decide +kernel, by decide +kernel⟩
  · intro m _
    rw [stubborn]
    split
    · simp [Behaviour.Fails, Behaviour.Ends]
    · simp [Behaviour.Fails, Behaviour.Ends]
  · simp [pretending, Behaviour.Fails, Behaviour.Ends]

end Table

end ModuleBundler.Execution
