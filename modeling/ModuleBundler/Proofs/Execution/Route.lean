import Mathlib.Data.Set.Card
import ModuleBundler.Proofs.Execution.Limit

/-!
# Which modules run, and how often

Where every unit requires each of its specifiers once, a load runs one unit for each route of
specifiers that leads out of the module it starts with. It succeeds exactly when the limit is as
long as the longest route, so never when a route leads round a cycle.
-/

namespace ModuleBundler

/-! ## Routes -/

namespace Graph

/-- The specifiers lead from one module to another. -/
inductive Route (g : Graph) : ModuleId → List String → ModuleId → Prop where
  | here (id : ModuleId) : Route g id [] id
  | step {id target x : ModuleId} {m : Module} {specifier : String} {rest : List String}
    (hmodule : g.get? id = some m) (htarget : m.dependencies.get? specifier = some target)
    (hrest : Route g target rest x) : Route g id (specifier :: rest) x

variable {g : Graph} {id x y : ModuleId}

theorem Route.append {route rest : List String} (h : g.Route id route x) (h' : g.Route x rest y) :
    g.Route id (route ++ rest) y := by
  induction h with
  | here _ => exact h'
  | step hmodule htarget _ ih => exact .step hmodule htarget (ih h')

/-- Every route visits at most so many modules, counted with repetition. -/
def Fits (g : Graph) (n : Nat) (id : ModuleId) : Prop :=
  ∀ route x, g.Route id route x → route.length + 1 ≤ n

theorem not_fits_zero : ¬ g.Fits 0 id := fun h => absurd (h [] id (.here id)) (by simp)

theorem fits_succ {m : Module} {n : Nat} (hmodule : g.get? id = some m) :
    g.Fits (n + 1) id ↔ ∀ d ∈ m.dependencies.entries, g.Fits n d.2 := by
  constructor
  · intro h d hd route x hroute
    have hlonger := h _ _ (.step hmodule (OrderedMap.get?_of_mem hd) hroute)
    simpa using hlonger
  · rintro h route x (_ | ⟨hmodule', htarget, hrest⟩)
    · simp
    · rw [hmodule] at hmodule'
      cases hmodule'
      have hshorter := h _ (OrderedMap.mem_entries_of_get? htarget) _ _ hrest
      simpa using hshorter

/-- No route that fits leads round a cycle. -/
theorem Fits.acyclic {n : Nat} (h : g.Fits n id) {route cycle : List String}
    (hroute : g.Route id route x) (hcycle : g.Route x cycle x) : cycle = [] := by
  have hround : ∀ k, g.Route x (List.replicate k cycle).flatten x := by
    intro k
    induction k with
    | zero => exact .here x
    | succ k ih => exact hcycle.append ih
  have hlong := h _ _ (hroute.append (hround n))
  by_contra hne
  have hpos : 0 < cycle.length := List.length_pos_iff.2 hne
  have hmul : n ≤ n * cycle.length := Nat.le_mul_of_pos_right n hpos
  simp only [List.length_append, List.length_flatten, List.map_replicate,
    List.sum_replicate_nat] at hlong
  omega

end Graph

namespace Execution

/-- A module that begins to run, and the specifiers that led to it. -/
@[ext]
structure Visit where
  route : List String
  id : ModuleId

namespace Visit

/-- How many modules are then nested: the first one, and one more for each specifier. -/
def nested (v : Visit) : Nat := v.route.length + 1

/-- The visit, seen from a module that requires the first one. -/
def behind (specifier : String) (v : Visit) : Visit := ⟨specifier :: v.route, v.id⟩

end Visit

variable {α : Type}

namespace Table

/-! ## Loads that tell what they visit -/

/-- Runs a behaviour and tells what is visited. -/
def watchBehaviour (load : ModuleId → Trace → Except Error α × List Visit) (e : Entry α) :
    Behaviour α → Trace → Except Error α × List Visit
  | .done exports, _ => (.ok exports, [])
  | .fail error, _ => (.error error, [])
  | .require specifier next, t =>
    match e.dependencies.get? specifier with
    | none => watchBehaviour load e (next (.error (.unresolved e.id specifier))) t
    | some target =>
      let (result, visits) := load target t
      let (final, later) := watchBehaviour load e (next result) (t ++ visits.map Visit.id)
      (final, visits.map (.behind specifier) ++ later)

/-- Loads a module where `room` more may be nested, and tells what is visited. -/
def watchWithin (table : Table α) : Nat → ModuleId → Trace → Except Error α × List Visit
  | 0, id, _ => (.error (.tooDeep id table.limit), [])
  | room + 1, id, t =>
    match table.get? id with
    | none => (.error (.unknownModule id), [])
    | some e =>
      let (result, visits) := watchBehaviour (table.watchWithin room) e (e.unit (t.count id))
        (t ++ [id])
      (result, ⟨[], id⟩ :: visits)

/-- Loads a module and tells what is visited. -/
def watch (table : Table α) (id : ModuleId) (t : Trace) : Except Error α × List Visit :=
  table.watchWithin table.limit id t

theorem map_id_behind (specifier : String) (visits : List Visit) :
    (visits.map (.behind specifier)).map Visit.id = visits.map Visit.id := by
  simp [Function.comp_def, Visit.behind]

theorem runBehaviour_eq_watch {load : ModuleId → Trace → Except Error α × Trace}
    {watched : ModuleId → Trace → Except Error α × List Visit}
    (hload : ∀ id t, load id t = ((watched id t).1, t ++ (watched id t).2.map Visit.id))
    (e : Entry α) (b : Behaviour α) (t : Trace) :
    runBehaviour load e b t = ((watchBehaviour watched e b t).1,
      t ++ (watchBehaviour watched e b t).2.map Visit.id) := by
  induction b generalizing t with
  | done exports => simp [runBehaviour, watchBehaviour]
  | fail error => simp [runBehaviour, watchBehaviour]
  | require specifier next ih =>
    rw [runBehaviour, watchBehaviour]
    cases e.dependencies.get? specifier with
    | none => exact ih _ t
    | some target => simp only [hload, ih, List.map_append, map_id_behind, List.append_assoc]

/-- To tell what is visited changes nothing. -/
theorem loadWithin_eq_watch (table : Table α) (room : Nat) (id : ModuleId) (t : Trace) :
    table.loadWithin room id t = ((table.watchWithin room id t).1,
      t ++ (table.watchWithin room id t).2.map Visit.id) := by
  induction room generalizing id t with
  | zero => simp [loadWithin, watchWithin]
  | succ room ih =>
    rw [loadWithin, watchWithin]
    cases table.get? id with
    | none => simp
    | some e => simp [runBehaviour_eq_watch ih]

theorem watchBehaviour_nested {watched : ModuleId → Trace → Except Error α × List Visit}
    {room : Nat} (hload : ∀ id t, ∀ v ∈ (watched id t).2, v.nested ≤ room) (e : Entry α)
    (b : Behaviour α) (t : Trace) :
    ∀ v ∈ (watchBehaviour watched e b t).2, v.nested ≤ room + 1 := by
  induction b generalizing t with
  | done exports => simp [watchBehaviour]
  | fail error => simp [watchBehaviour]
  | require specifier next ih =>
    rw [watchBehaviour]
    cases e.dependencies.get? specifier with
    | none => exact ih _ t
    | some target =>
      simp only [List.forall_mem_append, List.forall_mem_map]
      exact ⟨fun v hv => Nat.succ_le_succ (hload target t v hv), ih _ _⟩

/-- Never more modules are nested than there is room for. -/
theorem watchWithin_nested (table : Table α) (room : Nat) (id : ModuleId) (t : Trace) :
    ∀ v ∈ (table.watchWithin room id t).2, v.nested ≤ room := by
  induction room generalizing id t with
  | zero => simp [watchWithin]
  | succ room ih =>
    rw [watchWithin]
    cases table.get? id with
    | none => simp
    | some e =>
      simp only [List.forall_mem_cons]
      exact ⟨Nat.le_add_left 1 room, watchBehaviour_nested ih e _ _⟩

end Table

/-! ## The visits along all routes -/

/-- What the routes out of a module visit, as far as `n` modules may be nested. -/
def visitsOf (g : Graph) : Nat → ModuleId → List Visit
  | 0, _ => []
  | n + 1, id =>
    ⟨[], id⟩ :: match g.get? id with
      | none => []
      | some m => m.dependencies.entries.flatMap fun d => (visitsOf g n d.2).map (.behind d.1)

section Visits

variable {g : Graph} {id : ModuleId} {n : Nat} {v : Visit}

theorem mem_visitsOf : v ∈ visitsOf g n id ↔ g.Route id v.route v.id ∧ v.nested ≤ n := by
  induction n generalizing id v with
  | zero => simp [visitsOf, Visit.nested]
  | succ n ih =>
    obtain ⟨route, x⟩ := v
    constructor
    · intro h
      rw [visitsOf, List.mem_cons] at h
      obtain hhere | h := h
      · cases hhere
        exact ⟨.here id, by simp [Visit.nested]⟩
      · cases hmodule : g.get? id with
        | none => simp [hmodule] at h
        | some m =>
          simp only [hmodule, List.mem_flatMap, List.mem_map, ih] at h
          obtain ⟨d, hd, v, ⟨hroute, hnested⟩, hv⟩ := h
          cases hv
          exact ⟨.step hmodule (OrderedMap.get?_of_mem hd) hroute, Nat.succ_le_succ hnested⟩
    · rintro ⟨_ | ⟨hmodule, htarget, hrest⟩, hnested⟩
      · simp [visitsOf]
      · rw [visitsOf, List.mem_cons, hmodule]
        refine .inr (List.mem_flatMap.2 ⟨_, OrderedMap.mem_entries_of_get? htarget, ?_⟩)
        refine List.mem_map.2 ⟨⟨_, x⟩, ih.2 ⟨hrest, ?_⟩, rfl⟩
        exact Nat.le_of_succ_le_succ hnested

theorem behind_injective (specifier : String) : Function.Injective (Visit.behind specifier) := by
  intro v w h
  simpa [Visit.behind, Visit.ext_iff] using h

theorem nodup_visitsOf : (visitsOf g n id).Nodup := by
  induction n generalizing id with
  | zero => simp [visitsOf]
  | succ n ih =>
    rw [visitsOf]
    cases g.get? id with
    | none => simp
    | some m =>
      rw [List.nodup_cons]
      refine ⟨by simp [Visit.behind], List.nodup_flatMap.2 ⟨?_, ?_⟩⟩
      · exact fun d _ => ih.map (behind_injective d.1)
      · have hkeys : (m.dependencies.entries.map Prod.fst).Nodup := m.dependencies.nodup
        rw [List.Nodup, List.pairwise_map] at hkeys
        refine hkeys.imp fun hne => ?_
        simp only [Function.onFun, List.disjoint_left, List.mem_map, not_exists, not_and]
        rintro _ ⟨v, -, rfl⟩ w - heq
        exact hne (congrArg (fun v : Visit => v.route.head?) heq.symm |> Option.some.inj)

/-- Where all routes fit, a module is visited once for each route to it. -/
theorem count_visitsOf (h : g.Fits n id) (x : ModuleId) :
    (((visitsOf g n id).map Visit.id).count x : ℕ∞) = {route | g.Route id route x}.encard := by
  let visits := (visitsOf g n id).filter fun v => v.id == x
  have hvisits : ∀ v, v ∈ visits ↔ g.Route id v.route v.id ∧ v.nested ≤ n ∧ v.id = x := by
    simp [visits, mem_visitsOf, and_assoc]
  have hnodup : (visits.map Visit.route).Nodup := by
    refine List.Nodup.map_on ?_ (nodup_visitsOf.filter _)
    intro v hv w hw hroute
    have hid : v.id = x := ((hvisits v).1 hv).2.2
    have hid' : w.id = x := ((hvisits w).1 hw).2.2
    exact Visit.ext hroute (hid.trans hid'.symm)
  have hroutes : {route | g.Route id route x} = ((visits.map Visit.route).toFinset : Set _) := by
    ext route
    simp only [Set.mem_ofPred_eq, List.coe_toFinset, List.mem_map, hvisits]
    constructor
    · exact fun hroute => ⟨⟨route, x⟩, ⟨hroute, h route x hroute, rfl⟩, rfl⟩
    · rintro ⟨v, ⟨hroute, -, rfl⟩, rfl⟩
      exact hroute
  rw [hroutes, Set.encard_coe_eq_coe_finsetCard, List.toFinset_card_of_nodup hnodup,
    List.length_map, List.count_eq_countP, List.countP_map, List.countP_eq_length_filter]
  rfl

end Visits

/-! ## Units that require each specifier once -/

/-- The behaviour requires these specifiers in order, each once, passes on the first failure, and
exports a value otherwise. -/
def Behaviour.RequiresEach {α : Type} : List String → Behaviour α → Prop
  | [], b => ∃ exports, b = .done exports
  | specifier :: rest, b => ∃ next, b = .require specifier next ∧
    (∀ e, next (.error e) = .fail e) ∧ ∀ exports, RequiresEach rest (next (.ok exports))

theorem Behaviour.requiresEach_inOrder {α : Type} (exports : α) (specifiers : List String) :
    (inOrder exports specifiers).RequiresEach specifiers := by
  induction specifiers with
  | nil => exact ⟨exports, rfl⟩
  | cons specifier rest ih => exact ⟨_, rfl, fun _ => rfl, fun _ => ih⟩

namespace Table

section Each

variable {e : Entry α} {limit : Nat}
  {watched : ModuleId → Trace → Except Error α × List Visit}

/-- A load visits all of these if every route fits, and otherwise finds a module too deep. -/
def Settles (limit : Nat) (fits : Prop) (visits : List Visit)
    (outcome : Except Error α × List Visit) : Prop :=
  (fits → ∃ exports, outcome = (.ok exports, visits)) ∧
    (¬ fits → ∃ x, outcome.1 = .error (.tooDeep x limit))

theorem watchBehaviour_settles {ds : List (String × ModuleId)} {fits : ModuleId → Prop}
    {visits : ModuleId → List Visit}
    (hds : ∀ d ∈ ds, e.dependencies.get? d.1 = some d.2)
    (hload : ∀ d ∈ ds, ∀ t, Settles limit (fits d.2) (visits d.2) (watched d.2 t))
    {b : Behaviour α} (hb : b.RequiresEach (ds.map Prod.fst)) (t : Trace) :
    Settles limit (∀ d ∈ ds, fits d.2) (ds.flatMap fun d => (visits d.2).map (.behind d.1))
      (watchBehaviour watched e b t) := by
  induction ds generalizing b t with
  | nil =>
    obtain ⟨exports, rfl⟩ := hb
    exact ⟨fun _ => ⟨exports, rfl⟩, fun h => absurd (by simp) h⟩
  | cons d ds ih =>
    obtain ⟨next, rfl, hfail, hrest⟩ := hb
    rw [List.forall_mem_cons] at hds hload
    obtain ⟨hfits, hdeep⟩ := hload.1 t
    rw [watchBehaviour, hds.1]
    by_cases hd : fits d.2
    · obtain ⟨exports, hwatched⟩ := hfits hd
      have hlater := ih hds.2 hload.2 (hrest exports) (t ++ (visits d.2).map Visit.id)
      simp only [hwatched, List.forall_mem_cons, List.flatMap_cons]
      refine ⟨fun hall => ?_, fun hnot => hlater.2 fun hall => hnot ⟨hd, hall⟩⟩
      obtain ⟨final, hfinal⟩ := hlater.1 hall.2
      exact ⟨final, by rw [hfinal]⟩
    · obtain ⟨x, hx⟩ := hdeep hd
      refine ⟨fun hall => absurd (hall d List.mem_cons_self) hd, fun _ => ⟨x, ?_⟩⟩
      simp only [hx, hfail, watchBehaviour]

/-- A load of a closed graph settles, however much room there is. -/
theorem watchWithin_settles (limit : Nat) {g : Graph} {units : Module → Unit α}
    (hclosed : ∀ m ∈ g.modules, ∀ d ∈ m.dependencyIds, d ∈ g.ids)
    (hunits : ∀ m ∈ g.modules, ∀ n, (units m n).RequiresEach m.dependencies.keys)
    (room : Nat) (id : ModuleId) (hid : id ∈ g.ids) (t : Trace) :
    Settles limit (g.Fits room id) (visitsOf g room id)
      (watchWithin ⟨g.modules.map (entryOf units), limit⟩ room id t) := by
  induction room generalizing id t with
  | zero => exact ⟨fun h => absurd h Graph.not_fits_zero, fun _ => ⟨id, rfl⟩⟩
  | succ room ih =>
    obtain ⟨m, hm, rfl⟩ := Graph.mem_ids_iff.1 hid
    have hmodule := Graph.get?_of_mem hm
    have hsettles := watchBehaviour_settles (e := entryOf units m)
      (fun d hd => OrderedMap.get?_of_mem hd)
      (fun d hd t => ih d.2 (hclosed m hm _ (List.mem_map_of_mem hd)) t)
      (hunits m hm (t.count m.id)) (t ++ [m.id])
    rw [watchWithin, get?_entryOf, hmodule, visitsOf, hmodule, Graph.fits_succ hmodule]
    refine ⟨fun h => ?_, hsettles.2⟩
    obtain ⟨exports, hexports⟩ := hsettles.1 h
    exact ⟨exports, congrArg (fun w => (w.1, Visit.mk [] m.id :: w.2)) hexports⟩

end Each

/-- Where the units of a closed graph require each of their specifiers once, a load succeeds exactly
when no route visits more modules than the limit, so that no cycle can be reached, and otherwise
finds a module too deep. It then runs every module once for each route to it, and never nests more
modules than the limit. -/
theorem load_by_routes {g : Graph} {compile : Module → Except Error (Unit α)} {table : Table α}
    (htable : ofGraph g compile = .ok table) {entry : ModuleId}
    (hvalid : g.validate entry = .ok ())
    (hunits : ∀ m ∈ g.modules, ∀ unit, compile m = .ok unit →
      ∀ n, (unit n).RequiresEach m.dependencies.keys)
    {id : ModuleId} (hid : id ∈ g.ids) (limit : Nat) (t : Trace) :
    ∃ result visits, watch { table with limit } id t = (result, visits) ∧
      load { table with limit } id t = (result, t ++ visits.map Visit.id) ∧
      ((∃ exports, result = .ok exports) ↔
        ∀ route x, g.Route id route x → route.length + 1 ≤ limit) ∧
      ((∀ exports, result ≠ .ok exports) → ∃ x, result = .error (.tooDeep x limit)) ∧
      (∀ v ∈ visits, v.nested ≤ limit) ∧
      ∀ exports, result = .ok exports →
        (∀ route x, g.Route id route x → ∀ cycle, g.Route x cycle x → cycle = []) ∧
        (∀ x, ((visits.map Visit.id).count x : ℕ∞) = {route | g.Route id route x}.encard) ∧
        ∀ v ∈ visits, g.Route id v.route v.id := by
  obtain ⟨hcompiled, rfl⟩ := ofGraph_ok htable
  have hsettles := watchWithin_settles limit (Graph.validate_eq_ok.1 hvalid).2
    (fun m hm => hunits m hm _ (hcompiled m hm)) limit id hid t
  have hload := loadWithin_eq_watch ⟨g.modules.map (entryOf (unitOf compile)), limit⟩ limit id t
  have hnested := watchWithin_nested ⟨g.modules.map (entryOf (unitOf compile)), limit⟩ limit id t
  cases hwatch : watchWithin ⟨g.modules.map (entryOf (unitOf compile)), limit⟩ limit id t with
  | mk result visits =>
    rw [hwatch] at hsettles hload hnested
    refine ⟨result, visits, hwatch, hload, ?_⟩
    by_cases hfits : g.Fits limit id
    · obtain ⟨exports, hok⟩ := hsettles.1 hfits
      cases hok
      refine ⟨⟨fun _ => hfits, fun _ => ⟨exports, rfl⟩⟩, fun h => absurd rfl (h exports), hnested,
        fun _ _ => ⟨?_, count_visitsOf hfits, ?_⟩⟩
      · exact fun route x hroute cycle => hfits.acyclic hroute
      · exact fun v hv => (mem_visitsOf.1 hv).1
    · obtain ⟨x, rfl⟩ : ∃ x, result = .error (.tooDeep x limit) := hsettles.2 hfits
      refine ⟨⟨?_, fun h => absurd h hfits⟩, fun _ => ⟨x, rfl⟩, hnested, ?_⟩
      · simp
      · simp

/-- Two modules that require a third one, the second of them under two names. -/
def diamondGraph : Graph where
  modules := [
    ⟨.ofRooted "/a", .ofList [("./b", .ofRooted "/b"), ("./c", .ofRooted "/c")], ""⟩,
    ⟨.ofRooted "/b", .ofList [("./d", .ofRooted "/d")], ""⟩,
    ⟨.ofRooted "/c", .ofList [("./d", .ofRooted "/d"), ("../d", .ofRooted "/d")], ""⟩,
    ⟨.ofRooted "/d", .empty, ""⟩]
  nodup := by decide

theorem load_by_routes_diamond :
    ∃ table : Table Nat,
      ofGraph diamondGraph (fun m => .ok fun _ => .inOrder 0 m.dependencies.keys) = .ok table ∧
      (∃ exports t, load { table with limit := 3 } (.ofRooted "/a") [] = (.ok exports, t) ∧
        t.count (.ofRooted "/d") = 3) ∧
      {route | diamondGraph.Route (.ofRooted "/a") route (.ofRooted "/d")}.encard = 3 ∧
      ∃ x t, load { table with limit := 2 } (.ofRooted "/a") [] = (.error (.tooDeep x 2), t) := by
  have htable : ofGraph diamondGraph (fun m => .ok fun _ => .inOrder 0 m.dependencies.keys) =
      .ok ⟨diamondGraph.modules.map (entryOf fun m _ => .inOrder 0 m.dependencies.keys),
        defaultLimit⟩ := rfl
  have hunits : ∀ m ∈ diamondGraph.modules, ∀ unit : Unit Nat,
      Except.ok (ε := Error) (fun _ : Nat => .inOrder 0 m.dependencies.keys) = .ok unit →
      ∀ n, (unit n).RequiresEach m.dependencies.keys := by
    rintro m - unit hunit n
    cases hunit
    exact Behaviour.requiresEach_inOrder 0 _
  have hvalid : diamondGraph.validate (.ofRooted "/a") = .ok () := by decide +kernel
  have hid : .ofRooted "/a" ∈ diamondGraph.ids := by decide +kernel
  refine ⟨_, htable, ?_⟩
  obtain ⟨result, visits, -, hload, -, -, -, hok⟩ := load_by_routes htable hvalid hunits hid 3 []
  have hthree : load { Table.mk (diamondGraph.modules.map
      (entryOf fun m _ => .inOrder 0 m.dependencies.keys)) defaultLimit with limit := 3 }
      (.ofRooted "/a") [] = (.ok 0, [.ofRooted "/a", .ofRooted "/b",
        .ofRooted "/d", .ofRooted "/c", .ofRooted "/d", .ofRooted "/d"]) := by
    decide +kernel
  rw [hthree, List.nil_append, Prod.mk.injEq] at hload
  obtain ⟨rfl, hvisits⟩ := hload
  have hcount := (hok 0 rfl).2.1 (.ofRooted "/d")
  rw [← hvisits] at hcount
  refine ⟨⟨0, _, hthree, by decide +kernel⟩, hcount.symm, ?_⟩
  obtain ⟨result, visits, -, hload, hiff, hdeep, -, -⟩ := load_by_routes htable hvalid hunits hid 2 []
  have hlong : diamondGraph.Route (.ofRooted "/a") ["./b", "./d"] (.ofRooted "/d") :=
    .step rfl rfl (.step rfl rfl (.here _))
  obtain ⟨x, rfl⟩ := hdeep fun exports hresult =>
    absurd (hiff.1 ⟨exports, hresult⟩ _ _ hlong) (by decide)
  exact ⟨x, _, hload⟩

end Table

end Execution

end ModuleBundler
