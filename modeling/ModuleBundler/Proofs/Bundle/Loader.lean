import Mathlib.Data.List.Nodup
import Mathlib.Logic.Relation
import ModuleBundler.Bundle.Script
import ModuleBundler.Proofs.Json.Compact
import ModuleBundler.Proofs.Json.Members
import ModuleBundler.Proofs.Path

/-!
# The loader of a bundle

What the script of a bundle does when it is run. The texts of its table are read as JSON, the code
of a module is known by what it does, and the loader is a machine with a stack of the modules that
wait for one of their requires.
-/

namespace ModuleBundler.Bundle

variable {α : Type}

/-- What the code of a module does: it requires modules and ends with its exports or with an
exception. An exception that a require throws is not caught. -/
inductive Body (α : Type) where
  | done (exports : α)
  | fail (reason : String)
  | require (specifier : String) (next : α → Body α)

/-- A property of the table: the texts that are printed, and what the factory does, given how often
it was called before. -/
structure Record (α : Type) where
  key : String
  dependencies : String
  code : String
  factory : Nat → Body α

namespace Record

def ofModule (m : Module) (factory : Nat → Body α) : Record α where
  key := m.id.toJson.compact
  dependencies := (Dependencies.toJson m.dependencies).compact
  code := m.code
  factory := factory

def render (r : Record α) : String :=
  r.key ++ ": \x7b\n  dependencies: " ++ r.dependencies ++
    ",\n  factory: function (require, module, exports) \x7b\n" ++ r.code ++ "\n  \x7d\n\x7d,\n"

end Record

/-- The parts of a bundle's script. -/
structure Printed (α : Type) where
  banner? : Option String
  records : List (Record α)
  entry : String

/-- The text that a literal denotes. -/
def textOf? (literal : String) : Option String :=
  match Json.parse literal with
  | .ok (.string s) => some s
  | _ => none

/-- The identity under a specifier in the record's own dependencies. -/
def Record.dependency? (r : Record α) (specifier : String) : Option String :=
  match Json.parse r.dependencies with
  | .ok (.object members) =>
    match Json.Value.member? specifier members with
    | some (.string id) => some id
    | _ => none
  | _ => none

/-! ## The machine -/

/-- What an exception is about. -/
inductive Thrown where
  | missingModule (id : String)
  | missingSpecifier (specifier id : String)
  | own (id reason : String)
  deriving DecidableEq

def Thrown.message : Thrown → String
  | .missingModule id => "Cannot find module id '" ++ id ++ "'"
  | .missingSpecifier specifier id =>
    "Cannot find module '" ++ specifier ++ "' from '" ++ id ++ "'"
  | .own _ reason => reason

inductive Control (α : Type) where
  | load (id : String)
  | run (id : String) (record : Record α) (body : Body α)
  | ended (outcome : Except Thrown α)

/-- A module that waits for one of its requires. -/
structure Frame (α : Type) where
  id : String
  record : Record α
  next : α → Body α

/-- `ran` are the modules whose factories were called, in that order. -/
structure State (α : Type) where
  control : Control α
  waiting : List (Frame α)
  ran : List String

/-- The number of modules that have begun and not ended. -/
def State.nested (s : State α) : Nat :=
  match s.control with
  | .run .. => s.waiting.length + 1
  | _ => s.waiting.length

namespace Printed

def ofGraph (banner? : Option String) (g : Graph) (entry : ModuleId)
    (factory : Module → Nat → Body α) : Printed α where
  banner? := banner?
  records := g.modules.map fun m => .ofModule m (factory m)
  entry := entry.toJson.compact

def render (p : Printed α) : String :=
  (match p.banner? with
    | some banner => banner ++ "\n"
    | none => "") ++
  loaderHead ++ String.join (p.records.map Record.render) ++ "\x7d, " ++ p.entry ++ ");\n"

/-- The parts of a graph's script are its text. -/
theorem render_ofGraph (banner? : Option String) (g : Graph) (entry : ModuleId)
    (factory : Module → Nat → Body α) :
    (ofGraph banner? g entry factory).render = Bundle.render banner? g entry := by
  have hrecords : (ofGraph banner? g entry factory).records.map Record.render =
      g.modules.map renderModule := by
    rw [ofGraph, List.map_map]
    rfl
  rw [render, hrecords]
  rfl

/-- The record of an identity. Of properties with one key the last one counts. -/
def record? (p : Printed α) (id : String) : Option (Record α) :=
  p.records.reverse.find? fun r => textOf? r.key == some id

/-- One step of the loader. -/
def step (p : Printed α) : State α → Option (State α)
  | ⟨.load id, waiting, ran⟩ =>
    match p.record? id with
    | none => some ⟨.ended (.error (.missingModule id)), waiting, ran⟩
    | some r => some ⟨.run id r (r.factory (ran.count id)), waiting, ran ++ [id]⟩
  | ⟨.run _ _ (.done exports), waiting, ran⟩ => some ⟨.ended (.ok exports), waiting, ran⟩
  | ⟨.run id _ (.fail reason), waiting, ran⟩ =>
    some ⟨.ended (.error (.own id reason)), waiting, ran⟩
  | ⟨.run id r (.require specifier next), waiting, ran⟩ =>
    match r.dependency? specifier with
    | none => some ⟨.ended (.error (.missingSpecifier specifier id)), waiting, ran⟩
    | some target => some ⟨.load target, ⟨id, r, next⟩ :: waiting, ran⟩
  | ⟨.ended (.ok exports), f :: waiting, ran⟩ =>
    some ⟨.run f.id f.record (f.next exports), waiting, ran⟩
  | ⟨.ended (.error e), _ :: waiting, ran⟩ => some ⟨.ended (.error e), waiting, ran⟩
  | ⟨.ended _, [], _⟩ => none

/-- The state in which the script loads its entry. -/
def start? (p : Printed α) (ran : List String) : Option (State α) :=
  (textOf? p.entry).map fun id => ⟨.load id, [], ran⟩

/-- A run in which no more than `limit` modules are nested. -/
def RunWithin (p : Printed α) (limit : Nat) : State α → State α → Prop :=
  Relation.ReflTransGen fun s s' => p.step s = some s' ∧ s'.nested ≤ limit

/-- The script reaches a state without ever nesting more than `limit` modules. -/
def Reaches (p : Printed α) (limit : Nat) (ran : List String) (s : State α) : Prop :=
  ∃ s₀, p.start? ran = some s₀ ∧ p.RunWithin limit s₀ s

/-- The script ends without ever nesting more than `limit` modules. -/
def EndsWithin (p : Printed α) (limit : Nat) (ran : List String) (outcome : Except Thrown α)
    (ran' : List String) : Prop :=
  p.Reaches limit ran ⟨.ended outcome, [], ran'⟩

variable {p : Printed α} {limit : Nat} {s s' s'' : State α}

theorem step_end (outcome : Except Thrown α) (ran : List String) :
    p.step ⟨.ended outcome, [], ran⟩ = none := by
  cases outcome <;> rfl

theorem RunWithin.step (hstep : p.step s = some s') (hnested : s'.nested ≤ limit)
    (hrun : p.RunWithin limit s' s'') : p.RunWithin limit s s'' :=
  .head ⟨hstep, hnested⟩ hrun

theorem RunWithin.last (hstep : p.step s = some s') (hnested : s'.nested ≤ limit) :
    p.RunWithin limit s s' :=
  .single ⟨hstep, hnested⟩

/-- Every state on the way to the end leads to that end. -/
theorem RunWithin.toEnd (hrun : p.RunWithin limit s s') (hend : p.RunWithin limit s s'')
    (hhalt : p.step s'' = none) : p.RunWithin limit s' s'' := by
  have hunique : Relator.RightUnique
      (fun s s' : State α => p.step s = some s' ∧ s'.nested ≤ limit) := by
    intro a b c hb hc
    exact Option.some.inj (hb.1.symm.trans hc.1)
  rcases Relation.ReflTransGen.total_of_right_unique hunique hrun hend with h | h
  · exact h
  · rcases h.cases_head with heq | ⟨next, ⟨hstep, -⟩, -⟩
    · rw [heq]
      exact .refl
    · rw [hhalt] at hstep
      cases hstep

/-- A run has no more than one end. -/
theorem RunWithin.end_unique (hrun : p.RunWithin limit s s') (hhalt' : p.step s' = none)
    (hend : p.RunWithin limit s s'') (hhalt : p.step s'' = none) : s' = s'' := by
  rcases (hrun.toEnd hend hhalt).cases_head with heq | ⟨next, ⟨hstep, -⟩, -⟩
  · exact heq
  · rw [hhalt'] at hstep
    cases hstep

/-- An exception leaves every module that waits. -/
theorem RunWithin.unwind (e : Thrown) (waiting : List (Frame α)) (ran : List String)
    (hnested : waiting.length ≤ limit) :
    p.RunWithin limit ⟨.ended (.error e), waiting, ran⟩ ⟨.ended (.error e), [], ran⟩ := by
  induction waiting with
  | nil => exact .refl
  | cons f waiting ih =>
    have hle : waiting.length ≤ limit := Nat.le_of_succ_le hnested
    exact .step rfl hle (ih hle)

/-- A script that asks for a module below the last one that may be nested ends only if the module is
missing. -/
theorem RunWithin.missing_of_full {id : String} {waiting : List (Frame α)} {ran ran' : List String}
    {outcome : Except Thrown α} (hfull : waiting.length = limit)
    (hrun : p.RunWithin limit ⟨.load id, waiting, ran⟩ ⟨.ended outcome, [], ran'⟩) :
    outcome = .error (.missingModule id) ∧ ran' = ran := by
  rcases hrun.cases_head with heq | ⟨next, ⟨hstep, hnested⟩, -⟩
  · cases heq
  · rw [Printed.step] at hstep
    cases hrecord : p.record? id with
    | none =>
      have hlook : p.step ⟨.load id, waiting, ran⟩ =
          some ⟨.ended (.error (.missingModule id)), waiting, ran⟩ := by
        rw [Printed.step, hrecord]
      have hmissing : p.RunWithin limit ⟨.load id, waiting, ran⟩
          ⟨.ended (.error (.missingModule id)), [], ran⟩ :=
        .step hlook (Nat.le_of_eq hfull) (.unwind _ waiting ran (Nat.le_of_eq hfull))
      have hsame := hrun.end_unique (step_end _ _) hmissing (step_end _ _)
      cases hsame
      exact ⟨rfl, rfl⟩
    | some r =>
      rw [hrecord] at hstep
      cases hstep
      exact absurd hnested (by simp [State.nested, hfull])

end Printed

/-! ## Reading the table -/

theorem textOf?_path (id : ModuleId) : textOf? id.toJson.compact = some id.path := by
  have hparse : Json.parse id.toJson.compact = .ok (.string id.path) := Json.parse_quote id.path
  rw [textOf?, hparse]

/-- The members of a module's dependencies, as texts. -/
def dependencyTexts (m : Module) : List (String × String) :=
  m.dependencies.entries.map fun (specifier, target) => (specifier, target.path)

theorem toJson_dependencies (m : Module) :
    Dependencies.toJson m.dependencies = .object ((dependencyTexts m).map Json.textMember) := by
  rw [Dependencies.toJson, dependencyTexts, List.map_map]
  rfl

theorem nodup_dependencyTexts (m : Module) :
    (((dependencyTexts m).map Json.textMember).map Prod.fst).Nodup := by
  rw [dependencyTexts, List.map_map, List.map_map]
  exact m.dependencies.nodup

theorem member?_dependencyTexts (m : Module) (specifier : String) :
    Json.Value.member? specifier ((dependencyTexts m).map Json.textMember) =
      (m.dependencies.get? specifier).map ModuleId.toJson := by
  rw [dependencyTexts, OrderedMap.get?]
  induction m.dependencies.entries with
  | nil => rfl
  | cons e es ih =>
    rw [List.map_cons, List.map_cons, List.find?_cons]
    by_cases he : specifier = e.1
    · simp [Json.textMember, Json.Value.member?, he, ModuleId.toJson]
    · have hne : (e.1 == specifier) = false := beq_false_of_ne fun h => he h.symm
      rw [Json.textMember, Json.Value.member?, if_neg he, ih, hne]

/-- The literal of a module's dependencies leads where the map itself does. -/
theorem dependency?_ofModule (m : Module) (factory : Nat → Body α) (specifier : String) :
    (Record.ofModule m factory).dependency? specifier =
      (m.dependencies.get? specifier).map ModuleId.path := by
  have hparse : Json.parse (Record.ofModule m factory).dependencies =
      .ok (.object (Json.Value.sortMembers ((dependencyTexts m).map Json.textMember))) := by
    rw [Record.ofModule, toJson_dependencies]
    exact Json.parse_compact _
  rw [Record.dependency?, hparse]
  dsimp only
  rw [Json.Value.member?_sortMembers _ (nodup_dependencyTexts m), member?_dependencyTexts]
  cases m.dependencies.get? specifier <;> rfl

theorem key_ofModule (m : Module) (factory : Nat → Body α) (id : ModuleId) :
    (textOf? (Record.ofModule m factory).key == some id.path) = (m.id == id) := by
  rw [Record.ofModule, textOf?_path]
  by_cases hid : m.id = id
  · simp [hid]
  · have hpath : m.id.path ≠ id.path := fun h => hid (ModuleId.path_injective h)
    simp [hid, hpath]

/-- The table has the records of the graph's modules and no others. -/
theorem record?_ofGraph (banner? : Option String) (g : Graph) (entry : ModuleId)
    (factory : Module → Nat → Body α) (id : ModuleId) :
    (Printed.ofGraph banner? g entry factory).record? id.path =
      (g.get? id).map fun m => .ofModule m (factory m) := by
  have hfind : (Printed.ofGraph banner? g entry factory).record? id.path =
      (g.modules.reverse.find? fun m => m.id == id).map fun m => .ofModule m (factory m) := by
    rw [Printed.record?, Printed.ofGraph, ← List.map_reverse, List.find?_map]
    simp only [Function.comp_def, key_ofModule]
  rw [hfind, Graph.get?]
  congr 1
  cases hmodule : g.modules.find? (fun m => m.id == id) with
  | none =>
    rw [List.find?_eq_none] at hmodule ⊢
    intro m hm
    exact hmodule m (List.mem_reverse.1 hm)
  | some m =>
    cases hlast : g.modules.reverse.find? (fun m => m.id == id) with
    | none =>
      have hnone := List.find?_eq_none.1 hlast m
        (List.mem_reverse.2 (List.mem_of_find?_eq_some hmodule))
      exact absurd (List.find?_some hmodule) hnone
    | some m' =>
      have hid : m'.id = m.id := by
        have h := List.find?_some hmodule
        have h' := List.find?_some hlast
        rw [beq_iff_eq] at h h'
        exact h'.trans h.symm
      rw [List.inj_on_of_nodup_map g.nodup
        (List.mem_reverse.1 (List.mem_of_find?_eq_some hlast))
        (List.mem_of_find?_eq_some hmodule) hid]

end ModuleBundler.Bundle
