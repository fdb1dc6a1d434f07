import Mathlib.Data.List.Perm.Basic
import Mathlib.Logic.Function.Basic
import ModuleBundler.Proofs.Lowering.Rewriting

/-!
# What a lowered script exports

A lowered script assigns its exported functions first, then re-exports and default expressions where
they stand, and everything else at the end. Copying all exports of another module overwrites what
the script has assigned by then, also what it exports itself. So an export keeps its own value if
nothing is copied under its name after its assignment.
-/

namespace ModuleBundler.Lowering

open Script (Item Program SourceName)

/-! ## Assignments to `exports` -/

/-- What an exported name stands for. -/
inductive Value where
  | bound (name : String)
  /-- The default expression at an offset. -/
  | expression (offset : Nat)
  /-- What a request for a module yields. -/
  | whole (r : Request)
  /-- What the module that a request yields has under a key. -/
  | field (r : Request) (key : String)
  deriving DecidableEq

structure Export where
  exported : String
  value : Value
  deriving DecidableEq

/-- What is done to `exports`. -/
inductive Operation where
  | assign (e : Export)
  /-- Copies what the module that a request yields has under its keys. -/
  | copy (r : Request)
  deriving DecidableEq

/-- The values that a script meets. Every request may yield other ones. -/
structure Surroundings (V : Type) where
  bound : String → V
  expression : Nat → V
  whole : Request → V
  field : Request → String → V
  /-- The keys that a loop over the module runs through. -/
  keys : Request → List String

/-- The properties of `exports` that a script has given a value. -/
abbrev Properties (V : Type) := String → Option V

/-- Names that an assignment gives no property: the marker is read-only, and the other one stands
for the prototype. -/
def unassignable : List String := ["__esModule", "__proto__"]

namespace Properties

variable {V : Type} {x : Properties V} {name : String}

def put (x : Properties V) (name : String) (v : V) : Properties V :=
  if name ∈ unassignable then x else Function.update x name (some v)

theorem put_apply (hn : name ∉ unassignable) (key : String) (v : V) :
    x.put key v name = if key = name then some v else x name := by
  rw [put]
  by_cases h : key = name
  · rw [h, if_neg hn, if_pos rfl, Function.update_self]
  · rw [if_neg h]
    split
    · rfl
    · exact Function.update_of_ne (Ne.symm h) _ _

theorem put_unassignable (hn : name ∈ unassignable) (key : String) (v : V) :
    x.put key v name = x name := by
  rw [put]
  split
  · rfl
  · rename_i hkey
    have hne : name ≠ key := fun h => hkey (h ▸ hn)
    exact Function.update_of_ne hne _ _

end Properties

namespace Surroundings

variable {V : Type} (s : Surroundings V)

def valueOf : Value → V
  | .bound name => s.bound name
  | .expression offset => s.expression offset
  | .whole r => s.whole r
  | .field r key => s.field r key

/-- Copying all exports of a module gives a name the value that it has there. -/
def Copies (r : Request) (name : String) : Prop :=
  name ∈ s.keys r ∧ name ≠ "default" ∧ name ≠ "__esModule"

instance (r : Request) (name : String) : Decidable (s.Copies r name) :=
  inferInstanceAs (Decidable (_ ∧ _ ∧ _))

/-- The value that a name has after copies from the modules of these requests, in order. -/
def lastCopied (name : String) (rs : List Request) : Option V :=
  rs.reverse.findSome? fun r => if s.Copies r name then some (s.field r name) else none

/-- A default export is not copied. -/
@[simp] theorem lastCopied_default (rs : List Request) : s.lastCopied "default" rs = none := by
  simp [lastCopied, Copies]

@[simp] theorem lastCopied_nil (name : String) : s.lastCopied name [] = none := rfl

end Surroundings

namespace Operation

def assigned? : Operation → Option Export
  | .assign e => some e
  | .copy _ => none

def copied? : Operation → Option Request
  | .assign _ => none
  | .copy r => some r

section Run

variable {V : Type} (s : Surroundings V)

def copyKey (r : Request) (x : Properties V) (key : String) : Properties V :=
  if key = "default" ∨ key = "__esModule" then x else x.put key (s.field r key)

def run (x : Properties V) : Operation → Properties V
  | .assign e => x.put e.exported (s.valueOf e.value)
  | .copy r => (s.keys r).foldl (copyKey s r) x

def runAll (ops : List Operation) (x : Properties V) : Properties V := ops.foldl (run s) x

/-- The value that an operation gives a name. -/
def given (name : String) : Operation → Option V
  | .assign e => if e.exported = name then some (s.valueOf e.value) else none
  | .copy r => if s.Copies r name then some (s.field r name) else none

variable {s} {name : String}

theorem copyKey_apply (hn : name ∉ unassignable) (r : Request) (x : Properties V) (key : String) :
    copyKey s r x key name =
      if key = name ∧ name ≠ "default" ∧ name ≠ "__esModule" then some (s.field r name)
      else x name := by
  rw [copyKey]
  by_cases hskip : key = "default" ∨ key = "__esModule"
  · rw [if_pos hskip, if_neg]
    rintro ⟨rfl, hdefault, hmarker⟩
    exact hskip.elim hdefault hmarker
  · rw [if_neg hskip, Properties.put_apply hn]
    by_cases hkey : key = name
    · subst hkey
      rw [if_pos rfl, if_pos ⟨rfl, not_or.1 hskip⟩]
    · rw [if_neg hkey, if_neg fun h => hkey h.1]

/-- A loop over keys gives each the value of the module, once it has passed it. -/
theorem foldl_copyKey_apply (hn : name ∉ unassignable) (r : Request) (keys : List String)
    (x : Properties V) : keys.foldl (copyKey s r) x name =
      if name ∈ keys ∧ name ≠ "default" ∧ name ≠ "__esModule" then some (s.field r name)
      else x name := by
  induction keys generalizing x with
  | nil => simp
  | cons key keys ih =>
    rw [List.foldl_cons, ih, copyKey_apply hn]
    by_cases hkey : key = name
    · by_cases hcopied : name ≠ "default" ∧ name ≠ "__esModule"
      · simp [hkey, hcopied]
      · simp only [hcopied, and_false, if_false]
    · simp [hkey, Ne.symm hkey]

/-- After one operation a name has the value that the operation gives it, or the one before. -/
theorem run_apply (hn : name ∉ unassignable) (x : Properties V) (op : Operation) :
    op.run s x name = (op.given s name).or (x name) := by
  cases op with
  | assign e =>
    rw [run, Properties.put_apply hn, given]
    split <;> rfl
  | copy r =>
    have hcopy : (Operation.copy r).run s x name =
        if s.Copies r name then some (s.field r name) else x name :=
      foldl_copyKey_apply hn r (s.keys r) x
    rw [hcopy, given]
    split <;> rfl

/-- The last operation that gives a name a value settles it. -/
theorem runAll_apply (hn : name ∉ unassignable) (ops : List Operation) (x : Properties V) :
    runAll s ops x name = (ops.reverse.findSome? (given s name)).or (x name) := by
  induction ops generalizing x with
  | nil => rfl
  | cons op ops ih =>
    rw [runAll, List.foldl_cons, ← runAll, ih, run_apply hn, List.reverse_cons,
      List.findSome?_append, List.findSome?_singleton, Option.or_assoc]

theorem run_unassignable (hn : name ∈ unassignable) (x : Properties V) (op : Operation) :
    op.run s x name = x name := by
  cases op with
  | assign e => exact Properties.put_unassignable hn _ _
  | copy r =>
    rw [run]
    induction s.keys r generalizing x with
    | nil => rfl
    | cons key keys ih =>
      rw [List.foldl_cons, ih, copyKey]
      split
      · rfl
      · exact Properties.put_unassignable hn _ _

theorem runAll_unassignable (hn : name ∈ unassignable) (ops : List Operation) (x : Properties V) :
    runAll s ops x name = x name := by
  induction ops generalizing x with
  | nil => rfl
  | cons op ops ih => rw [runAll, List.foldl_cons, ← runAll, ih, run_unassignable hn]

/-- Operations that do not assign a name give it at most what they copy. -/
theorem findSome?_given {ops : List Operation}
    (h : ∀ e ∈ ops.filterMap assigned?, e.exported ≠ name) :
    ops.reverse.findSome? (given s name) = s.lastCopied name (ops.filterMap copied?) := by
  induction ops with
  | nil => rfl
  | cons op ops ih =>
    rw [List.reverse_cons, List.findSome?_append, List.findSome?_singleton]
    cases op with
    | assign e =>
      have hne : e.exported ≠ name := h e List.mem_cons_self
      rw [ih fun e' he' => h e' (List.mem_cons_of_mem _ he'), given, if_neg hne, Option.or_none]
      rfl
    | copy r =>
      rw [ih h, given]
      simp only [Surroundings.lastCopied]
      rw [List.filterMap_cons_some (rfl : copied? (.copy r) = some r), List.reverse_cons,
        List.findSome?_append, List.findSome?_singleton]

/-- When no name is assigned twice, an export keeps its value up to what is copied after it. -/
theorem runAll_assign {before after : List Operation} {e : Export}
    (h : (((before ++ .assign e :: after).filterMap assigned?).map Export.exported).Nodup)
    (x : Properties V) (hn : e.exported ∉ unassignable) :
    runAll s (before ++ .assign e :: after) x e.exported =
      some ((s.lastCopied e.exported (after.filterMap copied?)).getD (s.valueOf e.value)) := by
  have hlater : ∀ e' ∈ after.filterMap assigned?, e'.exported ≠ e.exported := by
    intro e' he' hsame
    rw [List.filterMap_append, List.filterMap_cons_some (rfl : assigned? (.assign e) = some e),
      List.map_append, List.map_cons] at h
    have htail := (List.nodup_append.1 h).2.1
    exact (List.nodup_cons.1 htail).1 (List.mem_map.2 ⟨e', he', hsame⟩)
  rw [runAll_apply hn, List.reverse_append, List.reverse_cons, List.append_assoc,
    List.findSome?_append, findSome?_given hlater]
  cases s.lastCopied e.exported (after.filterMap copied?) with
  | some v => rfl
  | none => simp [given]

end Run

end Operation

/-! ## Exports of a program -/

/-- The meaning of a re-export whose module is requested at an offset. -/
def ReexportStatement.operations (offset : Nat) : ReexportStatement → List Operation
  | .all specifier => [.copy ⟨offset, specifier⟩]
  | .whole exported specifier => [.assign ⟨exported, .whole ⟨offset, specifier⟩⟩]
  | .named names specifier => names.map fun (exported, source) =>
      .assign ⟨exported, .field ⟨offset, specifier⟩ source⟩

def Assignment.operation (a : Assignment) : Operation := .assign ⟨a.exported, .bound a.value⟩

/-- When an item's exports are assigned: before the script's own code, where the item stands, or
after the script's own code. -/
inductive Moment where
  | early | inPlace | late
  deriving DecidableEq

end ModuleBundler.Lowering

namespace ModuleBundler.Script.Item

open Lowering (Export Value Operation Request ReexportStatement Edit Moment)

/-- What an item exports under names of its own, with the values that these stand for. -/
def exports : Item → List Export
  | .statement _ | .importBindings .. => []
  | .exportAll span exported? specifier =>
    exported?.toList.map fun exported => ⟨exported.name, .whole ⟨span.start, specifier⟩⟩
  | .exportFrom span names specifier => names.map fun n =>
      ⟨n.exported.name, .field ⟨span.start, specifier⟩ n.source.name⟩
  | .exportList _ names => names.map fun n => ⟨n.exported.name, .bound n.source.name⟩
  | .exportDeclaration _ d => (declaredNames d).map fun n => ⟨n.name, .bound n.name⟩
  | .exportDefault _ _ d =>
    match d.shape with
    | .functionDefinition (some name) | .classDefinition (some name) =>
      [⟨"default", .bound name.name⟩]
    | _ => [⟨"default", .expression d.start⟩]

/-- The request of an item that exports all that another module does. -/
def star? : Item → Option Request
  | .exportAll span none specifier => some ⟨span.start, specifier⟩
  | _ => none

def moment : Item → Moment
  | .exportDeclaration _ d =>
    match d.shape with
    | .functionDefinition _ => .early
    | _ => .late
  | .exportDefault _ _ d =>
    match d.shape with
    | .functionDefinition (some _) => .early
    | .classDefinition (some _) => .late
    | _ => .inPlace
  | .exportList .. => .late
  | _ => .inPlace

/-- What an item writes in place that acts on `exports`, with the meaning of that. -/
def written? : Item → Option (Edit × List Operation)
  | .exportAll span exported? specifier =>
    let statement : ReexportStatement := match exported? with
      | some exported => .whole exported.name specifier
      | none => .all specifier
    some (⟨span.start, span.stop, statement.render⟩, statement.operations span.start)
  | .exportFrom span names specifier =>
    let statement : ReexportStatement :=
      .named (names.map fun n => (n.exported.name, n.source.name)) specifier
    some (⟨span.start, span.stop, statement.render⟩, statement.operations span.start)
  | .exportDefault span keyword d =>
    if (exportDefault span keyword d).moment = .inPlace then
      some (⟨span.start, d.start, "exports.default = "⟩,
        [.assign ⟨"default", .expression d.start⟩])
    else none
  | _ => none

/-- What an item does to `exports` at a moment. -/
def operationsAt (moment : Moment) (item : Item) : List Operation :=
  if item.moment = moment then item.exports.map .assign ++ (item.star?.map .copy).toList else []

theorem exported_exports (item : Item) :
    item.exports.map Export.exported = item.exportedNames.map SourceName.name := by
  cases item with
  | statement | importBindings => rfl
  | exportAll span exported? specifier => cases exported? <;> rfl
  | exportFrom | exportList | exportDeclaration =>
    simp [exports, exportedNames, Function.comp_def]
  | exportDefault span keyword d =>
    unfold exports exportedNames
    dsimp only
    split <;> rfl

/-- What is written in place means what the item does there. -/
theorem operationsAt_inPlace (item : Item) :
    item.operationsAt .inPlace = (item.written?.map Prod.snd).getD [] := by
  cases item with
  | statement | importBindings => rfl
  | exportAll span exported? specifier => cases exported? <;> rfl
  | exportFrom span names specifier =>
    simp [operationsAt, moment, written?, exports, star?, ReexportStatement.operations]
  | exportList => rfl
  | exportDeclaration span d =>
    have hmoment : (exportDeclaration span d).moment ≠ .inPlace := by
      unfold moment
      dsimp only
      split <;> decide
    rw [operationsAt, if_neg hmoment]
    rfl
  | exportDefault span keyword d =>
    rw [operationsAt, written?]
    split
    · rename_i h
      unfold moment at h
      unfold exports
      dsimp only at h ⊢
      split at h <;> simp_all [star?]
    · rfl

/-- An item that exports names of its own copies nothing. -/
theorem star?_eq_none {item : Item} {e : Export} (h : e ∈ item.exports) : item.star? = none := by
  cases item with
  | exportAll span exported? specifier =>
    cases exported? with
    | none => cases h
    | some exported => rfl
  | _ => rfl

theorem moment_of_star? {item : Item} {r : Request} (h : item.star? = some r) :
    item.moment = .inPlace := by
  cases item with
  | exportAll => rfl
  | _ => cases h

theorem assigned_operationsAt (moment : Moment) (item : Item) :
    (item.operationsAt moment).filterMap Operation.assigned? =
      if item.moment = moment then item.exports else [] := by
  have hexports : (item.exports.map Operation.assign).filterMap Operation.assigned? =
      item.exports := by
    rw [List.filterMap_map]
    exact List.filterMap_some
  have hstar : (item.star?.map Operation.copy).toList.filterMap Operation.assigned? = [] := by
    cases item.star? <;> rfl
  rw [operationsAt]
  split
  · rw [List.filterMap_append, hexports, hstar, List.append_nil]
  · rfl

/-- Copies happen where the item stands. -/
theorem copied_operationsAt (moment : Moment) (item : Item) :
    (item.operationsAt moment).filterMap Operation.copied? =
      if moment = .inPlace then item.star?.toList else [] := by
  have hexports : (item.exports.map Operation.assign).filterMap Operation.copied? = [] := by
    rw [List.filterMap_map]
    exact List.filterMap_eq_nil_iff.2 fun _ _ => rfl
  have hstar : (item.star?.map Operation.copy).toList.filterMap Operation.copied? =
      item.star?.toList := by
    cases item.star? <;> rfl
  rw [operationsAt]
  cases hr : item.star? with
  | none =>
    split <;> simp [hexports]
  | some r =>
    rw [hr] at hstar
    rw [moment_of_star? hr]
    by_cases hm : Moment.inPlace = moment
    · rw [if_pos hm, if_pos hm.symm, List.filterMap_append, hexports, hstar, List.nil_append]
    · rw [if_neg hm, if_neg (Ne.symm hm), List.filterMap_nil]

end ModuleBundler.Script.Item

namespace ModuleBundler.Lowering

open Script (Item Node Program SourceName Span)

variable {item : Item} {program : Program}

/-- Only words in front of an expression give way to an assignment. -/
theorem strippedText_eq (span : Span) (keyword : Nat) (d : Node) : strippedText d =
    if (Item.exportDefault span keyword d).moment = .inPlace then "exports.default = " else "" := by
  cases hshape : d.shape with
  | functionDefinition name? | classDefinition name? =>
    cases name? <;> simp [strippedText, Item.moment, hshape]
  | _ => simp [strippedText, Item.moment, hshape]

/-- What is written in place of an item is one of its edits. -/
theorem edit_of_written? {edit : Edit} {ops : List Operation}
    (h : item.written? = some (edit, ops)) (used : Nat) :
    edit ∈ (contributionOf used item).edits := by
  cases item with
  | statement | importBindings | exportList | exportDeclaration => cases h
  | exportAll | exportFrom =>
    cases h
    exact List.mem_singleton_self _
  | exportDefault span keyword d =>
    rw [Item.written?] at h
    split at h
    · rename_i hmoment
      cases h
      rw [edits_exportDefault, strippedText_eq span keyword, if_pos hmoment]
      exact List.mem_cons_self
    · cases h

@[simp] theorem Contribution.hoisted_append (a b : Contribution) :
    (a ++ b).hoisted = a.hoisted ++ b.hoisted := rfl

@[simp] theorem Contribution.trailing_append (a b : Contribution) :
    (a ++ b).trailing = a.trailing ++ b.trailing := rfl

/-- What is assigned before and after the script's own code are the early and the late operations
of its items. -/
theorem operations_contributionOf (used : Nat) (item : Item) :
    (contributionOf used item).hoisted.map Assignment.operation = item.operationsAt .early ∧
      (contributionOf used item).trailing.map Assignment.operation = item.operationsAt .late := by
  cases item with
  | statement | importBindings | exportAll | exportFrom => exact ⟨rfl, rfl⟩
  | exportList =>
    simp [contributionOf, Item.operationsAt, Item.moment, Item.exports, Item.star?,
      Assignment.operation, Function.comp_def]
  | exportDeclaration span d =>
    cases hshape : d.shape with
    | functionDefinition name? =>
      simp [contributionOf, Item.operationsAt, Item.moment, Item.exports, Item.star?,
        Assignment.operation, Function.comp_def, hshape]
    | _ =>
      simp [contributionOf, Item.operationsAt, Item.moment, Item.exports, Item.star?,
        Assignment.operation, Function.comp_def, hshape]
  | exportDefault span keyword d =>
    cases hshape : d.shape with
    | functionDefinition name? | classDefinition name? =>
      cases name? <;> simp [contributionOf, Item.operationsAt, Item.moment, Item.exports,
        Item.star?, Assignment.operation, hshape]
    | _ => simp [contributionOf, Item.operationsAt, Item.moment, hshape]

theorem operations_contributionOfAll (used : Nat) (items : List Item) :
    (contributionOfAll used items).hoisted.map Assignment.operation =
        items.flatMap (Item.operationsAt .early) ∧
      (contributionOfAll used items).trailing.map Assignment.operation =
        items.flatMap (Item.operationsAt .late) := by
  induction items generalizing used with
  | nil => exact ⟨rfl, rfl⟩
  | cons item items ih =>
    obtain ⟨hearly, hlate⟩ := operations_contributionOf used item
    obtain ⟨hearly', hlate'⟩ := ih (used + (contributionOf used item).temporaries)
    rw [contributionOfAll]
    rw [Contribution.hoisted_append, Contribution.trailing_append, List.map_append, List.map_append,
      hearly, hlate, hearly', hlate']
    exact ⟨rfl, rfl⟩

/-- What a lowered script does to `exports`: what stands in front of its own code, what has been
written into that, and what stands behind it. -/
def operations (program : Program) : List Operation :=
  let c := contributionOfProgram program
  c.hoisted.map Assignment.operation ++
    program.items.flatMap (fun item => (item.written?.map Prod.snd).getD []) ++
    c.trailing.map Assignment.operation

theorem operations_eq (program : Program) : operations program =
    program.items.flatMap (Item.operationsAt .early) ++
      program.items.flatMap (Item.operationsAt .inPlace) ++
      program.items.flatMap (Item.operationsAt .late) := by
  obtain ⟨hearly, hlate⟩ := operations_contributionOfAll 0 program.items
  have hcalls := bare_callsOfAll (program.items.filterMap Item.code?)
  rw [operations]
  rw [contributionOfProgram, Contribution.hoisted_append, Contribution.trailing_append,
    hcalls.hoisted, hcalls.trailing, List.append_nil, List.append_nil, hearly, hlate,
    funext Item.operationsAt_inPlace]

/-- Each export is assigned once, at one of three moments. -/
theorem assigned_operations (program : Program) :
    ((operations program).filterMap Operation.assigned?).Perm
      (program.items.flatMap Item.exports) := by
  have hat (moment : Moment) (item : Item) :
      (item.operationsAt moment).filterMap Operation.assigned? =
        if item.moment = moment then item.exports else [] := Item.assigned_operationsAt moment item
  rw [operations_eq, List.filterMap_append, List.filterMap_append, List.filterMap_flatMap,
    List.filterMap_flatMap, List.filterMap_flatMap]
  simp only [hat]
  refine ((List.flatMap_append_perm _ _ _).append_right _).trans
    ((List.flatMap_append_perm _ _ _).trans (.of_eq ?_))
  congr 1
  funext item
  cases item.moment <;> simp

theorem distinct_operations {source : String} (h : Program.parse source = .ok program) :
    (((operations program).filterMap Operation.assigned?).map Export.exported).Nodup := by
  have hnames : (program.items.flatMap Item.exports).map Export.exported =
      (program.items.flatMap Item.exportedNames).map SourceName.name := by
    rw [List.map_flatMap, List.map_flatMap]
    simp only [Item.exported_exports]
  rw [((assigned_operations program).map Export.exported).nodup_iff, hnames]
  exact Program.parse_distinct h

/-- The requests of items that export all that another module does. -/
def stars (items : List Item) : List Request := items.filterMap Item.star?

theorem copied_flatMap (moment : Moment) (items : List Item) :
    (items.flatMap (Item.operationsAt moment)).filterMap Operation.copied? =
      if moment = .inPlace then stars items else [] := by
  have hstars : items.flatMap (fun item => item.star?.toList) = stars items := by
    induction items with
    | nil => rfl
    | cons item items ih =>
      rw [List.flatMap_cons, ih]
      cases h : item.star? <;> simp [stars, h]
  rw [List.filterMap_flatMap]
  simp only [Item.copied_operationsAt]
  cases moment with
  | inPlace => exact hstars
  | early | late => simp

/-- The modules that are copied after the exports of an item are assigned, which `rest` follows. -/
def overwriters (program : Program) (item : Item) (rest : List Item) : List Request :=
  match item.moment with
  | .early => stars program.items
  | .inPlace => stars rest
  | .late => []

/-- Where an export is assigned, and what is copied after that. -/
theorem operations_split {before rest : List Item} {e : Export}
    (hitems : program.items = before ++ item :: rest) (he : e ∈ item.exports) :
    ∃ earlier later, operations program = earlier ++ .assign e :: later ∧
      later.filterMap Operation.copied? = overwriters program item rest := by
  obtain ⟨first, last, hexports⟩ := List.append_of_mem he
  have hcopied : (last.map Operation.assign).filterMap Operation.copied? = [] := by
    rw [List.filterMap_map]
    exact List.filterMap_eq_nil_iff.2 fun _ _ => rfl
  have hown : ∀ moment, item.moment = moment → program.items.flatMap (Item.operationsAt moment) =
      (before.flatMap (Item.operationsAt moment) ++ first.map .assign) ++
        .assign e :: (last.map .assign ++ rest.flatMap (Item.operationsAt moment)) := by
    intro moment hmoment
    rw [hitems, List.flatMap_append, List.flatMap_cons, Item.operationsAt, if_pos hmoment,
      Item.star?_eq_none he, hexports]
    simp
  rw [operations_eq, overwriters]
  cases hmoment : item.moment with
  | early =>
    rw [hown _ hmoment]
    refine ⟨before.flatMap (Item.operationsAt .early) ++ first.map .assign,
      last.map .assign ++ rest.flatMap (Item.operationsAt .early) ++
        program.items.flatMap (Item.operationsAt .inPlace) ++
        program.items.flatMap (Item.operationsAt .late), by simp, ?_⟩
    simp [copied_flatMap, hcopied]
  | inPlace =>
    rw [hown _ hmoment]
    refine ⟨program.items.flatMap (Item.operationsAt .early) ++
        (before.flatMap (Item.operationsAt .inPlace) ++ first.map .assign),
      last.map .assign ++ rest.flatMap (Item.operationsAt .inPlace) ++
        program.items.flatMap (Item.operationsAt .late), by simp, ?_⟩
    simp [copied_flatMap, hcopied]
  | late =>
    rw [hown _ hmoment]
    refine ⟨program.items.flatMap (Item.operationsAt .early) ++
        program.items.flatMap (Item.operationsAt .inPlace) ++
        (before.flatMap (Item.operationsAt .late) ++ first.map .assign),
      last.map .assign ++ rest.flatMap (Item.operationsAt .late), by simp, ?_⟩
    simp [copied_flatMap, hcopied]

/-- The properties that a lowered script has given to `exports` in the end. -/
def exportsOf {V : Type} (s : Surroundings V) (program : Program) : Properties V :=
  Operation.runAll s (operations program) fun _ => none

/-- An export keeps its value up to what is copied after its assignment. -/
theorem exportsOf_export {source : String} (h : Program.parse source = .ok program) {V : Type}
    (s : Surroundings V) {before rest : List Item} {e : Export}
    (hitems : program.items = before ++ item :: rest) (he : e ∈ item.exports) :
    exportsOf s program e.exported =
      if e.exported ∈ unassignable then none
      else some ((s.lastCopied e.exported (overwriters program item rest)).getD
        (s.valueOf e.value)) := by
  rw [exportsOf]
  split
  case isTrue hn => exact Operation.runAll_unassignable hn _ _
  case isFalse hn =>
    obtain ⟨earlier, later, hsplit, hcopied⟩ := operations_split hitems he
    have hdistinct := distinct_operations h
    rw [hsplit] at hdistinct
    rw [hsplit, Operation.runAll_assign hdistinct _ hn, hcopied]

/-- Default exports and what is assigned at the end keep their values. -/
theorem exportsOf_kept {source : String} (h : Program.parse source = .ok program) {V : Type}
    (s : Surroundings V) (hitem : item ∈ program.items) {e : Export} (he : e ∈ item.exports)
    (hkept : e.exported = "default" ∨ item.moment = .late) (hn : e.exported ∉ unassignable) :
    exportsOf s program e.exported = some (s.valueOf e.value) := by
  obtain ⟨before, rest, hitems⟩ := List.append_of_mem hitem
  have hnothing : s.lastCopied e.exported (overwriters program item rest) = none := by
    obtain hdefault | hlate := hkept
    · rw [hdefault, Surroundings.lastCopied_default]
    · rw [overwriters, hlate, Surroundings.lastCopied_nil]
  rw [exportsOf_export h s hitems he, if_neg hn, hnothing]
  rfl

theorem edits_subset_contributionOfAll (used : Nat) {items : List Item} (h : item ∈ items) :
    ∃ n, (contributionOf n item).edits ⊆ (contributionOfAll used items).edits := by
  induction items generalizing used with
  | nil => cases h
  | cons first items ih =>
    rw [contributionOfAll, Contribution.edits_append]
    obtain rfl | h := List.mem_cons.1 h
    · exact ⟨used, List.subset_append_left _ _⟩
    · obtain ⟨n, hn⟩ := ih (used + (contributionOf used first).temporaries) h
      exact ⟨n, List.Subset.trans hn (List.subset_append_right _ _)⟩

theorem edit_mem_contributionOfProgram (hitem : item ∈ program.items) {edit : Edit}
    {ops : List Operation} (h : item.written? = some (edit, ops)) :
    edit ∈ (contributionOfProgram program).edits := by
  obtain ⟨n, hn⟩ := edits_subset_contributionOfAll 0 hitem
  rw [contributionOfProgram, Contribution.edits_append]
  exact List.mem_append_left _ (hn (edit_of_written? h n))

/-- A lowered script assigns each of its exports once. In the end an export has its own value,
unless modules are copied after its assignment that have a key of its name; then it has the value of
the last of them. Default exports and what is assigned at the end always keep their values. -/
theorem lower_exports {source : String} {program : Program}
    (h : Program.parse source = .ok program) (path : String) : ∃ out,
      lower source path = .ok out ∧
      out.code = render source.toList (contributionOfProgram program) ∧
      (∀ item ∈ program.items, ∀ edit ops, item.written? = some (edit, ops) →
        edit ∈ (contributionOfProgram program).edits) ∧
      (∀ (V : Type) (s : Surroundings V) (before rest : List Item) (item : Item),
        program.items = before ++ item :: rest → ∀ e ∈ item.exports,
          exportsOf s program e.exported =
            if e.exported ∈ unassignable then none
            else some ((s.lastCopied e.exported (overwriters program item rest)).getD
              (s.valueOf e.value))) ∧
      ∀ (V : Type) (s : Surroundings V), ∀ item ∈ program.items, ∀ e ∈ item.exports,
        e.exported = "default" ∨ item.moment = .late → e.exported ∉ unassignable →
          exportsOf s program e.exported = some (s.valueOf e.value) := by
  obtain ⟨out, hout, hcode⟩ := lower_ok h path
  refine ⟨out, hout, hcode, ?_, ?_, ?_⟩
  · intro item hitem edit ops hwritten
    exact edit_mem_contributionOfProgram hitem hwritten
  · intro V s before rest item hitems e he
    exact exportsOf_export h s hitems he
  · intro V s item hitem e he hkept hn
    exact exportsOf_kept h s hitem he hkept hn

/-- A constant keeps its value whatever is copied; a name of another module does so only if no
module that is copied after it has that name as well. -/
theorem lower_exports_mixed : ∃ program out,
    Program.parse "export const a = 1;\nexport \x7b b \x7d from './y';\nexport * from './x'" =
      .ok program ∧
    lower "export const a = 1;\nexport \x7b b \x7d from './y';\nexport * from './x'"
      "/src/index.js" = .ok out ∧
    ∀ (V : Type) (s : Surroundings V), exportsOf s program "a" = some (s.bound "a") ∧
      exportsOf s program "b" =
        some ((s.lastCopied "b" [⟨45, "./x"⟩]).getD (s.field ⟨20, "./y"⟩ "b")) := by
  have hread : (Program.parse
      "export const a = 1;\nexport \x7b b \x7d from './y';\nexport * from './x'").toOption.map
        (fun p => p.items.map fun item => (item.exports, item.moment, item.star?)) =
      some [([⟨"a", .bound "a"⟩], .late, none),
        ([⟨"b", .field ⟨20, "./y"⟩ "b"⟩], .inPlace, none),
        ([], .inPlace, some ⟨45, "./x"⟩)] := by decide +kernel
  cases h : Program.parse
      "export const a = 1;\nexport \x7b b \x7d from './y';\nexport * from './x'" with
  | error line => simp [h, Except.toOption] at hread
  | ok program =>
    obtain ⟨out, hout, -, -, hvalues, hkept⟩ := lower_exports h "/src/index.js"
    simp only [h, Except.toOption, Option.map_some, Option.some.injEq] at hread
    obtain ⟨a, as, hitems, ha, has⟩ := List.map_eq_cons_iff.1 hread
    obtain ⟨b, bs, rfl, hb, hbs⟩ := List.map_eq_cons_iff.1 has
    obtain ⟨c, cs, rfl, hc, hcs⟩ := List.map_eq_cons_iff.1 hbs
    obtain rfl := List.map_eq_nil_iff.1 hcs
    simp only [Prod.mk.injEq] at ha hb hc
    refine ⟨program, out, rfl, hout, fun V s => ⟨?_, ?_⟩⟩
    · exact hkept V s a (by simp [hitems]) ⟨"a", .bound "a"⟩ (by simp [ha.1]) (.inr ha.2.1)
        (by decide)
    · have hvalue := hvalues V s [a] [c] b hitems ⟨"b", .field ⟨20, "./y"⟩ "b"⟩ (by simp [hb.1])
      have hstars : stars [c] = [⟨45, "./x"⟩] := by simp [stars, hc.2.2]
      rw [overwriters, hb.2.1, hstars] at hvalue
      exact hvalue

/-- A function that a script exports is overwritten by what the script copies under its name. -/
theorem lower_overwrites : ∃ program out,
    Program.parse "export function a() \x7b\x7d\nexport * from './x'" = .ok program ∧
    lower "export function a() \x7b\x7d\nexport * from './x'" "/src/index.js" = .ok out ∧
    out.code = moduleMarker ++ "exports.a = a;\nfunction a() \x7b\x7d\n" ++ copyExports ++
      "(require(\"./x\"));" ∧
    ⟨"a", .bound "a"⟩ ∈ program.items.flatMap Item.exports ∧
    (∀ (V : Type) (s : Surroundings V), "a" ∈ s.keys ⟨23, "./x"⟩ →
      exportsOf s program "a" = some (s.field ⟨23, "./x"⟩ "a")) ∧
    ∃ s : Surroundings Bool, exportsOf s program "a" ≠ some (s.valueOf (.bound "a")) := by
  have hread : (Program.parse "export function a() \x7b\x7d\nexport * from './x'").toOption.map
      (fun p => (p.items.flatMap Item.exports, operations p, contributionOfProgram p)) =
        some ([⟨"a", .bound "a"⟩], [.assign ⟨"a", .bound "a"⟩, .copy ⟨23, "./x"⟩],
          { edits := [⟨0, 7, ""⟩, ⟨23, 42, copyExports ++ "(require(\"./x\"));"⟩],
            requests := [⟨23, "./x"⟩], hoisted := [⟨"a", "a"⟩], isModule := true }) := by
    decide +kernel
  cases h : Program.parse "export function a() \x7b\x7d\nexport * from './x'" with
  | error line => simp [h, Except.toOption] at hread
  | ok program =>
    simp only [h, Except.toOption, Option.map_some, Option.some.injEq, Prod.mk.injEq] at hread
    obtain ⟨hexports, hoperations, hcontribution⟩ := hread
    obtain ⟨out, hout, hcode⟩ := lower_ok h "/src/index.js"
    have hvalue : ∀ (V : Type) (s : Surroundings V), "a" ∈ s.keys ⟨23, "./x"⟩ →
        exportsOf s program "a" = some (s.field ⟨23, "./x"⟩ "a") := by
      intro V s hkey
      have hcopies : s.Copies ⟨23, "./x"⟩ "a" := ⟨hkey, by decide, by decide⟩
      rw [exportsOf, hoperations, Operation.runAll_apply (by decide)]
      simp [Operation.given, hcopies]
    refine ⟨program, out, rfl, hout, ?_, ?_, hvalue, ?_⟩
    · rw [hcode, hcontribution, render, splice, Edit.sort, List.mergeSort_of_pairwise (by decide)]
      decide +kernel
    · rw [hexports]
      exact List.mem_singleton_self _
    · let s : Surroundings Bool :=
        ⟨fun _ => true, fun _ => true, fun _ => true, fun _ _ => false, fun _ => ["a"]⟩
      refine ⟨s, ?_⟩
      rw [hvalue Bool s List.mem_cons_self]
      decide

end ModuleBundler.Lowering
