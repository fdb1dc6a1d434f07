import ModuleBundler.Proofs.Lowering.Exports
import ModuleBundler.Proofs.Script.Binding

/-!
# Every export is assigned once

What a script exports can be read off its syntax, form by form. A lowered script has one assignment
for each of these exports: on a line in front of the script's own code, in a text that lowering
writes into that code, or on a line behind it. No other text that lowering writes assigns anything.
-/

namespace ModuleBundler.Script.Item

open Lowering (Export Moment)

/-- What the forms of `export` stand for: a value under a name, and when it is assigned. -/
inductive Exports : Item → Moment → Export → Prop where
  | function (span inner : Span) (n : SourceName) (parts : List Node) :
    Exports (.exportDeclaration span (.mk (.functionDefinition (some n)) inner parts))
      .early ⟨n.name, .bound n.name⟩
  | classDefinition (span inner : Span) (n : SourceName) (parts : List Node) :
    Exports (.exportDeclaration span (.mk (.classDefinition (some n)) inner parts))
      .late ⟨n.name, .bound n.name⟩
  | variableList {span inner : Span} {ds : List Node} {n : SourceName}
    (h : (Node.mk .variableList inner ds).Declares n) :
    Exports (.exportDeclaration span (.mk .variableList inner ds)) .late ⟨n.name, .bound n.name⟩
  | list {span : Span} {names : List ExportSpecifier} {n : ExportSpecifier} (h : n ∈ names) :
    Exports (.exportList span names) .late ⟨n.exported.name, .bound n.source.name⟩
  | reexport {span : Span} {names : List ExportSpecifier} {n : ExportSpecifier} (h : n ∈ names)
    (specifier : String) :
    Exports (.exportFrom span names specifier)
      .inPlace ⟨n.exported.name, .field ⟨span.start, specifier⟩ n.source.name⟩
  | whole (span : Span) (n : SourceName) (specifier : String) :
    Exports (.exportAll span (some n) specifier)
      .inPlace ⟨n.name, .whole ⟨span.start, specifier⟩⟩
  | defaultFunction (span inner : Span) (keyword : Nat) (n : SourceName) (parts : List Node) :
    Exports (.exportDefault span keyword (.mk (.functionDefinition (some n)) inner parts))
      .early ⟨"default", .bound n.name⟩
  | defaultClass (span inner : Span) (keyword : Nat) (n : SourceName) (parts : List Node) :
    Exports (.exportDefault span keyword (.mk (.classDefinition (some n)) inner parts))
      .late ⟨"default", .bound n.name⟩
  /-- Functions and classes without a name are expressions, too. -/
  | defaultExpression {d : Node} (span : Span) (keyword : Nat)
    (hf : ∀ n, d.shape ≠ .functionDefinition (some n))
    (hc : ∀ n, d.shape ≠ .classDefinition (some n)) :
    Exports (.exportDefault span keyword d) .inPlace ⟨"default", .expression d.start⟩

variable {item : Item} {moment : Moment} {e : Export}

theorem exportDefault_expression {d : Node} (hf : ∀ n, d.shape ≠ .functionDefinition (some n))
    (hc : ∀ n, d.shape ≠ .classDefinition (some n)) (span : Span) (keyword : Nat) :
    (exportDefault span keyword d).moment = .inPlace ∧
      (exportDefault span keyword d).exports = [⟨"default", .expression d.start⟩] := by
  unfold Item.moment Item.exports
  dsimp only
  constructor <;> split <;> simp_all

/-- `moment` and `exports` find what the forms of `export` stand for. -/
theorem exports_iff (h : item.IsDeclared) :
    item.Exports moment e ↔ item.moment = moment ∧ e ∈ item.exports := by
  constructor
  · intro he
    cases he with
    | function | classDefinition | whole | defaultFunction | defaultClass =>
      exact ⟨rfl, List.mem_singleton_self _⟩
    | variableList hn => exact ⟨rfl, List.mem_map.2 ⟨_, (Node.mem_declaredNames h _).2 hn, rfl⟩⟩
    | list hn | reexport hn => exact ⟨rfl, List.mem_map.2 ⟨_, hn, rfl⟩⟩
    | defaultExpression span keyword hf hc =>
      obtain ⟨hmoment, hexports⟩ := exportDefault_expression hf hc span keyword
      rw [hexports]
      exact ⟨hmoment, List.mem_singleton_self _⟩
  · rintro ⟨rfl, he⟩
    cases item with
    | statement | importBindings => cases he
    | exportAll span exported? specifier =>
      cases exported? with
      | none => cases he
      | some n =>
        obtain rfl := List.mem_singleton.1 he
        exact .whole span n specifier
    | exportFrom span names specifier =>
      obtain ⟨n, hn, rfl⟩ := List.mem_map.1 he
      exact .reexport hn specifier
    | exportList span names =>
      obtain ⟨n, hn, rfl⟩ := List.mem_map.1 he
      exact .list hn
    | exportDeclaration span d =>
      obtain ⟨n, hn, rfl⟩ := List.mem_map.1 he
      rw [Node.mem_declaredNames h] at hn
      cases hn with
      | function => exact .function _ _ _ _
      | classDefinition => exact .classDefinition _ _ _ _
      | declarator hd hn => exact .variableList (.declarator hd hn)
    | exportDefault span keyword d =>
      obtain ⟨shape, inner, parts⟩ := d
      by_cases hf : ∃ n, shape = .functionDefinition (some n)
      · obtain ⟨n, rfl⟩ := hf
        obtain rfl := List.mem_singleton.1 he
        exact .defaultFunction span inner keyword n parts
      · by_cases hc : ∃ n, shape = .classDefinition (some n)
        · obtain ⟨n, rfl⟩ := hc
          obtain rfl := List.mem_singleton.1 he
          exact .defaultClass span inner keyword n parts
        · rw [not_exists] at hf hc
          obtain ⟨hmoment, hexports⟩ :=
            exportDefault_expression (d := .mk shape inner parts) hf hc span keyword
          rw [hexports] at he
          obtain rfl := List.mem_singleton.1 he
          rw [hmoment]
          exact .defaultExpression span keyword hf hc

end ModuleBundler.Script.Item

namespace ModuleBundler.Lowering

open Script (Item Node Program Span)

/-! ## Texts that are written into a script -/

/-- What a text that lowering writes into a script does to `exports`. -/
inductive Writes : Edit → List Operation → Prop where
  /-- Words in front of a declaration and lists of names are dropped. -/
  | nothing (start stop : Nat) : Writes ⟨start, stop, ""⟩ []
  | terminator (offset : Nat) : Writes (terminator offset) []
  | imports (start stop : Nat) (statements : List ImportStatement) :
    Writes ⟨start, stop, " ".intercalate (statements.map ImportStatement.render)⟩ []
  | dynamic (start stop : Nat) (specifier : String) :
    Writes ⟨start, stop, dynamicImport specifier⟩ []
  | copy (start stop : Nat) (specifier : String) :
    Writes ⟨start, stop, copyExports ++ "(" ++ requireCall specifier ++ ");"⟩
      [.copy ⟨start, specifier⟩]
  | whole (start stop : Nat) (exported specifier : String) :
    Writes ⟨start, stop, "exports" ++ accessor exported ++ " = " ++ requireCall specifier ++ ";"⟩
      [.assign ⟨exported, .whole ⟨start, specifier⟩⟩]
  | fields (start stop : Nat) (names : List (String × String)) (specifier : String) :
    Writes
      ⟨start, stop, "(function (m) \x7b " ++
        " ".intercalate (names.map fun (exported, source) =>
          "exports" ++ accessor exported ++ " = m" ++ accessor source ++ ";") ++
        " \x7d)(" ++ requireCall specifier ++ ");"⟩
      (names.map fun (exported, source) => .assign ⟨exported, .field ⟨start, specifier⟩ source⟩)
  /-- The script's own code goes on with the expression. -/
  | expression (start stop : Nat) :
    Writes ⟨start, stop, "exports" ++ accessor "default" ++ " = "⟩
      [.assign ⟨"default", .expression stop⟩]

/-- What texts do to `exports` that are written one after the other. -/
inductive WritesAll : List Edit → List Operation → Prop where
  | nil : WritesAll [] []
  | cons {e : Edit} {edits : List Edit} {ops rest : List Operation} (h : Writes e ops)
    (hrest : WritesAll edits rest) : WritesAll (e :: edits) (ops ++ rest)

namespace WritesAll

variable {a b edits : List Edit} {e : Edit} {x y ops : List Operation}

theorem singleton (h : Writes e ops) : WritesAll [e] ops := by
  simpa using cons h nil

theorem append (ha : WritesAll a x) (hb : WritesAll b y) : WritesAll (a ++ b) (x ++ y) := by
  induction ha with
  | nil => exact hb
  | cons h _ ih =>
    rw [List.append_assoc]
    exact .cons h ih

/-- In another order, texts do the same in another order. -/
theorem of_perm (hp : a.Perm b) (ha : WritesAll a x) : ∃ y, WritesAll b y ∧ y.Perm x := by
  induction hp generalizing x with
  | nil => exact ⟨x, ha, .refl x⟩
  | cons e _ ih =>
    cases ha with
    | cons h hrest =>
      obtain ⟨y, hy, hp⟩ := ih hrest
      exact ⟨_, .cons h hy, hp.append_left _⟩
  | swap e e' edits =>
    cases ha with
    | cons h hrest =>
      cases hrest with
      | cons h' hrest =>
        exact ⟨_, .cons h' (.cons h hrest), List.perm_append_comm_assoc _ _ _⟩
  | trans _ _ ih ih' =>
    obtain ⟨y, hy, hp⟩ := ih ha
    obtain ⟨z, hz, hp'⟩ := ih' hy
    exact ⟨z, hz, hp'.trans hp⟩

end WritesAll

mutual

/-- Dynamic imports leave `exports` alone. -/
theorem writes_callsOf : ∀ n : Node, WritesAll (callsOf n).edits []
  | .mk shape span parts => by
    rw [callsOf.eq_def]
    dsimp only
    split
    · exact .singleton (.dynamic _ _ _)
    · split
      · exact .nil
      · exact .nil
    · exact writes_callsOfAll parts

theorem writes_callsOfAll : ∀ l : List Node, WritesAll (callsOfAll l).edits []
  | [] => by
    rw [callsOfAll]
    exact .nil
  | n :: r => by
    rw [callsOfAll]
    exact (writes_callsOf n).append (writes_callsOfAll r)

end

theorem writes_terminators (offsets : List Nat) : WritesAll (offsets.map terminator) [] := by
  induction offsets with
  | nil => exact .nil
  | cons offset offsets ih => exact .cons (.terminator offset) ih

theorem accessor_default : "exports" ++ accessor "default" ++ " = " = "exports.default = " := by
  decide

/-- What is written in place of an item does what the item does there. -/
theorem writes_contributionOf (used : Nat) (item : Item) :
    WritesAll (contributionOf used item).edits (item.operationsAt .inPlace) := by
  rw [Item.operationsAt_inPlace]
  cases item with
  | statement => exact .nil
  | importBindings => exact .singleton (.imports _ _ _)
  | exportAll span exported? specifier =>
    cases exported? with
    | none => exact .singleton (.copy _ _ _)
    | some n => exact .singleton (.whole _ _ _ _)
  | exportFrom => exact .singleton (.fields _ _ _ _)
  | exportList => exact .singleton (.nothing _ _)
  | exportDeclaration span d =>
    rw [edits_exportDeclaration]
    exact .singleton (.nothing _ _)
  | exportDefault span keyword d =>
    rw [edits_exportDefault, strippedText_eq span keyword, ← accessor_default, Item.written?]
    split
    · exact .cons (.expression _ _) (writes_terminators _)
    · exact .cons (.nothing _ _) (writes_terminators _)

theorem writes_contributionOfAll (used : Nat) (items : List Item) :
    WritesAll (contributionOfAll used items).edits
      (items.flatMap (Item.operationsAt .inPlace)) := by
  induction items generalizing used with
  | nil => exact .nil
  | cons item items ih =>
    rw [contributionOfAll, List.flatMap_cons]
    exact (writes_contributionOf used item).append (ih _)

/-- The texts in the order in which they stand do what the items do in place. -/
theorem writes_sorted (program : Program) : ∃ ops,
    WritesAll (Edit.sort (contributionOfProgram program).edits) ops ∧
      ops.Perm (program.items.flatMap (Item.operationsAt .inPlace)) := by
  have hall := (writes_contributionOfAll 0 program.items).append
    (writes_callsOfAll (program.items.filterMap Item.code?))
  rw [List.append_nil] at hall
  exact hall.of_perm (Edit.sort_perm _).symm

/-! ## All assignments -/

theorem mem_operationsAt {item : Item} (h : item.IsDeclared) (moment : Moment) (e : Export) :
    .assign e ∈ item.operationsAt moment ↔ item.Exports moment e := by
  rw [Item.exports_iff h, Item.operationsAt]
  split <;> simp_all

theorem mem_flatMap_operationsAt {items : List Item} (h : ∀ item ∈ items, item.IsDeclared)
    (moment : Moment) (e : Export) :
    .assign e ∈ items.flatMap (Item.operationsAt moment) ↔
      ∃ item ∈ items, item.Exports moment e := by
  rw [List.mem_flatMap]
  exact exists_congr fun item => and_congr_right fun hitem => mem_operationsAt (h item hitem) _ _

/-- The lines in front of a script's own code, what is done in it, and the lines behind it assign
each export of the script to its name, and no name twice. -/
structure Assigns (program : Program) (early : List Assignment) (ops : List Operation)
    (late : List Assignment) : Prop where
  once : (((early.map Assignment.operation ++ ops ++ late.map Assignment.operation).filterMap
    Operation.assigned?).map Export.exported).Nodup
  early : ∀ e, .assign e ∈ early.map Assignment.operation ↔
    ∃ item ∈ program.items, item.Exports .early e
  inPlace : ∀ e, .assign e ∈ ops ↔ ∃ item ∈ program.items, item.Exports .inPlace e
  late : ∀ e, .assign e ∈ late.map Assignment.operation ↔
    ∃ item ∈ program.items, item.Exports .late e
  /-- Beyond that, only what exports all of another module acts on `exports`. -/
  copied : (ops.filterMap Operation.copied?).Perm (stars program.items)

theorem assigns_contributionOfProgram {source : String} {program : Program}
    (h : Program.parse source = .ok program) {ops : List Operation}
    (hops : ops.Perm (program.items.flatMap (Item.operationsAt .inPlace))) :
    Assigns program (contributionOfProgram program).hoisted ops
      (contributionOfProgram program).trailing := by
  have hdeclared := Program.parse_declared h
  have hbare := bare_callsOfAll (program.items.filterMap Item.code?)
  obtain ⟨hearly, hlate⟩ := operations_contributionOfAll 0 program.items
  rw [contributionOfProgram, Contribution.hoisted_append, Contribution.trailing_append,
    hbare.hoisted, hbare.trailing, List.append_nil, List.append_nil]
  refine ⟨?_, fun e => ?_, fun e => ?_, fun e => ?_, ?_⟩
  · have hall := ((hops.append_left (program.items.flatMap (Item.operationsAt .early))).append_right
      (program.items.flatMap (Item.operationsAt .late))).filterMap Operation.assigned?
    rw [hearly, hlate, (hall.map Export.exported).nodup_iff, ← operations_eq]
    exact distinct_operations h
  · rw [hearly]
    exact mem_flatMap_operationsAt hdeclared .early e
  · rw [hops.mem_iff]
    exact mem_flatMap_operationsAt hdeclared .inPlace e
  · rw [hlate]
    exact mem_flatMap_operationsAt hdeclared .late e
  · have hcopied := hops.filterMap Operation.copied?
    rw [copied_flatMap, if_pos rfl] at hcopied
    exact hcopied

/-- What stands in front of all assignments: a marker, and a helper for default imports. -/
def prologue (c : Contribution) : String :=
  (if c.isModule then moduleMarker else "") ++ if c.usesInterop then interopHelper else ""

theorem header_eq (c : Contribution) :
    header c = prologue c ++ String.join (c.hoisted.map Assignment.renderLine) := rfl

theorem exists_gap (c : Contribution) (code : String) : ∃ gap, (gap = "" ∨ gap = "\n") ∧
    footer c code = gap ++ String.join (c.trailing.map Assignment.renderLine) := by
  rw [footer]
  split
  · rename_i hnone
    rw [List.isEmpty_iff.1 hnone]
    exact ⟨"", .inl rfl, rfl⟩
  · refine ⟨_, ?_, rfl⟩
    split
    · exact .inl rfl
    · exact .inr rfl

/-- A lowered script assigns each of its exports once, to the name that it is exported under and
with the value that it stands for. Functions are assigned in front of the script's own code,
re-exports and default expressions where they stand, and classes, variables and lists behind that
code. -/
theorem lower_assigns {source : String} {program : Program}
    (h : Program.parse source = .ok program) (path : String) :
    ∃ out early edits body ops gap late,
      lower source path = .ok out ∧
      out.code = prologue (contributionOfProgram program) ++
        String.join (early.map Assignment.renderLine) ++ String.ofList body ++ gap ++
        String.join (late.map Assignment.renderLine) ∧
      (gap = "" ∨ gap = "\n") ∧
      Splices source.toList program edits body ∧
      WritesAll edits ops ∧
      Assigns program early ops late ∧
      ∀ item ∈ program.items, item.IsDeclared := by
  obtain ⟨out, hout, hcode⟩ := lower_ok h path
  obtain ⟨ops, hwrites, hops⟩ := writes_sorted program
  obtain ⟨gap, hgap, hfooter⟩ := exists_gap (contributionOfProgram program)
    (header (contributionOfProgram program) ++
      String.ofList (splice source.toList (contributionOfProgram program).edits))
  refine ⟨out, _, _, _, ops, gap, _, hout, ?_, hgap, splice_splices h, hwrites,
    assigns_contributionOfProgram h hops, Program.parse_declared h⟩
  rw [hcode, render, hfooter, header_eq, ← String.append_assoc]

/-- A function is assigned first, what a pattern takes apart is assigned last, and the default
expression in between. -/
theorem lower_assigns_pattern : ∃ program out edits body ops gap, ∃ early late : List Assignment,
    Program.parse
      "export function f() \x7b\x7d\nexport const \x7b a, b: [c = 1] \x7d = f\nexport default a" =
        .ok program ∧
    lower
      "export function f() \x7b\x7d\nexport const \x7b a, b: [c = 1] \x7d = f\nexport default a"
        "/src/index.js" = .ok out ∧
    out.code = prologue (contributionOfProgram program) ++
      String.join (early.map Assignment.renderLine) ++ String.ofList body ++ gap ++
      String.join (late.map Assignment.renderLine) ∧
    WritesAll edits ops ∧
    (∀ e, .assign e ∈ early.map Assignment.operation ↔ e = ⟨"f", .bound "f"⟩) ∧
    (∀ e, .assign e ∈ ops ↔ e = ⟨"default", .expression 73⟩) ∧
    ∀ e, .assign e ∈ late.map Assignment.operation ↔
      e = ⟨"a", .bound "a"⟩ ∨ e = ⟨"c", .bound "c"⟩ := by
  have hread : (Program.parse
      "export function f() \x7b\x7d\nexport const \x7b a, b: [c = 1] \x7d = f\nexport default a"
        ).toOption.map (fun p => p.items.map fun item => (item.moment, item.exports)) =
      some [(.early, [⟨"f", .bound "f"⟩]), (.late, [⟨"a", .bound "a"⟩, ⟨"c", .bound "c"⟩]),
        (.inPlace, [⟨"default", .expression 73⟩])] := by decide +kernel
  cases h : Program.parse
      "export function f() \x7b\x7d\nexport const \x7b a, b: [c = 1] \x7d = f\nexport default a" with
  | error line => simp [h, Except.toOption] at hread
  | ok program =>
    obtain ⟨out, early, edits, body, ops, gap, late, hout, hcode, -, -, hwrites, hassigns,
      hdeclared⟩ := lower_assigns h "/src/index.js"
    simp only [h, Except.toOption, Option.map_some, Option.some.injEq] at hread
    have hexports (moment : Moment) (e : Export) :
        (∃ item ∈ program.items, item.Exports moment e) ↔
          ∃ p ∈ program.items.map fun item => (item.moment, item.exports),
            p.1 = moment ∧ e ∈ p.2 := by
      simp only [List.mem_map, exists_exists_and_eq_and]
      exact exists_congr fun item => and_congr_right fun hitem =>
        Item.exports_iff (hdeclared item hitem)
    rw [hread] at hexports
    refine ⟨program, out, edits, body, ops, gap, early, late, rfl, hout, hcode, hwrites,
      fun e => ?_, fun e => ?_, fun e => ?_⟩
    · rw [hassigns.early, hexports]
      simp
    · rw [hassigns.inPlace, hexports]
      simp
    · rw [hassigns.late, hexports]
      simp

end ModuleBundler.Lowering
