import Mathlib.Algebra.Ring.Nat
import Mathlib.Data.List.Perm.Basic
import ModuleBundler.Lowering.Lower
import ModuleBundler.Proofs.Lowering.Splice
import ModuleBundler.Proofs.Script.Program

/-!
# Lowering is a splice

Which stretches of a script are replaced is read off its program: imports, re-exports and export
lists as a whole, the words in front of an exported declaration, and dynamic imports of a string. A
semicolon is inserted after an anonymous default export. Everything else keeps its text and order.
-/

namespace ModuleBundler.Script

namespace Node

mutual

/-- The dynamic imports of a string, in source order. What stands inside one belongs to it. A name
that is called with one string holds none. -/
def literalImports : Node → List Span
  | .mk shape span parts =>
    match shape, parts with
    | .importCall, .mk (.string _) _ _ :: _ => [span]
    | .call, [.mk (.identifier _) _ _, .mk (.string _) _ _] => []
    | _, _ => literalImportsOfAll parts

def literalImportsOfAll : List Node → List Span
  | [] => []
  | n :: r => literalImports n ++ literalImportsOfAll r

end

section

variable {shape : Shape} {span : Span} {parts : List Node}
  (hi : ∀ value s p r, shape = .importCall → parts = .mk (.string value) s p :: r → False)
  (hc : ∀ name s p value s' p', shape = .call →
    parts = [.mk (.identifier name) s p, .mk (.string value) s' p'] → False)

include hi hc

theorem literalImports_inner :
    (Node.mk shape span parts).literalImports = literalImportsOfAll parts := by
  rw [literalImports.eq_def]
  dsimp only
  split
  case h_1 => exact (hi _ _ _ _ rfl rfl).elim
  case h_2 => exact (hc _ _ _ _ _ _ rfl rfl).elim
  case h_3 => rfl

theorem sites_inner : (Node.mk shape span parts).sites = sitesOfAll parts := by
  rw [sites.eq_def]
  dsimp only
  split
  case h_1 => exact (hi _ _ _ _ rfl rfl).elim
  case h_2 => exact (hc _ _ _ _ _ _ rfl rfl).elim
  case h_3 => rfl

end

mutual

/-- Dynamic imports are among the sites. -/
theorem literalImports_sublist : ∀ n : Node, n.literalImports.Sublist n.sites
  | .mk shape span parts => by
    rw [literalImports.eq_def]
    dsimp only
    split
    case h_1 =>
      rw [sites]
    case h_2 => exact List.nil_sublist _
    case h_3 hi hc =>
      rw [sites_inner hi hc]
      exact literalImportsOfAll_sublist parts

theorem literalImportsOfAll_sublist : ∀ l : List Node,
    (literalImportsOfAll l).Sublist (sitesOfAll l)
  | [] => by
    rw [literalImportsOfAll, sitesOfAll]
  | n :: r => by
    rw [literalImportsOfAll, sitesOfAll]
    exact (literalImports_sublist n).append (literalImportsOfAll_sublist r)

end

end Node

namespace Item

/-- The stretches of text that an item gives up. -/
def replaced : Item → List Span
  | .statement n => n.literalImports
  | .importBindings span .. | .exportAll span .. | .exportFrom span .. | .exportList span .. =>
    [span]
  | .exportDeclaration span d | .exportDefault span _ d => ⟨span.start, d.start⟩ :: d.literalImports

/-- Where an item needs a terminator that its text lacks. -/
def terminators : Item → List Nat
  | .exportDefault span _ d =>
    match d.shape with
    | .functionDefinition none | .classDefinition none => [span.stop]
    | _ => []
  | _ => []

/-- Where an item is cut: at the stretches that it gives up, and where it needs a terminator. -/
def cuts (item : Item) : List Span :=
  item.replaced ++ item.terminators.map fun offset => ⟨offset, offset⟩

variable {lo hi : Nat} {span : Span} {d : Node} {item : Item} {items : List Item}

/-- The dynamic imports of an exported declaration stand in front of its dropped words or behind
them. -/
theorem Exported.arranged (h : Exported lo hi span d) {ends : List Span}
    (he : Fits span.stop hi ends) : ∃ arranged,
      (⟨span.start, d.start⟩ :: (d.literalImports ++ ends)).Perm arranged ∧
        Fits lo hi arranged := by
  obtain ⟨before, after, hs, hbefore, hafter⟩ := h.sites
  have hsub := d.literalImports_sublist
  rw [hs] at hsub
  obtain ⟨l₁, l₂, hl, h₁, h₂⟩ := List.sublist_append_iff.mp hsub
  have hinner : span.start ≤ hi := Nat.le_trans h.inner (Nat.le_trans h.ordered h.stop)
  have hback : Fits d.start hi (l₂ ++ ends) :=
    (hafter.sublist h₂).append he h.ordered (Nat.le_refl _) h.stop
  refine ⟨l₁ ++ (⟨span.start, d.start⟩ :: (l₂ ++ ends)), ?_, ?_⟩
  · rw [hl, List.append_assoc]
    exact List.perm_middle.symm
  · refine (hbefore.sublist h₁).append ?_ h.start (Nat.le_refl _) hinner
    exact ⟨Nat.le_refl _, h.inner, Nat.le_trans h.ordered h.stop, hback⟩

theorem Placed.arranged (h : item.Placed lo hi) :
    ∃ arranged, item.cuts.Perm arranged ∧ Fits lo hi arranged := by
  cases item with
  | statement n =>
    refine ⟨n.literalImports, ?_, ?_⟩
    · simp [cuts, replaced, terminators]
    · exact (Node.Placed.fits h).sublist n.literalImports_sublist
  | importBindings | exportAll | exportFrom | exportList =>
    exact ⟨_, List.Perm.refl _, .singleton h.1 h.2.1 h.2.2⟩
  | exportDeclaration span d => exact Exported.arranged h .nil
  | exportDefault span keyword d =>
    have hends : Fits span.stop hi
        ((terminators (.exportDefault span keyword d)).map fun offset => ⟨offset, offset⟩) := by
      unfold terminators
      dsimp only
      split
      · exact .singleton (Nat.le_refl _) (Nat.le_refl _) h.stop
      · exact .singleton (Nat.le_refl _) (Nat.le_refl _) h.stop
      · exact .nil
    exact Exported.arranged h hends

theorem Sequence.arranged (h : Sequence lo hi items) :
    ∃ arranged, (items.flatMap cuts).Perm arranged ∧ Fits lo hi arranged := by
  induction items generalizing lo with
  | nil => exact ⟨[], List.Perm.refl _, .nil⟩
  | cons item r ih =>
    obtain ⟨mid, hi', hr⟩ := h
    obtain ⟨a, hpa, hfa⟩ := Placed.arranged hi'
    obtain ⟨b, hpb, hfb⟩ := ih hr
    refine ⟨a ++ b, ?_, ?_⟩
    · rw [List.flatMap_cons]
      exact hpa.append hpb
    · exact hfa.append hfb hi'.le (Nat.le_refl _) hr.le

end Item

end ModuleBundler.Script

namespace ModuleBundler.Lowering

open Script (Span Fits Node Item Program)

@[simp] theorem Contribution.edits_append (a b : Contribution) :
    (a ++ b).edits = a.edits ++ b.edits := rfl

/-! ## Calls -/

mutual

theorem range_callsOf : ∀ n : Node, (callsOf n).edits.map Edit.range = n.literalImports
  | .mk shape span parts => by
    rw [callsOf.eq_def]
    dsimp only
    split
    case h_1 =>
      rw [Node.literalImports]
      rfl
    case h_2 =>
      rw [Node.literalImports]
      split <;> rfl
    case h_3 hi hc =>
      rw [Node.literalImports_inner hi hc]
      exact range_callsOfAll parts

theorem range_callsOfAll : ∀ l : List Node,
    (callsOfAll l).edits.map Edit.range = Node.literalImportsOfAll l
  | [] => by
    rw [callsOfAll, Node.literalImportsOfAll]
    rfl
  | n :: r => by
    rw [callsOfAll, Node.literalImportsOfAll, Contribution.edits_append, List.map_append,
      range_callsOf n, range_callsOfAll r]

end

@[simp] theorem edits_callsOfAll_append (l r : List Node) :
    (callsOfAll (l ++ r)).edits = (callsOfAll l).edits ++ (callsOfAll r).edits := by
  induction l with
  | nil => simp [callsOfAll]
  | cons n l ih => simp [callsOfAll, ih]

@[simp] theorem edits_callsOfAll_singleton (n : Node) :
    (callsOfAll [n]).edits = (callsOf n).edits := by
  simp [callsOfAll]

/-! ## Items -/

/-- The edits of an item: of its import or export syntax, and of the calls in its code. -/
def itemEdits (used : Nat) (item : Item) : List Edit :=
  (contributionOf used item).edits ++ (callsOfAll item.code?.toList).edits

/-- An inserted semicolon. -/
def terminator (offset : Nat) : Edit := ⟨offset, offset, ";"⟩

/-- What is written in place of the words in front of a default export. -/
def strippedText (d : Node) : String :=
  match d.shape with
  | .functionDefinition (some _) | .classDefinition (some _) => ""
  | _ => "exports.default = "

theorem edits_exportDeclaration (used : Nat) (span : Span) (d : Node) :
    (contributionOf used (.exportDeclaration span d)).edits = [⟨span.start, d.start, ""⟩] := by
  unfold contributionOf
  dsimp only
  split <;> rfl

theorem edits_exportDefault (used : Nat) (span : Span) (keyword : Nat) (d : Node) :
    (contributionOf used (.exportDefault span keyword d)).edits =
      ⟨span.start, d.start, strippedText d⟩ ::
        (Item.terminators (.exportDefault span keyword d)).map terminator := by
  unfold contributionOf strippedText Item.terminators
  dsimp only
  split <;> simp_all [terminator]

/-- Each stretch that an item gives up is replaced once, and each terminator is inserted once. -/
theorem itemEdits_replaced (used : Nat) (item : Item) : ∃ replacing,
    (itemEdits used item).Perm (replacing ++ item.terminators.map terminator) ∧
      replacing.map Edit.range = item.replaced := by
  cases item with
  | statement n =>
    refine ⟨(callsOf n).edits, ?_, range_callsOf n⟩
    simp [itemEdits, contributionOf, Item.code?, Item.terminators]
  | importBindings | exportAll | exportFrom | exportList =>
    refine ⟨_, List.Perm.of_eq (List.append_nil _).symm, ?_⟩
    simp only [itemEdits, contributionOf, Item.code?, Option.toList_none, callsOfAll]
    rfl
  | exportDeclaration span d =>
    refine ⟨⟨span.start, d.start, ""⟩ :: (callsOf d).edits, ?_, ?_⟩
    · rw [itemEdits, edits_exportDeclaration]
      simp [Item.code?, Item.terminators]
    · rw [List.map_cons, range_callsOf]
      rfl
  | exportDefault span keyword d =>
    refine ⟨⟨span.start, d.start, strippedText d⟩ :: (callsOf d).edits, ?_, ?_⟩
    · rw [itemEdits, edits_exportDefault]
      simp [Item.code?, List.perm_append_comm]
    · rw [List.map_cons, range_callsOf]
      rfl

/-! ## Programs -/

/-- The edits of the items, each with the temporaries of those before it taken. -/
def itemsEdits (used : Nat) : List Item → List Edit
  | [] => []
  | item :: r =>
    itemEdits used item ++ itemsEdits (used + (contributionOf used item).temporaries) r

/-- The two passes over a program collect the edits of its items. -/
theorem edits_perm (used : Nat) (items : List Item) :
    ((contributionOfAll used items).edits ++
      (callsOfAll (items.filterMap Item.code?)).edits).Perm (itemsEdits used items) := by
  induction items generalizing used with
  | nil => exact List.Perm.refl _
  | cons item r ih =>
    have hcode : (item :: r).filterMap Item.code? =
        item.code?.toList ++ r.filterMap Item.code? := by
      cases h : item.code? <;> simp [h]
    rw [hcode, contributionOfAll, itemsEdits, itemEdits]
    rw [Contribution.edits_append, edits_callsOfAll_append, List.append_assoc, List.append_assoc]
    refine .append_left _ ((List.perm_append_comm_assoc _ _ _).trans (.append_left _ ?_))
    exact ih _

theorem itemsEdits_replaced (used : Nat) (items : List Item) : ∃ replacing,
    (itemsEdits used items).Perm (replacing ++ (items.flatMap Item.terminators).map terminator) ∧
      replacing.map Edit.range = items.flatMap Item.replaced := by
  induction items generalizing used with
  | nil => exact ⟨[], List.Perm.refl _, rfl⟩
  | cons item r ih =>
    obtain ⟨a, hpa, hra⟩ := itemEdits_replaced used item
    obtain ⟨b, hpb, hrb⟩ := ih (used + (contributionOf used item).temporaries)
    refine ⟨a ++ b, ?_, ?_⟩
    · rw [itemsEdits, List.flatMap_cons, List.map_append]
      apply (hpa.append hpb).trans
      rw [List.append_assoc, List.append_assoc]
      exact .append_left a (List.perm_append_comm_assoc _ _ _)
    · rw [List.map_append, hra, hrb, List.flatMap_cons]

/-- The edits cut the text at the stretches that the program gives up and at the places where it
needs a terminator, and nowhere else. -/
structure Splices (source : List Char) (program : Program) (edits : List Edit) (body : List Char) :
    Prop where
  fits : Fits 0 source.length (edits.map Edit.range)
  replaced : ∃ replacing,
    edits.Perm (replacing ++ (program.items.flatMap Item.terminators).map terminator) ∧
      replacing.map Edit.range = program.items.flatMap Item.replaced
  spliced : Spliced 0 source edits body

theorem range_perm_cuts {edits replacing : List Edit} {items : List Item}
    (hp : edits.Perm (replacing ++ (items.flatMap Item.terminators).map terminator))
    (hr : replacing.map Edit.range = items.flatMap Item.replaced) :
    (edits.map Edit.range).Perm (items.flatMap Item.cuts) := by
  have hrange := hp.map Edit.range
  rw [List.map_append, hr, List.map_map, List.map_flatMap] at hrange
  exact hrange.trans (List.flatMap_append_perm items Item.replaced _)

theorem splice_splices {source : String} {program : Program}
    (h : Program.parse source = .ok program) :
    Splices source.toList program (Edit.sort (contributionOfProgram program).edits)
      (splice source.toList (contributionOfProgram program).edits) := by
  have hp : (contributionOfProgram program).edits.Perm (itemsEdits 0 program.items) :=
    edits_perm 0 program.items
  obtain ⟨replacing, hr, hrange⟩ := itemsEdits_replaced 0 program.items
  obtain ⟨arranged, ha, hf⟩ := (Program.parse_sequence h).arranged
  have hcuts := (range_perm_cuts (hp.trans hr) hrange).trans ha
  have hfits : Fits 0 source.toList.length
      ((Edit.sort (contributionOfProgram program).edits).map Edit.range) := by
    rw [Edit.range_sort hcuts hf]
    exact hf
  refine ⟨hfits, ⟨replacing, ?_, hrange⟩, spliced_spliceFrom ?_⟩
  · exact (Edit.sort_perm _).trans (hp.trans hr)
  · rw [Nat.zero_add]
    exact hfits

/-! ## Scripts without imports and exports -/

namespace Contribution

/-- Nothing is written around the script's own code. -/
structure Bare (c : Contribution) : Prop where
  hoisted : c.hoisted = []
  trailing : c.trailing = []
  usesInterop : c.usesInterop = false
  isModule : c.isModule = false

theorem bare_empty : ({} : Contribution).Bare := ⟨rfl, rfl, rfl, rfl⟩

theorem Bare.append {a b : Contribution} (ha : a.Bare) (hb : b.Bare) : (a ++ b).Bare := by
  refine ⟨?_, ?_, ?_, ?_⟩
  · exact List.append_eq_nil_iff.mpr ⟨ha.hoisted, hb.hoisted⟩
  · exact List.append_eq_nil_iff.mpr ⟨ha.trailing, hb.trailing⟩
  · exact Bool.or_eq_false_iff.mpr ⟨ha.usesInterop, hb.usesInterop⟩
  · exact Bool.or_eq_false_iff.mpr ⟨ha.isModule, hb.isModule⟩

theorem Bare.header {c : Contribution} (h : c.Bare) : header c = "" := by
  rw [Lowering.header, h.hoisted, h.usesInterop, h.isModule]
  rfl

theorem Bare.footer {c : Contribution} (h : c.Bare) (code : String) : footer c code = "" := by
  rw [Lowering.footer, h.trailing]
  rfl

end Contribution

mutual

theorem bare_callsOf : ∀ n : Node, (callsOf n).Bare
  | .mk shape span parts => by
    rw [callsOf.eq_def]
    dsimp only
    split
    · exact ⟨rfl, rfl, rfl, rfl⟩
    · split
      · exact ⟨rfl, rfl, rfl, rfl⟩
      · exact Contribution.bare_empty
    · exact bare_callsOfAll parts

theorem bare_callsOfAll : ∀ l : List Node, (callsOfAll l).Bare
  | [] => by
    rw [callsOfAll]
    exact Contribution.bare_empty
  | n :: r => by
    rw [callsOfAll]
    exact (bare_callsOf n).append (bare_callsOfAll r)

end

theorem bare_contributionOfAll {items : List Item} (h : ∀ item ∈ items, ∃ n, item = .statement n)
    (used : Nat) : (contributionOfAll used items).Bare := by
  induction items generalizing used with
  | nil => exact Contribution.bare_empty
  | cons item r ih =>
    obtain ⟨n, rfl⟩ := h item List.mem_cons_self
    rw [contributionOfAll]
    exact Contribution.bare_empty.append (ih (fun i hi => h i (List.mem_cons_of_mem _ hi)) _)

theorem replaced_eq_nil {items : List Item}
    (h : ∀ item ∈ items, ∃ n, item = .statement n ∧ n.literalImports = []) :
    items.flatMap Item.replaced = [] ∧ items.flatMap Item.terminators = [] := by
  rw [List.flatMap_eq_nil_iff, List.flatMap_eq_nil_iff]
  refine ⟨fun item hi => ?_, fun item hi => ?_⟩
  · obtain ⟨n, rfl, hn⟩ := h item hi
    exact hn
  · obtain ⟨n, rfl, -⟩ := h item hi
    rfl

theorem Splices.body_eq {source body : List Char} {program : Program} {edits : List Edit}
    (h : Splices source program edits body)
    (hp : ∀ item ∈ program.items, ∃ n, item = .statement n ∧ n.literalImports = []) :
    body = source := by
  obtain ⟨replacing, hperm, hrange⟩ := h.replaced
  obtain ⟨hnone, hends⟩ := replaced_eq_nil hp
  rw [hnone, List.map_eq_nil_iff] at hrange
  rw [hends, hrange] at hperm
  have hspliced := h.spliced
  rw [hperm.eq_nil] at hspliced
  cases hspliced
  rfl

/-! ## The output -/

theorem lower_ok {source : String} {program : Program} (h : Program.parse source = .ok program)
    (path : String) : ∃ out, lower source path = .ok out ∧
      out.code = render source.toList (contributionOfProgram program) := by
  rw [lower, h]
  exact ⟨_, rfl, rfl⟩

/-- Lowering succeeds on every text that parses. Its output is a header, the text with exactly the
stretches replaced that its imports, exports and dynamic imports give up, and a footer. A text that
has none of these is its own output. -/
theorem lower_splices {source : String} {program : Program}
    (h : Program.parse source = .ok program) (path : String) : ∃ out body,
      lower source path = .ok out ∧
      Splices source.toList program (Edit.sort (contributionOfProgram program).edits) body ∧
      out.code = header (contributionOfProgram program) ++ String.ofList body ++
        footer (contributionOfProgram program)
          (header (contributionOfProgram program) ++ String.ofList body) ∧
      ((∀ item ∈ program.items, ∃ n, item = .statement n ∧ n.literalImports = []) →
        out.code = source) := by
  obtain ⟨out, hout, hcode⟩ := lower_ok h path
  have hs := splice_splices h
  refine ⟨out, _, hout, hs, hcode, fun hp => ?_⟩
  have hbare : (contributionOfProgram program).Bare :=
    (bare_contributionOfAll (fun item hi => (hp item hi).imp fun _ hn => hn.1) 0).append
      (bare_callsOfAll _)
  rw [hcode, render, hs.body_eq hp, hbare.header, hbare.footer, String.ofList_toList]
  simp

/-- An anonymous class with a dynamic import inside: its prefix and the import give way, and a
semicolon comes after it. -/
theorem lower_splices_anonymous : ∃ program out body,
    Program.parse "export default class \x7b a = import('b') \x7d" = .ok program ∧
      program.items.flatMap Item.replaced = [⟨0, 15⟩, ⟨27, 38⟩] ∧
      program.items.flatMap Item.terminators = [40] ∧
      lower "export default class \x7b a = import('b') \x7d" "/src/index.js" = .ok out ∧
      Splices "export default class \x7b a = import('b') \x7d".toList program
        (Edit.sort (contributionOfProgram program).edits) body := by
  have hread : (Program.parse "export default class \x7b a = import('b') \x7d").toOption.map
      (fun p => (p.items.flatMap Item.replaced, p.items.flatMap Item.terminators)) =
        some ([⟨0, 15⟩, ⟨27, 38⟩], [40]) := by decide +kernel
  cases h : Program.parse "export default class \x7b a = import('b') \x7d" with
  | error line => simp [h, Except.toOption] at hread
  | ok program =>
    obtain ⟨out, body, hout, hs, -⟩ := lower_splices h "/src/index.js"
    simp only [h, Except.toOption, Option.map_some, Option.some.injEq, Prod.mk.injEq] at hread
    exact ⟨program, out, body, rfl, hread.1, hread.2, hout, hs⟩

/-! ## Statements -/

/-- How many statements come out of an item. -/
def imageCount : Item → Nat
  | .importBindings _ clause specifier =>
    (importStatements clause specifier (temporaryName 0)).length
  | .exportList .. => 0
  | .statement _ | .exportAll .. | .exportFrom .. | .exportDeclaration .. | .exportDefault .. => 1

/-- How many statements come out of a program when none of them takes in its neighbour. -/
def statementCount (program : Program) : Nat :=
  let c := contributionOfProgram program
  (if c.isModule then 1 else 0) + (if c.usesInterop then 1 else 0) + c.hoisted.length +
    (program.items.map imageCount).sum + c.trailing.length

/-- Statements can join. An export list leaves nothing behind, so that a name that no semicolon
ends and the parentheses after the list come out as one call. -/
theorem lower_joins : ∃ program out joined,
    Program.parse "a\nexport \x7b\x7d\n(b)" = .ok program ∧
      lower "a\nexport \x7b\x7d\n(b)" "/src/index.js" = .ok out ∧
      out.code = moduleMarker ++ "a\n\n(b)" ∧ Program.parse out.code = .ok joined ∧
      joined.items.length < statementCount program := by
  have hread : (Program.parse "a\nexport \x7b\x7d\n(b)").toOption.map
      (fun p => (statementCount p, contributionOfProgram p)) =
        some (3, { edits := [⟨2, 11, ""⟩], isModule := true }) := by decide +kernel
  have hagain : (Program.parse (moduleMarker ++ "a\n\n(b)")).toOption.map (·.items.length) =
      some 2 := by decide +kernel
  cases h : Program.parse "a\nexport \x7b\x7d\n(b)" with
  | error line => simp [h, Except.toOption] at hread
  | ok program =>
    cases hj : Program.parse (moduleMarker ++ "a\n\n(b)") with
    | error line => simp [hj, Except.toOption] at hagain
    | ok joined =>
      simp only [h, Except.toOption, Option.map_some, Option.some.injEq, Prod.mk.injEq] at hread
      simp only [hj, Except.toOption, Option.map_some, Option.some.injEq] at hagain
      obtain ⟨out, hout, hcode⟩ := lower_ok h "/src/index.js"
      have hc : out.code = moduleMarker ++ "a\n\n(b)" := by
        rw [hcode, hread.2, render, splice, Edit.sort, List.mergeSort_singleton]
        decide +kernel
      refine ⟨program, out, joined, rfl, hout, hc, ?_, ?_⟩
      · rw [hc]
        exact hj
      · rw [hagain, hread.1]
        decide

/-! ## Lowering again -/

/-- A name that is written behind a dot, although it is alphabetic without being an identifier: what
lowering writes cannot be read. -/
theorem lower_unreadable : ∃ out,
    lower "export \x7b a as 'ⓐ' \x7d from './x'" "/src/index.js" = .ok out ∧
      out.code = moduleMarker ++ "(function (m) \x7b exports.ⓐ = m.a; \x7d)(require(\"./x\"));" ∧
      Program.parse out.code = .error 2 ∧ lower out.code "/src/index.js" = .error 2 := by
  have hread : (Program.parse "export \x7b a as 'ⓐ' \x7d from './x'").toOption.map
      contributionOfProgram =
        some { edits := [⟨0, 30, "(function (m) \x7b exports.ⓐ = m.a; \x7d)(require(\"./x\"));"⟩],
               requests := [⟨0, "./x"⟩], isModule := true } := by decide +kernel
  have hagain : (Program.parse (moduleMarker ++
      "(function (m) \x7b exports.ⓐ = m.a; \x7d)(require(\"./x\"));")).map (fun _ => ()) =
        .error 2 := by decide +kernel
  cases h : Program.parse "export \x7b a as 'ⓐ' \x7d from './x'" with
  | error line => simp [h, Except.toOption] at hread
  | ok program =>
    simp only [h, Except.toOption, Option.map_some, Option.some.injEq] at hread
    obtain ⟨out, hout, hcode⟩ := lower_ok h "/src/index.js"
    have hc : out.code =
        moduleMarker ++ "(function (m) \x7b exports.ⓐ = m.a; \x7d)(require(\"./x\"));" := by
      rw [hcode, hread, render, splice, Edit.sort, List.mergeSort_singleton]
      decide +kernel
    have hparse : Program.parse out.code = .error 2 := by
      rw [hc]
      cases hj : Program.parse (moduleMarker ++
          "(function (m) \x7b exports.ⓐ = m.a; \x7d)(require(\"./x\"));") with
      | ok joined => simp [hj, Except.map] at hagain
      | error line =>
        rw [hj] at hagain
        cases hagain
        rfl
    refine ⟨out, hout, hc, hparse, ?_⟩
    rw [lower, hparse]
    rfl

end ModuleBundler.Lowering
