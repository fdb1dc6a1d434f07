import ModuleBundler.Proofs.Lowering.Imports
import ModuleBundler.Proofs.Lowering.Layout
import ModuleBundler.Proofs.Script.Front

/-!
# Scripts whose imports stand in front

Where imports, re-exports and export lists stand in front of a script's own code, the output consists
of generated statements in front of that code, which keeps its text.
-/

namespace ModuleBundler.Script

/-- The names of an import or an export that are written without quotes are words. -/
def Item.Legible : Item → Prop
  | .importBindings _ clause _ => Lowering.ReadableClause clause
  | .exportAll _ exported? _ => ∀ exported ∈ exported?, Lowering.ReadableName exported.name
  | .exportFrom _ names _ =>
    ∀ n ∈ names, Lowering.ReadableName n.exported.name ∧ Lowering.ReadableName n.source.name
  | .exportList _ names =>
    ∀ n ∈ names, Lowering.ReadableName n.exported.name ∧ IsVariable n.source.name
  | .statement _ | .exportDeclaration .. | .exportDefault .. => True

variable {text : List Char} {lo hi : Nat}

theorem Item.Sequence.fits_whole {items : List Item} (h : Item.Sequence lo hi items) :
    Fits lo hi (items.filterMap Item.whole?) := by
  induction items generalizing lo with
  | nil => exact .nil
  | cons item items ih =>
    obtain ⟨mid, hplaced, h⟩ := h
    cases hitem : item.whole? with
    | none =>
      rw [List.filterMap_cons_none hitem]
      exact (ih h).mono hplaced.le (Nat.le_refl _)
    | some span =>
      obtain ⟨hstart, hle, hstop⟩ := hplaced.whole hitem
      rw [List.filterMap_cons_some hitem]
      have hinside : span.stop ≤ hi := Nat.le_trans hstop h.le
      exact ⟨hstart, hle, hinside, (ih h).mono hstop (Nat.le_refl _)⟩

theorem Item.Sequence.fits_sites {code : List Node} (h : Item.Sequence lo hi (code.map .statement)) :
    Fits lo hi (Node.sitesOfAll code) := by
  induction code generalizing lo with
  | nil =>
    rw [Node.sitesOfAll_nil]
    exact .nil
  | cons n code ih =>
    obtain ⟨mid, hplaced, h⟩ := h
    rw [Node.sitesOfAll_cons]
    exact (Node.Placed.fits hplaced).append (ih h) hplaced.le (Nat.le_refl _) h.le

theorem Item.Sequence.split {items' : List Item} (h : Item.Sequence lo hi (items ++ items')) :
    ∃ mid, Item.Sequence lo mid items ∧ Item.Sequence mid hi items' := by
  induction items generalizing lo with
  | nil => exact ⟨lo, Nat.le_refl lo, h⟩
  | cons item items ih =>
    obtain ⟨mid, hplaced, h⟩ := h
    obtain ⟨mid', hitems, h⟩ := ih h
    exact ⟨mid', ⟨mid, hplaced, hitems⟩, h⟩

theorem Fronts.exists_whole (h : Fronts text lo items hi) :
    ∀ item ∈ items, ∃ span, item.whole? = some span := by
  induction h with
  | none => simp
  | front hitem _ _ ih => exact List.forall_mem_cons.2 ⟨⟨_, hitem⟩, ih⟩

end ModuleBundler.Script

namespace ModuleBundler.Lowering

open Script

/-- The imports, re-exports and export lists of a script stand in front of its own code, with nothing
but blanks and comments in front of each. An export list leaves nothing in its place, so where there
is one, there is nothing but these. -/
structure Fronted (text : List Char) (program : Program) (front : List Item) (stop : Nat)
    (code : List Node) : Prop where
  items : program.items = front ++ code.map .statement
  fronts : Fronts text 0 front stop
  legible : ∀ item ∈ front, item.Legible
  static : ∀ n ∈ code, n.literalImports = []
  alone : (∀ span names, .exportList span names ∉ front) ∨ code = [] ∧ IsGap (text.drop stop)

/-- No semicolon ends an import or a re-export here, and the code behind starts with a parenthesis. -/
def importingScript : String := "import a from './a'\nexport * from './b'\n(a)"

def importingFront : List Item :=
  [.importBindings ⟨0, 19⟩ { defaultName? := some "a" } "./a", .exportAll ⟨20, 39⟩ none "./b"]

/-- The items in front, and a statement without dynamic imports. -/
def isImportingScript : List Item → Bool
  | [.importBindings ⟨0, 19⟩ ⟨some "a", none, []⟩ "./a", .exportAll ⟨20, 39⟩ none "./b",
      .statement n] => n.literalImports.isEmpty
  | _ => false

theorem parse_importingScript : ∃ n : Node, n.literalImports = [] ∧
    Program.parse importingScript = .ok ⟨importingFront ++ [.statement n]⟩ := by
  have hread : (Program.parse importingScript).toOption.any
      (fun p => isImportingScript p.items) = true := by
    decide +kernel
  cases h : Program.parse importingScript with
  | error line => simp [h, Except.toOption] at hread
  | ok program =>
    obtain ⟨items⟩ := program
    simp only [h, Except.toOption, Option.any_some, isImportingScript] at hread
    split at hread
    · rename_i n
      exact ⟨n, List.isEmpty_iff.1 hread, rfl⟩
    · cases hread

theorem fronted_importingScript {n : Node} (h : n.literalImports = []) :
    Fronted importingScript.toList ⟨importingFront ++ [.statement n]⟩ importingFront 39 [n] where
  items := rfl
  fronts := by
    have hend : IsGap (stretch importingScript.toList 19 20) :=
      .blank (.inr (by decide)) .nothing
    exact .front rfl .nothing (.front rfl hend (.none 39))
  legible := by simp [importingFront, Item.Legible, ReadableClause]
  static := by simpa using h
  alone := .inl (by simp [importingFront])

/-! ## Statements in place of items -/

/-- The statements in front of a script's own. -/
def preamble (c : Contribution) : List Generated :=
  (if c.isModule then [.marker] else []) ++ (if c.usesInterop then [.interop] else []) ++
    c.hoisted.map .exported

/-- The statements that an import or a re-export gives way to; an export list leaves nothing. -/
def imagesOf (used : Nat) : Item → List Generated
  | .importBindings _ clause specifier =>
    (importStatements clause specifier (temporaryName used)).map .imported
  | .exportAll _ exported? specifier =>
    match exported? with
    | some exported => [.reexported (.whole exported.name specifier)]
    | none => [.reexported (.all specifier)]
  | .exportFrom _ names specifier =>
    [.reexported (.named (names.map fun n => (n.exported.name, n.source.name)) specifier)]
  | .exportList .. | .statement _ | .exportDeclaration .. | .exportDefault .. => []

/-- The statements that the imports and re-exports of a script give way to. -/
def images (used : Nat) (items : List Item) : List Generated :=
  (numbered used items).flatMap fun x => imagesOf x.1 x.2

theorem images_cons (used : Nat) (item : Item) (items : List Item) :
    images used (item :: items) =
      imagesOf used item ++ images (used + (contributionOf used item).temporaries) items := by
  rw [images, numbered, List.flatMap_cons]
  rfl

variable {used lo hi : Nat} {text : List Char} {item : Item} {items : List Item} {span : Span}
  {code : List Node}

theorem edits_whole (hitem : item.whole? = some span) (used : Nat) :
    (contributionOf used item).edits = [⟨span.start, span.stop,
      " ".intercalate ((imagesOf used item).map Generated.render)⟩] := by
  cases item with
  | importBindings span clause specifier =>
    cases hitem
    simp only [contributionOf, imagesOf, List.map_map]
    rfl
  | exportAll span exported? specifier =>
    cases hitem
    cases exported? <;> rfl
  | exportFrom | exportList =>
    cases hitem
    rfl
  | statement | exportDeclaration | exportDefault => cases hitem

theorem imagesOf_ne_nil (hitem : item.whole? = some span)
    (hlist : ∀ span names, item ≠ .exportList span names) (used : Nat) : imagesOf used item ≠ [] := by
  cases item with
  | importBindings span clause specifier =>
    obtain ⟨first, rest, hstatements, -⟩ :=
      importStatements_eq clause specifier (temporaryName used)
    simp [imagesOf, hstatements]
  | exportAll span exported? specifier => cases exported? <;> simp [imagesOf]
  | exportFrom => simp [imagesOf]
  | exportList span names => exact absurd rfl (hlist span names)
  | statement | exportDeclaration | exportDefault => cases hitem

theorem readable_imagesOf (hvars : item.ImportsVariables) (hlegible : item.Legible) (used : Nat) :
    ∀ g ∈ imagesOf used item, g.Readable := by
  cases item with
  | importBindings span clause specifier =>
    intro g hg
    obtain ⟨statement, hstatement, rfl⟩ := List.mem_map.1 hg
    exact readable_importStatements hvars (isVariable_temporaryName used) hlegible specifier _
      hstatement
  | exportAll span exported? specifier =>
    cases exported? with
    | none => simp [imagesOf, Generated.Readable, ReexportStatement.Readable]
    | some exported =>
      have hname := hlegible exported rfl
      simpa [imagesOf, Generated.Readable, ReexportStatement.Readable] using hname
  | exportFrom span names specifier =>
    intro g hg
    obtain rfl := List.mem_singleton.1 hg
    exact List.forall_mem_map.2 hlegible
  | exportList | statement | exportDeclaration | exportDefault => simp [imagesOf]

/-! ## Own code -/

/-- Statements contribute nothing but their calls. -/
theorem contributionOfAll_append_statements (used : Nat) (items : List Item) (code : List Node) :
    contributionOfAll used (items ++ code.map .statement) = contributionOfAll used items := by
  induction items generalizing used with
  | nil =>
    induction code with
    | nil => rfl
    | cons n code ih =>
      rw [List.nil_append, List.map_cons, contributionOfAll]
      rw [List.nil_append] at ih
      change {} ++ contributionOfAll used (code.map .statement) = _
      rw [ih]
      rfl
  | cons item items ih => rw [List.cons_append, contributionOfAll, contributionOfAll, ih]

theorem images_append_statements (used : Nat) (items : List Item) (code : List Node) :
    images used (items ++ code.map .statement) = images used items := by
  induction items generalizing used with
  | nil =>
    induction code with
    | nil => rfl
    | cons n code ih => exact ih
  | cons item items ih => rw [List.cons_append, images_cons, images_cons, ih]

theorem literalImportsOfAll_eq_nil (h : ∀ n ∈ code, n.literalImports = []) :
    Node.literalImportsOfAll code = [] := by
  induction code with
  | nil => rw [Node.literalImportsOfAll]
  | cons n code ih =>
    rw [List.forall_mem_cons] at h
    rw [Node.literalImportsOfAll, h.1, ih h.2, List.append_nil]

/-! ## What is written -/

theorem toList_join_renderLine (l : List Assignment) :
    (String.join (l.map Assignment.renderLine)).toList =
      (l.map Generated.exported).flatMap Generated.line := by
  induction l with
  | nil => rfl
  | cons a l ih =>
    simp only [List.map_cons, String.join_cons, String.toList_append, ih, List.flatMap_cons]
    simp [Assignment.renderLine, Generated.line, Generated.render]

theorem toList_header (c : Contribution) :
    (header c).toList = (preamble c).flatMap Generated.line := by
  have hmarker : moduleMarker.toList = Generated.line .marker := by decide +kernel
  have hinterop : interopHelper.toList = Generated.line .interop := by decide +kernel
  simp only [header, preamble, String.toList_append, toList_join_renderLine, List.flatMap_append]
  split <;> split <;> simp [hmarker, hinterop]

/-- Edits that follow each other are sorted. -/
theorem sort_of_fits {edits : List Edit} (h : Fits lo hi (edits.map Edit.range)) :
    Edit.sort edits = edits := by
  apply List.mergeSort_of_pairwise
  have hpairs := Edit.pairwise_of_fits h
  rw [List.pairwise_map] at hpairs
  exact hpairs.imp Edit.le_iff.2

/-- What comes out for the items in front is made of what they give way to. The last of them leaves
nothing behind but itself, unless there are export lists. -/
theorem laid_spliceFrom {last : Nat} (h : Fronts text lo items hi)
    (hfits : Fits lo last (items.filterMap Item.whole?)) (used : Nat) : ∃ gap, IsGap gap ∧
      Laid (gap ++ text.drop hi) (images used items)
        (spliceFrom (text.drop lo) lo (contributionOfAll used items).edits) ∧
      ((∀ span names, .exportList span names ∉ items) → gap = []) := by
  induction h generalizing used with
  | none => exact ⟨[], .nothing, .last, fun _ => rfl⟩
  | @front lo hi item span items hitem hgap _ ih =>
    rw [List.filterMap_cons_some hitem] at hfits
    obtain ⟨hstart, hstop, -, hfits⟩ := hfits
    obtain ⟨gap, hend, hlaid, hnone⟩ := ih hfits (used + (contributionOf used item).temporaries)
    rw [images_cons, contributionOfAll, Contribution.edits_append, edits_whole hitem,
      List.cons_append, List.nil_append, spliceFrom, List.drop_drop, List.append_assoc]
    have hdrop : lo + (span.stop - lo) = span.stop := by omega
    rw [hdrop]
    have hlaid := hlaid.intercalate (imagesOf used item)
    by_cases hne : imagesOf used item ++
        images (used + (contributionOf used item).temporaries) items = []
    · rw [hne] at hlaid ⊢
      generalize hrest : (" ".intercalate ((imagesOf used item).map Generated.render)).toList ++
        spliceFrom (text.drop span.stop) span.stop _ = rest at hlaid ⊢
      cases hlaid with
      | last =>
        refine ⟨stretch text lo span.start ++ gap, hgap.append hend, ?_, fun hlist => ?_⟩
        · rw [List.append_assoc]
          exact .last
        · have himages : imagesOf used item ≠ [] := by
            refine imagesOf_ne_nil hitem (fun span' names heq => ?_) used
            exact hlist span' names (heq ▸ List.mem_cons_self)
          exact absurd (List.append_eq_nil_iff.1 hne).1 himages
    · refine ⟨gap, hend, hlaid.behind hgap hne, fun hlist => hnone fun span' names hmem => ?_⟩
      exact hlist span' names (List.mem_cons_of_mem _ hmem)

/-! ## The output -/

theorem range_edits_whole (h : ∀ item ∈ items, ∃ span, item.whole? = some span) (used : Nat) :
    (contributionOfAll used items).edits.map Edit.range = items.filterMap Item.whole? := by
  induction items generalizing used with
  | nil => rfl
  | cons item items ih =>
    obtain ⟨⟨span, hitem⟩, h⟩ := List.forall_mem_cons.1 h
    rw [contributionOfAll, Contribution.edits_append, List.map_append, ih h, edits_whole hitem,
      List.filterMap_cons_some hitem]
    rfl

theorem hoisted_whole (h : ∀ item ∈ items, ∃ span, item.whole? = some span) (used : Nat) :
    (contributionOfAll used items).hoisted = [] := by
  induction items generalizing used with
  | nil => rfl
  | cons item items ih =>
    obtain ⟨⟨span, hitem⟩, h⟩ := List.forall_mem_cons.1 h
    have hfirst : (contributionOf used item).hoisted = [] := by
      cases item with
      | importBindings | exportAll | exportFrom | exportList => rfl
      | statement | exportDeclaration | exportDefault => cases hitem
    rw [contributionOfAll]
    exact List.append_eq_nil_iff.2 ⟨hfirst, ih h _⟩

/-- Only export lists are assigned behind the script's own code. -/
theorem trailing_whole (h : ∀ item ∈ items, ∃ span, item.whole? = some span)
    (hlist : ∀ span names, .exportList span names ∉ items) (used : Nat) :
    (contributionOfAll used items).trailing = [] := by
  induction items generalizing used with
  | nil => rfl
  | cons item items ih =>
    obtain ⟨⟨span, hitem⟩, h⟩ := List.forall_mem_cons.1 h
    have hrest := ih h fun span names hmem => hlist span names (List.mem_cons_of_mem _ hmem)
    have hfirst : (contributionOf used item).trailing = [] := by
      cases item with
      | exportList span names => exact absurd List.mem_cons_self (hlist span names)
      | importBindings | exportAll | exportFrom => rfl
      | statement | exportDeclaration | exportDefault => cases hitem
    rw [contributionOfAll]
    exact List.append_eq_nil_iff.2 ⟨hfirst, hrest _⟩

theorem readable_trailing (h : ∀ item ∈ items, ∃ span, item.whole? = some span)
    (hlegible : ∀ item ∈ items, item.Legible) (used : Nat) :
    ∀ a ∈ (contributionOfAll used items).trailing, a.Readable := by
  induction items generalizing used with
  | nil => simp [contributionOfAll]
  | cons item items ih =>
    obtain ⟨⟨span, hitem⟩, h⟩ := List.forall_mem_cons.1 h
    obtain ⟨hnames, hlegible⟩ := List.forall_mem_cons.1 hlegible
    intro a ha
    obtain ha | ha := List.mem_append.1 ha
    · cases item with
      | exportList span names =>
        obtain ⟨n, hn, rfl⟩ := List.mem_map.1 ha
        exact hnames n hn
      | importBindings | exportAll | exportFrom => cases ha
      | statement | exportDeclaration | exportDefault => cases hitem
    · exact ih h hlegible _ a ha

theorem readable_images (hvars : ∀ item ∈ items, item.ImportsVariables)
    (hlegible : ∀ item ∈ items, item.Legible) (used : Nat) :
    ∀ g ∈ images used items, g.Readable := by
  intro g hg
  obtain ⟨⟨n, item⟩, hitem, hg⟩ := List.mem_flatMap.1 hg
  have hmem := mem_of_numbered hitem
  exact readable_imagesOf (hvars item hmem) (hlegible item hmem) n g hg

namespace Fronted

variable {source : String} {program : Program} {front : List Item} {stop : Nat}

theorem filterMap_code? (h : Fronted text program front stop code) :
    program.items.filterMap Item.code? = code := by
  have hfront : front.filterMap Item.code? = [] := by
    rw [List.filterMap_eq_nil_iff]
    intro item hitem
    obtain ⟨span, hspan⟩ := h.fronts.exists_whole item hitem
    cases item with
    | importBindings | exportAll | exportFrom | exportList => rfl
    | statement | exportDeclaration | exportDefault => cases hspan
  have hcode : (code.map Item.statement).filterMap Item.code? = code := by
    rw [List.filterMap_map]
    exact List.filterMap_some
  rw [h.items, List.filterMap_append, hfront, hcode, List.nil_append]

theorem contributionOfProgram_eq (h : Fronted text program front stop code) :
    contributionOfProgram program = contributionOfAll 0 front ++ callsOfAll code := by
  rw [contributionOfProgram, h.filterMap_code?, h.items, contributionOfAll_append_statements]

theorem hoisted_eq_nil (h : Fronted text program front stop code) :
    (contributionOfProgram program).hoisted = [] := by
  rw [h.contributionOfProgram_eq]
  exact List.append_eq_nil_iff.2 ⟨hoisted_whole h.fronts.exists_whole 0,
    (bare_callsOfAll code).hoisted⟩

theorem trailing_eq (h : Fronted text program front stop code) :
    (contributionOfProgram program).trailing = (contributionOfAll 0 front).trailing := by
  rw [h.contributionOfProgram_eq]
  exact (congrArg _ (bare_callsOfAll code).trailing).trans (List.append_nil _)

theorem edits_callsOfAll (h : Fronted text program front stop code) :
    (callsOfAll code).edits = [] := by
  rw [← List.map_eq_nil_iff (f := Edit.range), range_callsOfAll]
  exact literalImportsOfAll_eq_nil h.static

theorem readable_preamble (h : Fronted text program front stop code) :
    ∀ g ∈ preamble (contributionOfProgram program), g.Readable := by
  rw [preamble, h.hoisted_eq_nil]
  intro g hg
  simp only [List.map_nil, List.append_nil, List.mem_append] at hg
  obtain hg | hg := hg
  · split at hg
    · obtain rfl := List.mem_singleton.1 hg
      trivial
    · cases hg
  · split at hg
    · obtain rfl := List.mem_singleton.1 hg
      trivial
    · cases hg

/-- Every generated statement can be read. -/
theorem readable (h : Fronted source.toList program front stop code)
    (hparse : Program.parse source = .ok program) :
    (∀ g ∈ preamble (contributionOfProgram program) ++ images 0 program.items, g.Readable) ∧
      ∀ a ∈ (contributionOfProgram program).trailing, a.Readable := by
  have hlegible : ∀ item ∈ program.items, item.Legible := by
    rw [h.items, List.forall_mem_append]
    exact ⟨h.legible, by simp [Item.Legible]⟩
  constructor
  · rw [List.forall_mem_append]
    exact ⟨h.readable_preamble,
      readable_images (Program.parse_importsVariables hparse) hlegible 0⟩
  · rw [h.trailing_eq]
    exact readable_trailing h.fronts.exists_whole h.legible 0

/-- The text of the script with what its items in front give way to. -/
theorem laid_splice (h : Fronted source.toList program front stop code)
    (hparse : Program.parse source = .ok program) : ∃ gap, IsGap gap ∧
      Laid (gap ++ source.toList.drop stop) (images 0 program.items)
        (splice source.toList (contributionOfProgram program).edits) ∧
      ((∀ span names, .exportList span names ∉ front) → gap = []) := by
  have hfits : Fits 0 source.toList.length (front.filterMap Item.whole?) := by
    have hall := Item.Sequence.fits_whole (Program.parse_sequence hparse)
    rw [h.items, List.filterMap_append] at hall
    exact hall.sublist (List.sublist_append_left _ _)
  have hedits : (contributionOfProgram program).edits = (contributionOfAll 0 front).edits := by
    rw [h.contributionOfProgram_eq, Contribution.edits_append, h.edits_callsOfAll, List.append_nil]
  have hranges := range_edits_whole h.fronts.exists_whole 0
  rw [splice, hedits, sort_of_fits (hranges ▸ hfits), h.items, images_append_statements]
  exact laid_spliceFrom h.fronts hfits 0

theorem images_ne_nil (h : Fronted text program front stop code) (hfront : front ≠ [])
    (hlist : ∀ span names, .exportList span names ∉ front) : images 0 program.items ≠ [] := by
  obtain ⟨item, items, rfl⟩ := List.exists_cons_of_ne_nil hfront
  obtain ⟨span, hitem⟩ := h.fronts.exists_whole item List.mem_cons_self
  have hfirst : imagesOf 0 item ≠ [] :=
    imagesOf_ne_nil hitem (fun span names heq => hlist span names (heq ▸ List.mem_cons_self)) 0
  rw [h.items, images_append_statements, images_cons]
  exact fun hnil => hfirst (List.append_eq_nil_iff.1 hnil).1

/-- The output consists of generated statements in front of the script's own code; where there are
export lists, of generated statements only. -/
theorem laid (h : Fronted source.toList program front stop code)
    (hparse : Program.parse source = .ok program) (hfront : front ≠ []) :
    ((contributionOfProgram program).trailing = [] ∧ images 0 program.items ≠ [] ∧
      Laid (source.toList.drop stop)
        (preamble (contributionOfProgram program) ++ images 0 program.items)
        (render source.toList (contributionOfProgram program)).toList) ∨
      code = [] ∧ ∃ gap, IsGap gap ∧ Laid gap
        (preamble (contributionOfProgram program) ++ images 0 program.items ++
          (contributionOfProgram program).trailing.map .exported)
        (render source.toList (contributionOfProgram program)).toList := by
  obtain ⟨gap, hgap, hlaid, hnone⟩ := h.laid_splice hparse
  rw [render]
  simp only [String.toList_append, String.toList_ofList, toList_header]
  obtain hlist | ⟨hcode, hbehind⟩ := h.alone
  · left
    have hempty := h.trailing_eq.trans (trailing_whole h.fronts.exists_whole hlist 0)
    have hfooter : ∀ text, (footer (contributionOfProgram program) text).toList = [] := by
      intro text
      rw [footer, hempty]
      rfl
    have hne := h.images_ne_nil hfront hlist
    rw [hnone hlist, List.nil_append] at hlaid
    rw [hfooter, List.append_nil]
    exact ⟨hempty, hne, hlaid.lines hne _⟩
  · right
    refine ⟨hcode, Row.laid ?_⟩
    obtain ⟨newline, hnewline, hfooter⟩ := exists_gap (contributionOfProgram program)
      (header (contributionOfProgram program) ++
        String.ofList (splice source.toList (contributionOfProgram program).edits))
    have hend : IsGap newline.toList := by
      obtain rfl | rfl := hnewline
      · exact .nothing
      · exact .blank (.inr (by decide)) .nothing
    rw [hfooter, String.toList_append, toList_join_renderLine]
    have hbody := hlaid.row (hgap.append hbehind)
    exact ((Row.lines _).append hbody).append (.gap hend (.lines _))

end Fronted

end ModuleBundler.Lowering
