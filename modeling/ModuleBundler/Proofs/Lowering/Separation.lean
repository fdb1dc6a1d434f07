import ModuleBundler.Proofs.Lowering.Outline
import ModuleBundler.Proofs.Script.Border

/-!
# Statements stay apart

Where the imports, re-exports and export lists of a script stand in front of its own code, the output
is read as the statements that these give way to, followed by the statements of the script. No
generated statement joins another one, and none joins the code behind it.
-/

namespace ModuleBundler.Lowering

open Script
open Script.Parser

/-! ## Texts that generated statements begin -/

/-- A text that generated statements begin is accepted when what they leave is read to its end. -/
theorem parseItems_of_chain {text : List Char} {before behind : List Node} {l : Lexeme}
    {t u : ParserState} (hl : Heads text l) (hhashbang : l ≠ .hashbang)
    (hbefore : Chain (itemOf text.length) { limit := text.length + 2 } (ParserState.init text)
      (before.map .statement) t)
    (hbehind : Chain (itemOf text.length) { limit := text.length + 2 } t (behind.map .statement) u)
    (hlength : before.length + behind.length < text.length + 2) (hfinish : u.token.lexeme = .finish)
    (hu : u.Accepting) :
    parseItems text = .ok ((before ++ behind).map .statement) := by
  have hskip : skipHashbang { limit := text.length + 2 } (ParserState.init text) =
      .ok ((), ParserState.init text) := by
    have hlexeme : (ParserState.init text).token.lexeme = l := (hl 0).1
    have hruns : Runs skipHashbang { limit := text.length + 2 } (ParserState.init text)
        fun _ s => s = ParserState.init text := by
      unfold skipHashbang
      have hother : (l == .hashbang) = false := by simpa using hhashbang
      simp only [runs_bind, runs_lexeme, hlexeme, hother, Bool.false_eq_true, if_false, runs_pure]
    obtain ⟨⟨⟩, s, hrun, rfl⟩ := hruns
    exact hrun
  refine parseItems_eq_ok.2 ⟨(), _, u, hskip, ?_, ?_, hfinish, hu, ?_⟩
  · rw [List.map_append]
    exact hbefore.append hbehind
  · simpa using hlength
  · have hnames : ((before ++ behind).map Item.statement).flatMap Item.exportedNames = [] := by
      simp [Item.exportedNames]
    rw [hnames]
    rfl

theorem exists_of_forall₂_append {α β : Type} {R : α → β → Prop} {as as' : List α} {bs : List β}
    (h : List.Forall₂ R (as ++ as') bs) :
    ∃ cs ds, bs = cs ++ ds ∧ List.Forall₂ R as cs ∧ List.Forall₂ R as' ds :=
  ⟨bs.take as.length, bs.drop as.length, (List.take_append_drop _ _).symm,
    (List.forall₂_take_append bs as as' h.flip).flip,
    (List.forall₂_drop_append bs as as' h.flip).flip⟩

/-- Nothing but generated statements. -/
theorem parseItems_row {gs : List Generated} {gap text : List Char} (h : Laid gap gs text)
    (hgap : IsGap gap) (hgs : ∀ g ∈ gs, g.Readable) : ∃ nodes,
      parseItems text = .ok (nodes.map .statement) ∧ List.Forall₂ Generated.Written gs nodes := by
  have hend : Heads gap .finish := by
    have hheads := lexes_finish.heads.gap hgap
    rwa [List.append_nil] at hheads
  obtain ⟨l, hl, hfirst⟩ := h.heads hgs hend
  have hhashbang : l ≠ .hashbang := by
    obtain ⟨rfl, -⟩ | hfirst := hfirst
    · simp
    · exact hfirst
  obtain ⟨nodes, u, hchain, hu, hnodes⟩ :=
    h.chain hgs hend (Nat.le_refl _) (faces_init ⟨upTo_self text, hl⟩)
  refine ⟨nodes, ?_, hnodes⟩
  have hcount := h.length_le
  rw [hnodes.length_eq] at hcount
  have hparse : parseItems text = .ok ((nodes ++ []).map .statement) :=
    parseItems_of_chain hl hhashbang hchain (.done u) (by rw [List.length_nil]; omega) hu.lexeme
      ⟨⟨hu.lexical, hu.grammar⟩, hu.shorthand⟩
  rwa [List.append_nil] at hparse

/-- Generated statements in front of the rest of a program, which has its faultless beginning. -/
theorem parseItems_laid {gs : List Generated} {source rest text : List Char} {n : Nat}
    {code : List Node} {s u : ParserState} (h : Laid rest gs text) (hgs : ∀ g ∈ gs, g.Readable)
    (hne : gs ≠ []) (hs : s.Fresh ⟨rest, n⟩) (hn : 0 < n) (hrest : Heads rest s.token.lexeme)
    (hlength : rest.length ≤ source.length)
    (hcode : Chain (itemOf source.length) { limit := source.length + 2 } s (code.map .statement) u)
    (hcount : code.length < source.length + 2) (hfinish : u.token.lexeme = .finish)
    (hu : u.Accepting) : ∃ nodes moved,
      parseItems text = .ok ((nodes ++ moved).map .statement) ∧
        List.Forall₂ Generated.Written gs nodes ∧ Elsewhere code moved := by
  obtain ⟨l, hl, hfirst⟩ := h.heads hgs hrest
  have hhashbang : l ≠ .hashbang := hfirst.resolve_left fun heq => hne heq.2
  obtain ⟨nodes, t, hchain, ht, hnodes⟩ :=
    h.chain hgs hrest (Nat.le_refl _) (faces_init ⟨upTo_self text, hl⟩)
  obtain ⟨front, hend⟩ := h.exists_end hne
  obtain ⟨m, htfresh⟩ : ∃ m, t.Fresh ⟨rest, m⟩ := by
    rw [hend] at ht
    exact ht.fresh (by decide)
  have hreach := hchain.reach (ParserState.ordered_init text)
  have hoffset := htfresh.toReadFrom.offset_add hreach
  have hshorter : rest.length < text.length := by
    rw [hend, List.length_append, List.length_cons]
    omega
  have hm : 0 < m := by
    change m + rest.length = text.length at hoffset
    omega
  obtain ⟨items, v, hmore, hv, haccepting, hitems, helsewhere⟩ :=
    Chain.elsewhere hs htfresh rfl hn hm hlength (Nat.le_of_lt hshorter) hcode hfinish
      (by simpa using hcount) hu
  obtain ⟨moved, rfl, hmoved⟩ := helsewhere.statements
  refine ⟨nodes, moved, ?_, hnodes, hmoved⟩
  have hgenerated := h.length_le
  rw [hnodes.length_eq] at hgenerated
  rw [List.length_map] at hitems
  change moved.length ≤ rest.length + 1 at hitems
  exact parseItems_of_chain hl hhashbang hchain hmore (by omega) hv haccepting

namespace Fronted

variable {source : String} {program : Program} {front : List Item} {stop : Nat} {code : List Node}

theorem parseItems_eq (h : Fronted source.toList program front stop code)
    (hparse : Program.parse source = .ok program) :
    parseItems source.toList = .ok (front ++ code.map .statement) := by
  rw [Program.parse] at hparse
  split at hparse
  · rename_i items hitems
    cases hparse
    rw [hitems, ← h.items]
  · cases hparse

/-- Where nothing stands in front of the script's own code, nothing is written. -/
theorem eq_nil_of_front (h : Fronted source.toList program [] stop code) :
    (contributionOfProgram program).Bare ∧ images 0 program.items = [] ∧
      render source.toList (contributionOfProgram program) = source := by
  have hc := h.contributionOfProgram_eq
  have hbare : (contributionOfProgram program).Bare := by
    rw [hc]
    exact Contribution.bare_empty.append (bare_callsOfAll code)
  have hedits : (contributionOfProgram program).edits = [] := by
    rw [hc, Contribution.edits_append, h.edits_callsOfAll]
    rfl
  refine ⟨hbare, ?_, ?_⟩
  · rw [h.items, images_append_statements]
    rfl
  · have hsplice : splice source.toList [] = source.toList := by
      rw [splice, Edit.sort, List.mergeSort_nil]
      rfl
    rw [render, hbare.header, hbare.footer, hedits, hsplice, String.ofList_toList]
    simp

/-- The output is read as the generated statements, the statements of the script and the assignments
behind them. -/
theorem parse_render (h : Fronted source.toList program front stop code)
    (hparse : Program.parse source = .ok program) : ∃ before moved after,
      Program.parse (render source.toList (contributionOfProgram program)) =
        .ok ⟨(before ++ moved ++ after).map .statement⟩ ∧
      List.Forall₂ Generated.Written
        (preamble (contributionOfProgram program) ++ images 0 program.items) before ∧
      Elsewhere code moved ∧
      List.Forall₂ Assignment.Written (contributionOfProgram program).trailing after := by
  obtain rfl | hfront := eq_or_ne front []
  · obtain ⟨hbare, himages, hrender⟩ := h.eq_nil_of_front
    refine ⟨[], code, [], ?_, ?_, elsewhere_refl code, ?_⟩
    · rw [hrender, hparse, List.append_nil, List.nil_append]
      exact congrArg Except.ok (congrArg Program.mk h.items)
    · rw [preamble, hbare.isModule, hbare.usesInterop, hbare.hoisted, himages]
      exact .nil
    · rw [hbare.trailing]
      exact .nil
  · obtain ⟨hgenerated, htrailing⟩ := h.readable hparse
    obtain ⟨hnone, hne, hlaid⟩ | ⟨rfl, gap, hgap, hlaid⟩ := h.laid hparse hfront
    · obtain ⟨s, u, hs, hpositive, -, hrest, hcode, hcount, hfinish, hu⟩ :=
        parseItems_border (h.parseItems_eq hparse) h.fronts hfront
      obtain ⟨nodes, moved, hitems, hnodes, hmoved⟩ :=
        parseItems_laid hlaid hgenerated (List.append_ne_nil_of_right_ne_nil _ hne) hs hpositive hrest
          (List.length_drop ▸ Nat.sub_le _ _) hcode (by simpa using hcount) hfinish hu
      refine ⟨nodes, moved, [], ?_, hnodes, hmoved, hnone ▸ .nil⟩
      rw [Program.parse, hitems, List.append_nil]
    · have hreadable : ∀ g ∈ preamble (contributionOfProgram program) ++ images 0 program.items ++
          (contributionOfProgram program).trailing.map .exported, g.Readable := by
        rw [List.forall_mem_append]
        exact ⟨hgenerated, List.forall_mem_map.2 htrailing⟩
      obtain ⟨nodes, hitems, hnodes⟩ := parseItems_row hlaid hgap hreadable
      obtain ⟨before, after, rfl, hbefore, hafter⟩ := exists_of_forall₂_append hnodes
      have htrailing := (List.forall₂_map_left_iff (R := Generated.Written)
        (f := Generated.exported)).1 hafter
      refine ⟨before, [], after, ?_, hbefore, elsewhere_nil, htrailing⟩
      rw [Program.parse, hitems, List.append_nil]

end Fronted

/-- Statements stay apart in the output of a script whose imports, re-exports and export lists stand
in front of its own code. It is read as the marker, the helper and the statements that these give way
to, then the statements of the script, then the assignments of its export lists. -/
theorem lower_separates {source : String} {program : Program} {front : List Item} {stop : Nat}
    {code : List Node} (h : Program.parse source = .ok program)
    (hfronted : Fronted source.toList program front stop code) (path : String) :
    ∃ out before moved after, lower source path = .ok out ∧
      Program.parse out.code = .ok ⟨(before ++ moved ++ after).map .statement⟩ ∧
      List.Forall₂ Generated.Written
        (preamble (contributionOfProgram program) ++ images 0 program.items) before ∧
      Elsewhere code moved ∧
      List.Forall₂ Assignment.Written (contributionOfProgram program).trailing after := by
  obtain ⟨out, hout, hcode⟩ := lower_ok h path
  obtain ⟨before, moved, after, hparse, hbefore, hmoved, hafter⟩ := hfronted.parse_render h
  rw [← hcode] at hparse
  exact ⟨out, before, moved, after, hout, hparse, hbefore, hmoved, hafter⟩

/-- The text of a re-export begins with a parenthesis, and so does the code behind it. -/
theorem lower_separates_parentheses : ∃ out before moved,
    lower importingScript "/src/index.js" = .ok out ∧
      Program.parse out.code = .ok ⟨(before ++ [moved]).map .statement⟩ ∧
      List.Forall₂ Generated.Written [.marker, .interop,
        .imported (.defaultExport "a" (.required "./a")), .reexported (.all "./b")] before := by
  obtain ⟨n, hn, hparse⟩ := parse_importingScript
  have hfronted := fronted_importingScript hn
  obtain ⟨out, before, moved, after, hout, hagain, hbefore, ⟨d, e, l, hl, rfl⟩, hafter⟩ :=
    lower_separates hparse hfronted "/src/index.js"
  have himages : images 0 (importingFront ++ [n].map .statement) =
      [.imported (.defaultExport "a" (.required "./a")), .reexported (.all "./b")] := by
    rw [images_append_statements]
    rfl
  have hpreamble : preamble (contributionOfProgram ⟨importingFront ++ [.statement n]⟩) =
      [.marker, .interop] := by
    rw [preamble, hfronted.hoisted_eq_nil, hfronted.contributionOfProgram_eq]
    rfl
  obtain ⟨m, l, rfl, rfl, hnil⟩ := List.map_eq_cons_iff.1 hl.symm
  obtain rfl := List.map_eq_nil_iff.1 hnil
  rw [hfronted.trailing_eq] at hafter
  obtain rfl := List.forall₂_nil_left_iff.1 hafter
  rw [hpreamble] at hbefore
  rw [List.append_nil] at hagain
  exact ⟨out, before, move e m, hout, hagain, himages ▸ hbefore⟩

end ModuleBundler.Lowering
