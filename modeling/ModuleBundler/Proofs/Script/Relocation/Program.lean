import ModuleBundler.Proofs.Script.Chain
import ModuleBundler.Proofs.Script.Run
import ModuleBundler.Proofs.Script.Relocation.Statement

/-!
# The end of a program elsewhere

What is left of a program at one of its items can stand behind any other text: it is read as the same
items there.
-/

namespace ModuleBundler.Script

open ModuleBundler.Script.Parser

namespace ParserState

variable {s : ParserState} {c : Cursor}

/-- The first token from a place on is current, and nothing has been noted. -/
structure Fresh (s : ParserState) (c : Cursor) : Prop extends s.ReadFrom c, s.Accepting where
  commas : s.trailingCommas = []
  refuted : s.refuted = []

def startingAt (c : Cursor) : ParserState where
  token := c.scan.token
  origin := c.scan.start
  next := c.scan.next
  previousStop := c.offset

/-- Every fresh state has come from one near the start of a text. -/
theorem Fresh.moved (h : s.Fresh c) (hc : 0 < c.offset) :
    (startingAt ⟨c.rest, 1⟩).Moved (c.offset - 1) s := by
  have hmove : move (c.offset - 1) (⟨c.rest, 1⟩ : Cursor) = c := by
    rw [move_cursor]
    obtain ⟨rest, offset⟩ := c
    have hoffset : 1 + (offset - 1) = offset := Nat.add_sub_cancel' hc
    exact congrArg _ hoffset
  have hone : 0 < (⟨c.rest, 1⟩ : Cursor).offset := Nat.one_pos
  have hscan : (⟨c.rest, 1⟩ : Cursor).scan.Moved (c.offset - 1) c.scan := by
    have hmoved : (⟨c.rest, 1⟩ : Cursor).scan.Moved (c.offset - 1)
        (move (c.offset - 1) (⟨c.rest, 1⟩ : Cursor)).scan := Cursor.moved_scan (.inl hone)
    rwa [hmove] at hmoved
  have hafter := (⟨c.rest, 1⟩ : Cursor).scan_after
  refine ⟨?_, ?_, ?_, ?_, h.lexical, h.grammar, h.shorthand, h.commas, h.refuted, ?_,
    (⟨c.rest, 1⟩ : Cursor).scan_shortens⟩
  · rw [h.token, hscan.token]
    rfl
  · rw [h.origin, hscan.start]
    rfl
  · rw [h.next, hscan.next]
    rfl
  · rw [h.previousStop]
    exact (Nat.add_sub_cancel' hc).symm
  · exact Nat.lt_of_lt_of_le hone (hafter.origin.trans hafter.next).le

theorem room_startingAt (c : Cursor) : (startingAt c).room ≤ c.rest.length :=
  c.scan_after.origin.length_le

theorem Moved.accepting {d : Nat} {t : ParserState} (h : s.Moved d t) :
    t.Accepting ↔ s.Accepting := by
  have hempty : ∀ l : List Nat, move d l = [] ↔ l = [] := fun l => List.map_eq_nil_iff
  have hlexical := hempty s.lexicalFaults
  have hgrammar := hempty s.grammarFaults
  have hshorthand := hempty s.shorthandValues
  rw [← h.lexicalFaults] at hlexical
  rw [← h.grammarFaults] at hgrammar
  rw [← h.shorthandValues] at hshorthand
  exact ⟨fun ht => ⟨⟨hlexical.1 ht.lexical, hgrammar.1 ht.grammar⟩, hshorthand.1 ht.shorthand⟩,
    fun hs => ⟨⟨hlexical.2 hs.lexical, hgrammar.2 hs.grammar⟩, hshorthand.2 hs.shorthand⟩⟩

end ParserState

namespace Parser

variable {d r : Nat} {c c' : Cursor} {s t u : ParserState} {items : List Item}

theorem beforeMore_atFinish : Agree d r atFinish atFinish (beforeMore r) := by
  have h : Agree d r (atFinish >>= pure) (atFinish >>= pure) (beforeMore r) :=
    .atFinish fun b hb => .pure ⟨rfl, hb⟩
  exact h

theorem agree_items {n k : Nat} (h : 2 * r + 2 ≤ min n k) :
    Agree d r (repeatUntil atFinish (statementItem (grammar n) false))
      (repeatUntil atFinish (statementItem (grammar k) false)) anything :=
  agree_repeatUntil (fun _ => beforeMore_atFinish) fun _ hj _ =>
    agree_statementItem (below_grammar n k) (by omega) false

/-- Two things that stand at different places and are the same otherwise. -/
def Elsewhere {α : Type} [Movable α] (a b : α) : Prop := ∃ d e m, a = move d m ∧ b = move e m

theorem elsewhere_nil {α : Type} [Movable α] : Elsewhere ([] : List α) [] := ⟨0, 0, [], rfl, rfl⟩

theorem exists_statements {code : List Node} {found : List Item}
    (h : code.map .statement = move d found) :
    ∃ ns : List Node, found = ns.map .statement ∧ code = move d ns := by
  induction code generalizing found with
  | nil => exact ⟨[], List.map_eq_nil_iff.1 h.symm, rfl⟩
  | cons n code ih =>
    obtain ⟨item, found, rfl, hitem, hmore⟩ := List.map_eq_cons_iff.1 h.symm
    obtain ⟨ns, rfl, rfl⟩ := ih hmore.symm
    cases item with
    | statement m =>
      cases hitem
      exact ⟨m :: ns, rfl, rfl⟩
    | _ => cases hitem

/-- What statements are elsewhere is statements. -/
theorem Elsewhere.statements {code : List Node} {items : List Item}
    (h : Elsewhere (code.map .statement) items) :
    ∃ moved, items = moved.map .statement ∧ Elsewhere code moved := by
  obtain ⟨d, e, found, hcode, rfl⟩ := h
  obtain ⟨ns, rfl, rfl⟩ := exists_statements hcode
  refine ⟨move e ns, ?_, d, e, ns, rfl, rfl⟩
  change (ns.map Item.statement).map (move e) = (ns.map (move e)).map Item.statement
  rw [List.map_map, List.map_map]
  rfl

mutual

theorem moved_zero : ∀ n : Node, n.moved 0 = n
  | .mk shape span parts => by
    have hshape : move 0 shape = shape := by
      cases shape with
      | functionDefinition name? | classDefinition name? => cases name? <;> rfl
      | _ => rfl
    rw [Node.moved, movedAll_zero parts, hshape]
    rfl

theorem movedAll_zero : ∀ parts : List Node, Node.movedAll 0 parts = parts
  | [] => by rw [Node.movedAll]
  | n :: r => by rw [Node.movedAll, moved_zero n, movedAll_zero r]

end

theorem elsewhere_refl (code : List Node) : Elsewhere code code := by
  have hzero : code = move 0 code := by
    rw [← Node.movedAll_eq_move, movedAll_zero]
  exact ⟨0, 0, code, hzero, hzero⟩

/-- What is left of a program is read as the same items behind another text. -/
theorem Chain.elsewhere {length length' : Nat} (hs : s.Fresh c) (ht : t.Fresh c')
    (hrest : c'.rest = c.rest) (hc : 0 < c.offset) (hc' : 0 < c'.offset)
    (hlength : c.rest.length ≤ length) (hlength' : c.rest.length ≤ length')
    (h : Chain (itemOf length) { limit := length + 2 } s items u) (hu : u.token.lexeme = .finish)
    (hcount : items.length < length + 2) (haccepting : u.Accepting) :
    ∃ items' u', Chain (itemOf length') { limit := length' + 2 } t items' u' ∧
      u'.token.lexeme = .finish ∧ u'.Accepting ∧ items'.length ≤ c.rest.length + 1 ∧
      Elsewhere items items' := by
  have hroom := ParserState.room_startingAt ⟨c.rest, 1⟩
  generalize hz : ParserState.startingAt ⟨c.rest, 1⟩ = z at hroom
  change z.room ≤ c.rest.length at hroom
  have hzs : z.Moved (c.offset - 1) s := hz ▸ hs.moved hc
  have hzt : z.Moved (c'.offset - 1) t := by
    have hmoved := ht.moved hc'
    rwa [hrest, hz] at hmoved
  -- near the start of a text there is just as much depth and room as it takes
  have hsource := agree_items (d := c.offset - 1) (r := z.room) (n := 2 * z.room + 2)
    (k := 2 * length + 16) (by omega) { limit := z.room + 2 } (length + 2) z s hzs rfl
    (Nat.lt_succ_self _) (by omega)
  have houtput := agree_items (d := c'.offset - 1) (r := z.room) (n := 2 * z.room + 2)
    (k := 2 * length' + 16) (by omega) { limit := z.room + 2 } (length' + 2) z t hzt rfl
    (Nat.lt_succ_self _) (by omega)
  have hrun := repeatUntil_atFinish_eq_ok.2 ⟨hcount, h, hu⟩
  unfold itemOf at hrun
  rw [hrun] at hsource
  generalize hbase : repeatUntil atFinish (statementItem (grammar (2 * z.room + 2)) false)
    { limit := z.room + 2 } z = base at hsource houtput
  cases hsource with
  | @ok found v _ hvu =>
    generalize hrun' : repeatUntil atFinish (statementItem (grammar (2 * length' + 16)) false)
      { limit := length' + 2 } t = output at houtput
    cases houtput with
    | @ok _ _ u' hvu' =>
      obtain ⟨hshort, -, -⟩ := repeatUntil_atFinish_eq_ok.1 hbase
      obtain ⟨-, hchain, hfinish⟩ := repeatUntil_atFinish_eq_ok.1 hrun'
      refine ⟨_, u', hchain, hfinish, ?_, ?_, _, _, found, rfl, rfl⟩
      · exact hvu'.accepting.2 (hvu.accepting.1 haccepting)
      · have hmove : (move (c'.offset - 1) found).length = found.length := List.length_map _
        change found.length < z.room + 2 at hshort
        omega

end Parser

end ModuleBundler.Script
