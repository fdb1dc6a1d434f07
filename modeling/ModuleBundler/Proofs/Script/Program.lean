import ModuleBundler.Script.Program
import ModuleBundler.Proofs.Script.Statement

/-!
# Programs are placed

The items of a program that is accepted stand in the text one after the other, and export no name
twice.
-/

namespace ModuleBundler.Script

open ModuleBundler.Script.Parser
open ParserState (Reach)

theorem grammar_sound (n : Nat) : (grammar n).Sound := by
  induction n with
  | zero => exact fun _ _ _ _ => reads_tokenStart.step fun _ => Yields.fail
  | succ n ih =>
    intro x
    cases x with
    | statement single => exact builds_statementNode ih single
    | assignment => exact builds_assignmentExpression ih
    | binary precedence => exact builds_binaryExpression ih precedence
    | unary => exact builds_unaryExpression ih
    | primary => exact builds_primaryExpression ih
    | leftHandSide => exact builds_leftHandSide ih
    | bindingTarget => exact builds_bindingTarget ih

namespace Item

/-- Items that stand one after the other between `lo` and `hi`. -/
def Sequence (lo hi : Nat) : List Item → Prop
  | [] => lo ≤ hi
  | item :: r => ∃ mid, item.Placed lo mid ∧ Sequence mid hi r

variable {lo mid hi : Nat} {items : List Item} {item : Item}

theorem Sequence.snoc (h : Sequence lo mid items) (hp : item.Placed mid hi) :
    Sequence lo hi (items ++ [item]) := by
  induction items generalizing lo with
  | nil => exact ⟨_, hp.mono h (Nat.le_refl _), Nat.le_refl _⟩
  | cons first r ih =>
    obtain ⟨m, hf, hr⟩ := h
    exact ⟨m, hf, ih hr⟩

theorem Sequence.mono (h : Sequence lo mid items) {a : Nat} (ha : a ≤ lo) (hb : mid ≤ hi) :
    Sequence a hi items := by
  induction items generalizing lo a with
  | nil => exact Nat.le_trans ha (Nat.le_trans h hb)
  | cons first r ih =>
    obtain ⟨m, hf, hr⟩ := h
    exact ⟨m, hf.mono ha (Nat.le_refl _), ih hr (Nat.le_refl _)⟩

theorem Sequence.le (h : Sequence lo hi items) : lo ≤ hi := by
  induction items generalizing lo with
  | nil => exact h
  | cons first r ih =>
    obtain ⟨m, hf, hr⟩ := h
    exact Nat.le_trans hf.le (ih hr)

end Item

theorem moves_skipHashbang : Moves skipHashbang :=
  reads_lexeme.moves.bind fun _ => takes_skip.moves.ite (moves_pure ())

theorem programItems_sequence {rules : Rules} (h : rules.Sound) {ctx : Context} {s : ParserState}
    (hs : s.Ordered) : Yields (programItems rules) ctx s fun items t =>
      s.Reach t ∧ Item.Sequence s.here t.here items := by
  apply moves_skipHashbang.step (Track.start hs)
  intro _ u t
  refine Yields.iterate (fun found v => s.Reach v ∧ Item.Sequence s.here v.here found.reverse)
    ⟨t.reach, t.here⟩ fun found v hv => ?_
  obtain ⟨hr, hq⟩ := hv
  apply reads_atFinish.step
  intro _
  apply Yields.ite (Yields.pure ⟨hr, hq⟩)
  apply Yields.bind
  apply (readsItem_statementItem h false ctx v hr.ordered).mono
  intro item w hi
  refine Yields.pure ⟨hr.trans hi.1, ?_⟩
  rw [List.reverse_cons]
  exact hq.snoc (hi.2.mono (Nat.le_refl _) hi.1.ordered.previous)

theorem ParserState.ordered_init (text : List Char) : (ParserState.init text).Ordered := by
  have h := Cursor.scan_after ⟨text, 0⟩
  exact ⟨Nat.zero_le _, h.start_le, h.next, h.ordered, h.stop, h.text,
    fun hl => h.word (List.reverse_eq_nil_iff.1 hl)⟩

/-- Nothing stands behind the end of the text. -/
theorem ParserState.here_le {text : List Char} {t : ParserState}
    (h : (ParserState.init text).Reach t) : t.here ≤ text.length := by
  have hscan := (Cursor.scan_after ⟨text, 0⟩).origin
  have ht := (hscan.trans h.origin).total
  have ho := h.ordered.origin
  simp only [Nat.zero_add] at ht
  omega

/-- The items of an accepted text stand in it one after the other. -/
theorem parseItems_sequence {source : List Char} {items : List Item}
    (h : parseItems source = .ok items) : Item.Sequence 0 source.length items := by
  unfold parseItems at h
  dsimp only at h
  split at h
  case h_1 => cases h
  case h_2 found t hp =>
    have hinit := ParserState.ordered_init source
    have hq := (programItems_sequence (grammar_sound _) hinit).run found t hp
    split at h
    · cases h
    · split at h
      · cases h
      · cases h
        exact hq.2.mono (Nat.zero_le _) (ParserState.here_le hq.1)

theorem Program.parse_sequence {source : String} {program : Program}
    (h : Program.parse source = .ok program) :
    Item.Sequence 0 source.toList.length program.items := by
  unfold Program.parse at h
  split at h
  · cases h
    exact parseItems_sequence ‹_›
  · cases h

/-! ## Exported names -/

theorem distinct_of_duplicateExport? {seen names : List SourceName}
    (h : duplicateExport? seen names = none) :
    (names.map SourceName.name).Nodup ∧ ∀ n ∈ names, ∀ m ∈ seen, m.name ≠ n.name := by
  induction names generalizing seen with
  | nil => exact ⟨List.nodup_nil, fun n hn => absurd hn List.not_mem_nil⟩
  | cons n names ih =>
    rw [duplicateExport?] at h
    cases hf : seen.find? (·.name == n.name) with
    | some first =>
      rw [hf] at h
      cases h
    | none =>
      rw [hf] at h
      obtain ⟨hnodup, hseen⟩ := ih h
      have hnew : n.name ∉ names.map SourceName.name := by
        intro hmem
        obtain ⟨m, hm, hname⟩ := List.mem_map.1 hmem
        exact hseen m hm n (List.mem_append_right _ List.mem_cons_self) hname.symm
      refine ⟨List.nodup_cons.2 ⟨hnew, hnodup⟩, fun m hm k hk => ?_⟩
      obtain rfl | hm := List.mem_cons.1 hm
      · exact fun hname => List.find?_eq_none.1 hf k hk (beq_iff_eq.2 hname)
      · exact hseen m hm k (List.mem_append_left _ hk)

/-- An accepted text exports no name twice. -/
theorem Program.parse_distinct {source : String} {program : Program}
    (h : Program.parse source = .ok program) :
    ((program.items.flatMap Item.exportedNames).map SourceName.name).Nodup := by
  unfold Program.parse at h
  split at h
  case h_2 => cases h
  case h_1 items hitems =>
    cases h
    unfold parseItems at hitems
    dsimp only at hitems
    split at hitems
    · cases hitems
    · split at hitems
      · cases hitems
      · split at hitems
        · cases hitems
        · cases hitems
          exact (distinct_of_duplicateExport? ‹_›).1

end ModuleBundler.Script
