import ModuleBundler.Proofs.Script.Import

/-!
# Programs as chains

The items of a program are read one after the other, each where the one before has ended. A text is
accepted as a program when such a chain leads to its end without a fault.
-/

namespace ModuleBundler.Script

namespace Parser

variable {α : Type} {p : Parser α} {ctx : Context} {s t u : ParserState} {a : α} {as bs : List α}

/-- `p` reads these things one after the other, and none of them at the end of the text. -/
inductive Chain (p : Parser α) (ctx : Context) : ParserState → List α → ParserState → Prop
  | done (s : ParserState) : Chain p ctx s [] s
  | more {s t u : ParserState} {a : α} {as : List α} (hs : s.token.lexeme ≠ .finish)
    (hp : p ctx s = .ok (a, t)) (h : Chain p ctx t as u) : Chain p ctx s (a :: as) u

theorem Chain.append (h : Chain p ctx s as t) (h' : Chain p ctx t bs u) :
    Chain p ctx s (as ++ bs) u := by
  induction h with
  | done => exact h'
  | more hs hp _ ih => exact .more hs hp (ih h')

theorem Chain.split (h : Chain p ctx s (as ++ bs) u) :
    ∃ t, Chain p ctx s as t ∧ Chain p ctx t bs u := by
  induction as generalizing s with
  | nil => exact ⟨s, .done s, h⟩
  | cons a as ih =>
    cases h with
    | more hs hp h =>
      obtain ⟨t, has, hbs⟩ := ih h
      exact ⟨t, .more hs hp has, hbs⟩

/-- What every step keeps holds at the end. -/
theorem Chain.keeps {I : ParserState → Prop} (h : Chain p ctx s as u)
    (hstep : ∀ s, I s → Yields p ctx s fun _ t => I t) (hs : I s) : I u := by
  induction h with
  | done => exact hs
  | more _ hp _ ih => exact ih ((hstep _ hs).run _ _ hp)

/-- One round of reading up to the end of the text. -/
def untilFinish (p : Parser α) (found : List α) : Parser (List α ⊕ List α) := do
  if ← atFinish then return .inr found.reverse
  let e ← p
  return .inl (e :: found)

theorem go_untilFinish (n : Nat) (found : List α) :
    iterate.go (untilFinish p) (n + 1) found ctx s =
      if s.token.lexeme = .finish then .ok (found.reverse, s)
      else p ctx s >>= fun r => iterate.go (untilFinish p) n (r.1 :: found) ctx r.2 := by
  have hround : untilFinish p found ctx s =
      if s.token.lexeme = .finish then .ok (.inr found.reverse, s)
      else p ctx s >>= fun r => .ok (.inl (r.1 :: found), r.2) := by
    change (if (s.token.lexeme == .finish) = true then (return .inr found.reverse)
      else (do let e ← p; return .inl (e :: found) : Parser (List α ⊕ List α))) ctx s = _
    simp only [beq_iff_eq]
    split <;> rfl
  rw [iterate.go]
  change (untilFinish p found ctx s >>= fun x => _) = _
  rw [hround]
  split
  · rfl
  · cases p ctx s <;> rfl

/-- Rounds that are left, with what they read in front of the end of the text. -/
theorem go_untilFinish_eq_ok {n : Nat} {found : List α} :
    iterate.go (untilFinish p) n found ctx s = .ok (as, u) ↔
      ∃ more, as = found.reverse ++ more ∧ more.length < n ∧ Chain p ctx s more u ∧
        u.token.lexeme = .finish := by
  induction n generalizing found s with
  | zero =>
    refine ⟨nofun, ?_⟩
    rintro ⟨more, -, hlength, -⟩
    exact absurd hlength (Nat.not_lt_zero _)
  | succ n ih =>
    rw [go_untilFinish]
    split
    case isTrue hs =>
      constructor
      · rintro ⟨⟩
        exact ⟨[], (List.append_nil _).symm, Nat.succ_pos n, .done _, hs⟩
      · rintro ⟨more, rfl, -, hchain, -⟩
        cases hchain with
        | done => rw [List.append_nil]
        | more hs' => exact absurd hs hs'
    case isFalse hs =>
      cases hp : p ctx s with
      | error e =>
        refine ⟨nofun, ?_⟩
        rintro ⟨more, -, -, hchain, hu⟩
        cases hchain with
        | done => exact absurd hu hs
        | more _ hp' =>
          rw [hp] at hp'
          cases hp'
      | ok r =>
        refine Iff.trans ih ⟨?_, ?_⟩
        · rintro ⟨more, rfl, hlength, hchain, hu⟩
          exact ⟨r.1 :: more, by simp, Nat.succ_lt_succ hlength, .more hs hp hchain, hu⟩
        · rintro ⟨more, rfl, hlength, hchain, hu⟩
          cases hchain with
          | done => exact absurd hu hs
          | more _ hp' hchain =>
            rw [hp] at hp'
            cases hp'
            exact ⟨_, by simp, Nat.lt_of_succ_lt_succ hlength, hchain, hu⟩

/-- Reading up to the end of the text is a chain that is shorter than the bound on lists. -/
theorem repeatUntil_atFinish_eq_ok : repeatUntil atFinish p ctx s = .ok (as, u) ↔
    as.length < ctx.limit ∧ Chain p ctx s as u ∧ u.token.lexeme = .finish := by
  change iterate.go (untilFinish p) ctx.limit [] ctx s = _ ↔ _
  rw [go_untilFinish_eq_ok]
  constructor
  · rintro ⟨more, rfl, h⟩
    exact h
  · exact fun h => ⟨as, rfl, h⟩

end Parser

open ModuleBundler.Script.Parser

/-! ## Accepted texts -/

/-- No fault has been found, and no `name = value` waits for a pattern. -/
structure ParserState.Accepting (s : ParserState) : Prop extends s.Clean where
  shorthand : s.shorthandValues = []

theorem firstFault?_eq_none {source : List Char} {s : ParserState} {faults : List Nat} :
    firstFault? source s faults = none ↔ faults = [] := by
  unfold firstFault?
  split
  · simp
  · split
    · split <;> simp
    · simp

/-- The items of a text of this length are read with enough depth and enough room. -/
def itemOf (length : Nat) : Parser Item := statementItem (grammar (2 * length + 16)) false

/-- A text is accepted when its items are read one after the other up to its end, no fault has been
found then, and no name is exported twice. -/
theorem parseItems_eq_ok {source : List Char} {items : List Item} :
    parseItems source = .ok items ↔ ∃ s t u,
      skipHashbang { limit := source.length + 2 } (ParserState.init source) = .ok (s, t) ∧
      Chain (itemOf source.length) { limit := source.length + 2 } t items u ∧
      items.length < source.length + 2 ∧ u.token.lexeme = .finish ∧ u.Accepting ∧
      duplicateExport? [] (items.flatMap Item.exportedNames) = none := by
  have hrun : programItems (grammar (2 * source.length + 16)) { limit := source.length + 2 }
      (ParserState.init source) = skipHashbang { limit := source.length + 2 }
        (ParserState.init source) >>= fun r => repeatUntil atFinish (itemOf source.length)
          { limit := source.length + 2 } r.2 := rfl
  unfold parseItems
  dsimp only
  rw [hrun]
  cases hskip : skipHashbang { limit := source.length + 2 } (ParserState.init source) with
  | error e =>
    refine ⟨fun h => ?_, ?_⟩
    · cases h
    · rintro ⟨s, t, u, ⟨⟩, -⟩
  | ok r =>
    have hbind : (Except.ok r >>= fun r => repeatUntil atFinish (itemOf source.length)
        { limit := source.length + 2 } r.2) = repeatUntil atFinish (itemOf source.length)
          { limit := source.length + 2 } r.2 := rfl
    rw [hbind]
    split
    case h_1 e h =>
      refine ⟨fun h => ?_, ?_⟩
      · cases h
      · rintro ⟨s, t, u, ⟨⟩, hchain, hlength, hu, -⟩
        rw [repeatUntil_atFinish_eq_ok.2 ⟨hlength, hchain, hu⟩] at h
        cases h
    case h_2 found v h =>
      have hv := repeatUntil_atFinish_eq_ok.1 h
      have hfaults : v.Accepting ↔ firstFault? source v (v.lexicalFaults.reverse ++
          v.grammarFaults.reverse ++ v.shorthandValues.reverse) = none := by
        rw [firstFault?_eq_none]
        simp only [List.append_eq_nil_iff, List.reverse_eq_nil_iff]
        exact ⟨fun h => ⟨⟨h.lexical, h.grammar⟩, h.shorthand⟩, fun h => ⟨⟨h.1.1, h.1.2⟩, h.2⟩⟩
      constructor
      · intro hok
        split at hok
        · cases hok
        · split at hok
          · cases hok
          · cases hok
            exact ⟨r.1, r.2, v, rfl, hv.2.1, hv.1, hv.2.2, hfaults.2 ‹_›, ‹_›⟩
      · rintro ⟨s, t, u, ⟨⟩, hchain, hlength, hu, haccepting, hnames⟩
        rw [repeatUntil_atFinish_eq_ok.2 ⟨hlength, hchain, hu⟩] at h
        cases h
        rw [hfaults.1 haccepting]
        dsimp only
        rw [hnames]

end ModuleBundler.Script
