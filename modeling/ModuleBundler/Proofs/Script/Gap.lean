import ModuleBundler.Proofs.Script.Run

/-!
# Gaps between tokens

Blanks, line ends and comments may stand in front of every token. They do not change what is read
behind them, except that a token may come to stand on a new line.
-/

namespace ModuleBundler.Script

/-- Blanks, line ends and comments that are complete. -/
inductive IsGap : List Char → Prop
  | nothing : IsGap []
  | blank {c : Char} {g : List Char} (hc : isBlank c = true ∨ isLineTerminator c = true)
    (h : IsGap g) : IsGap (c :: g)
  | line {text g : List Char} {c : Char} (htext : ∀ d ∈ text, isLineTerminator d = false)
    (hc : isLineTerminator c = true) (h : IsGap g) : IsGap ('/' :: '/' :: (text ++ c :: g))
  | block {text g : List Char} (htext : ¬ ['*', '/'] <:+: text) (h : IsGap g) :
    IsGap ('/' :: '*' :: (text ++ '*' :: '/' :: g))

theorem IsGap.append {g g' : List Char} (h : IsGap g) (h' : IsGap g') : IsGap (g ++ g') := by
  induction h with
  | nothing => exact h'
  | blank hc _ ih => exact .blank hc ih
  | line htext hc _ ih => simpa using IsGap.line htext hc ih
  | block htext _ ih => simpa using IsGap.block htext ih

/-! ## Skipping a gap -/

theorem skipTrivia_line {text : List Char} (htext : ∀ d ∈ text, isLineTerminator d = false)
    {c : Char} (hc : isLineTerminator c = true) (start : Nat) (r : List Char) (n : Nat)
    (t : Trivia) : ∃ t', skipTrivia (.line start) (text ++ c :: r) n t =
      skipTrivia .code r (n + (text.length + 1)) t' := by
  induction text generalizing n with
  | nil => exact ⟨_, by rw [List.nil_append, skipTrivia, if_pos hc]; rfl⟩
  | cons d text ih =>
    rw [List.forall_mem_cons] at htext
    obtain ⟨t', ht'⟩ := ih htext.2 (n + 1)
    refine ⟨t', ?_⟩
    rw [List.cons_append, skipTrivia, if_neg (by simp [htext.1]), ht', List.length_cons]
    congr 1
    omega

theorem skipTrivia_block {text : List Char} (htext : ¬ ['*', '/'] <:+: text) (start : Nat)
    (r : List Char) (n : Nat) (t : Trivia) :
    ∃ t', skipTrivia (.block start) (text ++ '*' :: '/' :: r) n t =
      skipTrivia .code r (n + (text.length + 2)) t' := by
  induction text generalizing n t with
  | nil => exact ⟨_, by rw [List.nil_append, skipTrivia]; rfl⟩
  | cons d text ih =>
    have hinner : ¬ ['*', '/'] <:+: text := fun h => htext (List.infix_cons h)
    obtain ⟨t', ht'⟩ := ih hinner (n + 1) { t with newline := t.newline || isLineTerminator d }
    refine ⟨t', ?_⟩
    have hopen : ∀ r', d = '*' → text ++ '*' :: '/' :: r = '/' :: r' → False := by
      rintro r' rfl h
      cases text with
      | nil => cases h
      | cons e text =>
        cases h
        exact htext ⟨[], text, rfl⟩
    rw [List.cons_append, skipTrivia, ht', List.length_cons]
    · congr 1
      omega
    · exact hopen

/-- A gap is skipped whatever comes behind it. -/
theorem skipTrivia_gap {g : List Char} (hg : IsGap g) (r : List Char) (n : Nat) (t : Trivia) :
    ∃ t', skipTrivia .code (g ++ r) n t = skipTrivia .code r (n + g.length) t' := by
  induction hg generalizing n t with
  | nothing => exact ⟨t, rfl⟩
  | @blank c g hc _ ih =>
    have hslash : c ≠ '/' := by
      rintro rfl
      revert hc
      decide
    have hlength : n + (c :: g).length = n + 1 + g.length := by
      rw [List.length_cons]
      omega
    rw [List.cons_append, skipTrivia, hlength]
    · split
      · exact ih (n + 1) _
      · rw [if_pos (hc.resolve_right ‹_›)]
        exact ih (n + 1) t
    · exact fun _ h _ => hslash h
    · exact fun _ h _ => hslash h
  | @line text g c htext hc _ ih =>
    obtain ⟨t', ht'⟩ := skipTrivia_line htext hc n (g ++ r) (n + 2) t
    obtain ⟨u, hu⟩ := ih (n + 2 + (text.length + 1)) t'
    refine ⟨u, ?_⟩
    simp only [List.cons_append, List.append_assoc, skipTrivia, ht', hu, List.length_cons,
      List.length_append]
    congr 1
    omega
  | @block text g htext _ ih =>
    obtain ⟨t', ht'⟩ := skipTrivia_block htext n (g ++ r) (n + 2) t
    obtain ⟨u, hu⟩ := ih (n + 2 + (text.length + 2)) t'
    refine ⟨u, ?_⟩
    simp only [List.cons_append, List.append_assoc, skipTrivia, ht', hu, List.length_cons,
      List.length_append]
    congr 1
    omega

/-! ## Scanning behind a gap -/

/-- The same token, perhaps on another line and behind another comment. -/
structure Scanned.Alike (a b : Scanned) : Prop where
  lexeme : a.token.lexeme = b.token.lexeme
  span : a.token.span = b.token.span
  start : a.start = b.start
  next : a.next = b.next
  faults : a.faults = b.faults

theorem skipTrivia_trivia (mode : Skip) (cs : List Char) (n : Nat) (t : Trivia) :
    ∀ t', (skipTrivia mode cs n t').1 = (skipTrivia mode cs n t).1 ∧
      (skipTrivia mode cs n t').2.2 = (skipTrivia mode cs n t).2.2 := by
  fun_induction skipTrivia mode cs n t
  all_goals
    intro t'
    simp_all [skipTrivia]

theorem scanAt_alike (c : Cursor) (newline newline' : Bool) :
    (scanAt c newline).Alike (scanAt c newline') := by
  unfold scanAt scanQuoted templateToken scanHash
  dsimp only
  repeat' split
  all_goals exact ⟨rfl, rfl, rfl, rfl, rfl⟩

theorem Cursor.scan_gap {g : List Char} (hg : IsGap g) (cs : List Char) (n : Nat) :
    (⟨g ++ cs, n⟩ : Cursor).scan.Alike (⟨cs, n + g.length⟩ : Cursor).scan := by
  obtain ⟨t, ht⟩ := skipTrivia_gap hg cs n {}
  obtain ⟨hnext, hopen⟩ := skipTrivia_trivia .code cs (n + g.length) {} t
  unfold scan
  dsimp only
  rw [ht]
  rcases h : skipTrivia .code cs (n + g.length) {} with ⟨next, trivia, open?⟩
  rcases h' : skipTrivia .code cs (n + g.length) t with ⟨next', trivia', open?'⟩
  rw [h, h'] at hnext hopen
  dsimp only at hnext hopen
  subst hnext hopen
  cases open?' with
  | some start => exact ⟨rfl, rfl, rfl, rfl, rfl⟩
  | none =>
    obtain ⟨hlexeme, hspan, hstart, hnext, hfaults⟩ :=
      scanAt_alike next' trivia'.newline trivia.newline
    exact ⟨hlexeme, hspan, hstart, hnext, hfaults⟩

theorem Heads.gap {g cs : List Char} {l : Lexeme} (hg : IsGap g) (h : Heads cs l) :
    Heads (g ++ cs) l := by
  intro n
  have halike := Cursor.scan_gap hg cs n
  rw [halike.lexeme, halike.faults]
  exact h (n + g.length)

theorem isGap_blanks (blanks : Nat) : IsGap (List.replicate blanks ' ') := by
  induction blanks with
  | zero => exact .nothing
  | succ blanks ih => exact .blank (.inl rfl) ih

/-- The current token is the one at the place. -/
theorem ParserState.Faces.last_eq {s : ParserState} {text cs : List Char} {l l' : Lexeme}
    (h : s.Faces ⟨text, cs⟩ [l]) (hcs : Heads cs l') : l = l' := by
  obtain ⟨c, hread, hupTo, -⟩ := h.ahead
  have hlexeme := (hupTo.heads hcs c.offset).1
  have htoken : s.token = c.scan.token := hread.token
  rw [← h.lexeme, htoken]
  exact hlexeme

/-- Behind a gap the text goes on as it is spelt. -/
theorem ParserState.Faces.along {s : ParserState} {text g cs rest : List Char} {l l' : Lexeme}
    {ls : List Lexeme} (h : s.Faces ⟨text, g ++ cs⟩ [l]) (hg : IsGap g)
    (hls : SpellsTo rest cs (l :: l' :: ls)) : s.Faces ⟨text, rest⟩ (l :: l' :: ls) := by
  obtain ⟨c, hread, ⟨blanks, hrest⟩, hsuffix⟩ := h.ahead
  obtain ⟨left, hlexes, hleft⟩ := hls
  have hnext : s.next.rest = left := by
    obtain ⟨cs', n⟩ := c
    subst hrest
    obtain ⟨span, start, m, hscan⟩ :=
      hlexes.scan (n + (List.replicate blanks ' ' ++ g).length)
    have halike := Cursor.scan_gap ((isGap_blanks blanks).append hg) cs n
    rw [hread.next, ← List.append_assoc, halike.next, hscan]
  have hshorter : s.next.rest <:+ c.rest := by
    rw [hread.next]
    exact c.scan_suffix
  exact { h with head := h.head, ahead := ⟨hnext ▸ hleft, hshorter.trans hsuffix⟩ }

end ModuleBundler.Script
