import ModuleBundler.Proofs.Lowering.Generated

/-!
# Generated statements in a row

Every statement that lowering writes ends with a semicolon. So several of them, with gaps in front of
each, are read as just these statements, whatever text comes behind the last one.
-/

namespace ModuleBundler.Lowering

open Script
open Script.Parser

/-- A statement with a line end behind it. -/
def Generated.line (g : Generated) : List Char := g.render.toList ++ ['\n']

/-- Generated statements with gaps in front of them, and a text behind the last one. -/
inductive Laid (rest : List Char) : List Generated → List Char → Prop where
  | last : Laid rest [] rest
  | more {g : Generated} {gs : List Generated} {gap text : List Char} (hgap : IsGap gap)
    (h : Laid rest gs text) : Laid rest (g :: gs) (gap ++ (g.render.toList ++ text))

namespace Laid

variable {rest text out gap : List Char} {gs gs' : List Generated} {l : Lexeme}

theorem append (h : Laid text gs out) (h' : Laid rest gs' text) : Laid rest (gs ++ gs') out := by
  induction h with
  | last => exact h'
  | more hgap _ ih => exact .more hgap ih

theorem behind (h : Laid rest gs text) (hgap : IsGap gap) (hgs : gs ≠ []) :
    Laid rest gs (gap ++ text) := by
  cases h with
  | last => exact absurd rfl hgs
  | more hfirst h =>
    rw [← List.append_assoc]
    exact .more (hgap.append hfirst) h

/-- Statements with blanks between them. -/
theorem intercalate (h : Laid rest gs' text) (gs : List Generated) :
    Laid rest (gs ++ gs') ((" ".intercalate (gs.map Generated.render)).toList ++ text) := by
  induction gs with
  | nil => simpa using h
  | cons g gs ih =>
    cases gs with
    | nil => simpa using Laid.more .nothing h
    | cons g' gs =>
      have hblank : IsGap [' '] := .blank (.inl rfl) .nothing
      have hmore : Laid rest (g' :: gs ++ gs') ([' '] ++
          ((" ".intercalate ((g' :: gs).map Generated.render)).toList ++ text)) :=
        ih.behind hblank (by simp)
      have hfirst : Laid rest (g :: (g' :: gs ++ gs')) _ := .more .nothing hmore
      simpa [String.intercalate_cons_cons] using hfirst

/-- Statements with a line end behind each. -/
theorem lines (h : Laid rest gs' text) (hgs' : gs' ≠ []) (gs : List Generated) :
    Laid rest (gs ++ gs') (gs.flatMap Generated.line ++ text) := by
  induction gs with
  | nil => exact h
  | cons g gs ih =>
    have hend : IsGap ['\n'] := .blank (.inr (by decide)) .nothing
    have hmore : Laid rest (gs ++ gs') (['\n'] ++ (gs.flatMap Generated.line ++ text)) :=
      ih.behind hend (by simp [hgs'])
    have hfirst : Laid rest (g :: (gs ++ gs')) _ := .more .nothing hmore
    simpa [Generated.line] using hfirst

theorem length_le (h : Laid rest gs text) : gs.length + rest.length ≤ text.length := by
  induction h with
  | last => simp
  | @more g gs gap text _ _ ih =>
    obtain ⟨front, hfront⟩ := g.exists_end
    simp only [hfront, List.length_append, List.length_cons, List.length_nil]
    omega

/-- Directly in front of what comes behind generated statements stands a semicolon. -/
theorem exists_end (h : Laid rest gs text) (hgs : gs ≠ []) : ∃ front, text = front ++ ';' :: rest := by
  induction h with
  | last => exact absurd rfl hgs
  | @more g gs gap text _ h ih =>
    obtain ⟨front, hfront⟩ := g.exists_end
    cases h with
    | last => exact ⟨gap ++ front, by simp [hfront]⟩
    | more hgap h =>
      obtain ⟨front', hfront'⟩ := ih (List.cons_ne_nil _ _)
      exact ⟨gap ++ (g.render.toList ++ front'), by rw [hfront']; simp⟩

/-- A text that begins with generated statements begins with a token of the first one. -/
theorem heads (h : Laid rest gs text) (hgs : ∀ g ∈ gs, g.Readable) (hrest : Heads rest l) :
    ∃ l', Heads text l' ∧ (l' = l ∧ gs = [] ∨ l' ≠ .hashbang) := by
  induction h with
  | last => exact ⟨l, hrest, .inl ⟨rfl, rfl⟩⟩
  | @more g gs gap text hgap _ ih =>
    obtain ⟨l', hl', -⟩ := ih fun g hg => hgs g (List.mem_cons_of_mem _ hg)
    have hspells : SpellsTo text (g.render.toList ++ text) (g.spell ++ [l']) :=
      Generated.spells (hgs g List.mem_cons_self) ⟨upTo_self text, hl'⟩
    obtain ⟨hne, -, hhashbang⟩ := g.spell_tokens
    obtain ⟨first, spelling, hspell⟩ := List.exists_cons_of_ne_nil hne
    rw [hspell] at hspells hhashbang
    exact ⟨first, hspells.heads.gap hgap, .inr fun h => hhashbang (h ▸ List.mem_cons_self)⟩

/-- Generated statements are read one after the other. -/
theorem chain {length : Nat} {s : ParserState} {l last : Lexeme} (h : Laid rest gs text)
    (hgs : ∀ g ∈ gs, g.Readable) (hrest : Heads rest last) (hlength : text.length ≤ length)
    (hs : s.Faces ⟨out, text⟩ [l]) : ∃ nodes u,
      Chain (itemOf length) { limit := length + 2 } s (nodes.map .statement) u ∧
      u.Faces ⟨out, rest⟩ [last] ∧ List.Forall₂ Generated.Written gs nodes := by
  induction h generalizing s l with
  | last =>
    obtain rfl := hs.last_eq hrest
    exact ⟨[], s, .done s, hs, .nil⟩
  | @more g gs gap text hgap h ih =>
    have hgs' : ∀ g ∈ gs, g.Readable := fun g hg => hgs g (List.mem_cons_of_mem _ hg)
    have hreadable : g.Readable := hgs g List.mem_cons_self
    obtain ⟨l', hl', -⟩ := h.heads hgs' hrest
    have hspells : SpellsTo text (g.render.toList ++ text) (g.spell ++ [l']) :=
      Generated.spells hreadable ⟨upTo_self text, hl'⟩
    obtain ⟨hne, hfinish, -⟩ := g.spell_tokens
    simp only [List.length_append] at hlength
    have hshort := hspells.length_le hfinish
    rw [List.length_append] at hshort
    obtain ⟨first, spelling, hspell⟩ := List.exists_cons_of_ne_nil hne
    obtain ⟨second, more, hmore⟩ : ∃ second more, spelling ++ [l'] = second :: more :=
      List.exists_cons_of_ne_nil (by simp)
    have htokens : g.spell ++ [l'] = first :: second :: more := by
      rw [hspell, List.cons_append, hmore]
    rw [htokens] at hspells
    obtain rfl := hs.last_eq (hspells.heads.gap hgap)
    have hfaces := hs.along hgap hspells
    rw [← htokens] at hfaces
    have hnext : s.token.lexeme ≠ .finish := by
      rw [hs.lexeme]
      rintro rfl
      exact hfinish (hspell ▸ List.mem_cons_self)
    have hlimit : g.spell.length < length + 2 := by omega
    obtain ⟨item, t, hrun, ht, m, rfl, hm⟩ :=
      Generated.runs (n := 2 * length + 5) hreadable hlimit hfaces
    obtain ⟨nodes, u, hchain, hu, hnodes⟩ := ih hgs' (by omega) ht
    exact ⟨m :: nodes, u, .more hnext hrun hchain, hu, .cons hm hnodes⟩

end Laid

/-! ## Nothing but generated statements -/

/-- A text that consists of generated statements and of gaps. -/
inductive Row : List Generated → List Char → Prop where
  | nothing : Row [] []
  | gap {gs : List Generated} {g text : List Char} (hg : IsGap g) (h : Row gs text) :
    Row gs (g ++ text)
  | statement (g : Generated) {gs : List Generated} {text : List Char} (h : Row gs text) :
    Row (g :: gs) (g.render.toList ++ text)

namespace Row

variable {text text' : List Char} {gs gs' : List Generated}

theorem append (h : Row gs text) (h' : Row gs' text') : Row (gs ++ gs') (text ++ text') := by
  induction h with
  | nothing => exact h'
  | gap hg _ ih =>
    rw [List.append_assoc]
    exact .gap hg ih
  | statement g _ ih =>
    rw [List.append_assoc]
    exact .statement g ih

theorem of_gap {g : List Char} (hg : IsGap g) : Row [] g := by
  have h := Row.gap hg .nothing
  rwa [List.append_nil] at h

theorem lines (gs : List Generated) : Row gs (gs.flatMap Generated.line) := by
  induction gs with
  | nil => exact .nothing
  | cons g gs ih =>
    have hend : IsGap ['\n'] := .blank (.inr (by decide)) .nothing
    have h : Row (g :: gs) (g.render.toList ++ (['\n'] ++ gs.flatMap Generated.line)) :=
      .statement g (.gap hend ih)
    simpa [Generated.line] using h

theorem laid (h : Row gs text) : ∃ gap, IsGap gap ∧ Laid gap gs text := by
  induction h with
  | nothing => exact ⟨[], .nothing, .last⟩
  | @gap gs g text hg _ ih =>
    obtain ⟨gap, hgap, h⟩ := ih
    cases h with
    | last => exact ⟨_, hg.append hgap, .last⟩
    | more hfirst h => exact ⟨gap, hgap, (Laid.more hfirst h).behind hg (by simp)⟩
  | statement g _ ih =>
    obtain ⟨gap, hgap, h⟩ := ih
    exact ⟨gap, hgap, .more .nothing h⟩

end Row

theorem Laid.row {rest text : List Char} {gs : List Generated} (h : Laid rest gs text)
    (hrest : IsGap rest) : Row gs text := by
  induction h with
  | last => exact .of_gap hrest
  | more hgap _ ih => exact .gap hgap (.statement _ ih)

end ModuleBundler.Lowering
