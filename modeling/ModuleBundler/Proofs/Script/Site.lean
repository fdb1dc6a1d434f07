import ModuleBundler.Script.Tree

/-!
# Where a tree asks for modules

The sites of a node are the dynamic imports of a string and the calls of `require` with one, in
source order; what stands inside a site is not looked at. A node is placed when its span lies in
given bounds and the sites of its parts follow each other inside the span.
-/

namespace ModuleBundler.Script

/-- Spans that follow each other from `lo` up to `hi`. -/
def Fits (lo hi : Nat) : List Span → Prop
  | [] => True
  | s :: r => lo ≤ s.start ∧ s.start ≤ s.stop ∧ s.stop ≤ hi ∧ Fits s.stop hi r

namespace Fits

variable {a b c d lo hi : Nat} {s : Span} {l r : List Span}

@[simp] theorem nil : Fits lo hi [] := trivial

theorem singleton (h₁ : lo ≤ s.start) (h₂ : s.start ≤ s.stop) (h₃ : s.stop ≤ hi) :
    Fits lo hi [s] :=
  ⟨h₁, h₂, h₃, trivial⟩

theorem mono (h : Fits a b l) (ha : c ≤ a) (hb : b ≤ d) : Fits c d l := by
  induction l generalizing a c with
  | nil => exact nil
  | cons s r ih =>
    obtain ⟨h₁, h₂, h₃, h₄⟩ := h
    exact ⟨Nat.le_trans ha h₁, h₂, Nat.le_trans h₃ hb, ih h₄ (Nat.le_refl _)⟩

theorem bounds (h : Fits lo hi l) (hs : s ∈ l) : lo ≤ s.start ∧ s.start ≤ s.stop ∧ s.stop ≤ hi := by
  induction l generalizing lo with
  | nil => cases hs
  | cons t r ih =>
    obtain ⟨h₁, h₂, h₃, h₄⟩ := h
    rcases List.mem_cons.mp hs with rfl | hs
    · exact ⟨h₁, h₂, h₃⟩
    · exact ih (h₄.mono (Nat.le_trans h₁ h₂) (Nat.le_refl _)) hs

theorem sublist (h : Fits lo hi l) (hr : r.Sublist l) : Fits lo hi r := by
  induction hr generalizing lo with
  | slnil => exact nil
  | cons t _ ih =>
    obtain ⟨h₁, h₂, -, h₄⟩ := h
    exact ih (h₄.mono (Nat.le_trans h₁ h₂) (Nat.le_refl _))
  | cons_cons t _ ih =>
    obtain ⟨h₁, h₂, h₃, h₄⟩ := h
    exact ⟨h₁, h₂, h₃, ih h₄⟩

/-- Lists that fit next to each other fit after each other. -/
theorem append (h : Fits a b l) (k : Fits c d r) (hac : a ≤ c) (hbc : b ≤ c) (hbd : b ≤ d) :
    Fits a d (l ++ r) := by
  induction l generalizing a with
  | nil => exact k.mono hac (Nat.le_refl _)
  | cons s l ih =>
    obtain ⟨h₁, h₂, h₃, h₄⟩ := h
    exact ⟨h₁, h₂, Nat.le_trans h₃ hbd, ih h₄ (Nat.le_trans h₃ hbc)⟩

end Fits

namespace Node

mutual

def sites : Node → List Span
  | .mk shape span parts =>
    match shape, parts with
    | .importCall, .mk (.string _) _ _ :: _ => [span]
    | .call, [.mk (.identifier callee) _ _, .mk (.string _) _ _] =>
      if callee = "require" then [span] else []
    | _, _ => sitesOfAll parts

def sitesOfAll : List Node → List Span
  | [] => []
  | n :: r => sites n ++ sitesOfAll r

end

@[simp] theorem sitesOfAll_nil : sitesOfAll [] = [] := by
  rw [sitesOfAll]

@[simp] theorem sitesOfAll_cons (n : Node) (r : List Node) :
    sitesOfAll (n :: r) = n.sites ++ sitesOfAll r := by
  rw [sitesOfAll]

@[simp] theorem sitesOfAll_append (l r : List Node) :
    sitesOfAll (l ++ r) = sitesOfAll l ++ sitesOfAll r := by
  induction l with
  | nil => simp
  | cons n l ih => simp [ih]

theorem sitesOfAll_eq_flatMap (l : List Node) : sitesOfAll l = l.flatMap sites := by
  induction l with
  | nil => simp
  | cons n l ih => simp [ih]

/-- A node without parts asks for nothing. -/
@[simp] theorem sites_leaf (shape : Shape) (span : Span) : (Node.mk shape span []).sites = [] := by
  unfold sites
  split <;> simp_all

/-- A node is a site itself, or has the sites of its parts, or is a call with constant parts. -/
theorem sites_cases (n : Node) :
    n.sites = [n.span] ∨ n.sites = sitesOfAll n.parts ∨ n.sites = [] := by
  obtain ⟨shape, span, parts⟩ := n
  unfold sites
  split
  · exact .inl rfl
  · split
    · exact .inl rfl
    · exact .inr (.inr rfl)
  · exact .inr (.inl rfl)

/-- The span of the node lies between `lo` and `hi`, with the sites of its parts in order. -/
structure Placed (lo hi : Nat) (n : Node) : Prop where
  start : lo ≤ n.start
  ordered : n.start ≤ n.span.stop
  stop : n.span.stop ≤ hi
  parts : Fits n.start n.span.stop (sitesOfAll n.parts)

namespace Placed

variable {lo hi a b : Nat} {n : Node}

theorem mono (h : n.Placed lo hi) (ha : a ≤ lo) (hb : hi ≤ b) : n.Placed a b :=
  { h with start := Nat.le_trans ha h.start, stop := Nat.le_trans h.stop hb }

theorem le (h : n.Placed lo hi) : lo ≤ hi := Nat.le_trans h.start (Nat.le_trans h.ordered h.stop)

theorem inner (h : n.Placed lo hi) : Fits n.start n.span.stop n.sites := by
  rcases n.sites_cases with hs | hs | hs
  · rw [hs]
    exact .singleton (Nat.le_refl _) h.ordered (Nat.le_refl _)
  · rw [hs]
    exact h.parts
  · rw [hs]
    exact .nil

theorem fits (h : n.Placed lo hi) : Fits lo hi n.sites := h.inner.mono h.start h.stop

end Placed

end Node

namespace Item

/-- An exported declaration stands behind words that are dropped. Decorators that belong to it may
stand in front of these words. -/
structure Exported (lo hi : Nat) (span : Span) (d : Node) : Prop where
  start : lo ≤ span.start
  inner : span.start ≤ d.start
  ordered : d.start ≤ span.stop
  stop : span.stop ≤ hi
  sites : ∃ before after, d.sites = before ++ after ∧
    Fits lo span.start before ∧ Fits d.start span.stop after

def Placed (lo hi : Nat) : Item → Prop
  | .statement n => n.Placed lo hi
  | .importBindings span .. | .exportAll span .. | .exportFrom span .. | .exportList span .. =>
    lo ≤ span.start ∧ span.start ≤ span.stop ∧ span.stop ≤ hi
  | .exportDeclaration span d | .exportDefault span _ d => Exported lo hi span d

variable {lo hi a b : Nat} {span : Span} {d : Node} {item : Item}

theorem Exported.mono (h : Exported lo hi span d) (ha : a ≤ lo) (hb : hi ≤ b) :
    Exported a b span d := by
  obtain ⟨before, after, hs, hbefore, hafter⟩ := h.sites
  exact ⟨Nat.le_trans ha h.start, h.inner, h.ordered, Nat.le_trans h.stop hb,
    before, after, hs, hbefore.mono ha (Nat.le_refl _), hafter⟩

theorem Exported.fits (h : Exported lo hi span d) : Fits lo hi d.sites := by
  obtain ⟨before, after, hs, hbefore, hafter⟩ := h.sites
  have hd := h.inner
  have ho := h.ordered
  rw [hs]
  refine (hbefore.append hafter (Nat.le_trans h.start hd) hd (Nat.le_trans hd ho)).mono ?_ h.stop
  exact Nat.le_refl _

theorem exported_plain (hd : d.Placed span.start span.stop) (ha : lo ≤ span.start)
    (hb : span.stop ≤ hi) : Exported lo hi span d :=
  ⟨ha, hd.start, Nat.le_trans hd.ordered hd.stop, hb,
    [], d.sites, rfl, .nil, hd.inner.mono (Nat.le_refl _) hd.stop⟩

/-- A class that has the decorators in front of `export` among its parts. -/
theorem exported_attach {name? : Option SourceName} {inner : Span} {parts : List Node}
    (ds : List Node)
    (hd : (Node.mk (.classDefinition name?) inner parts).Placed span.start span.stop)
    (hds : Fits lo span.start (Node.sitesOfAll ds)) (ha : lo ≤ span.start) (hb : span.stop ≤ hi) :
    Exported lo hi span (.mk (.classDefinition name?) inner (ds ++ parts)) := by
  refine ⟨ha, hd.start, Nat.le_trans hd.ordered hd.stop, hb, ?_⟩
  refine ⟨Node.sitesOfAll ds, Node.sitesOfAll parts, ?_, hds, hd.parts.mono (Nat.le_refl _) hd.stop⟩
  simp [Node.sites]

theorem Placed.mono (h : item.Placed lo hi) (ha : a ≤ lo) (hb : hi ≤ b) : item.Placed a b := by
  cases item with
  | statement n => exact Node.Placed.mono h ha hb
  | importBindings | exportAll | exportFrom | exportList =>
    exact ⟨Nat.le_trans ha h.1, h.2.1, Nat.le_trans h.2.2 hb⟩
  | exportDeclaration | exportDefault => exact Exported.mono h ha hb

theorem Placed.le (h : item.Placed lo hi) : lo ≤ hi := by
  cases item with
  | statement n => exact Node.Placed.le h
  | importBindings | exportAll | exportFrom | exportList =>
    exact Nat.le_trans h.1 (Nat.le_trans h.2.1 h.2.2)
  | exportDeclaration | exportDefault =>
    exact Nat.le_trans h.start (Nat.le_trans h.inner (Nat.le_trans h.ordered h.stop))

theorem Placed.fits (h : item.Placed lo hi) : Fits lo hi (Node.sitesOfAll item.code?.toList) := by
  cases item with
  | statement n => simpa [code?] using Node.Placed.fits h
  | importBindings | exportAll | exportFrom | exportList => simp [code?]
  | exportDeclaration | exportDefault => simpa [code?] using Exported.fits h

/-- As an export is read, before decorators are attached to what it declares. -/
def Plain (lo hi : Nat) : Item → Prop
  | .exportDeclaration span d | .exportDefault span _ d =>
    lo ≤ span.start ∧ d.Placed span.start span.stop ∧ span.stop ≤ hi
  | item => item.Placed lo hi

theorem Plain.placed (h : item.Plain lo hi) : item.Placed lo hi := by
  cases item with
  | exportDeclaration span d | exportDefault span _ d => exact exported_plain h.2.1 h.1 h.2.2
  | statement | importBindings | exportAll | exportFrom | exportList => exact h

end Item

end ModuleBundler.Script
