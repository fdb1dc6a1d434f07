import ModuleBundler.Proofs.Script.Site
import ModuleBundler.Proofs.Script.Yield

/-!
# Parsers that place what they read

While a parser runs, a track keeps the sites of the nodes read so far, which follow each other
between the start of the node being read and the end of the last token. Each kind of step extends
the track, and the node that is made at the end is placed.
-/

namespace ModuleBundler.Script.Parser

open ParserState (Reach)
open Node (sitesOfAll)

variable {α β : Type} {ctx : Context} {s₀ s t : ParserState} {lo : Nat} {L : List Span}

/-- From `s₀` on, nodes with the sites `L` were read after `lo`; `took` tells that a token was
taken after `lo`. -/
structure Track (took : Bool) (s₀ : ParserState) (lo : Nat) (s : ParserState) (L : List Span) :
    Prop where
  reach : s₀.Reach s
  here : lo ≤ s.here
  took : took = true → lo ≤ s.previousStop
  fits : Fits lo s.previousStop L

/-- A node was read after `lo`. -/
structure Built (s₀ : ParserState) (lo : Nat) (n : Node) (s : ParserState) : Prop where
  reach : s₀.Reach s
  placed : n.Placed lo s.previousStop

def Builds (p : Parser Node) : Prop := ∀ ctx s, s.Ordered → Yields p ctx s (Built s s.here)

/-- The node is a part of the result. -/
def BuildsPart (part : α → Node) (p : Parser α) : Prop :=
  ∀ ctx s, s.Ordered → Yields p ctx s fun a => Built s s.here (part a)

/-- The nodes in the result were read one after the other. -/
def Gathers (sites : α → List Span) (p : Parser α) : Prop :=
  ∀ ctx s, s.Ordered → Yields p ctx s fun a t =>
    s.Reach t ∧ Fits s.here t.previousStop (sites a)

namespace Track

variable {took : Bool}

theorem start (h : s.Ordered) : Track false s s.here s [] :=
  ⟨Reach.refl h, Nat.le_refl _, nofun, .nil⟩

theorem reaches (h : Track took s₀ lo s L) (hr : s.Reach t) : Track took s₀ lo t L where
  reach := h.reach.trans hr
  here := Nat.le_trans h.here hr.here
  took := fun ht => Nat.le_trans (h.took ht) hr.previous
  fits := h.fits.mono (Nat.le_refl _) hr.previous

theorem takes (h : Track took s₀ lo s L) (hr : s.Reach t) (ht : s.here ≤ t.previousStop) :
    Track true s₀ lo t L :=
  { h.reaches hr with took := fun _ => Nat.le_trans h.here ht }

theorem gathers (h : Track took s₀ lo s L) {M : List Span} (hr : s.Reach t)
    (hm : Fits s.here t.previousStop M) : Track took s₀ lo t (L ++ M) :=
  { h.reaches hr with
    fits := h.fits.append hm h.here h.reach.ordered.previous hr.previous }

theorem builds (h : Track took s₀ lo s L) {n : Node} (hr : s.Reach t)
    (hn : n.Placed s.here t.previousStop) : Track true s₀ lo t (L ++ n.sites) :=
  { h.gathers hr hn.fits with took := fun _ => Nat.le_trans h.here hn.le }

/-- The track of a node that has been read. -/
theorem ofBuilt {n : Node} (h : Built s₀ lo n s) : Track true s₀ lo s n.sites where
  reach := h.reach
  here := Nat.le_trans h.placed.le h.reach.ordered.previous
  took := fun _ => h.placed.le
  fits := h.placed.fits

/-- The node that is made of the parts read since `lo`. -/
theorem node {shape : Shape} {parts : List Node} (h : Track true s₀ lo s (sitesOfAll parts)) :
    Yields (node shape lo parts) ctx s (Built s₀ lo) :=
  Yields.previousStop (Yields.pure ⟨h.reach, Nat.le_refl _, h.took rfl, Nat.le_refl _, h.fits⟩)

end Track

/-! ## Steps -/

section Steps

variable {took : Bool} {p : Parser α} {q : Parser Node} {f : α → Parser β} {g : Node → Parser β}
  {P : β → ParserState → Prop} {Q : Node → ParserState → Prop} {sites : α → List Span}

theorem Reads.step (h : Reads p) (k : ∀ a, Yields (f a) ctx s P) : Yields (p >>= f) ctx s P := by
  apply Yields.bind
  apply (h ctx s).mono
  intro a t ht
  rw [ht]
  exact k a

theorem Moves.step (h : Moves p) (t : Track took s₀ lo s L)
    (k : ∀ a s, Track took s₀ lo s L → Yields (f a) ctx s P) : Yields (p >>= f) ctx s P :=
  Yields.bind ((h ctx s t.reach.ordered).mono fun a u hu => k a u (t.reaches hu))

theorem Takes.step (h : Takes p) (t : Track took s₀ lo s L)
    (k : ∀ a s, Track true s₀ lo s L → Yields (f a) ctx s P) : Yields (p >>= f) ctx s P :=
  Yields.bind ((h ctx s t.reach.ordered).mono fun a u hu => k a u (t.takes hu.1 hu.2))

theorem Gathers.step (h : Gathers sites p) (t : Track took s₀ lo s L)
    (k : ∀ a s, Track took s₀ lo s (L ++ sites a) → Yields (f a) ctx s P) :
    Yields (p >>= f) ctx s P :=
  Yields.bind ((h ctx s t.reach.ordered).mono fun a u hu => k a u (t.gathers hu.1 hu.2))

theorem Builds.step (h : Builds q) (t : Track took s₀ lo s L)
    (k : ∀ n s, Track true s₀ lo s (L ++ n.sites) → Yields (g n) ctx s P) :
    Yields (q >>= g) ctx s P :=
  Yields.bind ((h ctx s t.reach.ordered).mono fun n u hu => k n u (t.builds hu.reach hu.placed))

theorem BuildsPart.step {part : α → Node} (h : BuildsPart part p) (t : Track took s₀ lo s L)
    (k : ∀ a s, Track true s₀ lo s (L ++ (part a).sites) → Yields (f a) ctx s P) :
    Yields (p >>= f) ctx s P :=
  Yields.bind ((h ctx s t.reach.ordered).mono fun a u hu => k a u (t.builds hu.reach hu.placed))

theorem Builds.last (h : Builds q) (t : Track took s₀ lo s L) : Yields q ctx s (Built s₀ lo) :=
  (h ctx s t.reach.ordered).mono fun _ _ hu =>
    ⟨t.reach.trans hu.reach, hu.placed.mono t.here (Nat.le_refl _)⟩

theorem Moves.bind_builds {f : α → Parser Node} (hp : Moves p) (hf : ∀ a, Builds (f a)) :
    Builds (p >>= f) :=
  fun _ _ hs => hp.step (Track.start hs) fun a _ t => (hf a).last t

/-- A step after a node that may turn out to be all there is. -/
theorem Moves.pass {n : Node} (h : Moves p) (hn : Built s₀ lo n s)
    (k : ∀ a s, Built s₀ lo n s → Yields (f a) ctx s P) : Yields (p >>= f) ctx s P :=
  Yields.bind ((h ctx s hn.reach.ordered).mono fun a u hu =>
    k a u ⟨hn.reach.trans hu, hn.placed.mono (Nat.le_refl _) hu.previous⟩)

/-- After the node that a track begins with. -/
theorem Built.step (h : Yields q ctx s (Built s₀ lo))
    (k : ∀ n s, Built s₀ lo n s → Yields (g n) ctx s P) : Yields (q >>= g) ctx s P :=
  Yields.bind (h.mono k)

end Steps

/-! ## Kinds of parsers -/

section Kinds

variable {p : Parser α} {q r : Parser Node} {sites : α → List Span}

theorem Builds.moves (h : Builds q) : Moves q :=
  fun ctx s hs => (h ctx s hs).mono fun _ _ ht => ht.reach

theorem Builds.gathers (h : Builds q) : Gathers Node.sites q :=
  fun ctx s hs => (h ctx s hs).mono fun _ _ ht => ⟨ht.reach, ht.placed.fits⟩

theorem Gathers.moves (h : Gathers sites p) : Moves p :=
  fun ctx s hs => (h ctx s hs).mono fun _ _ ht => ht.1

theorem Moves.gathers (h : Moves p) (hn : ∀ a, sites a = []) : Gathers sites p := by
  refine fun ctx s hs => (h ctx s hs).mono fun a t ht => ⟨ht, ?_⟩
  rw [hn a]
  exact .nil

theorem Builds.within {change : Context → Context} (h : Builds q) : Builds (within change q) :=
  fun ctx s hs => Yields.within (h (change ctx) s hs)

theorem Gathers.within {change : Context → Context} (h : Gathers sites p) :
    Gathers sites (within change p) :=
  fun ctx s hs => Yields.within (h (change ctx) s hs)

theorem Builds.ite {c : Prop} [Decidable c] (hq : Builds q) (hr : Builds r) :
    Builds (if c then q else r) := by
  split
  · exact hq
  · exact hr

/-- A part that may be missing. -/
theorem gathers_listIf (h : Builds q) (present : Bool) :
    Gathers sitesOfAll (listIf present q) := by
  intro ctx s hs
  unfold listIf
  split
  · apply h.step (Track.start hs)
    intro n s t
    apply Yields.pure
    simpa using And.intro t.reach t.fits
  · exact Yields.pure ⟨Reach.refl hs, .nil⟩

end Kinds

/-! ## Lists -/

section Lists

variable {p : Parser α} {q r : Parser Node} {sites : α → List Span}

theorem gathers_repeatUntil {ends : Parser Bool} (he : Reads ends) (h : Gathers sites p) :
    Gathers (List.flatMap sites) (repeatUntil ends p) := by
  intro ctx s hs
  refine Yields.iterate (fun found u => Track false s s.here u (found.reverse.flatMap sites))
    (Track.start hs) fun found u t => ?_
  apply he.step
  intro b
  split
  · exact Yields.pure ⟨t.reach, t.fits⟩
  apply h.step t
  intro a u t
  apply Yields.pure
  simpa using t

theorem gathers_moreAfterCommas (h : Gathers sites p) {s₀ s : ParserState} {lo : Nat} {first : α}
    (t : Track true s₀ lo s (sites first)) :
    Yields (moreAfterCommas first p) ctx s fun l u => Track true s₀ lo u (l.flatMap sites) := by
  refine Yields.iterate (fun found u => Track true s₀ lo u (found.reverse.flatMap sites))
    (by simpa using t) fun found u t => ?_
  apply (tries_eat ",").moves.step t
  intro b u t
  split
  case isFalse => exact Yields.pure t
  apply h.step t
  intro a u t
  apply Yields.pure
  simpa using t

theorem gathers_commaList (h : Gathers sites p) (close : String) :
    Gathers (fun r => r.1.flatMap sites) (commaList close p) := by
  intro ctx s hs
  apply (reads_atListEnd close).step
  intro b
  split
  · exact Yields.pure ⟨Reach.refl hs, .nil⟩
  apply h.step (Track.start hs)
  intro first u t
  refine Yields.iterate (fun found u => Track false s s.here u (found.reverse.flatMap sites))
    (by simpa using t) fun found u t => ?_
  apply (reads_atListEnd close).step
  intro b
  split
  · exact Yields.pure ⟨t.reach, t.fits⟩
  apply takes_takeComma.moves.step t
  intro comma u t
  apply (reads_atPunctuator close).step
  intro b
  split
  · exact Yields.pure ⟨t.reach, t.fits⟩
  apply h.step t
  intro a u t
  apply Yields.pure
  simpa using t

theorem gathers_commaListWithRest (hq : Gathers Node.sites q) (hr : Builds r) (close : String) :
    Gathers sitesOfAll (commaListWithRest close q r) := by
  intro ctx s hs
  refine Yields.iterate (fun found u => Track false s s.here u (sitesOfAll found.1.reverse))
    (Track.start hs) fun (found, rest?) u t => ?_
  apply (reads_atListEnd close).step
  intro b
  split
  · exact Yields.pure ⟨t.reach, t.fits⟩
  apply (moves_endsAfterComma close found rest?).step t
  intro b u t
  split
  · exact Yields.pure ⟨t.reach, t.fits⟩
  apply (moves_faultAt? _).step t
  intro _ u t
  apply (reads_atPunctuator "...").step
  intro b
  split
  · apply hr.gathers.step t
    intro n u t
    apply Yields.pure
    simpa using t
  · apply hq.step t
    intro n u t
    apply Yields.pure
    simpa using t

theorem moves_forM {l : List α} {check : α → Parser Unit} (h : ∀ a, Moves (check a)) :
    Moves (l.forM check) := by
  induction l with
  | nil => exact moves_pure ()
  | cons a l ih => exact (h a).bind fun _ => ih

end Lists

end ModuleBundler.Script.Parser
