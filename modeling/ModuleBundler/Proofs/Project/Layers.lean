import ModuleBundler.Project.Load
import ModuleBundler.Proofs.Project.Decode

/-!
# Layers of a project

Settings laid over what a project is read from cover the project's own, each for itself, and leave
everything else as it is. Only an output section that is written as a list does not stay below
other settings of the output. Defaults below a project change nothing.
-/

namespace ModuleBundler.Project

open Json Decoder
open Value (member? layerMembers)

variable {l : Leniency} {p : Project} {ms us : List (String × Value)}

/-! ## Settings that are given -/

/-- What variables and the command line can say about the output. -/
structure OutputLeaves where
  directory? : Option String := none
  filename? : Option String := none
  banner? : Option String := none
  deriving DecidableEq

/-- The settings that variables and the command line can give. -/
structure Leaves where
  entry? : Option String := none
  output : OutputLeaves := {}
  deriving DecidableEq

namespace OutputLeaves

/-- What both give is given by the upper ones. -/
def atop (upper lower : OutputLeaves) : OutputLeaves where
  directory? := upper.directory?.or lower.directory?
  filename? := upper.filename?.or lower.filename?
  banner? := upper.banner?.or lower.banner?

def cover (s : OutputLeaves) (o : Compiler.Output) : Compiler.Output where
  directory := s.directory?.getD o.directory
  filename := s.filename?.getD o.filename
  banner? := s.banner?.or o.banner?

@[simp] theorem empty_atop (s : OutputLeaves) : atop {} s = s := rfl

@[simp] theorem atop_empty (s : OutputLeaves) : atop s {} = s := by
  simp [atop]

@[simp] theorem empty_cover (o : Compiler.Output) : cover {} o = o := rfl

theorem atop_eq_empty_iff {upper lower : OutputLeaves} :
    atop upper lower = {} ↔ upper = {} ∧ lower = {} := by
  cases upper
  cases lower
  simp only [atop, mk.injEq, Option.or_eq_none_iff]
  tauto

theorem cover_atop (upper lower : OutputLeaves) (o : Compiler.Output) :
    (upper.atop lower).cover o = upper.cover (lower.cover o) := by
  simp [cover, atop, Option.getD_or, Option.or_assoc]

/-- An object that gives these settings as texts and nothing else. -/
structure WrittenAs (s : OutputLeaves) (ms : List (String × Value)) : Prop where
  nodup : (ms.map Prod.fst).Nodup
  known : ∀ k ∈ ms.map Prod.fst, k ∈ outputSlots.map Slot.name
  directory : member? "directory" ms = s.directory?.map .string
  filename : member? "filename" ms = s.filename?.map .string
  banner : member? "banner" ms = s.banner?.map .string

end OutputLeaves

namespace Leaves

def atop (upper lower : Leaves) : Leaves where
  entry? := upper.entry?.or lower.entry?
  output := upper.output.atop lower.output

/-- A project with the settings that are given in place of its own. -/
def cover (s : Leaves) (p : Project) : Project :=
  { p with entry? := s.entry?.or p.entry?, output := s.output.cover p.output }

theorem cover_atop (upper lower : Leaves) (p : Project) :
    (upper.atop lower).cover p = upper.cover (lower.cover p) := by
  simp [cover, atop, OutputLeaves.cover_atop, Option.or_assoc]

/-- An object that gives these settings and nothing else. -/
structure WrittenAs (s : Leaves) (ms : List (String × Value)) : Prop where
  nodup : (ms.map Prod.fst).Nodup
  known : ∀ k ∈ ms.map Prod.fst, k ∈ ["entry", "output"]
  entry : member? "entry" ms = s.entry?.map .string
  absent : s.output = {} → member? "output" ms = none
  present : s.output ≠ {} → ∃ os, member? "output" ms = some (.object os) ∧ s.output.WrittenAs os

end Leaves

/-! ## Texts over what is below them -/

theorem map_atop_string (text? : Option String) (lower? : Option Value) :
    (text?.map Value.string).map (Value.atop lower?) = text?.map .string := by
  cases text? <;> cases lower? <;> simp [Value.atop, Value.layer]

theorem member?_layer_text {k : String} {text? : Option String} (hus : (us.map Prod.fst).Nodup)
    (hk : member? k us = text?.map .string) :
    member? k (layerMembers ms us) = (text?.map .string).or (member? k ms) := by
  rw [Value.member?_layerMembers k hus, hk, map_atop_string]

theorem member?_layer_none {k : String} (hus : (us.map Prod.fst).Nodup)
    (hk : member? k us = none) : member? k (layerMembers ms us) = member? k ms := by
  rw [Value.member?_layerMembers k hus, hk]
  rfl

theorem member?_layer_some {k : String} {v : Value} (hus : (us.map Prod.fst).Nodup)
    (hk : member? k us = some v) :
    member? k (layerMembers ms us) = some (Value.atop (member? k ms) v) := by
  rw [Value.member?_layerMembers k hus, hk]
  rfl

theorem known_layerMembers {names : List String} (hus : (us.map Prod.fst).Nodup)
    (hms : ∀ k ∈ ms.map Prod.fst, k ∈ names) (hks : ∀ k ∈ us.map Prod.fst, k ∈ names) :
    ∀ k ∈ (layerMembers ms us).map Prod.fst, k ∈ names := by
  intro k hk
  rcases (Value.mem_keys_layerMembers hus).1 hk with hk | hk
  · exact hms k hk
  · exact hks k hk

theorem inOrder_layerMembers {σ : Type} {slots : List (Slot σ)}
    (hms : InOrder slots (ms.map Prod.fst) []) (hus : (us.map Prod.fst).Nodup)
    (hknown : ∀ k ∈ us.map Prod.fst, k ∈ slots.map Slot.name) :
    InOrder slots ((layerMembers ms us).map Prod.fst) [] :=
  ⟨Value.nodup_layerMembers hms.1, fun k hk =>
    ⟨known_layerMembers hus (fun k hk => (hms.2 k hk).1) hknown k hk, List.not_mem_nil⟩⟩

theorem OutputLeaves.WrittenAs.layer {s t : OutputLeaves} (hs : s.WrittenAs ms)
    (ht : t.WrittenAs us) : (t.atop s).WrittenAs (layerMembers ms us) where
  nodup := Value.nodup_layerMembers hs.nodup
  known := known_layerMembers ht.nodup hs.known ht.known
  directory := by
    rw [member?_layer_text ht.nodup ht.directory, hs.directory, ← Option.map_or]
    rfl
  filename := by
    rw [member?_layer_text ht.nodup ht.filename, hs.filename, ← Option.map_or]
    rfl
  banner := by
    rw [member?_layer_text ht.nodup ht.banner, hs.banner, ← Option.map_or]
    rfl

/-- Written settings laid over each other are the settings of both. -/
theorem Leaves.WrittenAs.layer {s t : Leaves} (hs : s.WrittenAs ms) (ht : t.WrittenAs us) :
    (t.atop s).WrittenAs (layerMembers ms us) where
  nodup := Value.nodup_layerMembers hs.nodup
  known := known_layerMembers ht.nodup hs.known ht.known
  entry := by
    rw [member?_layer_text ht.nodup ht.entry, hs.entry, ← Option.map_or]
    rfl
  absent h := by
    obtain ⟨hupper, hlower⟩ := OutputLeaves.atop_eq_empty_iff.1 h
    rw [member?_layer_none ht.nodup (ht.absent hupper), hs.absent hlower]
  present h := by
    by_cases hupper : t.output = {}
    · have hatop : (t.atop s).output = s.output := by simp [Leaves.atop, hupper]
      rw [hatop] at h ⊢
      rw [member?_layer_none ht.nodup (ht.absent hupper)]
      exact hs.present h
    · obtain ⟨os, hos, hwritten⟩ := ht.present hupper
      rw [member?_layer_some ht.nodup hos]
      by_cases hlower : s.output = {}
      · have hatop : (t.atop s).output = t.output := by simp [Leaves.atop, hlower]
        rw [hatop, hs.absent hlower]
        exact ⟨os, rfl, hwritten⟩
      · obtain ⟨os', hos', hwritten'⟩ := hs.present hlower
        rw [hos']
        exact ⟨_, rfl, hwritten'.layer hwritten⟩

/-! ## Given settings over a project -/

theorem takes_text_or {expected before a : String} {v? : Option Value} (text? : Option String)
    (h : TakesValue (Decoder.text expected) before v? a) :
    TakesValue (Decoder.text expected) before ((text?.map .string).or v?) (text?.getD a) := by
  cases text? with
  | none => simpa using h
  | some text => rfl

theorem takes_optional_or {a : Option String} {v? : Option Value} (text? : Option String)
    (h : TakesValue (Decoder.optional Decoder.string) none v? a) :
    TakesValue (Decoder.optional Decoder.string) none ((text?.map .string).or v?) (text?.or a) := by
  cases text? with
  | none => simpa using h
  | some text => rfl

/-- Settings laid over an output cover its own. -/
theorem outputDecoder_layer (hl : l.unknownFields = false) {s : OutputLeaves}
    {o : Compiler.Output} (hms : outputDecoder l (.ofValue (.object ms)) = .ok o)
    (hs : s.WrittenAs us) :
    outputDecoder l (.ofValue (.object (layerMembers ms us))) = .ok (s.cover o) := by
  rw [outputDecoder_eq_ok_iff hl] at hms ⊢
  obtain ⟨hin, hdirectory, hfilename, hbanner⟩ := hms
  rw [member?_layer_text hs.nodup hs.directory, member?_layer_text hs.nodup hs.filename,
    member?_layer_text hs.nodup hs.banner]
  exact ⟨inOrder_layerMembers hin hs.nodup hs.known, takes_text_or s.directory? hdirectory,
    takes_text_or s.filename? hfilename, takes_optional_or s.banner? hbanner⟩

/-- Whether the output section is written as a list. -/
def listsOutput (ms : List (String × Value)) : Bool :=
  match member? "output" ms with
  | some (.array _) => true
  | _ => false

/-- What of a project stays below these settings: an output written as a list does not stay below
any setting of the output. -/
def below (s : Leaves) (listed : Bool) (p : Project) : Project :=
  if listed && s.output ≠ {} then { p with output := {} } else p

theorem outputDecoder_empty : outputDecoder l (.ofValue (.object [])) = .ok {} := rfl

/-- Only objects and lists are outputs. -/
theorem output_shape {v : Value} {o : Compiler.Output}
    (h : outputDecoder l (.ofValue v) = .ok o) : (∃ os, v = .object os) ∨ ∃ vs, v = .array vs := by
  cases v with
  | object os => exact .inl ⟨os, rfl⟩
  | array vs => exact .inr ⟨vs, rfl⟩
  | _ => simp [outputDecoder, record, Document.ofValue] at h

theorem takes_output_layer (hl : l.unknownFields = false) {s : Leaves} (hs : s.WrittenAs us)
    (h : TakesValue (outputDecoder l) {} (member? "output" ms) p.output) :
    TakesValue (outputDecoder l) {} (member? "output" (layerMembers ms us))
      (s.output.cover (below s (listsOutput ms) p).output) := by
  by_cases hempty : s.output = {}
  · rw [member?_layer_none hs.nodup (hs.absent hempty)]
    simpa [below, hempty] using h
  · obtain ⟨os, hos, hwritten⟩ := hs.present hempty
    have hnew : outputDecoder l (.ofValue (.object (layerMembers [] os))) =
        .ok (s.output.cover {}) := outputDecoder_layer hl outputDecoder_empty hwritten
    rw [Value.layerMembers_nil hwritten.nodup] at hnew
    rw [member?_layer_some hs.nodup hos]
    cases hlower : member? "output" ms with
    | none =>
      rw [hlower] at h
      have hdefault : p.output = {} := h
      simpa [below, listsOutput, hlower, hdefault, TakesValue, Takes, Value.atop] using hnew
    | some v =>
      rw [hlower] at h
      rcases output_shape h with ⟨os', rfl⟩ | ⟨vs, rfl⟩
      · have hboth := outputDecoder_layer hl h hwritten
        simpa [below, listsOutput, hlower, TakesValue, Takes, Value.atop, Value.layer] using hboth
      · simpa [below, listsOutput, hlower, hempty, TakesValue, Takes, Value.atop, Value.layer]
          using hnew

/-- Settings laid over a project cover its own and leave the rest as it is. -/
theorem decoder_layer (hl : l.unknownFields = false) {s : Leaves} (hs : s.WrittenAs us)
    (hms : decoder l (.ofValue (.object ms)) = .ok p) :
    decoder l (.ofValue (.object (layerMembers ms us))) =
      .ok (s.cover (below s (listsOutput ms) p)) := by
  rw [decoder_eq_ok_iff hl] at hms ⊢
  obtain ⟨hin, hentry, houtput, hmodule, hresolve, hmaximum⟩ := hms
  have hknown : ∀ k ∈ us.map Prod.fst, k ∈ slots.map Slot.name := fun k hk => by
    have h := hs.known k hk
    simp only [slots, List.map_cons, List.mem_cons] at h ⊢
    tauto
  have hother : ∀ k, k ∉ ["entry", "output"] →
      member? k (layerMembers ms us) = member? k ms := fun k hk =>
    member?_layer_none hs.nodup (Value.member?_eq_none_iff.2 fun h => hk (hs.known k h))
  rw [member?_layer_text hs.nodup hs.entry, hother "module" (by decide),
    hother "resolve" (by decide), hother "maxModules" (by decide)]
  have houtput' := takes_output_layer hl hs houtput
  obtain ⟨o, ho⟩ : ∃ o, below s (listsOutput ms) p = { p with output := o } := by
    unfold below
    split <;> exact ⟨_, rfl⟩
  rw [ho] at houtput' ⊢
  exact ⟨inOrder_layerMembers hin hs.nodup hknown, takes_optional_or s.entry? hentry, houtput',
    hmodule, hresolve, hmaximum⟩

theorem listsOutput_layer {s : Leaves} (hs : s.WrittenAs us) :
    listsOutput (layerMembers ms us) = (listsOutput ms && decide (s.output = {})) := by
  by_cases hempty : s.output = {}
  · simp [listsOutput, member?_layer_none hs.nodup (hs.absent hempty), hempty]
  · obtain ⟨os, hos, -⟩ := hs.present hempty
    have hobject : ∃ os', Value.atop (member? "output" ms) (.object os) = .object os' := by
      unfold Value.atop
      cases member? "output" ms with
      | none => exact ⟨os, rfl⟩
      | some v => cases v <;> exact ⟨_, rfl⟩
    obtain ⟨os', hos'⟩ := hobject
    simp [listsOutput, member?_layer_some hs.nodup hos, hos', hempty]

/-- Two layers cover a project as the settings of both do. -/
theorem cover_below_atop (upper lower : Leaves) (listed : Bool) (p : Project) :
    upper.cover (below upper (listed && decide (lower.output = {}))
      (lower.cover (below lower listed p))) =
      (upper.atop lower).cover (below (upper.atop lower) listed p) := by
  have hatop : (upper.atop lower).output = upper.output.atop lower.output := rfl
  rw [Leaves.cover_atop]
  by_cases hlower : lower.output = {}
  · by_cases hupper : upper.output = {} <;>
      cases listed <;> simp [below, Leaves.cover, hatop, hlower, hupper]
  · have hboth : upper.output.atop lower.output ≠ {} := fun h =>
      hlower (OutputLeaves.atop_eq_empty_iff.1 h).2
    cases listed <;> simp [below, hatop, hlower, hboth]

/-! ## Defaults -/

theorem atop_none (v : Value) : Value.atop none v = v := rfl

theorem atop_string (text : String) (v : Value) : Value.atop (some (.string text)) v = v := by
  cases v <;> rfl

theorem takes_text_default {expected before a : String} {v? : Option Value}
    (h : TakesValue (Decoder.text expected) before v? a) :
    TakesValue (Decoder.text expected) before
      ((v?.map (Value.atop (some (.string before)))).or (some (.string before))) a := by
  cases v? with
  | none =>
    obtain rfl : a = before := h
    rfl
  | some v => simpa [atop_string] using h

/-- The members of the defaults. -/
def defaultMembers : List (String × Value) :=
  [("output", outputJson {}), ("module", .object []), ("resolve", .object [])]

theorem outputDecoder_default (hl : l.unknownFields = false) {o : Compiler.Output}
    {v? : Option Value} (h : TakesValue (outputDecoder l) {} v? o) :
    TakesValue (outputDecoder l) {}
      ((v?.map (Value.atop (some (outputJson {})))).or (some (outputJson {}))) o := by
  cases v? with
  | none =>
    obtain rfl : o = {} := h
    rfl
  | some v =>
    rcases output_shape h with ⟨os, rfl⟩ | ⟨vs, rfl⟩
    · have hread : outputDecoder l (.ofValue (.object os)) = .ok o := h
      rw [outputDecoder_eq_ok_iff hl] at hread
      obtain ⟨hin, hdirectory, hfilename, hbanner⟩ := hread
      change outputDecoder l (.ofValue (.object (layerMembers
        [("directory", .string "dist"), ("filename", .string "main.js")] os))) = .ok o
      rw [outputDecoder_eq_ok_iff hl]
      simp only [Value.member?_layerMembers _ hin.1]
      refine ⟨inOrder_layerMembers ⟨by decide, by decide⟩ hin.1 fun k hk => (hin.2 k hk).1,
        takes_text_default hdirectory, takes_text_default hfilename, ?_⟩
      cases hbelow : member? "banner" os <;> simpa [hbelow, Value.member?, atop_none] using hbanner
    · exact h

/-- A section over an empty one is what it is. -/
theorem section_default {σ : Type} {slots : List (Slot σ)} (hslots : Slot.Cover slots)
    (hl : l.unknownFields = false) {name : String} {start a : σ} {v? : Option Value}
    (hempty : record name (slots.map (Slot.field · l)) l start (.ofValue (.object [])) = .ok start)
    (h : TakesValue (record name (slots.map (Slot.field · l)) l start) start v? a) :
    TakesValue (record name (slots.map (Slot.field · l)) l start) start
      ((v?.map (Value.atop (some (.object [])))).or (some (.object []))) a := by
  cases v? with
  | none =>
    obtain rfl : a = start := h
    exact hempty
  | some v =>
    cases v with
    | object os =>
      have hread : record name (slots.map (Slot.field · l)) l start (.ofValue (.object os)) =
        .ok a := h
      have hnodup := ((record_ofValue_eq_ok_iff hslots hl name os).1 hread).1.1
      have hsame : Value.atop (some (.object [])) (.object os) = .object os := by
        simp [Value.atop, Value.layer, Value.layerMembers_nil hnodup]
      simpa [hsame] using h
    | _ => exact h

/-- Defaults below a project change nothing in it. -/
theorem decoder_default (hl : l.unknownFields = false)
    (h : decoder l (.ofValue (.object ms)) = .ok p) :
    decoder l (.ofValue (.object (layerMembers defaultMembers ms))) = .ok p := by
  rw [decoder_eq_ok_iff hl] at h ⊢
  obtain ⟨hin, hentry, houtput, hmodule, hresolve, hmaximum⟩ := h
  simp only [Value.member?_layerMembers _ hin.1]
  refine ⟨inOrder_layerMembers ⟨by decide, by decide⟩ hin.1 fun k hk => (hin.2 k hk).1, ?_,
    outputDecoder_default hl houtput, section_default moduleSlots_cover hl rfl hmodule,
    section_default extensionSlots_cover hl rfl hresolve, ?_⟩
  · cases hbelow : member? "entry" ms <;>
      simpa [hbelow, defaultMembers, Value.member?, atop_none] using hentry
  · cases hbelow : member? "maxModules" ms <;>
      simpa [hbelow, defaultMembers, Value.member?, atop_none] using hmaximum

theorem listsOutput_default (hms : (ms.map Prod.fst).Nodup) :
    listsOutput (layerMembers defaultMembers ms) = listsOutput ms := by
  have hdefault : member? "output" defaultMembers = some (outputJson {}) := rfl
  rw [listsOutput, listsOutput, Value.member?_layerMembers _ hms, hdefault]
  cases member? "output" ms with
  | none => rfl
  | some v => cases v <;> rfl

end ModuleBundler.Project
