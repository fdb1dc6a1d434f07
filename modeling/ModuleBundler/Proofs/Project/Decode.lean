import ModuleBundler.Project.Decode
import ModuleBundler.Proofs.Json.Record

/-!
# Reading projects

A project that is strictly read off a text is also read off the value of this text, and what the
parts of a project are read as depends on nothing but what their names lead to.
-/

namespace ModuleBundler.Project

open Json Decoder

variable {l : Leniency}

/-! ## The parts of records -/

def ruleSlots : List (Slot Rule) :=
  [⟨"test", fun _ => Decoder.string, Rule.test, fun test r => { r with test }, true⟩,
    ⟨"use", fun _ => LoaderNames.decoder, Rule.use, fun use r => { r with use }, true⟩]

def outputSlots : List (Slot Compiler.Output) :=
  [⟨"directory", fun _ => Decoder.text "path string", Compiler.Output.directory,
      fun directory o => { o with directory }, false⟩,
    ⟨"filename", fun _ => Decoder.string, Compiler.Output.filename,
      fun filename o => { o with filename }, false⟩,
    ⟨"banner", fun _ => Decoder.optional Decoder.string, Compiler.Output.banner?,
      fun banner? o => { o with banner? }, false⟩]

def moduleSlots : List (Slot (List Rule × List String)) :=
  [⟨"rules", fun l => Decoder.list (Rule.decoder l), Prod.fst, fun rules s => (rules, s.2), false⟩,
    ⟨"plugins", fun _ => Decoder.list Decoder.string, Prod.snd, fun plugins s => (s.1, plugins),
      false⟩]

def extensionSlots : List (Slot (List String)) :=
  [⟨"extensions", fun _ => Decoder.list Decoder.string, id, fun extensions _ => extensions, false⟩]

def slots : List (Slot Project) :=
  [⟨"entry", fun _ => Decoder.optional Decoder.string, entry?, fun entry? p => { p with entry? },
      false⟩,
    ⟨"output", outputDecoder, output, fun output p => { p with output }, false⟩,
    ⟨"module", moduleDecoder, fun p => (p.rules, p.plugins),
      fun s p => { p with rules := s.1, plugins := s.2 }, false⟩,
    ⟨"resolve", extensionsDecoder, extensions, fun extensions p => { p with extensions }, false⟩,
    ⟨"maxModules", fun _ => Decoder.optional Decoder.natural, maxModules?,
      fun maxModules? p => { p with maxModules? }, false⟩]

theorem ruleSlots_cover : Slot.Cover ruleSlots where
  names := by decide
  get_set := by simp [ruleSlots]
  get_set_of_ne := by simp [ruleSlots]
  ext s t := by
    cases s
    cases t
    simp +contextual [ruleSlots]

theorem outputSlots_cover : Slot.Cover outputSlots where
  names := by decide
  get_set := by simp [outputSlots]
  get_set_of_ne := by simp [outputSlots]
  ext s t := by
    cases s
    cases t
    simp +contextual [outputSlots]

theorem moduleSlots_cover : Slot.Cover moduleSlots where
  names := by decide
  get_set := by simp [moduleSlots]
  get_set_of_ne := by simp [moduleSlots]
  ext s t := by
    cases s
    cases t
    simp +contextual [moduleSlots]

theorem extensionSlots_cover : Slot.Cover extensionSlots where
  names := by decide
  get_set := by simp [extensionSlots]
  get_set_of_ne := by simp [extensionSlots]
  ext s t := by simp [extensionSlots]

theorem slots_cover : Slot.Cover slots where
  names := by decide
  get_set := by simp [slots]
  get_set_of_ne := by simp [slots]
  ext s t := by
    cases s
    cases t
    simp +contextual [slots]

/-! ## What is read strictly is read off the value -/

mutual

theorem skip_ofValue : ∀ v : Value, (Document.ofValue v).skip = .ok ()
  | .null | .bool _ | .number _ | .string _ => rfl
  | .array vs => by
    rw [Document.ofValue, Document.skip, skipAll_ofValues vs]
    rfl
  | .object ms => by
    rw [Document.ofValue, Document.skip, skipMembers_ofMembers ms]
    rfl

theorem skipAll_ofValues : ∀ vs : List Value, Document.skipAll (Document.ofValues vs) = .ok ()
  | [] => rfl
  | v :: vs => by
    rw [Document.ofValues, Document.skipAll, skip_ofValue v, skipAll_ofValues vs]
    rfl

theorem skipMembers_ofMembers : ∀ ms : List (String × Value),
    Document.skipMembers (Document.ofMembers ms) = .ok ()
  | [] => rfl
  | (_, v) :: ms => by
    rw [Document.ofMembers, Document.skipMembers, skip_ofValue v, skipMembers_ofMembers ms]
    rfl

end

theorem faithful_string : Faithful fun _ => Decoder.string := faithful_text "a string"

theorem faithful_loaderNames : Faithful fun _ => LoaderNames.decoder := by
  intro l hl d names h
  dsimp only [LoaderNames.decoder] at h ⊢
  cases hskip : d.skip with
  | error f => simp [hskip, throw, throwThe, MonadExceptOf.throw] at h
  | ok _ =>
    cases hname : Decoder.string d with
    | ok name =>
      obtain ⟨v, hv, hread⟩ := faithful_string l hl d name hname
      refine ⟨v, hv, ?_⟩
      dsimp only at hread
      simp only [hskip, hname, skip_ofValue, hread] at h ⊢
      exact h
    | error e =>
      cases hnames : Decoder.list Decoder.string d with
      | error e' => simp [hskip, hname, hnames, throw, throwThe, MonadExceptOf.throw] at h
      | ok ss =>
        obtain ⟨v, hv, hread⟩ := faithful_string.list l hl d ss hnames
        refine ⟨v, hv, ?_⟩
        dsimp only at hread
        simp only [hskip, hname, hnames, skip_ofValue, hread] at h ⊢
        cases v with
        | array vs => exact h
        | _ => simp [Decoder.list, Document.ofValue] at hread

theorem faithful_rule : Faithful Rule.decoder :=
  faithful_record ruleSlots_cover <| by
    simp only [ruleSlots, List.forall_mem_cons]
    exact ⟨faithful_string, faithful_loaderNames, by simp⟩

theorem faithful_output : Faithful outputDecoder :=
  faithful_record outputSlots_cover <| by
    simp only [outputSlots, List.forall_mem_cons]
    exact ⟨faithful_text _, faithful_string, faithful_string.optional, by simp⟩

theorem faithful_module : Faithful moduleDecoder :=
  faithful_record moduleSlots_cover <| by
    simp only [moduleSlots, List.forall_mem_cons]
    exact ⟨faithful_rule.list, faithful_string.list, by simp⟩

theorem faithful_extensions : Faithful extensionsDecoder :=
  faithful_record extensionSlots_cover <| by
    simp only [extensionSlots, List.forall_mem_cons]
    exact ⟨faithful_string.list, by simp⟩

/-- A project that is read off a document is read off its value, whatever else may be allowed. -/
theorem faithful_decoder : Faithful decoder :=
  faithful_record slots_cover <| by
    simp only [slots, List.forall_mem_cons]
    exact ⟨faithful_string.optional, faithful_output, faithful_module, faithful_extensions,
      faithful_natural.optional, by simp⟩

/-! ## What names lead to -/

theorem outputDecoder_eq_ok_iff (hl : l.unknownFields = false) {ms : List (String × Value)}
    {o : Compiler.Output} :
    outputDecoder l (.ofValue (.object ms)) = .ok o ↔
      InOrder outputSlots (ms.map Prod.fst) [] ∧
      TakesValue (Decoder.text "path string") ({} : Compiler.Output).directory
        (Value.member? "directory" ms) o.directory ∧
      TakesValue Decoder.string ({} : Compiler.Output).filename
        (Value.member? "filename" ms) o.filename ∧
      TakesValue (Decoder.optional Decoder.string) none (Value.member? "banner" ms) o.banner? := by
  refine (record_ofValue_eq_ok_iff outputSlots_cover hl "OutputSection" ms).trans ?_
  simp [outputSlots]

theorem decoder_eq_ok_iff (hl : l.unknownFields = false) {ms : List (String × Value)}
    {p : Project} :
    decoder l (.ofValue (.object ms)) = .ok p ↔
      InOrder slots (ms.map Prod.fst) [] ∧
      TakesValue (Decoder.optional Decoder.string) none (Value.member? "entry" ms) p.entry? ∧
      TakesValue (outputDecoder l) {} (Value.member? "output" ms) p.output ∧
      TakesValue (moduleDecoder l) ([], []) (Value.member? "module" ms) (p.rules, p.plugins) ∧
      TakesValue (extensionsDecoder l) [] (Value.member? "resolve" ms) p.extensions ∧
      TakesValue (Decoder.optional Decoder.natural) none (Value.member? "maxModules" ms)
        p.maxModules? := by
  refine (record_ofValue_eq_ok_iff slots_cover hl "BindleConfig" ms).trans ?_
  simp [slots]

end ModuleBundler.Project
