import Mathlib
import ModuleBundler.Module.Decode
import ModuleBundler.Proofs.Bundle.Loader
import ModuleBundler.Proofs.ModuleId
import ModuleBundler.Proofs.OrderedMap

/-!
# Written graphs

What is written as JSON is read back as it was: identities by their paths, modules with their
dependencies in order, and graphs with their modules in order. Reading an identity folds its path,
so that no other path can come in, and no two modules of a graph are written under one key.
-/

namespace ModuleBundler

open Json

/-! ## Paths component by component -/

namespace Path

/-- The components of a path one below the other, without `.` and `..`. -/
def portable (path : String) : String :=
  ((componentIndices path).map Prod.snd).foldl
    (fun shown piece => if piece = "." ∨ piece = ".." then shown else join shown piece)
    (if isRooted path then "/" else "")

theorem components_ofNames {names : List String} (h : ∀ n ∈ names, IsName n) :
    (componentIndices (ofNames names)).map Prod.snd = names := by
  by_cases hne : names = []
  · subst hne
    rfl
  · have hpieces : pieces (ofNames names) = [""] ++ names := pieces_ofNames hne h
    rw [componentIndices_of_pieces hpieces (by simp) fun n hn => (h n hn).isStep, List.map_map]
    exact List.zipIdx_map_fst ..

/-- A path made of names is shown as it is. -/
theorem portable_ofNames {names : List String} (h : ∀ n ∈ names, IsName n) :
    portable (ofNames names) = ofNames names := by
  have hbelow : ∀ (front rest : List String), (∀ n ∈ front ++ rest, IsName n) →
      rest.foldl (fun shown piece => if piece = "." ∨ piece = ".." then shown else join shown piece)
        (ofNames front) = ofNames (front ++ rest) := by
    intro front rest
    induction rest generalizing front with
    | nil => simp
    | cons n rest ih =>
      intro hnames
      have hn : IsName n := hnames n (by simp)
      have hfront : ∀ n ∈ front, IsName n := fun n hn => hnames n (by simp [hn])
      have hdots : ¬ (n = "." ∨ n = "..") := fun hdots => hdots.elim hn.2.1 hn.2.2.1
      rw [List.foldl_cons, if_neg hdots, join_ofNames hfront hn, ih _ (by simpa using hnames),
        List.append_assoc]
      rfl
  rw [portable, components_ofNames h, isRooted_ofNames]
  exact hbelow [] names h

end Path

/-! ## Identities -/

namespace ModuleId

theorem path_ofPath {path : String} {id : ModuleId} (h : ofPath path = .ok id) :
    id.path = Path.clean path := by
  unfold ofPath at h
  split at h
  · cases h
  · split at h
    · rename_i hrooted
      cases h
      exact path_ofRooted hrooted
    · cases h

theorem compareNames_eq_iff {as bs : List String} : compareNames as bs = .eq ↔ as = bs := by
  induction as generalizing bs with
  | nil => cases bs <;> simp [compareNames]
  | cons a as ih =>
    cases bs with
    | nil => simp [compareNames]
    | cons b bs =>
      rcases lt_trichotomy a b with hlt | rfl | hlt
      · simp [compareNames, hlt, hlt.ne]
      · simp [compareNames, ih]
      · simp [compareNames, hlt, hlt.not_gt, hlt.ne']

/-- Identities of the same rank are the same. -/
theorem compare_eq_iff {a b : ModuleId} : compare a b = .eq ↔ a = b := by
  have hcompare : compare a b = compareNames a.names b.names := rfl
  rw [hcompare, compareNames_eq_iff]
  constructor
  · intro h
    cases a
    cases b
    cases h
    rfl
  · exact fun h => congrArg names h

end ModuleId

/-! ## Reading what was written -/

/-- The decoder reads a value off every document of this value. -/
def Json.Decoder.Reads {α : Type} (decoder : Decoder α) (v : Value) (a : α) : Prop :=
  ∀ d : Document, d.written? = some v → decoder d = .ok a

/-- What is read off a legible value is read off its text. -/
theorem Json.Decoder.Reads.run {α : Type} {decoder : Decoder α} {v : Value} {a : α} {depth : Nat}
    (h : decoder.Reads v a) (hv : Legible depth v) (hdepth : depth < maxDepth) :
    Decoder.run decoder v.compact = .ok a := by
  obtain ⟨d, hread, hd⟩ := hv.read hdepth
  rw [Decoder.run, hread]
  dsimp only
  rw [h d hd]
  rfl

theorem Json.Decoder.reads_string (s : String) : Decoder.string.Reads (.string s) s := by
  intro d hd
  obtain ⟨stop, rfl⟩ := Document.eq_string hd
  rfl

theorem ModuleId.decoder_string (s : String) (stop : Nat) :
    ModuleId.decoder (.string s stop) =
      match ModuleId.ofPath s with
      | .ok id => .ok id
      | .error e => .error (.other e.message) := by
  have hstring : Decoder.string (.string s stop) = .ok s := rfl
  rw [ModuleId.decoder, hstring]
  dsimp only [bind, Except.bind]
  cases ModuleId.ofPath s <;> rfl

theorem ModuleId.reads (id : ModuleId) : ModuleId.decoder.Reads id.toJson id := by
  intro d hd
  obtain ⟨stop, rfl⟩ := Document.eq_string hd
  rw [ModuleId.decoder_string, ModuleId.ofPath_path]

namespace Dependencies

/-- Members are read in their order, each behind those that were found before. -/
theorem decodeMembers_written {entries : List (String × ModuleId)} {ds : List (String × Document)}
    (found : Dependencies)
    (hds : Document.writtenMembers? ds =
      some (entries.map fun (specifier, target) => (specifier, target.toJson))) :
    decodeMembers found ds = .ok (entries.foldl (fun m e => m.insert e.1 e.2) found) := by
  induction entries generalizing found ds with
  | nil =>
    rw [Document.eq_nil hds]
    rfl
  | cons e entries ih =>
    obtain ⟨d, ds, rfl, hd, hds⟩ := Document.eq_cons hds
    rw [decodeMembers, ModuleId.reads e.2 d hd]
    exact ih _ hds

theorem reads (dependencies : Dependencies) :
    Dependencies.decoder.Reads (toJson dependencies) dependencies := by
  intro d hd
  obtain ⟨ds, start, rfl, hds⟩ := Document.eq_object hd
  rw [decoder, decodeMembers_written .empty hds]
  exact congrArg Except.ok (OrderedMap.ofList_entries dependencies)

end Dependencies

/-- All the fields of a module are read, whatever was there before. -/
theorem Module.reads (m : Module) : Module.decoder.Reads m.toJson m := by
  intro d hd
  obtain ⟨ds, start, rfl, hds⟩ := Document.eq_object hd
  obtain ⟨id, ds, rfl, hid, hds⟩ := Document.eq_cons hds
  obtain ⟨dependencies, ds, rfl, hdependencies, hds⟩ := Document.eq_cons hds
  obtain ⟨code, ds, rfl, hcode, hds⟩ := Document.eq_cons hds
  rw [Document.eq_nil hds]
  have hid := ModuleId.reads m.id id hid
  have hdependencies := Dependencies.reads m.dependencies dependencies hdependencies
  have hcode := Decoder.reads_string m.code code hcode
  simp [Module.decoder, Decoder.record, Decoder.members, hid, hdependencies, hcode, bind,
    Except.bind, pure, Except.pure, Decoder.finish]

/-! ## How deep written values are -/

theorem ModuleId.legible (id : ModuleId) : Legible 0 id.toJson := legible_string id.path

theorem Dependencies.legible (dependencies : Dependencies) : Legible 1 (toJson dependencies) := by
  apply legible_object
  intro m hm
  obtain ⟨e, -, rfl⟩ := List.mem_map.1 hm
  exact e.2.legible

theorem Module.legible_content (m : Module) : Legible 2 (.object m.contentJson) := by
  apply legible_object
  simp only [Module.contentJson, List.mem_cons, List.not_mem_nil, or_false, forall_eq_or_imp,
    forall_eq]
  exact ⟨m.dependencies.legible, (legible_string m.code).mono (by omega)⟩

theorem Module.legible (m : Module) : Legible 2 m.toJson := by
  apply legible_object
  simp only [Module.contentJson, List.mem_cons, List.not_mem_nil, or_false, forall_eq_or_imp,
    forall_eq]
  exact ⟨m.id.legible.mono (by omega), m.dependencies.legible,
    (legible_string m.code).mono (by omega)⟩

theorem Graph.legible (g : Graph) : Legible 3 g.toJson := by
  apply legible_object
  intro m hm
  obtain ⟨m, -, rfl⟩ := List.mem_map.1 hm
  exact m.legible_content

/-! ## What a text determines -/

theorem ModuleId.run_decoder (id : ModuleId) :
    Decoder.run ModuleId.decoder id.toJson.compact = .ok id :=
  id.reads.run id.legible (by decide)

theorem Module.run_decoder (m : Module) : Decoder.run Module.decoder m.toJson.compact = .ok m :=
  m.reads.run m.legible (by decide)

theorem Module.toJson_injective : Function.Injective Module.toJson := by
  intro m m' h
  have hread : (Except.ok m : Except Mismatch Module) = .ok m' := by
    rw [← m.run_decoder, h, m'.run_decoder]
  exact Except.ok.inj hread

/-- Graphs with the same text hold the same modules in the same order. -/
theorem Graph.eq_of_compact {g g' : Graph} (h : g.toJson.compact = g'.toJson.compact) : g = g' := by
  have hjson : g.toJson = g'.toJson := g.legible.eq_of_compact g'.legible (by decide) h
  have hrecord : Function.Injective fun m : Module =>
      (m.id.path, Json.Value.object m.contentJson) := by
    intro m m' hm
    apply Module.toJson_injective
    simp only [Prod.mk.injEq, Json.Value.object.injEq] at hm
    rw [Module.toJson, Module.toJson, ModuleId.toJson, ModuleId.toJson, hm.1, hm.2]
  have hmodules : g.modules = g'.modules :=
    List.map_injective_iff.2 hrecord (Json.Value.object.inj hjson)
  cases g
  cases g'
  cases hmodules
  rfl

/-- What is read off a text that denotes a string is what this string is the path of. -/
theorem ModuleId.run_decoder_of_parse {text s : String} (h : parse text = .ok (.string s)) :
    Decoder.run ModuleId.decoder text =
      match ModuleId.ofPath s with
      | .ok id => .ok id
      | .error e => .error (.other e.message) := by
  obtain ⟨d, hread, hvalue⟩ := read_of_parse h
  obtain ⟨stop, rfl⟩ := Document.shape_of_value hvalue
  rw [Decoder.run, hread]
  dsimp only
  rw [ModuleId.decoder_string]
  cases ModuleId.ofPath s <;> rfl

/-! ## The table of a bundle -/

namespace Bundle.Printed

variable {α : Type} (banner? : Option String) (g : Graph) (entry : ModuleId)
  (factory : Module → Nat → Body α)

/-- The keys of the table denote the paths of the modules. -/
theorem keyTexts_ofGraph :
    (ofGraph banner? g entry factory).records.map (fun r => textOf? r.key) =
      g.ids.map fun id => some id.path := by
  have hkey : ∀ m : Module, textOf? (Record.ofModule m (factory m)).key = some m.id.path :=
    fun m => textOf?_path m.id
  simp only [ofGraph, Graph.ids, List.map_map, Function.comp_def, hkey]

theorem nodup_keyTexts :
    ((ofGraph banner? g entry factory).records.map fun r => textOf? r.key).Nodup := by
  rw [keyTexts_ofGraph]
  exact g.nodup.map fun a b h => ModuleId.path_injective (Option.some.inj h)

end Bundle.Printed

/-- Identities are shown as their paths and known by them, whether they are compared, shown or
ranked; they, modules and graphs are told by their JSON, where the order of modules and
dependencies counts; a string is read as an identity only if it is a rooted path, and then as the
folded one; and no two records of a bundle's table have one key. -/
theorem json_faithful {α : Type} (a b : ModuleId) (m : Module) (g g' : Graph)
    (path text s : String) (banner? : Option String) (entry : ModuleId)
    (factory : Module → Nat → Bundle.Body α) :
    (ModuleId.ofPath path = .ok a → a.path = Path.clean path) ∧
    (Path.portable a.path = a.path ∧ ModuleId.ofPath (Path.portable a.path) = .ok a ∧
      Decoder.run ModuleId.decoder a.toJson.compact = .ok a) ∧
    ((a = b ↔ Path.portable a.path = Path.portable b.path) ∧ (a = b ↔ compare a b = .eq)) ∧
    (parse text = .ok (.string s) →
      if s = "" then
        Decoder.run ModuleId.decoder text = .error (.other ModuleId.Error.empty.message)
      else if Path.isRooted s then
        ∃ id, Decoder.run ModuleId.decoder text = .ok id ∧ id.path = Path.clean s ∧
          Path.clean id.path = id.path
      else Decoder.run ModuleId.decoder text =
        .error (.other (ModuleId.Error.notAbsolute s).message)) ∧
    Decoder.run Module.decoder m.toJson.compact = .ok m ∧
    (g.toJson.compact = g'.toJson.compact → g = g') ∧
    ((Bundle.Printed.ofGraph banner? g entry factory).render = Bundle.render banner? g entry ∧
      ((Bundle.Printed.ofGraph banner? g entry factory).records.map fun r =>
        Bundle.textOf? r.key).Nodup) := by
  have hshown : ∀ id : ModuleId, Path.portable id.path = id.path := fun id =>
    Path.portable_ofNames id.isName
  have hread : parse text = .ok (.string s) →
      if s = "" then
        Decoder.run ModuleId.decoder text = .error (.other ModuleId.Error.empty.message)
      else if Path.isRooted s then
        ∃ id, Decoder.run ModuleId.decoder text = .ok id ∧ id.path = Path.clean s ∧
          Path.clean id.path = id.path
      else Decoder.run ModuleId.decoder text =
        .error (.other (ModuleId.Error.notAbsolute s).message) := by
    intro htext
    rw [ModuleId.run_decoder_of_parse htext]
    split
    · rename_i hempty
      rw [hempty]
      rfl
    · rename_i hne
      split
      · rename_i hrooted
        rw [ModuleId.ofPath_rooted hrooted]
        exact ⟨_, rfl, ModuleId.path_ofRooted hrooted, ModuleId.clean_path _⟩
      · rename_i hrooted
        simp [ModuleId.ofPath, hne, hrooted]
  refine ⟨ModuleId.path_ofPath, ⟨hshown a, ?_, a.run_decoder⟩, ⟨?_, ModuleId.compare_eq_iff.symm⟩,
    hread, m.run_decoder, Graph.eq_of_compact, Bundle.Printed.render_ofGraph .., ?_⟩
  · rw [hshown, ModuleId.ofPath_path]
  · rw [hshown, hshown, ModuleId.path_injective.eq_iff]
  · exact Bundle.Printed.nodup_keyTexts ..

/-- A name with a quote, a backslash and a line break, two specifiers of which the second comes
first by their letters, and an escaped slash in front of a path that is not folded. -/
theorem json_faithful_escaped :
    let path := "/src/./lib/../\"a\\\n\""
    let id := ModuleId.ofRooted path
    let m : Module := ⟨id, .ofList [("./z", .root), ("./b", id)], "x\t"⟩
    let g : Graph := ⟨[m, ⟨.root, .empty, ""⟩], by decide +kernel⟩
    let g' := Graph.empty.push m (by decide) |>.push ⟨.root, .empty, ""⟩ (by decide +kernel)
    let text := "\"\\u002fx/..//y\""
    (ModuleId.ofPath path = .ok id ∧ id.path = Path.clean path) ∧
    Decoder.run Module.decoder m.toJson.compact = .ok m ∧
    (parse text = .ok (.string "/x/..//y") ∧
      ∃ id, Decoder.run ModuleId.decoder text = .ok id ∧ id.path = "/y") ∧
    (g.toJson.compact = g'.toJson.compact ∧ g = g') := by
  intro path id m g g' text
  have hpath : ModuleId.ofPath path = .ok id := ModuleId.ofPath_rooted (by decide)
  have htext : parse text = .ok (.string "/x/..//y") := by cbv
  have hjson : g.toJson.compact = g'.toJson.compact := rfl
  have h := json_faithful id id m g g' path text "/x/..//y" none id fun _ _ => .done ()
  obtain ⟨hclean, -, -, hread, hmodule, hgraph, -⟩ := h
  obtain ⟨read, hrun, hread, -⟩ := hread htext
  have hfolded : Path.clean "/x/..//y" = "/y" := rfl
  exact ⟨⟨hpath, hclean hpath⟩, hmodule, ⟨htext, read, hrun, hread.trans hfolded⟩,
    hjson, hgraph hjson⟩

end ModuleBundler
