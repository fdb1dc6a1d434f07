import Mathlib
import ModuleBundler.FileSystem.Memory
import ModuleBundler.Proofs.Project.Layers
import ModuleBundler.Proofs.World

/-!
# Loading a project

Each setting of a loaded project comes from the highest layer that gives it: the command line, then
variables, then the file, then the defaults. Which other settings a layer gives makes no difference,
but for an output section that a file writes as a list, which is covered as a whole.
-/

namespace ModuleBundler.Project

open Json Decoder
open FileSystem (Host)
open Value (layerMembers)

variable {p : Project} {ms es os : List (String × Value)}

/-! ## What variables and the command line give -/

def Leaves.ofOverrides (o : Overrides) : Leaves where
  entry? := o.entry?
  output := { directory? := o.directory?, filename? := o.filename? }

/-- The text that a variable holds, unless its value is of another kind. -/
def Setting.text? (text : String) : Option String :=
  match Setting.read text with
  | .string s => some s
  | _ => none

/-- What variables give for a setting. Of several variables for it the last one counts. -/
def settingIn? (environment : List (String × String)) (path : List String) : Option String :=
  environment.reverse.findSome? fun (name, text) =>
    if Setting.path? name = some path then Setting.text? text else none

def Leaves.ofEnvironment (environment : List (String × String)) : Leaves where
  entry? := settingIn? environment ["entry"]
  output := {
    directory? := settingIn? environment ["output", "directory"]
    filename? := settingIn? environment ["output", "filename"]
    banner? := settingIn? environment ["output", "banner"] }

/-- Every variable that is for a setting holds a text. -/
def GivesTexts (environment : List (String × String)) : Prop :=
  ∀ x ∈ environment, (Setting.path? x.1).isSome = true → (Setting.text? x.2).isSome = true

instance (environment : List (String × String)) : Decidable (GivesTexts environment) := by
  unfold GivesTexts; infer_instance

theorem read_of_text? {text s : String} (h : Setting.text? text = some s) :
    Setting.read text = .string s := by
  unfold Setting.text? at h
  split at h
  · rename_i hread
    rw [hread, Option.some.inj h]
  · cases h

theorem outputOverrides_writtenAs (directory? filename? : Option String) :
    OutputLeaves.WrittenAs { directory?, filename? }
      (textMember "directory" directory? ++ textMember "filename" filename?) := by
  cases directory? <;> cases filename? <;> constructor <;>
    simp [textMember, optionalMember, outputSlots, Value.member?]

theorem overrides_writtenAs (o : Overrides) :
    ∃ us, o.toJson = .object us ∧ (Leaves.ofOverrides o).WrittenAs us := by
  obtain ⟨ entry?, directory?, filename?⟩ := o
  have houtput := outputOverrides_writtenAs directory? filename?
  refine ⟨_, rfl, ?_⟩
  cases entry? <;> cases directory? <;> cases filename? <;> constructor <;>
    simp_all [textMember, optionalMember, Leaves.ofOverrides, Value.member?]

/-- One setting alone. -/
def Leaves.single (path : List String) (s : String) : Leaves :=
  match path with
  | ["entry"] => { entry? := some s }
  | ["output", "directory"] => { output := { directory? := some s } }
  | ["output", "filename"] => { output := { filename? := some s } }
  | ["output", "banner"] => { output := { banner? := some s } }
  | _ => {}

theorem nest_writtenAs {path : List String} (h : path ∈ Setting.paths) (s : String) :
    ∃ us, Setting.nest path (.string s) = .object us ∧ (Leaves.single path s).WrittenAs us := by
  have hone : ∀ (k : String) (t : OutputLeaves), t.WrittenAs [(k, .string s)] → t ≠ {} →
      Leaves.WrittenAs { output := t } [("output", .object [(k, .string s)])] := by
    intro k t ht hne
    constructor <;> simp [Value.member?, hne, ht]
  simp only [Setting.paths, List.mem_cons, List.not_mem_nil, or_false] at h
  obtain rfl | rfl | rfl | rfl := h
  · refine ⟨[("entry", .string s)], rfl, ?_⟩
    constructor <;> simp [Leaves.single, Value.member?]
  all_goals
    refine ⟨_, rfl, hone _ _ ?_ (by simp)⟩
    constructor <;> simp [outputSlots, Value.member?]

theorem mem_paths_of_path? {name : String} {path : List String}
    (h : Setting.path? name = some path) : path ∈ Setting.paths := by
  rw [Setting.path?, Option.bind_eq_bind, Option.bind_eq_some_iff] at h
  obtain ⟨rest, -, hfind⟩ := h
  exact List.mem_of_find?_eq_some hfind

/-- A variable that comes later covers those before it. -/
theorem settingIn?_append (environment : List (String × String)) {name text s : String}
    {path : List String} (hpath : Setting.path? name = some path)
    (htext : Setting.text? text = some s) (q : List String) :
    settingIn? (environment ++ [(name, text)]) q =
      if path = q then some s else settingIn? environment q := by
  by_cases h : path = q <;> simp [settingIn?, hpath, htext, h]

theorem settingIn?_append_of_none (environment : List (String × String)) {name text : String}
    (hpath : Setting.path? name = none) (q : List String) :
    settingIn? (environment ++ [(name, text)]) q = settingIn? environment q := by
  simp [settingIn?, hpath]

theorem ofEnvironment_append (environment : List (String × String)) {name text s : String}
    {path : List String} (hpath : Setting.path? name = some path)
    (htext : Setting.text? text = some s) :
    Leaves.ofEnvironment (environment ++ [(name, text)]) =
      (Leaves.single path s).atop (Leaves.ofEnvironment environment) := by
  have h := mem_paths_of_path? hpath
  simp only [Setting.paths, List.mem_cons, List.not_mem_nil, or_false] at h
  obtain rfl | rfl | rfl | rfl := h
  all_goals
    simp [Leaves.ofEnvironment, settingIn?_append environment hpath htext, Leaves.single,
      Leaves.atop, OutputLeaves.atop]

/-- The layer of variables gives what they give one by one. -/
theorem environmentLayer_writtenAs {environment : List (String × String)}
    (h : GivesTexts environment) :
    ∃ us, environmentLayer environment = .object us ∧
      (Leaves.ofEnvironment environment).WrittenAs us := by
  induction environment using List.reverseRecOn with
  | nil =>
    refine ⟨[], rfl, ?_⟩
    constructor <;> simp [Leaves.ofEnvironment, settingIn?, Value.member?]
  | append_singleton environment x ih =>
    obtain ⟨name, text⟩ := x
    obtain ⟨us, hus, hwritten⟩ := ih fun x hx => h x (List.mem_append_left _ hx)
    rw [environmentLayer, List.foldl_append, ← environmentLayer, hus]
    cases hpath : Setting.path? name with
    | none =>
      have hsame : Leaves.ofEnvironment (environment ++ [(name, text)]) =
          Leaves.ofEnvironment environment := by
        simp [Leaves.ofEnvironment, settingIn?_append_of_none environment hpath]
      simp only [List.foldl_cons, List.foldl_nil, hpath, hsame]
      exact ⟨us, rfl, hwritten⟩
    | some path =>
      obtain ⟨s, htext⟩ := Option.isSome_iff_exists.1 (h (name, text) (by simp) (by simp [hpath]))
      obtain ⟨us', hus', hwritten'⟩ := nest_writtenAs (mem_paths_of_path? hpath) s
      rw [ofEnvironment_append environment hpath htext]
      simp only [List.foldl_cons, List.foldl_nil, hpath, read_of_text? htext, hus']
      exact ⟨_, rfl, hwritten.layer hwritten'⟩

/-- Variables that are for no setting make no difference. -/
theorem environmentLayer_filter (environment : List (String × String)) :
    environmentLayer (environment.filter fun x => (Setting.path? x.1).isSome) =
      environmentLayer environment := by
  simp only [environmentLayer, List.foldl_filter]
  congr 1
  funext found x
  cases Setting.path? x.1 <;> rfl

/-! ## Layers of one project -/

/-- All four layers together come to the project of the file, covered by what is given. -/
theorem ofLayers_written {lower upper : Leaves} (hes : lower.WrittenAs es)
    (hos : upper.WrittenAs os)
    (hms : decoder ⟨false, true⟩ (.ofValue (.object ms)) = .ok p) :
    ofLayers [({} : Project).toJson, .object ms, .object es, .object os] =
      .ok ((upper.atop lower).cover (below (upper.atop lower) (listsOutput ms) p)) := by
  have hl : (⟨false, true⟩ : Leniency).unknownFields = false := rfl
  have hnodup : (ms.map Prod.fst).Nodup := ((decoder_eq_ok_iff hl).1 hms).1.1
  have hfile := decoder_default hl hms
  have henvironment := decoder_layer hl hes hfile
  rw [listsOutput_default hnodup] at henvironment
  have hall := decoder_layer hl hos henvironment
  rw [listsOutput_layer hes, listsOutput_default hnodup, cover_below_atop] at hall
  have hfold : [({} : Project).toJson, .object ms, .object es, .object os].foldl Value.layer
      (.object []) =
      .object (layerMembers (layerMembers (layerMembers defaultMembers ms) es) os) := rfl
  rw [ofLayers, hfold, hall]

/-- A project that is read off a text is read off the value of this text, which is an object or a
list. -/
theorem parse_eq_ok {text : String} (h : Project.parse text = .ok p) :
    ∃ v, Json.parse text = .ok v ∧ decoder ⟨false, true⟩ (.ofValue v) = .ok p ∧
      ((∃ ms, v = .object ms) ∨ ∃ vs, v = .array vs) := by
  rw [Project.parse, Decoder.run] at h
  cases hread : Json.read text with
  | mk d trailing =>
    cases hd : decoder .none d with
    | error e => simp [hread, hd, bind, Except.bind] at h
    | ok q =>
      cases trailing with
      | some f => simp [hread, hd, finish, bind, Except.bind] at h
      | none =>
        have hsame : q = p := by
          simpa [hread, hd, finish, bind, Except.bind, pure, Except.pure] using h
        subst hsame
        obtain ⟨v, hv, hvalue⟩ := faithful_decoder ⟨false, true⟩ rfl d q hd
        refine ⟨v, ?_, hvalue, ?_⟩
        · rw [Json.parse, hread]
          dsimp only
          rw [hv]
          rfl
        · cases v with
          | object ms => exact .inl ⟨ms, rfl⟩
          | array vs => exact .inr ⟨vs, rfl⟩
          | _ => simp [decoder, record, Document.ofValue] at hvalue

variable {environment : List (String × String)} {overrides : Overrides}

theorem combine_none (htexts : GivesTexts environment) :
    combine none environment overrides =
      .ok (((Leaves.ofOverrides overrides).atop (.ofEnvironment environment)).cover {}) := by
  obtain ⟨es, hes, hlower⟩ := environmentLayer_writtenAs htexts
  obtain ⟨os, hos, hupper⟩ := overrides_writtenAs overrides
  have hempty : decoder ⟨false, true⟩ (.ofValue (.object [])) = .ok {} := rfl
  have hlayers := ofLayers_written hlower hupper hempty
  rw [← hes, ← hos] at hlayers
  simpa [combine, below, listsOutput, Value.member?] using hlayers

theorem combine_object {bytes : Text.Bytes} {text : String} (htexts : GivesTexts environment)
    (hbytes : Text.decode? bytes = some text) (htext : Json.parse text = .ok (.object ms))
    (hms : decoder ⟨false, true⟩ (.ofValue (.object ms)) = .ok p) :
    combine (some bytes) environment overrides =
      .ok (((Leaves.ofOverrides overrides).atop (.ofEnvironment environment)).cover
        (below ((Leaves.ofOverrides overrides).atop (.ofEnvironment environment))
          (listsOutput ms) p)) := by
  obtain ⟨es, hes, hlower⟩ := environmentLayer_writtenAs htexts
  obtain ⟨os, hos, hupper⟩ := overrides_writtenAs overrides
  have hlayers := ofLayers_written hlower hupper hms
  rw [← hes, ← hos] at hlayers
  have hfile : fileLayer bytes = .ok (.object ms) := by simp [fileLayer, hbytes, htext]
  rw [combine, hfile]
  exact hlayers

theorem combine_array {bytes : Text.Bytes} {text : String} {vs : List Value}
    (hbytes : Text.decode? bytes = some text) (htext : Json.parse text = .ok (.array vs)) :
    combine (some bytes) environment overrides =
      .error (.invalid "invalid type: sequence, expected a map" fileHint) := by
  have hfile : fileLayer bytes =
      .error (.invalid "invalid type: sequence, expected a map" fileHint) := by
    simp only [fileLayer, hbytes, htext]
    rfl
  rw [combine, hfile]
  rfl

/-! ## In a world -/

variable {m : Type → Type} [Monad m] {σ : Type} [World m σ]

/-- What a file holds, if it is there. -/
def readIfFile (h : Host m) (path : String) :
    m (Option (Except FileSystem.Error Text.Bytes)) := do
  if ← h.isFile path then return some (← h.read path) else return none

theorem run_load (h : Host m) (s : σ) (asked? : Option String) (directory : String) :
    (World.run (load h asked? environment overrides directory) s).1 =
      match (World.run (readIfFile h (Path.join directory (asked?.getD fileName))) s).1 with
      | some (.ok bytes) => combine (some bytes) environment overrides
      | some (.error e) => .error (.invalid e.message fileHint)
      | none =>
        if asked?.isSome then .error (.notFound (Path.join directory (asked?.getD fileName)))
        else combine none environment overrides := by
  cases asked? with
  | none =>
    simp only [load, findFile, readIfFile, World.run_bind, World.run_pure, Option.getD_none]
    cases (World.run (h.isFile (Path.join directory fileName)) s).1 with
    | false => simp
    | true =>
      simp only [if_true, World.run_bind, World.run_pure]
      cases (World.run (h.read (Path.join directory fileName))
        (World.run (h.isFile (Path.join directory fileName)) s).2).1 <;> simp
  | some path =>
    simp only [load, findFile, readIfFile, World.run_bind, World.run_pure, Option.getD_some]
    cases (World.run (h.isFile (Path.join directory path)) s).1 with
    | false => simp
    | true =>
      simp only [if_true, World.run_bind, World.run_pure]
      cases (World.run (h.read (Path.join directory path))
        (World.run (h.isFile (Path.join directory path)) s).2).1 <;> simp

/-- A file that is a project comes to that project with the given settings in place of its own, if
it is an object, and no file comes to the defaults with these settings. An output section that is
written as a list does not stay below any given setting of the output, and a list in place of the
whole project is not read. A file that was asked for has to be there. -/
theorem load_by_setting (h : Host m) (s : σ) (asked? : Option String)
    (environment : List (String × String)) (overrides : Overrides) (directory : String)
    (htexts : GivesTexts environment) :
    let given := (Leaves.ofOverrides overrides).atop (.ofEnvironment environment)
    let path := Path.join directory (asked?.getD fileName)
    let file? := (World.run (readIfFile h path) s).1
    let loaded := (World.run (load h asked? environment overrides directory) s).1
    (file? = none →
      loaded = if asked?.isSome then .error (.notFound path) else .ok (given.cover {})) ∧
    (∀ bytes text p, file? = some (.ok bytes) → Text.decode? bytes = some text →
      Project.parse text = .ok p →
      (∃ ms, Json.parse text = .ok (.object ms) ∧
        loaded = .ok (given.cover (below given (listsOutput ms) p))) ∨
      ∃ vs, Json.parse text = .ok (.array vs) ∧
        loaded = .error (.invalid "invalid type: sequence, expected a map" fileHint)) ∧
    load h asked? (environment.filter fun x => (Setting.path? x.1).isSome) overrides directory =
      load h asked? environment overrides directory ∧
    ["BINDLE_ENTRY", "BINDLE_OUTPUT__DIRECTORY", "BINDLE_OUTPUT__FILENAME",
      "BINDLE_OUTPUT__BANNER"].map Setting.path? = Setting.paths.map some := by
  intro given path file? loaded
  have hload : loaded = match file? with
      | some (.ok bytes) => combine (some bytes) environment overrides
      | some (.error e) => .error (.invalid e.message fileHint)
      | none =>
        if asked?.isSome then .error (.notFound path) else combine none environment overrides :=
    run_load h s asked? directory
  refine ⟨fun hfile => ?_, fun bytes text p hfile hbytes hproject => ?_, ?_, by decide +kernel⟩
  · rw [hload, hfile, ← combine_none htexts]
  · obtain ⟨v, htext, hvalue, hshape⟩ := parse_eq_ok hproject
    rw [hload, hfile]
    rcases hshape with ⟨ms, rfl⟩ | ⟨vs, rfl⟩
    · exact .inl ⟨ms, htext, combine_object htexts hbytes htext hvalue⟩
    · exact .inr ⟨vs, htext, combine_array hbytes htext⟩
  · simp only [load, combine, environmentLayer_filter]

/-- A store with one file in the directory of a project. -/
def oneFile (text : String) : FileSystem.Memory :=
  .ofFiles "/p" [("/p/bindle.config.json", Text.encode text)]

def directoryAndLimit : String :=
  "\x7b\"output\": \x7b\"directory\": \"build\"\x7d, \"maxModules\": 5\x7d"

/-- A file that gives a directory and a limit, variables for the entry and the banner, one of them
not in capitals, another variable, and a flag for the name of the output. -/
theorem load_by_setting_mixed :
    let environment := [("BINDLE_ENTRY", "e.js"), ("bindle_output__banner", "/* b */"),
      ("BINDLE_OTHER", "1")]
    let store := oneFile directoryAndLimit
    GivesTexts environment ∧
    (World.run (readIfFile FileSystem.Memory.host (Path.join "/p" fileName)) store).1 =
      some (.ok (Text.encode directoryAndLimit)) ∧
    (World.run (load FileSystem.Memory.host none environment { filename? := some "f.js" } "/p")
      store).1 =
      .ok { entry? := some "e.js", output := ⟨"build", "f.js", some "/* b */"⟩,
            maxModules? := some 5 } := by
  intro environment store
  have htexts : GivesTexts environment := by decide +kernel
  have hgiven : (Leaves.ofOverrides { filename? := some "f.js" }).atop
      (.ofEnvironment environment) = ⟨some "e.js", ⟨none, some "f.js", some "/* b */"⟩⟩ := by
    decide +kernel
  have hfile : (World.run (readIfFile FileSystem.Memory.host (Path.join "/p" fileName)) store).1 =
      some (.ok (Text.encode directoryAndLimit)) := by decide +kernel
  have hbytes : Text.decode? (Text.encode directoryAndLimit) = some directoryAndLimit := by
    decide +kernel
  have hproject : Project.parse directoryAndLimit =
      .ok { output := ⟨"build", "main.js", none⟩, maxModules? := some 5 } := by cbv
  have htext : Json.parse directoryAndLimit = .ok (.object [("maxModules", .number (.natural 5)),
      ("output", .object [("directory", .string "build")])]) := by cbv
  obtain ⟨-, hread, -⟩ := load_by_setting FileSystem.Memory.host store none environment
    { filename? := some "f.js" } "/p" htexts
  obtain ⟨ms, hms, hloaded⟩ | ⟨vs, hvs, -⟩ := hread _ _ _ hfile hbytes hproject
  · rw [htext] at hms
    cases hms
    rw [hgiven] at hloaded
    exact ⟨htexts, hfile, hloaded⟩
  · rw [htext] at hvs
    cases hvs

def listedOutput : String := "\x7b\"output\": [\"build\", \"app.js\"]\x7d"

/-- A flag for the name of the output drops the directory of an output that is written as a list,
and a project that is written as a list is refused, though both are projects. -/
theorem load_drops_listed_output :
    Project.parse listedOutput = .ok { output := ⟨"build", "app.js", none⟩ } ∧
    (World.run (load FileSystem.Memory.host none [] { filename? := some "x.js" } "/p")
      (oneFile listedOutput)).1 = .ok { output := ⟨"dist", "x.js", none⟩ } ∧
    Project.parse "[]" = .ok {} ∧
    (World.run (load FileSystem.Memory.host none [] {} "/p") (oneFile "[]")).1 =
      .error (.invalid "invalid type: sequence, expected a map" fileHint) := by
  have hfile : ∀ text ∈ [listedOutput, "[]"],
      (World.run (readIfFile FileSystem.Memory.host (Path.join "/p" fileName)) (oneFile text)).1 =
        some (.ok (Text.encode text)) ∧ Text.decode? (Text.encode text) = some text := by
    decide +kernel
  obtain ⟨hread, hbytes⟩ := hfile listedOutput (by simp)
  obtain ⟨hread', hbytes'⟩ := hfile "[]" (by simp)
  have hproject : Project.parse listedOutput = .ok { output := ⟨"build", "app.js", none⟩ } := by cbv
  have hlist : Project.parse "[]" = .ok {} := by cbv
  have htext : Json.parse listedOutput =
      .ok (.object [("output", .array [.string "build", .string "app.js"])]) := by cbv
  have htext' : Json.parse "[]" = .ok (.array []) := by cbv
  have hvalue : decoder ⟨false, true⟩ (.ofValue
      (.object [("output", .array [.string "build", .string "app.js"])])) =
      .ok { output := ⟨"build", "app.js", none⟩ } := rfl
  refine ⟨hproject, ?_, hlist, ?_⟩
  · rw [run_load, Option.getD_none, hread]
    exact combine_object (by decide) hbytes htext hvalue
  · rw [run_load, Option.getD_none, hread']
    exact combine_array hbytes' htext'

end ModuleBundler.Project
