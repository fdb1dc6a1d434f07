import ModuleBundler.Path

/-!
# Module identities

A module is identified by the place of its file: the names from the root down to it, with `.` and
`..` folded away. Two spellings of one place are one identity.
-/

namespace ModuleBundler

structure ModuleId where
  names : List String
  isName : ∀ n ∈ names, Path.IsName n := by simp

namespace ModuleId

instance : DecidableEq ModuleId := fun a b =>
  decidable_of_iff (a.names = b.names) <| by cases a; cases b; simp

/-- Why a path names no module. -/
inductive Error where
  | empty
  | notAbsolute (path : String)
  deriving DecidableEq

def Error.message : Error → String
  | .empty => "module path is empty"
  | .notAbsolute path => "module path must be absolute: " ++ path

/-- The module at `/`. -/
def root : ModuleId := ⟨[], by simp⟩

instance : Inhabited ModuleId := ⟨root⟩

/-- The place that the text of a rooted path denotes. -/
def ofRooted (path : String) : ModuleId :=
  ⟨Path.resolve path, fun _ h => Path.isName_of_mem_resolve h⟩

def ofPath (path : String) : Except Error ModuleId :=
  if path.isEmpty then .error .empty
  else if Path.isRooted path then .ok (ofRooted path)
  else .error (.notAbsolute path)

/-- A relative path starts at `base`. -/
def ofBase (path base : String) : Except Error ModuleId :=
  if path.isEmpty then .error .empty
  else if Path.isRooted path then ofPath path
  else ofPath (Path.join base path)

def path (id : ModuleId) : String := Path.ofNames id.names

instance : ToString ModuleId := ⟨path⟩

/-- The directory that holds the module; the root holds itself. -/
def directory (id : ModuleId) : ModuleId :=
  ⟨id.names.dropLast, fun n h => id.isName n ((List.dropLast_sublist _).subset h)⟩

/-- The module that `specifier` names when `id` mentions it. -/
def joinSpecifier (id : ModuleId) (specifier : String) : Except Error ModuleId :=
  ofBase specifier id.directory.path

/-- Name by name, each in the order of its code points. -/
def compareNames : List String → List String → Ordering
  | [], [] => .eq
  | [], _ :: _ => .lt
  | _ :: _, [] => .gt
  | a :: as, b :: bs => if a < b then .lt else if b < a then .gt else compareNames as bs

instance : Ord ModuleId := ⟨fun a b => compareNames a.names b.names⟩

end ModuleId

end ModuleBundler
