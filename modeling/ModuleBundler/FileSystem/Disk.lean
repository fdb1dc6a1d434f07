import ModuleBundler.FileSystem.Host
import ModuleBundler.OrderedMap
import ModuleBundler.Path

/-!
# A disk

A tree of files and directories under one root, with the rules by which a system follows a path
through it: every name but the last must lead to a directory, `..` leads to the directory above,
and what goes wrong has a number.
-/

namespace ModuleBundler.FileSystem

open Text (Bytes)

/-- What the system objects to. -/
inductive Disk.Error where
  | noEntry
  | exists_
  | notDirectory
  | isDirectory
  | nameTooLong
  | nulInPath
  deriving DecidableEq

def Disk.Error.message : Disk.Error → String
  | .noEntry => "No such file or directory (os error 2)"
  | .exists_ => "File exists (os error 17)"
  | .notDirectory => "Not a directory (os error 20)"
  | .isDirectory => "Is a directory (os error 21)"
  | .nameTooLong => "File name too long (os error 36)"
  | .nulInPath => "file name contained an unexpected NUL byte"

inductive Disk.Entry where
  | file (bytes : Bytes)
  | directory

/-- Entries by the names that lead to them from the root. The root is a directory without an
entry. -/
structure Disk where
  workingDirectory : List String
  entries : OrderedMap (List String) Disk.Entry

namespace Disk

def get? (d : Disk) (names : List String) : Option Entry :=
  if names.isEmpty then some .directory else d.entries.get? names

/-- Follows one name, which must be that of a directory. -/
def step (d : Disk) (names : List String) (name : String) : Except Error (List String) :=
  if name = "." then .ok names
  else if name = ".." then .ok names.dropLast
  else if name.utf8ByteSize > 255 then .error .nameTooLong
  else match d.get? (names ++ [name]) with
    | some .directory => .ok (names ++ [name])
    | some (.file _) => .error .notDirectory
    | none => .error .noEntry

/-- Where a path leads: the entry's names, and whether the path asks for a directory by its end. -/
structure Place where
  names : List String
  /-- The path ends in `.` or `..`, or is the root. -/
  isDots : Bool
  hasSlash : Bool

/-- Follows a path up to its last name, which need not be there. -/
def follow (d : Disk) (path : String) : Except Error Place := do
  if path.toList.contains '\x00' then throw .nulInPath
  if path.isEmpty then throw .noEntry
  if path.utf8ByteSize > 4095 then throw .nameTooLong
  let start := if Path.isRooted path then [] else d.workingDirectory
  let names := (Path.pieces path).filter (· != "")
  let directory ← names.dropLast.foldlM d.step start
  let hasSlash := path.toList.getLast? == some '/'
  match names.getLast? with
  | none => return ⟨directory, true, hasSlash⟩
  | some last =>
    if last = "." ∨ last = ".." then return ⟨← d.step directory last, true, hasSlash⟩
    if last.utf8ByteSize > 255 then throw .nameTooLong
    return ⟨directory ++ [last], false, hasSlash⟩

/-- The entry at a path. -/
def entry (d : Disk) (path : String) : Except Error Entry := do
  let place ← d.follow path
  match d.get? place.names with
  | none => throw .noEntry
  | some (.file bytes) => if place.hasSlash then throw .notDirectory else return .file bytes
  | some .directory => return .directory

def isFile (d : Disk) (path : String) : Bool := d.entry path matches .ok (.file _)

def isDirectory (d : Disk) (path : String) : Bool := d.entry path matches .ok .directory

def read (d : Disk) (path : String) : Except Error Bytes := do
  match ← d.entry path with
  | .file bytes => return bytes
  | .directory => throw .isDirectory

def write (d : Disk) (path : String) (bytes : Bytes) : Except Error Disk := do
  let place ← d.follow path
  if place.isDots || place.hasSlash then throw .isDirectory
  match d.get? place.names with
  | some .directory => throw .isDirectory
  | _ => return { d with entries := d.entries.insert place.names (.file bytes) }

def createOne (d : Disk) (path : String) : Except Error Disk := do
  let place ← d.follow path
  match d.get? place.names with
  | some _ => throw .exists_
  | none => return { d with entries := d.entries.insert place.names .directory }

/-- Creates a directory after those above it, given from the nearest up. A directory that is there
already will do. -/
def createAll (d : Disk) : List String → Except Error Disk
  | [] => .ok d
  | path :: above =>
    if path.isEmpty then .ok d
    else
      let settle (d : Disk) (e : Error) : Except Error Disk :=
        if d.isDirectory path then .ok d else .error e
      match d.createOne path with
      | .ok d => .ok d
      | .error .noEntry => do
        let d ← d.createAll above
        match d.createOne path with
        | .ok d => return d
        | .error e => settle d e
      | .error e => settle d e

def createDirectory (d : Disk) (path : String) (all : Bool) : Except Error Disk :=
  if all then d.createAll (Path.ancestors path) else d.createOne path

/-- An empty disk with a working directory. -/
def empty (workingDirectory : List String) : Disk where
  workingDirectory := workingDirectory
  entries := .ofList <| (List.range workingDirectory.length).map fun i =>
    (workingDirectory.take (i + 1), .directory)

private def fault (operation : Operation) (path : String) (e : Error) : FileSystem.Error :=
  match operation, e with
  | .read, .noEntry => .notFound path
  | _, e => .failed operation path e.message

/-- Takes a change that may fail; a failing one changes nothing. -/
def change (operation : Operation) (path : String) (f : Disk → Except Error Disk) :
    StateM Disk (Except FileSystem.Error Unit) := fun d =>
  match f d with
  | .ok d => (.ok (), d)
  | .error e => (.error (fault operation path e), d)

def host : Host (StateM Disk) where
  read path := fun d => ((d.read path).mapError (fault .read path), d)
  write path bytes := change .write path fun d => d.write path bytes
  createDirectory path all := change .createDirectory path fun d => d.createDirectory path all
  isFile path := fun d => (d.isFile path, d)
  workingDirectory := fun d => (.ok (Path.ofNames d.workingDirectory), d)

end Disk

end ModuleBundler.FileSystem
