import ModuleBundler.FileSystem.Host
import ModuleBundler.OrderedMap
import ModuleBundler.Path

/-!
# Files in memory

A store of files and directories. Paths are folded before look-up, and relative ones start at the
working directory, so that every spelling of a path leads to one file. A path may be a file and a
directory at once.
-/

namespace ModuleBundler.FileSystem

open Text (Bytes)

structure Memory where
  workingDirectory : String
  files : OrderedMap String Bytes
  directories : List String

namespace Memory

/-- Adds directories that are not there yet. -/
def addDirectories (known new : List String) : List String :=
  new.foldl (fun known d => if known.contains d then known else known ++ [d]) known

/-- A store without files, which knows the working directory and the directories above it. -/
def empty (workingDirectory : String) : Memory where
  workingDirectory := workingDirectory
  files := .empty
  directories := addDirectories [] ((Path.ancestors workingDirectory).map Path.tidy)

/-- The folded path that a spelling leads to. -/
def locate (s : Memory) (path : String) : String :=
  Path.clean (Path.join s.workingDirectory path)

def get? (s : Memory) (path : String) : Option Bytes := s.files.get? (s.locate path)

def isFile (s : Memory) (path : String) : Bool := s.files.contains (s.locate path)

def isDirectory (s : Memory) (path : String) : Bool := s.directories.contains (s.locate path)

def read (s : Memory) (path : String) : Except Error Bytes :=
  match s.get? path with
  | some bytes => .ok bytes
  | none => .error (.notFound (s.locate path))

/-- Whether the directory of a folded path is there; a path without a parent needs none. -/
def hasParent (s : Memory) (path : String) : Bool :=
  match Path.parent? path with
  | some parent => s.directories.contains parent
  | none => true

/-- Adds or replaces a file together with the directories above it. -/
def addFile (s : Memory) (path : String) (bytes : Bytes) : Memory :=
  let path := s.locate path
  { s with
    files := s.files.insert path bytes
    directories := addDirectories s.directories (Path.ancestors path).tail }

def write (s : Memory) (path : String) (bytes : Bytes) : Except Error Memory :=
  let path := s.locate path
  if s.hasParent path then .ok { s with files := s.files.insert path bytes }
  else .error (.failed .write path "parent directory does not exist")

def createDirectory (s : Memory) (path : String) (all : Bool) : Except Error Memory :=
  let path := s.locate path
  if all then
    .ok { s with directories :=
      addDirectories s.directories ((Path.ancestors path).tail ++ [path]) }
  else if s.hasParent path then
    .ok { s with directories := addDirectories s.directories [path] }
  else .error (.failed .createDirectory path "parent directory does not exist")

def ofFiles (workingDirectory : String) (files : List (String × Bytes)) : Memory :=
  files.foldl (fun s (path, bytes) => s.addFile path bytes) (empty workingDirectory)

/-- Takes a change that may fail; a failing one changes nothing. -/
def change (f : Memory → Except Error Memory) : StateM Memory (Except Error Unit) := fun s =>
  match f s with
  | .ok s => (.ok (), s)
  | .error e => (.error e, s)

def host : Host (StateM Memory) where
  read path := fun s => (s.read path, s)
  write path bytes := change fun s => s.write path bytes
  createDirectory path all := change fun s => s.createDirectory path all
  isFile path := fun s => (s.isFile path, s)
  workingDirectory := fun s => (.ok s.workingDirectory, s)

end Memory

end ModuleBundler.FileSystem
