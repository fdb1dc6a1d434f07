import ModuleBundler.CommandLine.Build
import ModuleBundler.FileSystem.Disk
import ModuleBundler.Log
import ModuleBundler.Report

/-!
# The program

Runs the command that the arguments ask for on the files of the machine, and says on the error
stream how it went.
-/

namespace ModuleBundler.Program

open FileSystem (Disk Host Operation)

/-- The number and the words of a system error. -/
def faultOf : IO.Error → Nat × String
  | .alreadyExists _ code words | .invalidArgument _ code words | .permissionDenied _ code words
  | .resourceExhausted _ code words | .inappropriateType _ code words | .noSuchThing _ code words
  | .noFileOrDirectory _ code words | .interrupted _ code words
  | .otherError code words | .resourceBusy code words | .resourceVanished code words
  | .unsupportedOperation code words | .hardwareFault code words
  | .unsatisfiedConstraints code words | .illegalOperation code words | .protocolError code words
  | .timeExpired code words =>
    (if code.toNat < Nat.pow 2 31 then code.toNat else UInt32.size - code.toNat, words)
  | .unexpectedEof => (0, "unexpected end of file")
  | .userError words => (0, words)

/-- A system error in the words of the system. -/
def wordsOf (e : IO.Error) : String :=
  match faultOf e with
  | (2, _) => Disk.Error.message .noEntry
  | (17, _) => Disk.Error.message .exists_
  | (20, _) => Disk.Error.message .notDirectory
  | (21, _) => Disk.Error.message .isDirectory
  | (36, _) => Disk.Error.message .nameTooLong
  | (0, words) => words
  | (code, words) => words.capitalize ++ " (os error " ++ toString code ++ ")"

def attempt {α : Type} (operation : Operation) (path : String) (action : IO α) :
    IO (Except FileSystem.Error α) := do
  match ← action.toBaseIO with
  | .ok a => return .ok a
  | .error e =>
    if operation = .read && (faultOf e).1 == 2 then return .error (.notFound path)
    return .error (.failed operation path (wordsOf e))

def isFile (path : String) : IO Bool := do
  match ← (IO.FS.readBinFile path).toBaseIO with
  | .ok _ => return true
  | .error _ => return false

/-- A directory opens, but does not read. -/
def isDirectory (path : String) : IO Bool := do
  match ← (IO.FS.readBinFile path).toBaseIO with
  | .ok _ => return false
  | .error e => return (faultOf e).1 == 21

def host : Host IO where
  read path := attempt .read path do return (← IO.FS.readBinFile path).toList
  write path bytes := attempt .write path (IO.FS.writeBinFile path ⟨bytes.toArray⟩)
  createDirectory path all :=
    attempt .createDirectory path <|
      if path.isEmpty && all then pure ()
      else if all then IO.FS.createDirAll path
      else IO.FS.createDir path
  isFile := isFile
  workingDirectory := do
    match ← IO.currentDir.toBaseIO with
    | .ok path => return .ok path.toString
    | .error e => return .error (.noWorkingDirectory (wordsOf e))

/-- A variable as it stands in a block of them. -/
def nameAndValue? (entry : String) : Option (String × String) :=
  let name := entry.toList.takeWhile (· != '=')
  if name.length < entry.length then
    some (String.ofList name, String.ofList (entry.toList.drop (name.length + 1)))
  else none

/-- The block of variables that the system keeps for the program. -/
def environment : IO (List (String × String)) := do
  match ← (IO.FS.readBinFile "/proc/self/environ").toBaseIO with
  | .error _ => return []
  | .ok block =>
    return ((Text.decodeLossy block.toList).splitOn "\x00").filterMap nameAndValue?

def isSet (name : String) : IO Bool := return (← IO.getEnv name).isSome

/-- Whether the error stream takes colours. -/
def colours (a : CommandLine.Arguments) : IO Bool := do
  let wish : Log.ColourWish :=
    ⟨← isSet "NO_COLOR", ← isSet "FORCE_COLOR", ← (← IO.getStderr).isTty⟩
  return !a.noColor && wish.granted

def painted (coloured : Bool) (code text : String) : String :=
  if coloured then "\x1b[" ++ code ++ "m" ++ text ++ "\x1b[0m" else text

/-- One line on the artifact. -/
def summary (coloured : Bool) (s : Compiler.Success) (milliseconds : Nat) : String :=
  painted coloured "1;32" "✓" ++ " " ++ painted coloured "1" s.artifact.path ++ " " ++
    painted coloured "2" ("(" ++ toString s.artifact.moduleCount ++ " modules, " ++
      Report.size s.artifact.size ++ ", " ++
      Report.duration (.ofParts 0 (milliseconds * 1000000)) ++ ")")

def usage : String := "\n".intercalate [
  "Bundle a module graph into a single file",
  "",
  "Usage: bindle [OPTIONS] build [ENTRY]",
  "",
  "  -o, --out-dir <DIR>        Output directory",
  "  -f, --filename <FILENAME>  Output file name inside the output directory",
  "  -c, --config <FILE>        Path to a config file",
  "      --cwd <DIR>            Working directory for relative paths",
  "  -v, --verbose              Enable debug logging",
  "  -q, --quiet                Only print errors",
  "      --no-color             Disable colored output",
  "  -h, --help                 Print help",
  "  -V, --version              Print version"]

/-- What is wrong with the arguments. -/
def complaint : CommandLine.Arguments.Error → String
  | .notice _ | .nothingGiven => usage
  | .missingCommand => "error: a subcommand is required\n\n" ++ usage
  | .unknownCommand word => "error: unrecognized subcommand '" ++ word ++ "'\n\n" ++ usage
  | .unknownWord word => "error: unexpected argument '" ++ word ++ "' found\n\n" ++ usage
  | .conflict => "error: an argument cannot be used with another one\n\n" ++ usage
  | .missingValue => "error: a value is required\n\n" ++ usage
  | .unneededValue word => "error: unexpected value for '" ++ word ++ "' found\n\n" ++ usage

/-- The failure, its causes, and what helps. -/
def failure (coloured : Bool) (e : CommandLine.Error) : List String :=
  let help := match e with
    | .bundle e => e.help?.toList
    | _ => []
  match e.report with
  | [] => []
  | first :: causes =>
    ("  " ++ painted coloured "31" "×" ++ " " ++ first) :: causes.map ("  ├─▶ " ++ ·) ++
      help.map ("  help: " ++ ·)

def build (a : CommandLine.Arguments) : IO UInt32 := do
  let start ← IO.monoMsNow
  let coloured ← colours a
  let level := Log.Level.ofFlags a.verbose a.quiet
  let say (note : String) : IO Unit :=
    if Log.Level.info ≤ level then IO.eprintln (" INFO " ++ note) else pure ()
  let around : CommandLine.Surroundings IO := ⟨host, isDirectory, ← environment, say⟩
  match ← CommandLine.build around UInt32.size a with
  | none =>
    IO.eprintln "the run was given up"
    return 1
  | some (.error e) =>
    (failure coloured e).forM IO.eprintln
    return 1
  | some (.ok s) =>
    IO.eprintln (summary coloured s ((← IO.monoMsNow) - start))
    return 0

def run (words : List String) : IO UInt32 := do
  match CommandLine.Arguments.parse words with
  | .ok a => build a
  | .error (.notice .version) =>
    IO.println "bindle 0.1.0"
    return 0
  | .error (.notice .help) =>
    IO.println usage
    return 0
  | .error e =>
    IO.eprintln (complaint e)
    return 2

end ModuleBundler.Program

def main (words : List String) : IO UInt32 := ModuleBundler.Program.run words
