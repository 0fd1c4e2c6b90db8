import PatternBook.Command.Run

/-!
# The program

The command line on a disk: it hands the arguments, the standard input and the files to
`Command.run`, and prints what the report says.
-/

namespace PatternBook.Disk

/-! ## 1. Files on a disk -/

/-- The string of a text. -/
def spell (t : Text) : String := String.ofList t

/-- A path as the directory of an entry, which is how the disk is asked about it. -/
def entry (p : Path) : IO.FS.DirEntry := { root := spell p.spelling, fileName := "" }

/-- The failure that an error of the system stands for. -/
def fileError : IO.Error → FileError
  | .alreadyExists _ code _ | .noFileOrDirectory _ code _ | .invalidArgument _ code _
  | .permissionDenied _ code _ | .resourceExhausted _ code _ | .inappropriateType _ code _
  | .noSuchThing _ code _ | .interrupted _ code _ | .otherError code _ | .resourceBusy code _
  | .resourceVanished code _ | .unsupportedOperation code _ | .hardwareFault code _
  | .unsatisfiedConstraints code _ | .illegalOperation code _ | .protocolError code _
  | .timeExpired code _ => .ofCode code.toNat
  | .unexpectedEof | .userError _ => .other 5

/-- Runs an action and returns its failure as a value. -/
def attempt {α : Type} (action : IO α) : IO (Except FileError α) :=
  try return .ok (← action)
  catch e => return .error (fileError e)

/-- The text of bytes that are valid UTF-8. -/
def decode (bytes : ByteArray) : Except FileError Text :=
  match String.fromUTF8? bytes with
  | some s => .ok s.toList
  | none => .error .notUtf8

/-- The kind of a file type. -/
def kindOf : IO.FS.FileType → NodeKind
  | .file => .file
  | .dir => .directory
  | .symlink | .other => .other

/-- Texts in increasing order. -/
def inOrder (names : List Text) : List Text := names.mergeSort fun a b => !decide (b < a)

instance : FileView IO where
  kind? p := do
    let found ← attempt (entry p).root.metadata
    return found.toOption.map fun m => kindOf m.type
  children p := do
    let found ← attempt (entry p).root.readDir
    return found.map fun entries => inOrder (entries.toList.map fun e => e.fileName.toList)
  read p := do
    let bytes ← attempt (IO.FS.readBinFile (entry p).root)
    return bytes.bind decode

instance : FileEdit IO where
  makeDir p := attempt (IO.FS.createDir (entry p).root)
  write p t := attempt (IO.FS.writeFile (entry p).root (spell t))

/-- The text of the standard input. -/
def readInput : IO (Except FileError Text) := do
  let stdin ← IO.getStdin
  let bytes ← attempt stdin.readBinToEnd
  return bytes.bind decode

/-! ## 2. The command line -/

/-- How the program is called. -/
def usage : String := "Usage: pattern-book [OPTIONS] [FILES]...\n"

/-- What the program does and which options it has. -/
def help : String :=
  "Extract @pattern documentation from block comments in source files\n\n" ++ usage
    ++ "\nArguments:\n"
    ++ "  [FILES]...  Input files (glob patterns supported). If omitted, reads from stdin\n"
    ++ "\nOptions:\n"
    ++ "  -o, --output <OUTPUT>  Output directory (required when files are given)\n"
    ++ "  -f, --format <FORMAT>  Output format: markdown (default), json\n"
    ++ "      --filter <FILTER>  Filter patterns by meta. Prefix with ! to exclude\n"
    ++ "  -h, --help             Print help\n"

/-- The variable of the environment that sets the threshold of the log. -/
def logVariable : String := "LOG_LEVEL"

/-- Runs the program and gives its exit code. -/
def execute (arguments : List String) : IO UInt32 := do
  match Invocation.ofArguments (arguments.map String.toList) with
  | .invalid =>
    IO.eprint usage
    return 2
  | .help =>
    IO.print help
    return 0
  | .run request =>
    let threshold := Level.threshold ((← IO.getEnv logVariable).map String.toList)
    let report ← Command.run IO request readInput
    IO.print (spell report.output)
    IO.eprint (spell (report.diagnostics threshold))
    return report.exitCode.toUInt32

end PatternBook.Disk

/-- The entry point of the program. -/
def main (arguments : List String) : IO UInt32 := PatternBook.Disk.execute arguments
