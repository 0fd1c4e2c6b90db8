import PatternBook.Document.Format
import PatternBook.Event
import PatternBook.Glob.Pattern

/-!
# Reports

What a run leaves behind beside files: events, and a text for the standard output or a failure.
-/

namespace PatternBook

/-! ## 1. Failures -/

/-- Why a run fails. -/
inductive Failure where
  /-- Files are given, but no directory for the documents. -/
  | missingOutput
  /-- The format is not known. -/
  | unknownFormat (name : Text)
  /-- The standard input cannot be read. -/
  | unreadableInput (error : FileError)
  /-- The directory for the documents cannot be made. -/
  | outputDirectory (directory : Path) (error : FileError)
  /-- A directory of sources cannot be read. -/
  | sourceDirectory (directory : Path) (error : FileError)
  /-- A file argument is no path and no glob. -/
  | invalidGlob (argument : Text) (error : Glob.GlobError)
  /-- A document cannot be written. -/
  | unwritable (path : Path) (error : FileError)
  deriving DecidableEq

namespace Failure

/-- What has failed. -/
def summary : Failure → Text
  | missingOutput => "--output is required when files are given".toList
  | unknownFormat name => Format.unknownMessage name
  | unreadableInput _ => "failed to read stdin".toList
  | outputDirectory directory _ =>
    "failed to create output directory: ".toList ++ directory.spelling
  | sourceDirectory directory _ => "failed to read directory: ".toList ++ directory.spelling
  | invalidGlob argument _ => "invalid glob pattern: ".toList ++ argument
  | unwritable path _ => "failed to write ".toList ++ path.spelling

/-- What made it fail, if that is something else. -/
def cause? : Failure → Option Text
  | missingOutput | unknownFormat _ => none
  | unreadableInput error | outputDirectory _ error | sourceDirectory _ error
  | unwritable _ error => some error.message
  | invalidGlob _ error => some error.message

/-- The message of a failure, with its cause in a paragraph of its own. -/
def message (f : Failure) : Text :=
  "Error: ".toList ++ f.summary ++ ['\n']
    ++ (f.cause?.elim [] fun cause => "\nCaused by:\n    ".toList ++ cause ++ ['\n'])

end Failure

/-! ## 2. Reports -/

/-- The events of a run, and the text it prints or the reason why it fails. -/
structure Report where
  events : List Event
  result : Except Failure Text

namespace Report

/-- The exit code of a run. -/
def exitCode (r : Report) : Nat :=
  match r.result with
  | .ok _ => 0
  | .error _ => 1

/-- What a run prints. -/
def output (r : Report) : Text :=
  match r.result with
  | .ok text => text
  | .error _ => []

/-- What a run says on the error channel: the log at the given threshold, and its failure. -/
def diagnostics (threshold : Option Level) (r : Report) : Text :=
  Event.log threshold r.events
    ++ match r.result with
      | .ok _ => []
      | .error failure => failure.message

end Report

/-! ## 3. Thresholds -/

/-- The threshold of a log from its setting: the name of a level in any case, or `off`. Without a
    setting warnings are logged, and an empty one stands for errors. -/
def Level.threshold : Option Text → Option Level
  | none => some .warn
  | some setting =>
    let name := setting.map Char.toLower
    if name = "trace".toList then some .trace
    else if name = "debug".toList then some .debug
    else if name = "info".toList then some .info
    else if name = "warn".toList then some .warn
    else if name = "off".toList then none
    else some .error

end PatternBook
