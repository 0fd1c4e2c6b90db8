import PatternBook.Path

/-!
# Arguments

The arguments of the command line. There are three options with a value: `-o` or `--output`, `-f`
or `--format`, and `--filter`, which alone may be repeated. Everything else is a file. An option
takes its value from the same argument or from the next one, which then may not look like an
option; `--` ends the options.
-/

namespace PatternBook

/-- What a run is asked to do. Without files the standard input is read. -/
structure Request where
  files : List Text := []
  output : Option Path := none
  format : Text := "markdown".toList
  filters : List Text := []
  deriving DecidableEq

/-- What the arguments ask for. -/
inductive Invocation where
  | run (request : Request)
  | help
  | invalid
  deriving DecidableEq

/-- An option that takes a value. -/
inductive Opt where
  | output
  | format
  | filter
  deriving DecidableEq

/-- The arguments read so far. An option that has not been given has no value. -/
structure Arguments where
  files : List Text := []
  output : Option Text := none
  format : Option Text := none
  filters : List Text := []
  deriving DecidableEq

namespace Arguments

/-- How one argument is read. -/
inductive Reading where
  | file
  | endOfOptions
  | help
  | option (opt : Opt) (value : Option Text)
  | invalid
  deriving DecidableEq

/-- The option with the given long name. -/
def longOption? (name : Text) : Option Opt :=
  if name = "output".toList then some .output
  else if name = "format".toList then some .format
  else if name = "filter".toList then some .filter
  else none

/-- The option with the given letter. -/
def shortOption? (letter : Char) : Option Opt :=
  if letter = 'o' then some .output else if letter = 'f' then some .format else none

/-- A long option, after its two hyphens: its name and its value after an equals sign, if any. -/
def readLong (t : Text) : Reading :=
  let (name, value) :=
    match t.cut? ['='] with
    | some (name, value) => (name, some value)
    | none => (t, none)
  if name = "help".toList then if value.isNone then .help else .invalid
  else
    match longOption? name with
    | some opt => .option opt value
    | none => .invalid

/-- A short option, after its hyphen: its letter and its value, before which an equals sign may
    stand. -/
def readShort (letter : Char) (rest : Text) : Reading :=
  if letter = 'h' then .help
  else
    match shortOption? letter with
    | none => .invalid
    | some opt =>
      match rest with
      | [] => .option opt none
      | '=' :: value => .option opt (some value)
      | value => .option opt (some value)

/-- How an argument is read while options are allowed. -/
def read : Text → Reading
  | ['-', '-'] => .endOfOptions
  | '-' :: '-' :: long => readLong long
  | '-' :: letter :: rest => readShort letter rest
  | _ => .file

/-- Whether an argument may be the value of the option before it. -/
def isValue (t : Text) : Bool := read t == .file

/-- Gives an option its value. Only a filter may be given again, and an output directory has a
    name. -/
def set? (a : Arguments) : Opt → Text → Option Arguments
  | .output, value =>
    if a.output.isSome || value.isEmpty then none else some { a with output := some value }
  | .format, value => if a.format.isSome then none else some { a with format := some value }
  | .filter, value => some { a with filters := a.filters ++ [value] }

/-- Adds a file. -/
def addFile (a : Arguments) (file : Text) : Arguments := { a with files := a.files ++ [file] }

/-- The request of the arguments. -/
def request (a : Arguments) : Request :=
  { files := a.files
    output := a.output.map Path.mk
    format := a.format.getD "markdown".toList
    filters := a.filters }

/-- Reads arguments in turn. -/
def readAll (a : Arguments) : List Text → Invocation
  | [] => .run a.request
  | t :: rest =>
    match read t with
    | .file => readAll (a.addFile t) rest
    | .endOfOptions => .run (rest.foldl addFile a).request
    | .help => .help
    | .invalid => .invalid
    | .option opt (some value) =>
      match a.set? opt value with
      | some a => readAll a rest
      | none => .invalid
    | .option opt none =>
      match rest with
      | [] => .invalid
      | value :: rest =>
        if isValue value then
          match a.set? opt value with
          | some a => readAll a rest
          | none => .invalid
        else .invalid

end Arguments

/-- What the arguments of a command line ask for. -/
def Invocation.ofArguments (arguments : List Text) : Invocation := Arguments.readAll {} arguments

end PatternBook
