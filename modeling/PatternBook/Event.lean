import PatternBook.Comment.Tag
import PatternBook.FileError
import PatternBook.Text.Quoted

/-!
# Events

What the library has to say while it works, beside its results. An event is a value; `level`,
`message` and `fields` give its reading, and `line` writes it as one line of a log. A function that
has events returns them with its result (`Logged`), in the order in which they happen.
-/

namespace PatternBook

/-! ## 1. Events -/

/-- How important an event is. -/
inductive Level where
  | trace
  | debug
  | info
  | warn
  | error
  deriving DecidableEq

/-- Why an input file is left out. -/
inductive SkipReason where
  | unreadable (error : FileError)
  | unsupported (path : Text)
  deriving DecidableEq

/-- What the library reports. -/
inductive Event where
  /-- A comment starts at the byte offset and is never closed. -/
  | unterminatedComment (offset : Nat)
  /-- A line of text stands before the first tag. -/
  | textBeforeTag (line : Text)
  /-- Fenced code is never closed. -/
  | unclosedFence
  /-- A `@pattern` has no name. -/
  | namelessPattern
  /-- A tag stands before the first named pattern. -/
  | tagBeforePattern (tag : Tag)
  /-- A `@meta` has no key. -/
  | emptyMetadata (pattern : Text)
  /-- An `@exampleHeight` does not follow its `@example`. -/
  | strayHeight (pattern : Text)
  /-- Code belongs to no example. -/
  | strayCode (pattern : Text) (lang : Option Text)
  /-- A pattern has been read to its end. -/
  | patternComplete (name : Text) (parameters examples : Nat)
  /-- A comment of the given number of lines documents nothing. -/
  | commentSkipped (lines : Nat)
  /-- Two files of one module document patterns of the same name. -/
  | duplicatePattern (module pattern first again : Text)
  /-- An input file is left out. -/
  | fileSkipped (path : Text) (reason : SkipReason)
  /-- A file argument names no file. -/
  | nothingMatched (argument : Text)
  /-- An input file has been read. -/
  | fileParsed (path : Text) (count : Nat)
  deriving DecidableEq

/-- A field of an event: a number, a text shown as it is, a text shown between quotes, or a text
    that may be absent. -/
inductive FieldValue where
  | number (n : Nat)
  | shown (t : Text)
  | quoted (t : Text)
  | optional (t : Option Text)
  deriving DecidableEq

/-- The message of the error that leaves a file out. -/
def SkipReason.message : SkipReason → Text
  | unreadable error => error.message
  | unsupported path => "unsupported file type: ".toList ++ path

namespace Event

/-- How important an event is. -/
def level : Event → Level
  | unterminatedComment _ | textBeforeTag _ | unclosedFence | tagBeforePattern _
  | patternComplete .. => .trace
  | namelessPattern | emptyMetadata _ | strayHeight _ | strayCode .. | commentSkipped _
  | fileParsed .. => .debug
  | duplicatePattern .. | fileSkipped .. | nothingMatched _ => .warn

/-- The message of an event. -/
def message : Event → Text
  | unterminatedComment _ => "unterminated block comment".toList
  | textBeforeTag _ => "text before first tag ignored".toList
  | unclosedFence => "unclosed code fence runs to end of comment".toList
  | namelessPattern => "@pattern without a name ignored".toList
  | tagBeforePattern _ => "tag before @pattern ignored".toList
  | emptyMetadata _ => "empty @meta ignored".toList
  | strayHeight _ => "@exampleHeight not directly after @example ignored".toList
  | strayCode .. => "code fence outside an @example dropped".toList
  | patternComplete .. => "pattern complete".toList
  | commentSkipped _ => "comment without @pattern skipped".toList
  | duplicatePattern .. => "pattern documented in more than one file".toList
  | fileSkipped path reason => "skipping ".toList ++ path ++ ": ".toList ++ reason.message
  | nothingMatched argument => "no files matched: ".toList ++ argument
  | fileParsed .. => "parsed".toList

/-- The fields of an event beside its message, in order. -/
def fields : Event → List (String × FieldValue)
  | unterminatedComment offset => [("offset", .number offset)]
  | textBeforeTag line => [("line", .quoted line)]
  | tagBeforePattern tag => [("tag", .quoted tag.name)]
  | emptyMetadata pattern | strayHeight pattern => [("pattern", .shown pattern)]
  | strayCode pattern lang => [("pattern", .shown pattern), ("syntax", .optional lang)]
  | patternComplete name parameters examples =>
    [("name", .shown name), ("params", .number parameters), ("examples", .number examples)]
  | commentSkipped lines => [("lines", .number lines)]
  | duplicatePattern module pattern first again =>
    [("module", .quoted module), ("pattern", .shown pattern), ("first", .shown first),
     ("again", .shown again)]
  | fileParsed path count => [("file", .shown path), ("count", .number count)]
  | unclosedFence | namelessPattern | fileSkipped .. | nothingMatched _ => []

end Event

/-! ## 2. Log lines -/

/-- The name of a level, five columns wide. -/
def Level.column : Level → Text
  | trace => "TRACE".toList
  | debug => "DEBUG".toList
  | info => " INFO".toList
  | warn => " WARN".toList
  | error => "ERROR".toList

/-- The rank of a level among the levels. -/
def Level.rank : Level → Nat
  | trace => 0
  | debug => 1
  | info => 2
  | warn => 3
  | error => 4

/-- A field value as a log line writes it. -/
def FieldValue.logged : FieldValue → Text
  | number n => Text.decimal n
  | shown t => t
  | quoted t => t.quoted
  | optional t => Text.quotedOption t

/-- The two hexadecimal digits of a control character below 128. -/
def shortEscape (c : Char) : Text :=
  let digits := Nat.toDigits 16 c.toNat
  "\\x".toList ++ List.replicate (2 - digits.length) '0' ++ digits

/-- One character of a message in a log line: the controls that would steer a terminal are spelled
    out. -/
def messageChar (c : Char) : Text :=
  let n := c.toNat
  if n == 0x1b || n == 0x07 || n == 0x08 || n == 0x0c || n == 0x7f then shortEscape c
  else if 0x80 ≤ n ∧ n ≤ 0x9f then Text.hexEscape c
  else [c]

namespace Event

/-- An event as one line of a log, without a newline: its level, its message and its fields. -/
def line (e : Event) : Text :=
  e.level.column ++ [' '] ++ e.message.flatMap messageChar
    ++ e.fields.flatMap fun (name, value) => [' '] ++ name.toList ++ ['='] ++ value.logged

/-- The log of events at a threshold: the lines of those that are important enough, and nothing
    without a threshold. -/
def log (threshold : Option Level) (events : List Event) : Text :=
  match threshold with
  | none => []
  | some least =>
    Text.endLines ((events.filter fun e => least.rank ≤ e.level.rank).map line)

end Event

/-! ## 3. Results with events -/

/-- A result and the events on the way to it. -/
structure Logged (α : Type) where
  value : α
  events : List Event

/-- The results and the events of a list, joined in order. -/
def Logged.join {α : Type} (l : List (Logged (List α))) : Logged (List α) :=
  ⟨l.flatMap (·.value), l.flatMap (·.events)⟩

end PatternBook
