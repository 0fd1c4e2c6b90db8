import PatternBook.Pattern

/-!
# Payloads

How the payload of a tag is read. Every reader answers on every payload: what does not fit its
grammar is kept as plain text in the most likely field.
-/

namespace PatternBook.Payload

/-! ## 1. Lines and numbers -/

/-- The first line of a payload without the white space around it. -/
def firstLine (payload : Text) : Text := Text.trim (payload.takeWhile (· != '\n'))

/-- Heights are below this number, so that they take no more than 32 bits. -/
def heightLimit : Nat := 0x100000000

/-- The height a payload starts with: its leading digits, if there are any and their number is
    below the limit. -/
def height? (payload : Text) : Option Nat :=
  let digits := payload.trim.takeWhile Char.isDigit
  let value := Nat.ofDigitChars 10 digits 0
  if digits.isEmpty then none else if value < heightLimit then some value else none

/-! ## 2. Metadata -/

/-- The value of an entry from what follows its key: a dash may separate the two. -/
def entryValue (rest : Text) : Text :=
  match rest.dropStart? ['-', ' '] with
  | some value => value.trimStart
  | none => if rest = ['-'] then [] else rest

/-- The key and the value of a metadata entry, unless the payload is blank. -/
def entry? (payload : Text) : Option (Text × Text) :=
  let text := payload.trim
  if text.isEmpty then none
  else
    let key := text.takeWhile fun c => !Text.isBlank c
    some (key, entryValue (Text.trim (text.dropWhile fun c => !Text.isBlank c)))

/-! ## 3. Parameters -/

/-- The type in braces that a parameter starts with, and what follows it. Without a closing brace
    there is no type. -/
def typeGroup (text : Text) : Text × Text :=
  match text with
  | '\x7b' :: after =>
    match Text.cut? after ['\x7d'] with
    | some (type, rest) => (type, rest.trimStart)
    | none => ([], text)
  | _ => ([], text)

/-- The text in brackets that stands first, and what follows it. -/
def bracketGroup? (text : Text) : Option (Text × Text) :=
  match text with
  | '[' :: after => Text.cut? after [']']
  | _ => none

/-- The description of a parameter: what follows the first dash between spaces. -/
def parameterDescription (text : Text) : Text :=
  match text.cut? [' ', '-', ' '] with
  | some (_, description) => description.trim
  | none => []

/-- The parameter of a payload: a type in braces, a name, and a description after a dash. A name in
    brackets is optional and may have a default value after an equals sign. -/
def parameter (payload : Text) : Parameter :=
  let (type, rest) := typeGroup payload.trim
  match bracketGroup? rest with
  | some (inner, after) =>
    let (name, defaultValue) :=
      match inner.cut? ['='] with
      | some (name, value) => (name, some value)
      | none => (inner, none)
    { name := name.trim, type, required := false, defaultValue
      description := parameterDescription after }
  | none =>
    { name := rest.takeWhile fun c => !Text.isBlank c
      type
      required := true
      defaultValue := none
      description := parameterDescription (rest.dropWhile fun c => !Text.isBlank c) }

end PatternBook.Payload
