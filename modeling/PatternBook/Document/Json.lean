import PatternBook.Pattern

/-!
# JSON documents

The values of the JSON format, their text with one member to a line, and the value of a list of
patterns. The entries of the metadata stand beside the two keys of their own; an absent default
value, height or reason is left out, and an absent language is null.
-/

namespace PatternBook

/-- A JSON value of the kinds that a document uses. -/
inductive Json where
  | null
  | bool (b : Bool)
  | number (n : Nat)
  | text (t : Text)
  | array (elements : List Json)
  | object (members : List (Text × Json))

namespace Json

/-! ## 1. Text -/

/-- One character of a string. -/
def escapeChar (c : Char) : Text :=
  if c = '"' then ['\\', '"']
  else if c = '\\' then ['\\', '\\']
  else if c = '\x08' then ['\\', 'b']
  else if c = '\x0c' then ['\\', 'f']
  else if c = '\n' then ['\\', 'n']
  else if c = '\r' then ['\\', 'r']
  else if c = '\t' then ['\\', 't']
  else if c.toNat < 32 then
    "\\u00".toList ++ [Nat.digitChar (c.toNat / 16), Nat.digitChar (c.toNat % 16)]
  else [c]

/-- A string between quotes. -/
def string (t : Text) : Text := ['"'] ++ t.flatMap escapeChar ++ ['"']

/-- A newline and the indentation of the given depth. -/
def newline (depth : Nat) : Text := '\n' :: List.replicate (2 * depth) ' '

/-- The lines of an array or object, each indented and all but the last with a comma. -/
def enclose (depth : Nat) (left right : Char) (items : List Text) : Text :=
  if items.isEmpty then [left, right]
  else
    [left] ++ newline (depth + 1) ++ List.intercalate ([','] ++ newline (depth + 1)) items
      ++ newline depth ++ [right]

mutual

/-- The text of a value that stands at the given depth. -/
def render (depth : Nat) : Json → Text
  | null => "null".toList
  | bool true => "true".toList
  | bool false => "false".toList
  | number n => Text.decimal n
  | text t => string t
  | array elements => enclose depth '[' ']' (renderElements (depth + 1) elements)
  | object members => enclose depth '\x7b' '\x7d' (renderMembers (depth + 1) members)

/-- The texts of the elements of an array. -/
def renderElements (depth : Nat) : List Json → List Text
  | [] => []
  | e :: es => render depth e :: renderElements depth es

/-- The texts of the members of an object. -/
def renderMembers (depth : Nat) : List (Text × Json) → List Text
  | [] => []
  | (key, value) :: ms =>
    (string key ++ ": ".toList ++ render depth value) :: renderMembers depth ms

end

/-! ## 2. Patterns -/

/-- A member whose key is a fixed word. -/
def member (key : String) (value : Json) : Text × Json := (key.toList, value)

/-- A member that is left out if there is no value. -/
def optionalMember (key : String) (value : Option Json) : List (Text × Json) :=
  value.toList.map (member key)

/-- The value of a code block. -/
def ofCodeBlock (b : CodeBlock) : Json :=
  object [member "syntax" (b.lang.elim null text), member "code" (text b.code)]

/-- The value of an example. -/
def ofExample (e : Example) : Json :=
  object ([member "description" (text e.description)]
    ++ optionalMember "height" (e.height.map number)
    ++ [member "codeBlocks" (array (e.codeBlocks.map ofCodeBlock))])

/-- The value of a parameter. -/
def ofParameter (p : Parameter) : Json :=
  object ([member "name" (text p.name), member "type" (text p.type),
      member "required" (bool p.required)]
    ++ optionalMember "defaultValue" (p.defaultValue.map text)
    ++ [member "description" (text p.description)])

/-- The value of the metadata. -/
def ofMetadata (m : Metadata) : Json :=
  object ((m.entries.toList.map fun (key, value) => (key, text value))
    ++ [member "todos" (array (m.todos.map text))]
    ++ optionalMember "deprecated" (m.deprecated.map text))

/-- The value of a pattern. -/
def ofPattern (p : Pattern) : Json :=
  object [member "name" (text p.name), member "title" (text p.title),
    member "description" (text p.description), member "meta" (ofMetadata p.metadata),
    member "parameters" (array (p.parameters.map ofParameter)),
    member "examples" (array (p.examples.map ofExample))]

/-- The value of a list of patterns. -/
def ofPatterns (patterns : List Pattern) : Json :=
  object [member "patterns" (array (patterns.map ofPattern))]

/-- The document of a list of patterns. -/
def document (patterns : List Pattern) : Text := (ofPatterns patterns).render 0 ++ ['\n']

end Json

end PatternBook
