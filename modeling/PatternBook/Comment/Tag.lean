import PatternBook.Text.Basic

/-!
# Tags

A tag line is `@` and the name of a known tag, after spaces and tabs, up to white space or the end
of the line. What follows on the line is the first part of the tag's payload.
-/

namespace PatternBook

/-- The tags a comment may use. -/
inductive Tag where
  | pattern
  | title
  | metadata
  | parameter
  | todo
  | deprecated
  | description
  | newExample
  | exampleHeight
  deriving DecidableEq

namespace Tag

/-- All tags. -/
def all : List Tag :=
  [pattern, title, metadata, parameter, todo, deprecated, description, newExample, exampleHeight]

/-- The name a comment writes after the `@`. -/
def name : Tag → Text
  | pattern => "pattern".toList
  | title => "title".toList
  | metadata => "meta".toList
  | parameter => "param".toList
  | todo => "todo".toList
  | deprecated => "deprecated".toList
  | description => "description".toList
  | newExample => "example".toList
  | exampleHeight => "exampleHeight".toList

/-- The tag with the given name. -/
def ofName? (name : Text) : Option Tag := all.find? fun tag => tag.name == name

/-- Every tag is found by its own name. -/
theorem ofName?_name (tag : Tag) : ofName? tag.name = some tag := by
  cases tag <;> decide

/-- A tag that is found has the name it was looked up by. -/
theorem name_of_ofName? {n : Text} {tag : Tag} (h : ofName? n = some tag) : tag.name = n := by
  have h' := List.find?_some h
  exact beq_iff_eq.1 h'

/-- Whether a character may indent a line. -/
def isIndent (c : Char) : Bool := c == ' ' || c == '\t'

/-- The tag of a tag line and what follows it on the line. -/
def ofLine? (line : Text) : Option (Tag × Text) :=
  match line.dropWhile isIndent with
  | '@' :: after =>
    let rest := after.dropWhile Char.isAlpha
    if rest.isEmpty || rest.head?.any Text.isBlank then
      (ofName? (after.takeWhile Char.isAlpha)).map fun tag => (tag, Text.trimStart rest)
    else none
  | _ => none

end Tag

end PatternBook
