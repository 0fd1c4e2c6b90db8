import PatternBook.Document.Json
import PatternBook.Document.Markdown

/-!
# Formats

The formats of a document, their names on the command line, and the extension of their files.
-/

namespace PatternBook

/-- A format of a document. -/
inductive Format where
  | markdown
  | json
  deriving DecidableEq

namespace Format

/-- The format of the given name. -/
def ofName? (name : Text) : Option Format :=
  if name = "markdown".toList ∨ name = "md".toList then some markdown
  else if name = "json".toList then some json
  else none

/-- The extension of files of the format. -/
def extension : Format → Text
  | markdown => "md".toList
  | json => "json".toList

/-- The document of a list of patterns. -/
def render : Format → List Pattern → Text
  | markdown, patterns => Markdown.render patterns
  | json, patterns => Json.document patterns

/-- What is said about a name that is no format. -/
def unknownMessage (name : Text) : Text :=
  "unknown format: ".toList ++ name ++ ". Use markdown or json".toList

end Format

end PatternBook
