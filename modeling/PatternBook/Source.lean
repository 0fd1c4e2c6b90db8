import PatternBook.Comment.Body
import PatternBook.Comment.Record
import PatternBook.Comment.Scan
import PatternBook.Path

/-!
# Source texts

A source text is read comment by comment: the lines of the body, their tokens, the patterns of the
tokens. The patterns of a text are those of its comments, in order. Of files only those with a
known extension are read.
-/

namespace PatternBook.Source

/-- The patterns of one comment body. A body that documents nothing is reported. -/
def readBody (body : Text) : Logged (List Pattern) :=
  let lines := Body.lines body
  let tokens := Token.ofLines lines
  let found := Pattern.ofTokens tokens.value
  let skipped := if found.value.isEmpty then [Event.commentSkipped lines.length] else []
  ⟨found.value, tokens.events ++ found.events ++ skipped⟩

/-- The patterns of a source text. -/
def read (source : Text) : Logged (List Pattern) :=
  let comments := Comments.scan source
  let found := Logged.join (comments.bodies.map readBody)
  ⟨found.value, comments.unterminated.toList.map Event.unterminatedComment ++ found.events⟩

/-- The patterns of a source text, without the events. -/
def patterns (source : Text) : List Pattern := (read source).value

/-- The extensions of the files that are read. -/
def extensions : List Text :=
  ["css", "scss", "sass", "less", "js", "jsx", "ts", "tsx", "html"].map String.toList

/-- Whether a file is of a kind that is read. -/
def isSupported (path : Path) : Bool := path.extension?.any fun e => extensions.contains e

/-- The patterns of a file with the given content. -/
def readAt (path : Path) (content : Text) : Except SkipReason (Logged (List Pattern)) :=
  if isSupported path then .ok (read content) else .error (.unsupported path.spelling)

end PatternBook.Source
