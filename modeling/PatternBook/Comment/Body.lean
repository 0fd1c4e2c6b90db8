import PatternBook.Comment.Fence
import PatternBook.Comment.Tag

/-!
# Comment bodies

The lines of a comment body as its author meant them. Three things are taken away:

* the carriage return at the end of a line;
* the star that decorates a line, if most lines carry one. The lines are counted where they stand
  outside fenced code and are not blank (`Body.isDecorated`), so code never decides the vote;
* the framing lines at both ends, which are blank or nothing but dashes.
-/

namespace PatternBook.Body

/-! ## 1. Decoration -/

/-- What a decorated line holds after its star: spaces and tabs, then a star that neither a second
    star nor a slash follows. One space after the star belongs to the decoration. -/
def undecorate? (line : Text) : Option Text :=
  match line.dropWhile Tag.isIndent with
  | ['*'] => some []
  | '*' :: c :: rest =>
    if c == '*' || c == '/' then none else some (if c == ' ' then rest else c :: rest)
  | _ => none

/-- The line without its decoration, if it has one. -/
def undecorate (line : Text) : Text := (undecorate? line).getD line

/-- The lines that vote: those that are not blank and stand outside fenced code. -/
def voters (lines : List Text) : List Text :=
  ((segmentsBy undecorate lines).filterMap Segment.plain?).filter fun l => !Text.isAllBlank l

/-- Whether a body is decorated: more than half of the voting lines carry a star. -/
def isDecorated (lines : List Text) : Bool :=
  let votes := voters lines
  decide (votes.length < 2 * votes.countP fun l => (undecorate? l).isSome)

/-! ## 2. Lines -/

/-- The line without a carriage return at its end. -/
def dropReturn (line : Text) : Text :=
  if line.getLast? = some '\r' then line.dropLast else line

/-- The lines of a body as they stand in the source. -/
def rawLines (body : Text) : List Text := body.splitLines.map dropReturn

/-- Whether a line only frames a body: it is blank or made of dashes. -/
def isFraming (line : Text) : Bool := line.trim.all (· == '-')

/-- The lines without the framing lines at both ends. -/
def dropFraming (lines : List Text) : List Text :=
  ((lines.dropWhile isFraming).reverse.dropWhile isFraming).reverse

/-- The lines of a body without decoration and framing. -/
def lines (body : Text) : List Text :=
  let raw := rawLines body
  dropFraming (if isDecorated raw then raw.map undecorate else raw)

end PatternBook.Body
