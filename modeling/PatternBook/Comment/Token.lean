import PatternBook.Comment.Fence
import PatternBook.Comment.Tag
import PatternBook.Event
import PatternBook.Grouping
import PatternBook.Pattern

/-!
# Tokens

The lines of a body become tags and code. Each tag owns the segments up to the next tag line:

* its payload is what follows it on its line and the plain lines it owns, a newline after each;
* the fenced regions it owns become code tokens after it, except under `@description`, whose
  payload keeps them as they are written.

Code before the first tag becomes code tokens too, and text before the first tag is dropped.
-/

namespace PatternBook

/-- A token of a comment body: a tag with its payload, or a block of code. -/
inductive Token where
  | tag (tag : Tag) (payload : Text)
  | code (block : CodeBlock)
  deriving DecidableEq

/-- The code block of a fenced region. -/
def Region.block (r : Region) : CodeBlock := ⟨r.lang, Fence.code r.inner⟩

/-- The tag of a segment that is a tag line, and what follows it on the line. -/
def Segment.tag? (s : Segment) : Option (Tag × Text) := s.plain?.bind Tag.ofLine?

namespace Token

/-- The code tokens of the fenced regions. -/
def ofRegions (segs : List Segment) : List Token :=
  segs.filterMap fun s => s.fenced?.map fun r => code r.block

/-- The tokens of a tag, of what follows it on its line, and of the segments it owns. -/
def ofGroup : (Tag × Text) × List Segment → List Token
  | ((.description, rest), segs) =>
    [tag .description (Text.endLines (rest :: segs.flatMap Segment.lines))]
  | ((t, rest), segs) =>
    tag t (Text.endLines (rest :: segs.filterMap Segment.plain?)) :: ofRegions segs

/-- The events of the text that no tag owns. -/
def leadEvents (segs : List Segment) : List Event :=
  ((segs.filterMap Segment.plain?).filter fun l => !Text.isAllBlank l).map Event.textBeforeTag

/-- The event of code that is never closed. -/
def unclosedEvents (segs : List Segment) : List Event :=
  if segs.any Segment.isUnclosed then [.unclosedFence] else []

/-- The tokens of the lines of a body. -/
def ofLines (lines : List Text) : Logged (List Token) :=
  let segs := segments lines
  let (lead, groups) := groupAt Segment.tag? segs
  ⟨ofRegions lead ++ groups.flatMap ofGroup, leadEvents lead ++ unclosedEvents segs⟩

end Token

end PatternBook
