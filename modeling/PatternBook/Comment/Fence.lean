import PatternBook.Text.Basic

/-!
# Code fences

A line of three backticks, with or without the name of a language, opens a fenced region; the next
line that is three backticks and nothing else closes it, and a region that is never closed runs to
the end. `segments` cuts a list of lines into plain lines and fenced regions.

The lines of a comment body are first read through the decoration they may carry, so the cut is made
by a `view` of each line (`segmentsBy`), and the segments hold the lines themselves.
-/

namespace PatternBook

/-! ## 1. Lines that open and close a region -/

namespace Fence

/-- The three backticks of a fence. -/
def ticks : Text := ['\x60', '\x60', '\x60']

/-- Whether a character may stand in the name of a language. -/
def isLangChar (c : Char) : Bool := !Text.isBlank c && c != '\x60'

/-- The language of an opening line: the backticks, a name or nothing, and white space. -/
def opening? (line : Text) : Option (Option Text) :=
  match line.dropStart? ticks with
  | none => none
  | some after =>
    let lang := after.takeWhile isLangChar
    if Text.isAllBlank (after.dropWhile isLangChar) then
      some (if lang.isEmpty then none else some lang)
    else none

/-- Whether a line closes a region: the backticks and white space. -/
def isClosing (line : Text) : Bool := line.trimEnd == ticks

/-- The code of the lines inside a region: their text without the white space around it. -/
def code (inner : List Text) : Text := Text.trim (Text.joinLines inner)

end Fence

/-! ## 2. Regions and segments -/

/-- A fenced region: the opening line, the language it names, the lines inside, and the closing
    line unless the region runs to the end. -/
structure Region where
  opener : Text
  lang : Option Text
  inner : List Text
  closer : Option Text
  deriving DecidableEq

/-- All lines of a region. -/
def Region.lines (r : Region) : List Text := r.opener :: r.inner ++ r.closer.toList

/-- A piece of a list of lines: a plain line or a fenced region. -/
inductive Segment where
  | plain (line : Text)
  | fenced (region : Region)
  deriving DecidableEq

namespace Segment

/-- All lines of a segment. -/
def lines : Segment → List Text
  | plain line => [line]
  | fenced region => region.lines

/-- The plain line of a segment that is one. -/
def plain? : Segment → Option Text
  | plain line => some line
  | fenced _ => none

/-- The region of a segment that is one. -/
def fenced? : Segment → Option Region
  | plain _ => none
  | fenced region => some region

/-- Whether the segment is a region that runs to the end. -/
def isUnclosed : Segment → Bool
  | plain _ => false
  | fenced region => region.closer.isNone

end Segment

/-- Cuts lines into plain lines and fenced regions, reading each line through `view`. -/
def segmentsBy (view : Text → Text) : List Text → List Segment
  | [] => []
  | line :: rest =>
    match Fence.opening? (view line) with
    | none => .plain line :: segmentsBy view rest
    | some lang =>
      let isInner := fun l => !Fence.isClosing (view l)
      let after := rest.dropWhile isInner
      .fenced ⟨line, lang, rest.takeWhile isInner, after.head?⟩ :: segmentsBy view after.tail
termination_by lines => lines.length
decreasing_by
  · simp
  · have h : (rest.dropWhile fun l => !Fence.isClosing (view l)).length ≤ rest.length :=
      (List.dropWhile_sublist _).length_le
    simp only [List.length_tail, List.length_cons]
    omega

/-- Cuts lines into plain lines and fenced regions. -/
def segments (lines : List Text) : List Segment := segmentsBy id lines

end PatternBook
