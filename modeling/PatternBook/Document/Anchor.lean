import Std.Data.TreeMap.Basic
import PatternBook.Text.Alphanumeric
import PatternBook.Text.Lowercase

/-!
# Anchors

A link reaches a heading by its anchor. The anchor of a heading is made from its text (`slug`), and
of several headings with one slug the later ones get a number. `Anchors` remembers for each anchor
that has been handed out how far the numbers after it have been used; `claim` hands out the next
one.
-/

namespace PatternBook

/-- The text of a heading as an anchor: in lower case, with a hyphen for each space, and without
    all that is not a letter, a digit, a hyphen or an underscore. -/
def slug (heading : Text) : Text :=
  ((heading.lowercase).filter fun c =>
    Text.isAlphanumeric c || c == ' ' || c == '-' || c == '_').map
      fun c => if c = ' ' then '-' else c

/-- The anchors handed out so far, each with the last number that was tried after it. -/
structure Anchors where
  counts : Std.TreeMap Text Nat := ∅

namespace Anchors

/-- An anchor with a number after it; the number zero is not written. -/
def numbered (base : Text) : Nat → Text
  | 0 => base
  | n + 1 => base ++ ['-'] ++ Text.decimal (n + 1)

/-- Whether an anchor has been handed out. -/
def isTaken (used : Anchors) (anchor : Text) : Bool := used.counts.contains anchor

/-- The first number from `n` on whose anchor is free, if it is among the next `tries`. -/
def firstFree (used : Anchors) (base : Text) : (tries n : Nat) → Nat
  | 0, n => n
  | tries + 1, n =>
    if used.isTaken (numbered base n) then firstFree used base tries (n + 1) else n

/-- The number to start from: one more than the last one tried, or none for a new anchor. -/
def start (used : Anchors) (base : Text) : Nat :=
  match used.counts[base]? with
  | none => 0
  | some n => n + 1

/-- The number after the slug of a heading that comes next. There are only as many taken anchors as
    there are entries, so one more try than that finds a free one. -/
def next (used : Anchors) (base : Text) : Nat :=
  used.firstFree base (used.counts.size + 1) (used.start base)

/-- Hands out the anchor of a heading. -/
def claim (used : Anchors) (heading : Text) : Text × Anchors :=
  let base := slug heading
  let n := used.next base
  let anchor := numbered base n
  (anchor, ⟨(used.counts.insert base n).insert anchor 0⟩)

/-- Hands out the anchors of headings in turn. -/
def claimAll (used : Anchors) : List Text → List Text × Anchors
  | [] => ([], used)
  | heading :: rest =>
    let (anchor, used) := used.claim heading
    let (anchors, used) := used.claimAll rest
    (anchor :: anchors, used)

end Anchors

/-- A link to an anchor. -/
def link (text anchor : Text) : Text :=
  ['['] ++ text ++ "](#".toList ++ anchor ++ [')']

/-- A line of an index. -/
def indexItem (name anchor : Text) : Text := "* ".toList ++ link name anchor

end PatternBook
