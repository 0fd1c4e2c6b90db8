/-!
# Ranges of characters

A property of characters is written as the list of the ranges of code points that have it, both
ends included, in increasing order. `inRanges` is the test; it stops at the first range that lies
beyond the code point it is asked about.
-/

namespace PatternBook.Text

/-- Whether a code point lies in one of the ranges, given in increasing order. -/
def inRanges (n : Nat) : List (Nat × Nat) → Bool
  | [] => false
  | (first, last) :: ranges =>
    if n < first then false else if n ≤ last then true else inRanges n ranges

end PatternBook.Text
