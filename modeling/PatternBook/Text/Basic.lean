/-!
# Text

Every text of the library is a list of characters, so that a rule on text is recursion on a list.
This file fixes the operations the other files share:

* `isBlank`, the characters that count as white space, and the three trims built on it;
* `dropStart?` and `cut?`, which look for a fixed text at the front, or anywhere;
* `splitLines`, `joinLines` and `endLines`, the ways between a text and its lines;
* the order of texts, which is that of their characters, one by one;
* `utf8Length`, the size of a text as stored bytes, and `decimal`, the digits of a number.
-/

namespace PatternBook

/-- A text is the list of its characters. -/
abbrev Text := List Char

namespace Text

/-! ## 1. White space -/

/-- The characters with the property White_Space: the ASCII controls from tab to carriage return,
    the space, and the spaces and line separators beyond ASCII. -/
def isBlank (c : Char) : Bool :=
  let n := c.toNat
  decide (9 ≤ n ∧ n ≤ 13) || n == 32 || n == 0x85 || n == 0xa0 || n == 0x1680
    || decide (0x2000 ≤ n ∧ n ≤ 0x200a) || n == 0x2028 || n == 0x2029 || n == 0x202f
    || n == 0x205f || n == 0x3000

/-- The text without its leading white space. -/
def trimStart (t : Text) : Text := t.dropWhile isBlank

/-- The text without its trailing white space. -/
def trimEnd (t : Text) : Text := (t.reverse.dropWhile isBlank).reverse

/-- The text without the white space at both ends. -/
def trim (t : Text) : Text := trimEnd (trimStart t)

/-- Whether the text holds nothing but white space. -/
def isAllBlank (t : Text) : Bool := t.all isBlank

/-! ## 2. Looking for a fixed text -/

/-- What follows `front` in a text that starts with it. -/
def dropStart? : (t front : Text) → Option Text
  | t, [] => some t
  | [], _ :: _ => none
  | c :: t, a :: front => if c = a then dropStart? t front else none

/-- A text starts with `front` exactly when it is `front` followed by what is left. -/
theorem dropStart?_eq_some_iff {t front rest : Text} :
    t.dropStart? front = some rest ↔ t = front ++ rest := by
  induction front generalizing t with
  | nil => simp [dropStart?]
  | cons a front ih =>
    cases t with
    | nil => simp [dropStart?]
    | cons c t => grind [dropStart?]

/-- Cuts a text at the first place where the non-empty text `mark` stands: what is before it and
    what is after it. -/
def cut? : (t mark : Text) → Option (Text × Text)
  | [], _ => none
  | c :: t, mark =>
    match dropStart? (c :: t) mark with
    | some rest => some ([], rest)
    | none => (cut? t mark).map fun (before, rest) => (c :: before, rest)

/-- A cut loses nothing: the text is what is before the mark, the mark, and what is after it. -/
theorem eq_of_cut? {t mark before rest : Text} (h : t.cut? mark = some (before, rest)) :
    t = before ++ mark ++ rest := by
  induction t generalizing before with
  | nil => simp [cut?] at h
  | cons c t ih =>
    unfold cut? at h
    split at h
    · rename_i r hr
      obtain ⟨rfl, rfl⟩ : [] = before ∧ r = rest := by simpa using h
      simpa using dropStart?_eq_some_iff.1 hr
    · obtain ⟨⟨b, r⟩, hb, hbr⟩ := Option.map_eq_some_iff.1 h
      obtain ⟨rfl, rfl⟩ : c :: b = before ∧ r = rest := by simpa using hbr
      simp [ih hb]

/-- The two parts of a cut and the mark make up the length of the text. -/
theorem length_of_cut? {t mark before rest : Text} (h : t.cut? mark = some (before, rest)) :
    before.length + mark.length + rest.length = t.length := by
  simp [eq_of_cut? h, Nat.add_assoc]

/-! ## 3. Lines -/

/-- The lines of a text, which the newlines separate; a text without one is a single line. -/
def splitLines (t : Text) : List Text := t.splitOn '\n'

/-- The lines with a newline between each two of them. -/
def joinLines (ls : List Text) : Text := List.intercalate ['\n'] ls

/-- The lines with a newline after each of them. -/
def endLines (ls : List Text) : Text := ls.flatMap (· ++ ['\n'])

/-! ## 4. Order -/

instance : DecidableLT Text := fun a b => List.decidableLT a b

instance : Trans (fun a b : Text => a < b) (fun a b : Text => a < b) (fun a b : Text => a < b) :=
  ⟨fun h k => List.lt_trans h k⟩

instance : Std.Irrefl fun a b : Text => a < b := ⟨fun a => List.lt_irrefl a⟩

instance : Std.Trichotomous fun a b : Text => a < b :=
  ⟨fun _ _ h k => List.le_antisymm (List.not_lt.1 k) (List.not_lt.1 h)⟩

/-! ## 5. Sizes and numbers -/

/-- The number of bytes the text takes when it is stored as UTF-8. -/
def utf8Length (t : Text) : Nat := t.foldr (fun c n => c.utf8Size + n) 0

/-- The decimal digits of a number, without leading zeros. -/
def decimal (n : Nat) : Text := Nat.toDigits 10 n

end Text

end PatternBook
