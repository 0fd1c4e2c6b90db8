import PatternBook.Path

/-!
# Glob patterns

A glob stands for the paths that match it. It is cut at the separators into pieces, each of which
is matched against one name:

* `?` is any character, and `*` any number of them;
* `[...]` is one of the characters listed, `[!...]` any other, and `a-z` in the list is a range;
* `**` alone in a piece is any number of directories.

A text that breaks these rules is refused with the position where it does.
-/

namespace PatternBook.Glob

/-! ## 1. Tokens -/

/-- Characters listed between brackets. -/
inductive CharSet where
  | single (c : Char)
  | range (first last : Char)
  deriving DecidableEq

/-- A token of a glob. -/
inductive Token where
  | literal (c : Char)
  | anyChar
  | anyName
  | anyDirs
  | oneOf (sets : List CharSet)
  | noneOf (sets : List CharSet)
  deriving DecidableEq

/-- What is wrong with a glob. -/
inductive Fault where
  | stars
  | partialRecursion
  | brackets
  deriving DecidableEq

/-- A fault and the position of the character where it is found. -/
structure GlobError where
  position : Nat
  fault : Fault
  deriving DecidableEq

/-- The text of a fault. -/
def Fault.text : Fault → Text
  | stars => "wildcards are either regular \x60*\x60 or recursive \x60**\x60".toList
  | partialRecursion => "recursive wildcards must form a single path component".toList
  | brackets => "invalid range pattern".toList

/-- The message of an error. -/
def GlobError.message (e : GlobError) : Text :=
  "Pattern syntax error near position ".toList ++ Text.decimal e.position ++ ": ".toList
    ++ e.fault.text

/-- The characters listed between brackets. -/
def charSets : Text → List CharSet
  | first :: '-' :: last :: rest => .range first last :: charSets rest
  | c :: rest => .single c :: charSets rest
  | [] => []

/-- What a `[` opens: the token, the number of characters after the `[` that belong to it, and what
    follows. The first character of the list may be a closing bracket. -/
def bracketToken? : Text → Option (Token × Nat × Text)
  | '!' :: c :: rest =>
    (Text.cut? rest [']']).map fun (inner, after) =>
      (.noneOf (charSets (c :: inner)), inner.length + 3, after)
  | '!' :: [] | [] => none
  | c :: rest =>
    (Text.cut? rest [']']).map fun (inner, after) =>
      (.oneOf (charSets (c :: inner)), inner.length + 2, after)

/-- What follows a bracket is no longer than what it was read from. -/
theorem length_bracketToken? {t after : Text} {token : Token} {n : Nat}
    (h : bracketToken? t = some (token, n, after)) : after.length < t.length := by
  unfold bracketToken? at h
  split at h
  · rename_i c rest
    obtain ⟨⟨inner, a⟩, hc, he⟩ := Option.map_eq_some_iff.1 h
    have hl := Text.length_of_cut? hc
    simp only [Prod.mk.injEq] at he
    obtain ⟨_, _, rfl⟩ := he
    simp only [List.length_cons]
    omega
  · simp at h
  · simp at h
  · rename_i c rest _ _
    obtain ⟨⟨inner, a⟩, hc, he⟩ := Option.map_eq_some_iff.1 h
    have hl := Text.length_of_cut? hc
    simp only [Prod.mk.injEq] at he
    obtain ⟨_, _, rfl⟩ := he
    simp only [List.length_cons]
    omega

/-- The tokens of a text that starts at the given position after the given character. -/
def tokensFrom (position : Nat) (previous : Option Char) : Text → Except GlobError (List Token)
  | [] => .ok []
  | '?' :: rest => (tokensFrom (position + 1) (some '?') rest).map (.anyChar :: ·)
  | '*' :: '*' :: '*' :: _ => .error ⟨position + 2, .stars⟩
  | '*' :: '*' :: rest =>
    if previous.all (· == '/') then
      match rest with
      | [] => .ok [.anyDirs]
      | '/' :: rest => (tokensFrom (position + 3) (some '/') rest).map (.anyDirs :: ·)
      | _ => .error ⟨position + 2, .partialRecursion⟩
    else .error ⟨position - 1, .partialRecursion⟩
  | '*' :: rest => (tokensFrom (position + 1) (some '*') rest).map (.anyName :: ·)
  | '[' :: rest =>
    match _ : bracketToken? rest with
    | none => .error ⟨position, .brackets⟩
    | some (token, n, after) =>
      (tokensFrom (position + 1 + n) (some ']') after).map (token :: ·)
  | c :: rest => (tokensFrom (position + 1) (some c) rest).map (.literal c :: ·)
termination_by t => t.length
decreasing_by
  all_goals simp_wf
  all_goals try omega
  have h := length_bracketToken? ‹_›
  omega

/-- The tokens of a text. -/
def tokens (t : Text) : Except GlobError (List Token) := tokensFrom 0 none t

/-! ## 2. Matching a name -/

/-- Whether a character is among those listed. -/
def CharSet.contains : CharSet → Char → Bool
  | single s, c => s == c
  | range first last, c => decide (first ≤ c ∧ c ≤ last)

/-- Whether a token for one character stands for the character. -/
def Token.accepts : Token → Char → Bool
  | literal l, c => l == c
  | oneOf sets, c => sets.any (·.contains c)
  | noneOf sets, c => !sets.any (·.contains c)
  | anyChar, _ | anyName, _ | anyDirs, _ => true

/-- For each place of the list, whether something holds there or at a later place. -/
def fromHereOn : List Bool → List Bool
  | [] => []
  | b :: later => (b || later.any id) :: fromHereOn later

/-- For each end of the name, from the whole name to the empty end, whether the tokens match it.
    Each token looks at every end once, however many wildcards there are. -/
def matchedEnds (name : Text) : List Token → List Bool
  | [] => name.map (fun _ => false) ++ [true]
  | .anyName :: rest | .anyDirs :: rest => fromHereOn (matchedEnds name rest)
  | token :: rest =>
    List.zipWith (fun c later => token.accepts c && later) name (matchedEnds name rest).tail
      ++ [false]

/-- Whether a name matches the tokens. -/
def isMatch (tokens : List Token) (name : Text) : Bool :=
  (matchedEnds name tokens).head? == some true

/-! ### What a match is

The answers for all ends at once follow the rules that one would write for a single name. -/

theorem tail_fromHereOn (l : List Bool) : (fromHereOn l).tail = fromHereOn l.tail := by
  cases l <;> rfl

/-- There is an answer for the empty end at least. -/
theorem matchedEnds_ne_nil (name : Text) (tokens : List Token) : matchedEnds name tokens ≠ [] := by
  fun_induction matchedEnds name tokens with
  | case1 => simp
  | case2 rest ih | case3 rest ih =>
    obtain ⟨b, later, h⟩ := List.exists_cons_of_ne_nil ih
    rw [h]
    exact List.cons_ne_nil _ _
  | case4 => simp

/-- The answers for the ends of a name are those for the ends of a longer one but for the first. -/
theorem tail_matchedEnds (c : Char) (name : Text) (tokens : List Token) :
    (matchedEnds (c :: name) tokens).tail = matchedEnds name tokens := by
  induction tokens with
  | nil => rfl
  | cons token rest ih =>
    cases token
    case anyName | anyDirs => simp only [matchedEnds, tail_fromHereOn, ih]
    all_goals
      simp only [matchedEnds, ih]
      cases h : matchedEnds name rest with
      | nil => exact absurd h (matchedEnds_ne_nil name rest)
      | cons b later => simp

/-- The answers for a name are its own and those for its ends. -/
theorem matchedEnds_cons (c : Char) (name : Text) (tokens : List Token) :
    matchedEnds (c :: name) tokens = isMatch tokens (c :: name) :: matchedEnds name tokens := by
  obtain ⟨b, later, h⟩ := List.exists_cons_of_ne_nil (matchedEnds_ne_nil (c :: name) tokens)
  have ht := tail_matchedEnds c name tokens
  rw [h, List.tail_cons] at ht
  unfold isMatch
  rw [h, ht]
  cases b <;> rfl

/-- Without tokens only the empty name matches. -/
theorem isMatch_nil (name : Text) : isMatch [] name = name.isEmpty := by
  cases name <;> rfl

/-- A token for one character uses up the first character of a name. -/
theorem isMatch_single {token : Token} (h : token ≠ .anyName ∧ token ≠ .anyDirs)
    (rest : List Token) (c : Char) (name : Text) :
    isMatch (token :: rest) (c :: name) = (token.accepts c && isMatch rest name) := by
  obtain ⟨b, later, hb⟩ := List.exists_cons_of_ne_nil (matchedEnds_ne_nil name rest)
  have hm : isMatch rest name = b := by
    unfold isMatch
    rw [hb]
    cases b <;> rfl
  rw [hm]
  unfold isMatch
  cases token <;> simp_all [matchedEnds, tail_matchedEnds]

/-- A wildcard uses up nothing, or the first character of a name and what it uses up after it. -/
theorem isMatch_anyName (rest : List Token) (c : Char) (name : Text) :
    isMatch (.anyName :: rest) (c :: name)
      = (isMatch rest (c :: name) || isMatch (.anyName :: rest) name) := by
  obtain ⟨b, later, hb⟩ := List.exists_cons_of_ne_nil (matchedEnds_ne_nil name rest)
  have hm : isMatch (.anyName :: rest) name = (b || later.any id) := by
    unfold isMatch
    simp [matchedEnds, fromHereOn, hb]
  have hc : isMatch (.anyName :: rest) (c :: name)
      = (isMatch rest (c :: name) || (matchedEnds name rest).any id) := by
    conv => lhs; unfold isMatch
    simp [matchedEnds, matchedEnds_cons, fromHereOn]
  rw [hm, hc, hb]
  rfl

/-! ## 3. Globs -/

/-- The text of tokens that stand for themselves only. -/
def literal? : List Token → Option Text
  | [] => some []
  | .literal c :: rest => (literal? rest).map (c :: ·)
  | _ => none

/-- Whether a piece stands for any number of directories. -/
def isRecursive (piece : List Token) : Bool := piece.contains .anyDirs

end PatternBook.Glob

namespace PatternBook

/-- A glob: whether it starts at the root, its pieces between the separators, and whether only
    directories match, as a separator at the end asks for. -/
structure Glob where
  isAbsolute : Bool
  pieces : List (List Glob.Token)
  requireDir : Bool
  deriving DecidableEq

namespace Glob

/-- The parts of a text between separators. A separator at the end adds none. -/
def splitParts (t : Text) : List Text :=
  let parts := t.splitOn '/'
  if parts.getLast? = some [] then parts.dropLast else parts

/-- The glob of a text. A text without parts has one empty piece. -/
def ofText (t : Text) : Except GlobError Glob := do
  let _ ← tokens t
  let isAbsolute := t.head? == some '/'
  let rest := if isAbsolute then t.drop 1 else t
  let pieces ← (splitParts rest).mapM tokens
  return { isAbsolute, pieces := if rest.isEmpty then [[]] else pieces
           requireDir := t.getLast? == some '/' }

end PatternBook.Glob
