import PatternBook.Proofs.Places

/-!
# Tokens by position

`Token.ofLines` groups the segments of a body at its tag lines. This file says the same by position,
from the lines with their places alone:

* `tagTokenAt` -- a tag line starts a tag token; its payload is the rest of the line and the lines up
  to the next tag line that stand outside all regions, or all of them under `@description`;
* `codeTokenAt` -- the opening line of a region starts a code token, unless the latest tag before it
  is `@description`;
* `ofLines_value` -- the tokens of a body are those of its positions, in the order of the positions,
  so nothing is lost, repeated or moved.

In between stands `tokensFrom`, which reads the lines from the front and remembers the latest tag.
-/

namespace PatternBook

/-! ## 1. The token that starts at a line -/

/-- The tag of the last tag line. -/
def latestTag? (lines : List Line) : Option Tag := (lines.filterMap Line.tag?).getLast?.map (·.1)

/-- The lines of a payload among the lines after its tag line: they stand before the next tag line,
    and outside all regions unless the tag is `@description`. -/
def payloadLines (tag : Tag) (after : List Line) : List Text :=
  ((after.takeWhile fun x => x.tag?.isNone).filter fun x =>
    tag == .description || x.isPlain).map (·.text)

/-- The tag token of a tag line, which `after` follows. -/
def Line.tagToken? (x : Line) (after : List Line) : Option Token :=
  x.tag?.map fun (tag, rest) => .tag tag (Text.endLines (rest :: payloadLines tag after))

/-- The code token of an opening line, which `after` follows and whose latest tag is given. -/
def Line.codeToken? (latest : Option Tag) (x : Line) (after : List Line) : Option Token :=
  if latest = some .description then none
  else x.opens?.map fun lang =>
    .code ⟨lang, Text.trim (Text.joinLines ((after.takeWhile Line.isInner).map (·.text)))⟩

/-- The tag token that starts at a position. -/
def tagTokenAt (lines : List Line) (i : Nat) : Option Token :=
  lines[i]?.bind fun x => x.tagToken? (lines.drop (i + 1))

/-- The code token that starts at a position. -/
def codeTokenAt (lines : List Line) (i : Nat) : Option Token :=
  lines[i]?.bind fun x => x.codeToken? (latestTag? (lines.take i)) (lines.drop (i + 1))

/-- The token that starts at a position. -/
def tokenAt (lines : List Line) (i : Nat) : Option Token :=
  (tagTokenAt lines i).or (codeTokenAt lines i)

/-- The tag of a token that is one. -/
def Token.tag? : Token → Option Tag
  | .tag kind _ => some kind
  | .code _ => none

/-- Whether a token is a tag with its payload. -/
def Token.isTag : Token → Bool
  | .tag .. => true
  | .code _ => false

/-! ## 2. Positions from the front -/

/-- The tokens of lines that stand behind a line with the given latest tag. -/
def tokensFrom (latest : Option Tag) : List Line → List Token
  | [] => []
  | x :: xs =>
    ((x.tagToken? xs).or (x.codeToken? latest xs)).toList ++
      tokensFrom ((x.tag?.map (·.1)).or latest) xs

theorem latestTag?_concat (lines : List Line) (x : Line) :
    latestTag? (lines ++ [x]) = (x.tag?.map (·.1)).or (latestTag? lines) := by
  unfold latestTag?
  rw [List.filterMap_append]
  cases h : x.tag? with
  | none => simp [h]
  | some t => simp [h]

/-- The tokens of the positions behind `front`, read from the front. -/
theorem filterMap_tokenAt (front xs : List Line) :
    (List.range' front.length xs.length).filterMap (tokenAt (front ++ xs)) =
      tokensFrom (latestTag? front) xs := by
  induction xs generalizing front with
  | nil => rfl
  | cons x xs ih =>
    have ih' := ih (front ++ [x])
    rw [latestTag?_concat, List.append_assoc, List.singleton_append, List.length_append,
      List.length_singleton] at ih'
    have hx : tokenAt (front ++ x :: xs) front.length =
        (x.tagToken? xs).or (x.codeToken? (latestTag? front) xs) := by
      simp [tokenAt, tagTokenAt, codeTokenAt]
    rw [tokensFrom, ← ih', List.length_cons, List.range'_succ, List.filterMap_cons, hx]
    cases (x.tagToken? xs).or (x.codeToken? (latestTag? front) xs) <;> rfl

/-! ## 3. Segments -/

theorem takeWhile_isInner_flatMap_places (segs : List Segment) :
    (segs.flatMap Segment.places).takeWhile Line.isInner = [] := by
  cases segs with
  | nil => rfl
  | cons s segs => cases s <;> rfl

/-- Behind an opening line stand the lines inside its region. -/
theorem takeWhile_isInner_innerPlaces (r : Region) (segs : List Segment) :
    ((r.innerPlaces ++ segs.flatMap Segment.places).takeWhile Line.isInner).map (·.text) =
      r.inner := by
  have h : ∀ x ∈ r.inner.map fun l => (⟨l, .inner⟩ : Line), x.isInner = true := by
    simp [Line.isInner]
  have hr := takeWhile_isInner_flatMap_places segs
  rw [Region.innerPlaces, List.append_assoc, List.takeWhile_append_of_pos h]
  cases r.closer with
  | none => simp [hr, Function.comp_def]
  | some c => simp [Line.isInner, Function.comp_def]

/-- Inside a region nothing starts, so the tokens behind it are those of what follows. -/
theorem tokensFrom_innerPlaces (latest : Option Tag) (r : Region) (xs : List Line) :
    tokensFrom latest (r.innerPlaces ++ xs) = tokensFrom latest xs := by
  have h : ∀ ys : List Line, (∀ y ∈ ys, y.tag? = none ∧ y.opens? = none) →
      tokensFrom latest (ys ++ xs) = tokensFrom latest xs := by
    intro ys hys
    induction ys with
    | nil => rfl
    | cons y ys ih =>
      obtain ⟨ht, ho⟩ := hys y List.mem_cons_self
      have ih' := ih fun z hz => hys z (List.mem_cons_of_mem y hz)
      simp [tokensFrom, Line.tagToken?, Line.codeToken?, ht, ho, ih']
  refine h _ fun y hy => ?_
  rcases List.mem_append.1 hy with hy | hy
  · obtain ⟨l, -, rfl⟩ := List.mem_map.1 hy
    exact ⟨rfl, rfl⟩
  · obtain ⟨l, -, rfl⟩ := List.mem_map.1 hy
    exact ⟨rfl, rfl⟩

theorem takeWhile_tag?_innerPlaces (r : Region) (xs : List Line) :
    (r.innerPlaces ++ xs).takeWhile (fun x => x.tag?.isNone) =
      r.innerPlaces ++ xs.takeWhile fun x => x.tag?.isNone := by
  refine List.takeWhile_append_of_pos fun y hy => ?_
  rcases List.mem_append.1 hy with hy | hy
  · obtain ⟨l, -, rfl⟩ := List.mem_map.1 hy
    rfl
  · obtain ⟨l, -, rfl⟩ := List.mem_map.1 hy
    rfl

theorem map_text_places (s : Segment) : s.places.map (·.text) = s.lines := by
  cases s with
  | plain line => rfl
  | fenced r => simp [Segment.places, Segment.lines, Region.lines, Region.innerPlaces,
      Function.comp_def]

/-- The lines before the first tag line are those of the segments that stand before it. -/
theorem takeWhile_tag?_flatMap_places (segs : List Segment) :
    (segs.flatMap Segment.places).takeWhile (fun x => x.tag?.isNone) =
      (groupAt Segment.tag? segs).1.flatMap Segment.places := by
  induction segs with
  | nil => rfl
  | cons s segs ih =>
    cases h : s.tag? with
    | some t =>
      rw [groupAt_cons_heading segs h]
      cases s with
      | plain line =>
        have ht : (⟨line, .plain⟩ : Line).tag? = some t := h
        simp [Segment.places, ht]
      | fenced r => cases h
    | none =>
      rw [groupAt_cons_plain segs h, List.flatMap_cons, List.flatMap_cons, ← ih]
      cases s with
      | plain line =>
        have ht : (⟨line, .plain⟩ : Line).tag? = none := h
        simp [Segment.places, ht]
      | fenced r =>
        have ht : (⟨r.opener, .opener r.lang⟩ : Line).tag? = none := rfl
        simp [Segment.places, ht, takeWhile_tag?_innerPlaces]

/-- The payload of a tag, by the segments that the tag owns. -/
theorem payloadLines_flatMap_places (tag : Tag) (segs : List Segment) :
    payloadLines tag (segs.flatMap Segment.places) =
      if tag = .description then (groupAt Segment.tag? segs).1.flatMap Segment.lines
      else (groupAt Segment.tag? segs).1.filterMap Segment.plain? := by
  rw [payloadLines, takeWhile_tag?_flatMap_places]
  split
  · rename_i h
    subst h
    rw [List.filter_eq_self.2 (by simp), List.map_flatMap]
    simp only [map_text_places]
  · rename_i h
    have hd : (fun x : Line => tag == .description || x.isPlain) = Line.isPlain := by
      funext x
      simp [h]
    rw [hd, filterMap_plain?_eq]

/-- The tokens of a group, in one form for all tags. -/
theorem ofGroup_eq (tag : Tag) (rest : Text) (segs : List Segment) :
    Token.ofGroup ((tag, rest), segs) =
      .tag tag (Text.endLines (rest :: if tag = .description then segs.flatMap Segment.lines
        else segs.filterMap Segment.plain?)) ::
      if tag = .description then [] else Token.ofRegions segs := by
  cases tag <;> rfl

/-- **Reading from the front gives what the groups of segments give.** -/
theorem tokensFrom_flatMap_places (latest : Option Tag) (segs : List Segment) :
    tokensFrom latest (segs.flatMap Segment.places) =
      (if latest = some .description then [] else Token.ofRegions (groupAt Segment.tag? segs).1) ++
        (groupAt Segment.tag? segs).2.flatMap Token.ofGroup := by
  induction segs generalizing latest with
  | nil => simp [tokensFrom, Token.ofRegions]
  | cons s segs ih =>
    cases s with
    | plain line =>
      cases h : Tag.ofLine? line with
      | none =>
        have hs : (Segment.plain line).tag? = none := h
        have hx : (⟨line, .plain⟩ : Line).tag? = none := h
        rw [groupAt_cons_plain segs hs, List.flatMap_cons]
        simp [Segment.places, tokensFrom, Line.tagToken?, Line.codeToken?, hx, Line.opens?, ih,
          Token.ofRegions, Segment.fenced?]
      | some t =>
        obtain ⟨tag, rest⟩ := t
        have hs : (Segment.plain line).tag? = some (tag, rest) := h
        have hx : (⟨line, .plain⟩ : Line).tag? = some (tag, rest) := h
        rw [groupAt_cons_heading segs hs, List.flatMap_cons]
        simp only [Segment.places, List.singleton_append, tokensFrom, Line.tagToken?, hx, ih,
          Option.map_some, Option.some_or, Option.toList_some, payloadLines_flatMap_places]
        rw [List.flatMap_cons, ofGroup_eq]
        simp [Token.ofRegions]
    | fenced r =>
      have hs : (Segment.fenced r).tag? = none := rfl
      have hx : (⟨r.opener, .opener r.lang⟩ : Line).tag? = none := rfl
      rw [groupAt_cons_plain segs hs, List.flatMap_cons]
      simp only [Segment.places, List.cons_append, tokensFrom, tokensFrom_innerPlaces, ih]
      by_cases hl : latest = some .description
      · simp [Line.tagToken?, Line.codeToken?, hx, hl]
      · simp [Line.tagToken?, Line.codeToken?, hx, hl, Line.opens?, takeWhile_isInner_innerPlaces,
          Token.ofRegions, Segment.fenced?, Region.block, Fence.code]

/-! ## 4. All positions -/

/-- A tag line opens no region. -/
theorem Line.opens?_of_tag? {x : Line} {t : Tag × Text} (h : x.tag? = some t) : x.opens? = none := by
  obtain ⟨text, place⟩ := x
  cases place with
  | plain => rfl
  | opener lang => cases h
  | inner => cases h
  | closer => cases h

theorem isTag_of_tagTokenAt {lines : List Line} {i : Nat} {t : Token}
    (h : tagTokenAt lines i = some t) : t.isTag = true := by
  obtain ⟨x, -, hx⟩ := Option.bind_eq_some_iff.1 h
  obtain ⟨p, -, rfl⟩ := Option.map_eq_some_iff.1 hx
  rfl

theorem isTag_of_codeTokenAt {lines : List Line} {i : Nat} {t : Token}
    (h : codeTokenAt lines i = some t) : t.isTag = false := by
  obtain ⟨x, -, hx⟩ := Option.bind_eq_some_iff.1 h
  unfold Line.codeToken? at hx
  split at hx
  · cases hx
  · obtain ⟨p, -, rfl⟩ := Option.map_eq_some_iff.1 hx
    rfl

theorem codeTokenAt_of_tagTokenAt {lines : List Line} {i : Nat} {t : Token}
    (h : tagTokenAt lines i = some t) : codeTokenAt lines i = none := by
  obtain ⟨x, hi, hx⟩ := Option.bind_eq_some_iff.1 h
  obtain ⟨p, hp, -⟩ := Option.map_eq_some_iff.1 hx
  simp [codeTokenAt, hi, Line.codeToken?, Line.opens?_of_tag? hp]

/-- At each position the tag tokens are those of the tag lines. -/
theorem filter_isTag_tokenAt (lines : List Line) (i : Nat) :
    (tokenAt lines i).filter Token.isTag = tagTokenAt lines i := by
  unfold tokenAt
  cases ht : tagTokenAt lines i with
  | some t => simp [Option.filter, isTag_of_tagTokenAt ht]
  | none =>
    cases hc : codeTokenAt lines i with
    | none => rfl
    | some t => simp [Option.filter, isTag_of_codeTokenAt hc]

/-- At each position the code tokens are those of the opening lines. -/
theorem filter_not_isTag_tokenAt (lines : List Line) (i : Nat) :
    (tokenAt lines i).filter (fun t => !t.isTag) = codeTokenAt lines i := by
  unfold tokenAt
  cases ht : tagTokenAt lines i with
  | some t => simp [Option.filter, isTag_of_tagTokenAt ht, codeTokenAt_of_tagTokenAt ht]
  | none =>
    cases hc : codeTokenAt lines i with
    | none => rfl
    | some t => simp [Option.filter, isTag_of_codeTokenAt hc]

/-- The tokens of a body are those of its positions, in order. -/
theorem ofLines_value (lines : List Text) :
    (Token.ofLines lines).value =
      (List.range lines.length).filterMap (tokenAt (places lines)) := by
  have hlen : (places lines).length = lines.length := by
    rw [← List.length_map (·.text), places, map_text_placesBy]
  have h := filterMap_tokenAt [] (places lines)
  rw [List.nil_append, List.length_nil, ← List.range_eq_range', hlen] at h
  rw [h, places, ← flatMap_places, tokensFrom_flatMap_places]
  rfl

/-- **Tokenizing loses nothing, repeats nothing and keeps the order.** With the lines of a body at
    their places, the tag tokens are those of the tag lines, the code tokens are those of the
    regions that no `@description` owns, and all tokens stand in the order of the lines at which
    they start. -/
theorem ofLines_eq_positions (lines : List Text) :
    (Token.ofLines lines).value.filter Token.isTag =
      (List.range lines.length).filterMap (tagTokenAt (places lines)) ∧
    (Token.ofLines lines).value.filter (fun t => !t.isTag) =
      (List.range lines.length).filterMap (codeTokenAt (places lines)) ∧
    (Token.ofLines lines).value =
      (List.range lines.length).filterMap (tokenAt (places lines)) := by
  have h := ofLines_value lines
  refine ⟨?_, ?_, h⟩
  · rw [h, List.filter_filterMap]
    simp only [filter_isTag_tokenAt]
  · rw [h, List.filter_filterMap]
    simp only [filter_not_isTag_tokenAt]

end PatternBook
