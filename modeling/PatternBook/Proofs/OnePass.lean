import PatternBook.Proofs.Standalone

/-!
# Tokens in one pass

`Token.ofLines` cuts the lines of a body into segments and groups these at the tag lines. This file
reads the same lines one by one, with a reader that holds what it has read so far:

* `Reader` -- the tokens, which of them is the current tag, the fence that is open if there is one,
  and the events;
* `Reader.use` -- what the reader takes a line for. It asks in a fixed order: whether a fence is open,
  whether the line is a tag line, whether it opens a fence;
* `Reader.step` -- one line; `Reader.finish` -- the end of the body, where an open fence ends too;
* `Reader.step_tag`, `step_text`, `step_opener`, `foldl_inner`, `step_closer` -- one lemma per use of a
  line, on readers whose current tag stands behind given tokens (`Reader.standing`);
* `Reader.finish_run` -- the reader ends with the tokens and the events of `Token.ofLines`.
-/

namespace PatternBook

/-! ## 1. The reader -/

/-- A fence that is open: the language it names, the lines inside so far, and whether it is literal,
    which means that its lines go to the payload of the current tag instead. -/
structure OpenFence where
  lang : Option Text
  inner : List Text
  literal : Bool
  deriving DecidableEq

namespace OpenFence

/-- The fence with more lines inside, which a literal one does not keep. -/
def push (f : OpenFence) (ls : List Text) : OpenFence :=
  if f.literal then f else { f with inner := f.inner ++ ls }

theorem literal_push (f : OpenFence) (ls : List Text) : (f.push ls).literal = f.literal := by
  cases h : f.literal <;> simp [push, h]

/-- The token of a fence that ends. -/
def tokens (f : OpenFence) : List Token :=
  if f.literal then [] else [.code ⟨f.lang, Fence.code f.inner⟩]

end OpenFence

/-- The token with one more line in its payload, if it is a tag token. -/
def Token.addLine (line : Text) : Token → Token
  | tag t payload => tag t (payload ++ line ++ ['\n'])
  | code block => code block

/-- What has been read of the lines of a body: the tokens, the position of the current tag among them,
    the open fence, and the events. -/
structure Reader where
  tokens : List Token := []
  current : Option Nat := none
  fence : Option OpenFence := none
  events : List Event := []
  deriving DecidableEq

namespace Reader

/-- What a reader takes a line for. -/
inductive Use where
  | fenced (f : OpenFence)
  | tag (t : Tag) (rest : Text)
  | opener (lang : Option Text)
  | text
  deriving DecidableEq

/-- Whether a line opens a fence, stands inside one, or closes one. -/
def Use.isFenced : Use → Bool
  | fenced _ | opener _ => true
  | tag .. | text => false

/-- The use of a line. While a fence is open nothing else is asked of the line. -/
def use (s : Reader) (line : Text) : Use :=
  match s.fence with
  | some f => .fenced f
  | none =>
    match Tag.ofLine? line with
    | some (t, rest) => .tag t rest
    | none =>
      match Fence.opening? line with
      | some lang => .opener lang
      | none => .text

/-- The current tag. -/
def currentTag? (s : Reader) : Option Tag := s.current.bind fun i => s.tokens[i]?.bind Token.tag?

/-- One more line for the payload of the current tag, if there is one. -/
def addLine (s : Reader) (line : Text) : Reader :=
  match s.current with
  | none => s
  | some i => { s with tokens := s.tokens.modify i (Token.addLine line) }

/-- One more line for the payload of the current tag, if the fence that holds the line is literal. -/
def copyLine (s : Reader) (literal : Bool) (line : Text) : Reader :=
  if literal then s.addLine line else s

/-- Reads one line. -/
def step (s : Reader) (line : Text) : Reader :=
  match s.use line with
  | .fenced f =>
    let s := s.copyLine f.literal line
    if Fence.isClosing line then { s with tokens := s.tokens ++ f.tokens, fence := none }
    else { s with fence := some (f.push [line]) }
  | .tag t rest =>
    { s with tokens := s.tokens ++ [.tag t (rest ++ ['\n'])], current := some s.tokens.length }
  | .opener lang =>
    let literal := s.currentTag? == some .description
    let s := s.copyLine literal line
    { s with fence := some ⟨lang, [], literal⟩ }
  | .text =>
    let s := if s.current.isNone && !Text.isAllBlank line then
      { s with events := s.events ++ [.textBeforeTag line] } else s
    s.addLine line

/-- Reads lines from the start of a body. -/
def run (lines : List Text) : Reader := lines.foldl step {}

/-- The tokens and the events at the end of the lines. -/
def finish (s : Reader) : Logged (List Token) :=
  match s.fence with
  | none => ⟨s.tokens, s.events⟩
  | some f => ⟨s.tokens ++ f.tokens, s.events ++ [.unclosedFence]⟩

/-! ## 2. Readers whose current tag is known -/

end Reader

/-- The tag that receives lines, if there is one, and its payload so far. -/
abbrev Head := Option (Tag × Text)

namespace Head

/-- The head with more lines in its payload, each of which a newline ends. -/
def add (ls : List Text) (head : Head) : Head := head.map fun (t, payload) =>
  (t, payload ++ Text.endLines ls)

/-- The head with the lines of a fence in its payload, if the fence is literal. -/
def copy (literal : Bool) (ls : List Text) (head : Head) : Head :=
  if literal then head.add ls else head

/-- The token of the head. -/
def tokens (head : Head) : List Token := (head.map fun (t, payload) => .tag t payload).toList

/-- Whether fences behind the head are literal. -/
def literal (head : Head) : Bool := head.map (·.1) == some .description

theorem add_add (ls ms : List Text) (head : Head) : (head.add ls).add ms = head.add (ls ++ ms) := by
  cases head <;> simp [add, Text.endLines]

theorem add_nil (head : Head) : head.add [] = head := by
  cases head <;> simp [add, Text.endLines]

theorem copy_nil (literal : Bool) (head : Head) : head.copy literal [] = head := by
  rw [copy, add_nil, ite_self]

theorem copy_copy (literal : Bool) (ls ms : List Text) (head : Head) :
    (head.copy literal ls).copy literal ms = head.copy literal (ls ++ ms) := by
  cases literal with
  | true => exact add_add ls ms head
  | false => rfl

theorem isNone_copy (literal : Bool) (ls : List Text) (head : Head) :
    (head.copy literal ls).isNone = head.isNone := by
  cases literal <;> cases head <;> rfl

@[simp] theorem literal_add (ls : List Text) (head : Head) : (head.add ls).literal = head.literal := by
  cases head <;> rfl

@[simp] theorem isNone_add (ls : List Text) (head : Head) : (head.add ls).isNone = head.isNone := by
  cases head <;> rfl

end Head

namespace Reader

/-- The reader whose current tag, if there is one, stands behind the tokens `before`, and whose code
    tokens since then are given. -/
def standing (before : List Token) (head : Head) (codes : List Token) (fence : Option OpenFence)
    (events : List Event) : Reader where
  tokens := before ++ head.tokens ++ codes
  current := head.map fun _ => before.length
  fence := fence
  events := events

theorem modify_length {α : Type} (f : α → α) (front : List α) (a : α) (back : List α) :
    (front ++ a :: back).modify front.length f = front ++ f a :: back := by
  induction front with
  | nil => rfl
  | cons b front ih => rw [List.cons_append, List.length_cons, List.modify_succ_cons, ih]; rfl

section Standing

variable {before codes : List Token} {head : Head} {events : List Event}

theorem currentTag?_standing (fence : Option OpenFence) :
    (standing before head codes fence events).currentTag? = head.map (·.1) := by
  cases head with
  | none => rfl
  | some h => simp [currentTag?, standing, Head.tokens, Token.tag?]

theorem addLine_standing (fence : Option OpenFence) (line : Text) :
    (standing before head codes fence events).addLine line =
      standing before (head.add [line]) codes fence events := by
  cases head with
  | none => rfl
  | some h =>
    simp [addLine, standing, Head.tokens, modify_length, Token.addLine, Head.add, Text.endLines]

theorem copyLine_standing (literal : Bool) (fence : Option OpenFence) (line : Text) :
    (standing before head codes fence events).copyLine literal line =
      standing before (head.copy literal [line]) codes fence events := by
  cases literal with
  | true => exact addLine_standing fence line
  | false => rfl

/-- A tag line ends the tag before it and becomes the current one. -/
theorem step_tag {line rest : Text} {t : Tag} (h : Tag.ofLine? line = some (t, rest)) :
    (standing before head codes none events).step line =
      standing (before ++ head.tokens ++ codes) (some (t, rest ++ ['\n'])) [] none events := by
  simp [step, use, standing, Head.tokens, h]

/-- Text goes to the current tag; before the first tag it is reported and dropped. -/
theorem step_text {line : Text} (ht : Tag.ofLine? line = none) (ho : Fence.opening? line = none) :
    (standing before head codes none events).step line =
      standing before (head.add [line]) codes none
        (events ++ if head.isNone then Token.leadEvents [.plain line] else []) := by
  have huse : (standing before head codes none events).use line = .text := by
    simp [use, standing, ht, ho]
  rw [step, huse]
  cases head with
  | some h =>
    have hcurrent : (standing before (some h) codes none events).current.isNone = false := rfl
    simp [hcurrent, addLine_standing]
  | none =>
    cases hb : line.isAllBlank <;>
      simp [standing, addLine, Head.add, Token.leadEvents, Segment.plain?, hb]

/-- An opening line opens a fence; the line itself goes to the payload if the fence is literal. -/
theorem step_opener {line : Text} {lang : Option Text} (h : Fence.opening? line = some lang) :
    (standing before head codes none events).step line =
      standing before (head.copy head.literal [line]) codes (some ⟨lang, [], head.literal⟩)
        events := by
  have huse : (standing before head codes none events).use line = .opener lang := by
    simp [use, standing, h, Tag.ofLine?_of_opening? h]
  rw [step, huse]
  simp only [currentTag?_standing, copyLine_standing]
  rfl

/-- A line inside a fence is kept with the fence, or goes to the payload if the fence is literal. -/
theorem step_inner {line : Text} (h : Fence.isClosing line = false) (f : OpenFence) :
    (standing before head codes (some f) events).step line =
      standing before (head.copy f.literal [line]) codes (some (f.push [line])) events := by
  have huse : (standing before head codes (some f) events).use line = .fenced f := rfl
  rw [step, huse]
  simp only [copyLine_standing, h]
  rfl

/-- A closing line ends a fence and gives its token, or goes to the payload if the fence is literal. -/
theorem step_closer {line : Text} (h : Fence.isClosing line = true) (f : OpenFence) :
    (standing before head codes (some f) events).step line =
      standing before (head.copy f.literal [line]) (codes ++ f.tokens) none events := by
  have huse : (standing before head codes (some f) events).use line = .fenced f := rfl
  rw [step, huse]
  simp only [copyLine_standing, h]
  simp [standing]

/-- The lines inside a fence, one after another. -/
theorem foldl_inner {inner : List Text} (h : ∀ l ∈ inner, Fence.isClosing l = false)
    (f : OpenFence) :
    inner.foldl step (standing before head codes (some f) events) =
      standing before (head.copy f.literal inner) codes (some (f.push inner)) events := by
  induction inner generalizing head f with
  | nil => simp [Head.copy_nil, OpenFence.push]
  | cons l ls ih =>
    have hpush : (f.push [l]).push ls = f.push (l :: ls) := by
      cases hf : f.literal <;> simp [OpenFence.push, hf]
    rw [List.foldl_cons, step_inner (h l List.mem_cons_self),
      ih fun m hm => h m (List.mem_cons_of_mem l hm), hpush, OpenFence.literal_push, Head.copy_copy]
    rfl

/-- An opening line and lines that do not close its fence. -/
theorem foldl_region {opener : Text} {lang : Option Text} {inner : List Text}
    (ho : Fence.opening? opener = some lang) (hi : ∀ l ∈ inner, Fence.isClosing l = false) :
    (opener :: inner).foldl step (standing before head codes none events) =
      standing before (head.copy head.literal (opener :: inner)) codes
        (some (OpenFence.push ⟨lang, [], head.literal⟩ inner)) events := by
  rw [List.foldl_cons, step_opener ho, foldl_inner hi, Head.copy_copy]
  rfl

end Standing

end Reader

/-! ## 3. Segments -/

namespace Head

/-- The lines of segments that the payload of the head takes. -/
def owned (head : Head) (segs : List Segment) : List Text :=
  if head.literal then segs.flatMap Segment.lines else segs.filterMap Segment.plain?

/-- The code tokens of segments, none of which is made where fences are literal. -/
def codesOf (head : Head) (segs : List Segment) : List Token :=
  if head.literal then [] else Token.ofRegions segs

/-- The tokens of the head, of the code behind it, and of the segments that follow. -/
def grouped (head : Head) (codes : List Token) (segs : List Segment) : List Token :=
  (head.add (head.owned segs)).tokens ++ codes ++ head.codesOf segs

/-- Segments can be taken one by one. -/
theorem grouped_cons (head : Head) (codes : List Token) (s : Segment) (segs : List Segment) :
    head.grouped codes (s :: segs) =
      (head.add (head.owned [s])).grouped (codes ++ head.codesOf [s]) segs := by
  unfold grouped owned codesOf
  rw [literal_add, add_add]
  cases head.literal with
  | true => simp
  | false =>
    have hplain : (s :: segs).filterMap Segment.plain? =
        [s].filterMap Segment.plain? ++ segs.filterMap Segment.plain? := by
      rw [← List.filterMap_append]
      rfl
    have hregions : Token.ofRegions (s :: segs) = Token.ofRegions [s] ++ Token.ofRegions segs := by
      rw [Token.ofRegions, ← List.singleton_append, List.filterMap_append]
      rfl
    simp [hplain, hregions]

theorem grouped_nil (head : Head) (codes : List Token) :
    head.grouped codes [] = head.tokens ++ codes := by
  simp [grouped, owned, codesOf, Token.ofRegions, add_nil]

theorem owned_plain (head : Head) (l : Text) : head.owned [.plain l] = [l] := by
  unfold owned
  split <;> rfl

theorem codesOf_plain (head : Head) (l : Text) : head.codesOf [.plain l] = [] := by
  unfold codesOf
  split <;> rfl

/-- The payload takes the lines of a region if they are literal. -/
theorem add_owned_fenced (head : Head) (r : Region) :
    head.add (head.owned [.fenced r]) = head.copy head.literal r.lines := by
  unfold owned copy
  cases head.literal with
  | true => simp [Segment.lines]
  | false => exact add_nil head

/-- A region gives the token of its fence. -/
theorem codesOf_fenced (head : Head) (opener : Text) (lang : Option Text) (inner : List Text)
    (closer : Option Text) : head.codesOf [.fenced ⟨opener, lang, inner, closer⟩] =
      (OpenFence.push ⟨lang, [], head.literal⟩ inner).tokens := by
  unfold codesOf
  cases h : head.literal <;>
    simp [OpenFence.push, OpenFence.tokens, Token.ofRegions, Segment.fenced?, Region.block]

/-- A group is a tag token with what it owns. -/
theorem grouped_tag (t : Tag) (rest : Text) (segs : List Segment) :
    grouped (some (t, rest ++ ['\n'])) [] segs = Token.ofGroup ((t, rest), segs) := by
  rw [ofGroup_eq]
  by_cases ht : t = .description <;>
    simp [grouped, owned, codesOf, literal, add, tokens, Text.endLines, ht]

end Head

theorem Token.leadEvents_cons (s : Segment) (segs : List Segment) :
    leadEvents (s :: segs) = leadEvents [s] ++ leadEvents segs := by
  rw [leadEvents, ← List.singleton_append, List.filterMap_append, List.filter_append,
    List.map_append]
  rfl

namespace Reader

/-- **The reader and the groups of segments agree**, wherever reading starts. -/
theorem finish_foldl (ls : List Text) (before : List Token) (head : Head) (codes : List Token)
    (events : List Event) :
    (ls.foldl step (standing before head codes none events)).finish =
      ⟨before ++ head.grouped codes (groupAt Segment.tag? (segments ls)).1 ++
          (groupAt Segment.tag? (segments ls)).2.flatMap Token.ofGroup,
        events ++ (if head.isNone then Token.leadEvents (groupAt Segment.tag? (segments ls)).1 else [])
          ++ Token.unclosedEvents (segments ls)⟩ := by
  induction ls using segments_induction generalizing before head codes events with
  | nil =>
    rw [List.foldl_nil, segments_nil, groupAt_nil, Head.grouped_nil]
    simp [finish, standing, Token.leadEvents, Token.unclosedEvents]
  | plain l ls ho ih =>
    have hunclosed : Token.unclosedEvents (.plain l :: segments ls) =
      Token.unclosedEvents (segments ls) := rfl
    rw [List.foldl_cons, segments_cons ho, hunclosed]
    cases ht : Tag.ofLine? l with
    | some t =>
      obtain ⟨t, rest⟩ := t
      have hheading : (Segment.plain l).tag? = some (t, rest) := ht
      rw [step_tag ht, ih, groupAt_cons_heading _ hheading, Head.grouped_tag, Head.grouped_nil]
      simp [Token.leadEvents]
    | none =>
      have hplain : (Segment.plain l).tag? = none := ht
      rw [step_text ht ho, ih, groupAt_cons_plain _ hplain, Head.grouped_cons, Head.owned_plain,
        Head.codesOf_plain, List.append_nil,
        Token.leadEvents_cons (.plain l) (groupAt Segment.tag? (segments ls)).1, Head.isNone_add]
      cases head.isNone <;> simp
  | region opener lang inner closer ls ho hi hc ih =>
    have hplain : (Segment.fenced ⟨opener, lang, inner, some closer⟩).tag? = none := rfl
    rw [List.foldl_append, foldl_region ho hi, List.foldl_cons, step_closer hc, ih,
      segments_region ho hi hc, groupAt_cons_plain _ hplain, Head.grouped_cons,
      Head.add_owned_fenced, Head.codesOf_fenced, OpenFence.literal_push, Head.copy_copy,
      Head.isNone_copy]
    rfl
  | unclosed opener lang inner ho hi =>
    have hplain : (Segment.fenced ⟨opener, lang, inner, none⟩).tag? = none := rfl
    rw [foldl_region ho hi, segments_unclosed ho hi, groupAt_cons_plain _ hplain, groupAt_nil,
      Head.grouped_cons, Head.add_owned_fenced, Head.codesOf_fenced, Head.grouped_nil]
    have hlead : Token.leadEvents [.fenced ⟨opener, lang, inner, none⟩] = [] := rfl
    simp [finish, standing, hlead, Token.unclosedEvents, Segment.isUnclosed, Region.lines]

/-- **One pass gives the tokens and the events** that the segments of the lines give. -/
theorem finish_run (ls : List Text) : (run ls).finish = Token.ofLines ls :=
  (finish_foldl ls [] none [] []).trans rfl

/-! ## 4. What the reader takes for a part of a fence -/

/-- Whether the reader takes the line at a position for a part of a fence, having read the lines before
    it. -/
def fencedAt (ls : List Text) (i : Nat) : Bool :=
  ls[i]?.any fun l => ((run (ls.take i)).use l).isFenced

theorem fence_addLine (s : Reader) (line : Text) : (s.addLine line).fence = s.fence := by
  unfold addLine
  split <;> rfl

/-- One line leaves a fence open where the place of the line leads inside. -/
theorem isSome_fence_step (s : Reader) (line : Text) :
    (s.step line).fence.isSome = (Line.Place.ofText s.fence.isSome line).leadsInside := by
  unfold step use
  cases hf : s.fence with
  | some f =>
    cases hc : Fence.isClosing line <;>
      simp [Line.Place.ofText, Line.Place.leadsInside, hc]
  | none =>
    cases ho : Fence.opening? line with
    | some lang => simp [Tag.ofLine?_of_opening? ho, Line.Place.ofText, Line.Place.leadsInside, ho]
    | none =>
      cases ht : Tag.ofLine? line with
      | some t => simp [Line.Place.ofText, Line.Place.leadsInside, ho]
      | none =>
        simp only [Line.Place.ofText, Line.Place.leadsInside, ho]
        rw [fence_addLine]
        split <;> simp [hf]

/-- A line is taken for a part of a fence where its place is not plain. -/
theorem isFenced_use (s : Reader) (line : Text) :
    (s.use line).isFenced = !(Line.Place.ofText s.fence.isSome line == .plain) := by
  unfold use
  cases hf : s.fence with
  | some f => cases hc : Fence.isClosing line <;> simp [Line.Place.ofText, Use.isFenced, hc]
  | none =>
    cases ho : Fence.opening? line with
    | some lang => simp [Tag.ofLine?_of_opening? ho, Line.Place.ofText, Use.isFenced, ho]
    | none => cases ht : Tag.ofLine? line <;> simp [Line.Place.ofText, Use.isFenced, ho]

/-- **The reader finds the fences at the places of the lines.** -/
theorem fencedAt_eq (ls : List Text) (i : Nat) :
    fencedAt ls i = (places ls)[i]?.any fun x => !x.isPlain :=
  any_fenced_foldl isSome_fence_step isFenced_use ls i {}

end Reader

end PatternBook
