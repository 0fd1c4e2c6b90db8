import PatternBook.Proofs.Headings
import PatternBook.Proofs.Log
import PatternBook.Proofs.Tidy

/-!
# The headings of a document as it is written

`Proofs.Headings` reads the headings of a document off its patterns. A reader of the document finds
them in its lines instead: a line of up to six hashes and a space is a heading, unless it stands in a
fenced region. The texts of patterns are copied into the document as they are, so they may bring in
headings of their own, or leave a region open that swallows what follows.

* `headingsOf` -- the headings among lines, and `IndexAgrees` -- each link of the index leads to the
  heading of its pattern by the anchors of the headings that are written;
* `not_indexAgrees` -- this fails for a text with a heading of its own that shares its slug with a
  later pattern, since such headings are not counted;
* `interleaved_written` -- where each piece of a document closes the regions that it opens, the
  written headings are those read off the patterns and those of the texts, each in order;
* `mem_ruleAnchors_iff` -- headings whose anchors are of another kind do not change which anchors of
  one kind are taken;
* `indexAgrees_of_apart` -- so the index agrees with the document if the pieces close their regions
  and the anchors of the patterns are of a kind that the headings of the texts never get.
-/

namespace PatternBook

open Anchors (numbered)

/-! ## 1. Headings that are written -/

/-- The text of a heading line: one to six hashes, a space, and the text. -/
def headingText? (line : Text) : Option Text :=
  let depth := (line.takeWhile (· == '#')).length
  match line.dropWhile (· == '#') with
  | ' ' :: text => if 1 ≤ depth ∧ depth ≤ 6 then some (Text.trim text) else none
  | _ => none

/-- The text of a line that is a heading at its place. -/
def Line.heading? (x : Line) : Option Text := if x.isPlain then headingText? x.text else none

/-- The headings among lines. -/
def headingsOf (ls : List Text) : List Text := (places ls).filterMap Line.heading?

/-- Every region that lines open is closed by one of them. -/
def AllClosed (ls : List Text) : Prop := ∀ s ∈ segments ls, s.isUnclosed = false

instance (ls : List Text) : Decidable (AllClosed ls) :=
  inferInstanceAs (Decidable (∀ s ∈ segments ls, s.isUnclosed = false))

namespace Markdown

/-- The lines that a piece comes to; a text may have several lines. -/
def Piece.written (x : Piece) : List Text := x.toLines.flatMap Text.splitLines

/-- The headings that the texts of a piece bring in. -/
def Piece.ownHeadings : Piece → List Text
  | .heading _ _ => []
  | .lines ls => headingsOf (Piece.lines ls).written

/-- The lines of a document with their places. -/
def documentLines (patterns : List Pattern) : List Line :=
  places (Text.splitLines (render patterns))

/-- The number of lines before the section with the given number. -/
def sectionStart (patterns : List Pattern) (i : Nat) : Nat :=
  3 + patterns.length + ((patterns.take i).flatMap fun p =>
    (sectionPieces p).flatMap Piece.written).length

/-- The index agrees with the document as it is written: the section of each pattern starts with the
    pattern's name as a heading, and the link of the pattern leads to the anchor that the rule gives
    to this heading among all headings of the document. -/
def IndexAgrees (patterns : List Pattern) : Prop :=
  ∀ i p, patterns[i]? = some p → ∃ anchor,
    (documentLines patterns)[i + 2]? = some ⟨indexItem p.name anchor, .plain⟩ ∧
    (documentLines patterns)[sectionStart patterns i]? = some ⟨"### ".toList ++ p.name, .plain⟩ ∧
    (ruleAnchors [] ((documentLines patterns).filterMap Line.heading?))[
      (((documentLines patterns).take (sectionStart patterns i)).filterMap
        Line.heading?).length]? = some anchor

/-- A comment in which a description has a heading with the name of the next pattern. -/
def shadowing : Text := "/*\n@pattern A\n@description\n# B\n@pattern B\n*/".toList

/-- Headings in texts are not counted, so the link of a later pattern can miss its heading. -/
theorem not_indexAgrees : ¬ IndexAgrees (Source.patterns shadowing) := by
  intro h
  have hpattern : (Source.patterns shadowing)[1]? = some { name := "B".toList } := by
    decide +kernel
  obtain ⟨anchor, hindex, -, hwritten⟩ := h 1 _ hpattern
  have hlink : (documentLines (Source.patterns shadowing))[1 + 2]? =
      some ⟨indexItem "B".toList "b".toList, .plain⟩ := by decide +kernel
  have hheadings : (documentLines (Source.patterns shadowing)).filterMap Line.heading? =
      ["Index", "A", "B", "B"].map String.toList := by decide +kernel
  have hbefore : (((documentLines (Source.patterns shadowing)).take
      (sectionStart (Source.patterns shadowing) 1)).filterMap Line.heading?).length = 3 := by
    decide +kernel
  have hrule := (Anchors.tracks_claimAll Anchors.tracks_empty
    (["Index", "A", "B", "B"].map String.toList)).1
  have hsecond : (Anchors.claimAll {} (["Index", "A", "B", "B"].map String.toList)).1[3]? =
      some "b-1".toList := by decide +kernel
  rw [hheadings, hbefore, ← hrule, hsecond] at hwritten
  rw [hlink, ← Option.some.inj hwritten] at hindex
  exact absurd hindex (by decide)

end Markdown

/-! ## 2. Lines that close their regions -/

theorem places_append {ls : List Text} (h : AllClosed ls) (ms : List Text) :
    places (ls ++ ms) = places ls ++ places ms := by
  simp only [places, ← flatMap_places, segmentsBy_append id h, List.flatMap_append]

theorem AllClosed.append {ls ms : List Text} (h : AllClosed ls) (k : AllClosed ms) :
    AllClosed (ls ++ ms) := by
  intro s hs
  rw [segments, segmentsBy_append id h] at hs
  rcases List.mem_append.1 hs with hs | hs
  · exact h s hs
  · exact k s hs

theorem allClosed_nil : AllClosed [] := by
  intro s hs
  rw [segments, segmentsBy] at hs
  cases hs

theorem allClosed_flatMap {α : Type} {l : List α} {f : α → List Text}
    (h : ∀ a ∈ l, AllClosed (f a)) : AllClosed (l.flatMap f) := by
  induction l with
  | nil => exact allClosed_nil
  | cons a l ih =>
    rw [List.flatMap_cons]
    exact (h a List.mem_cons_self).append (ih fun b hb => h b (List.mem_cons_of_mem a hb))

theorem headingsOf_append {ls : List Text} (h : AllClosed ls) (ms : List Text) :
    headingsOf (ls ++ ms) = headingsOf ls ++ headingsOf ms := by
  rw [headingsOf, places_append h, List.filterMap_append]
  rfl

/-- A line that does not start with a backtick opens no region. -/
theorem Fence.opening?_of_head? {l : Text} (h : l.head? ≠ some '\x60') : opening? l = none := by
  refine Option.eq_none_iff_forall_ne_some.2 fun lang hlang => h ?_
  obtain ⟨gap, hopen⟩ := opening?_eq_some_iff.1 hlang
  rw [hopen.line_eq]
  rfl

/-- Lines that open no region are plain. -/
theorem segments_of_plain {ls : List Text} (h : ∀ l ∈ ls, l.head? ≠ some '\x60') :
    segments ls = ls.map .plain := by
  induction ls with
  | nil => rw [segments, segmentsBy, List.map_nil]
  | cons l ls ih =>
    rw [segments_cons (Fence.opening?_of_head? (h l List.mem_cons_self)),
      ih fun m hm => h m (List.mem_cons_of_mem l hm), List.map_cons]

theorem allClosed_of_plain {ls : List Text} (h : ∀ l ∈ ls, l.head? ≠ some '\x60') :
    AllClosed ls := by
  intro s hs
  rw [segments_of_plain h] at hs
  obtain ⟨l, -, rfl⟩ := List.mem_map.1 hs
  rfl

theorem places_of_plain {ls : List Text} (h : ∀ l ∈ ls, l.head? ≠ some '\x60') :
    places ls = ls.map (⟨·, .plain⟩) := by
  rw [places, ← flatMap_places, ← segments, segments_of_plain h, List.flatMap_map]
  exact List.map_eq_flatMap.symm

theorem Interleaved.all_right {α : Type} (l : List α) : Interleaved l [] l := by
  induction l with
  | nil => exact .nil
  | cons a l ih => exact .right a ih

/-- Lines that are ended are split at their own newlines and at their ends. -/
theorem Text.splitLines_endLines (ls : List Text) :
    splitLines (endLines ls) = ls.flatMap splitLines ++ [[]] := by
  induction ls with
  | nil => exact List.splitOn_nil '\n'
  | cons l ls ih =>
    have hcons : endLines (l :: ls) = l ++ '\n' :: endLines ls := by simp [endLines]
    rw [hcons, splitLines, List.splitOn_append_cons_self, ← splitLines, ← splitLines, ih,
      List.flatMap_cons, List.append_assoc]

theorem Text.flatMap_splitLines_of_no_newline {ls : List Text} (h : ∀ l ∈ ls, '\n' ∉ l) :
    ls.flatMap splitLines = ls := by
  induction ls with
  | nil => rfl
  | cons l ls ih =>
    have hl : splitLines l = [l] := List.splitOn_eq_singleton (h l List.mem_cons_self)
    rw [List.flatMap_cons, hl, ih fun m hm => h m (List.mem_cons_of_mem l hm)]
    rfl

theorem headingText?_heading {depth : Nat} (hlow : 1 ≤ depth) (hhigh : depth ≤ 6) {text : Text}
    (h : text.trim = text) :
    headingText? (List.replicate depth '#' ++ [' '] ++ text) = some text := by
  have hmarks : ∀ c ∈ List.replicate depth '#', (c == '#') = true := by
    intro c hc
    rw [List.eq_of_mem_replicate hc]
    rfl
  have htake : (List.replicate depth '#' ++ [' '] ++ text).takeWhile (· == '#') =
      List.replicate depth '#' := by
    rw [List.append_assoc, List.takeWhile_append_of_pos hmarks]
    exact List.append_nil _
  have hdrop : (List.replicate depth '#' ++ [' '] ++ text).dropWhile (· == '#') = ' ' :: text := by
    rw [List.append_assoc, List.dropWhile_append_of_pos hmarks]
    rfl
  rw [headingText?, htake, hdrop, List.length_replicate]
  exact (if_pos ⟨hlow, hhigh⟩).trans (congrArg some h)

theorem headingText?_of_head? {l : Text} (h : l.head? ≠ some '#') : headingText? l = none := by
  have htake : l.takeWhile (· == '#') = [] := by
    cases l with
    | nil => rfl
    | cons c l => exact List.takeWhile_cons_of_neg fun hc => h (congrArg some (beq_iff_eq.1 hc))
  unfold headingText?
  rw [htake]
  split
  · rfl
  · rfl

namespace Markdown

/-! ## 3. Pieces -/

/-- A piece that reads as what it is meant to be: a heading of one line, or lines that close the
    regions that they open. -/
def Piece.Sound : Piece → Prop
  | .heading depth text => (1 ≤ depth ∧ depth ≤ 6) ∧ text.IsPhrase
  | .lines ls => AllClosed (Piece.lines ls).written

theorem Piece.written_heading (depth : Nat) {text : Text} (h : '\n' ∉ text) :
    (Piece.heading depth text).written = [List.replicate depth '#' ++ [' '] ++ text, []] := by
  refine Text.flatMap_splitLines_of_no_newline fun l hl => ?_
  simp only [toLines, List.mem_cons, List.not_mem_nil, or_false] at hl
  obtain rfl | rfl := hl
  · simp [h]
  · exact List.not_mem_nil

/-- A heading is followed by an empty line, and both are plain. -/
theorem Piece.plain_heading {depth : Nat} (hlow : 1 ≤ depth) (text : Text) :
    ∀ l ∈ [List.replicate depth '#' ++ [' '] ++ text, []], l.head? ≠ some '\x60' := by
  obtain ⟨n, rfl⟩ := Nat.exists_eq_add_of_le' hlow
  simp [List.replicate_succ]

theorem Piece.Sound.allClosed {x : Piece} (h : x.Sound) : AllClosed x.written := by
  cases x with
  | lines ls => exact h
  | heading depth text =>
    obtain ⟨⟨hlow, -⟩, htext⟩ := h
    rw [written_heading depth htext.no_newline]
    exact allClosed_of_plain (plain_heading hlow text)

theorem Piece.Sound.interleaved {x : Piece} (h : x.Sound) :
    Interleaved (headingsOf x.written) x.heading?.toList x.ownHeadings := by
  cases x with
  | lines ls => exact .all_right _
  | heading depth text =>
    obtain ⟨⟨hlow, hhigh⟩, htext⟩ := h
    have hhead : headingsOf (Piece.heading depth text).written = [text] := by
      have hline : Line.heading? ⟨List.replicate depth '#' ++ [' '] ++ text, .plain⟩ = some text :=
        headingText?_heading hlow hhigh htext.trimmed
      rw [written_heading depth htext.no_newline, headingsOf,
        places_of_plain (plain_heading hlow text), List.map_cons, List.filterMap_cons_some hline]
      rfl
    rw [hhead]
    exact .left text .nil

/-- **The written headings** of sound pieces are those of the pieces and those of their texts. -/
theorem interleaved_written {pieces : List Piece} (h : ∀ x ∈ pieces, x.Sound) :
    Interleaved (headingsOf (pieces.flatMap Piece.written)) (headings pieces)
      (pieces.flatMap Piece.ownHeadings) := by
  induction pieces with
  | nil => exact .nil
  | cons x pieces ih =>
    have hx := h x List.mem_cons_self
    have hheadings : headings (x :: pieces) = x.heading?.toList ++ headings pieces := by
      cases x <;> rfl
    rw [List.flatMap_cons, headingsOf_append hx.allClosed, hheadings, List.flatMap_cons]
    exact hx.interleaved.append (ih fun y hy => h y (List.mem_cons_of_mem x hy))

theorem depth_of_mem_examplePieces {e : Example} {depth : Nat} {text : Text}
    (h : .heading depth text ∈ examplePieces e) : depth = 5 := by
  simp only [examplePieces, paragraph, List.mem_append, List.mem_map, reduceCtorEq, and_false,
    exists_false, or_false] at h
  split at h
  · cases h
  · exact (Piece.heading.inj (List.mem_singleton.1 h)).1

theorem depth_of_mem_sectionPieces {p : Pattern} {depth : Nat} {text : Text}
    (h : .heading depth text ∈ sectionPieces p) : 3 ≤ depth ∧ depth ≤ 5 := by
  simp only [sectionPieces, List.mem_cons, List.mem_append, Piece.heading.injEq] at h
  rcases h with ⟨rfl, -⟩ | (((((h | h) | h) | h) | h) | h) | h
  · decide
  · unfold titlePieces at h
    split at h <;> simp [paragraph] at h
  · unfold badgePieces at h
    split at h <;> simp [paragraph] at h
  · unfold deprecatedPieces at h
    split at h <;> simp [paragraph] at h
  · unfold descriptionPieces at h
    dsimp only at h
    split at h <;> simp [paragraph] at h
  · unfold parameterPieces at h
    split at h
    · cases h
    · simp at h
      omega
  · unfold examplesPieces at h
    split at h
    · cases h
    · rcases List.mem_cons.1 h with h | h
      · simp at h
        omega
      · obtain ⟨e, -, he⟩ := List.mem_flatMap.1 h
        have hdepth := depth_of_mem_examplePieces he
        omega
  · unfold todoPieces at h
    split at h
    · cases h
    · simp at h
      omega

theorem isPhrase_of_mem_patternHeadings {p : Pattern} (hp : p.Tidy) {text : Text}
    (h : text ∈ patternHeadings p) : text.IsPhrase := by
  simp only [patternHeadings, List.mem_cons, List.mem_append] at h
  rcases h with rfl | (h | h) | h
  · exact hp.name
  · split at h
    · cases h
    · rw [List.mem_singleton.1 h]
      decide
  · split at h
    · cases h
    · rcases List.mem_cons.1 h with rfl | h
      · decide
      · obtain ⟨e, he, rfl⟩ := List.mem_map.1 (List.mem_filter.1 h).1
        exact (hp.examples e he).description
  · split at h
    · cases h
    · rw [List.mem_singleton.1 h]
      decide

/-- The section of a tidy pattern is sound if its pieces close the regions that they open. -/
theorem sound_of_mem_sectionPieces {p : Pattern} (hp : p.Tidy)
    (hclosed : ∀ x ∈ sectionPieces p, AllClosed x.written) : ∀ x ∈ sectionPieces p, x.Sound := by
  intro x hx
  cases x with
  | lines ls => exact hclosed _ hx
  | heading depth text =>
    obtain ⟨hlow, hhigh⟩ := depth_of_mem_sectionPieces hx
    refine ⟨⟨by omega, by omega⟩, isPhrase_of_mem_patternHeadings hp ?_⟩
    rw [← headings_sectionPieces]
    exact List.mem_filterMap.2 ⟨_, hx, rfl⟩

/-! ## 4. The document -/

/-- The anchors in the index. -/
def indexAnchors (patterns : List Pattern) : List Text :=
  sectionAnchors (Anchors.claim {} indexHeading).2 (patterns.map sectionPieces)

/-- The entries of the index as a piece, with the empty line behind them. -/
def indexPiece (patterns : List Pattern) : Piece := .lines (indexLines patterns ++ [[]])

section Index

variable {patterns : List Pattern}

/-- The lines of a document are those of its pieces. -/
theorem splitLines_render (h : patterns ≠ []) : Text.splitLines (render patterns) =
    (Piece.heading 2 indexHeading :: indexPiece patterns ::
      patterns.flatMap sectionPieces).flatMap Piece.written ++ [[]] := by
  rw [render_eq_pieces h, Text.splitLines_endLines, List.flatMap_assoc]
  rfl

theorem headings_ne_nil (patterns : List Pattern) :
    ∀ s ∈ patterns.map sectionPieces, headings s ≠ [] := by
  intro s hs
  obtain ⟨p, -, rfl⟩ := List.mem_map.1 hs
  rw [headings_sectionPieces]
  exact List.cons_ne_nil _ _

theorem length_indexAnchors (patterns : List Pattern) :
    (indexAnchors patterns).length = patterns.length := by
  obtain ⟨-, htracks⟩ := Anchors.tracks_claim Anchors.tracks_empty indexHeading
  rw [indexAnchors, length_sectionAnchors htracks (headings_ne_nil patterns), List.length_map]

/-- The anchor of a pattern in the index is that of its name behind the headings that are read off
    the patterns before it. -/
theorem indexAnchors_getElem?_length (front : List Pattern) (p : Pattern) (rest : List Pattern) :
    (indexAnchors (front ++ p :: rest))[front.length]? =
      some (firstUnused (ruleAnchors [] (documentHeadings front)).reverse (slug p.name)) := by
  obtain ⟨-, htracks⟩ := Anchors.tracks_claim Anchors.tracks_empty indexHeading
  have hanchor := sectionAnchors_getElem? htracks (headings_ne_nil (front ++ p :: rest))
    (i := front.length) (by simp)
  rw [← List.map_take, List.take_left, flatMap_headings_sectionPieces,
    flatMap_headings_sectionPieces] at hanchor
  have hsplit : documentHeadings (front ++ p :: rest) = documentHeadings front ++
      p.name :: ((patternHeadings p).tail ++ rest.flatMap patternHeadings) := by
    rw [documentHeadings, List.flatMap_append, List.flatMap_cons]
    rfl
  have hrule := ruleAnchors_getElem?_length [] (documentHeadings front)
    ((patternHeadings p).tail ++ rest.flatMap patternHeadings) p.name
  rw [← hsplit, List.append_nil, documentHeadings, ruleAnchors, documentHeadings,
    List.length_cons, List.getElem?_cons_succ] at hrule
  exact hanchor.trans hrule

theorem newline_notMem_of_mem_indexAnchors {anchor : Text} (h : anchor ∈ indexAnchors patterns) :
    '\n' ∉ anchor := by
  obtain ⟨-, htracks⟩ := Anchors.tracks_claim Anchors.tracks_empty indexHeading
  intro hn
  have hmem := (sectionAnchors_sublist htracks _).subset h
  exact absurd (isAnchorChar_of_mem_ruleAnchors hmem hn) (by decide)

theorem indexLines_getElem?_eq_some {i : Nat} {l : Text} : (indexLines patterns)[i]? = some l ↔
    ∃ p anchor, patterns[i]? = some p ∧ (indexAnchors patterns)[i]? = some anchor ∧
      indexItem p.name anchor = l := List.getElem?_zipWith_eq_some

/-- The lines of the index are lines, and none is a heading or opens a region. -/
theorem of_mem_indexLines (hnames : ∀ p ∈ patterns, '\n' ∉ p.name) {l : Text}
    (h : l ∈ indexLines patterns) : '\n' ∉ l ∧ l.head? = some '*' := by
  obtain ⟨i, hi⟩ := List.mem_iff_getElem?.1 h
  obtain ⟨p, anchor, hp, hanchor, rfl⟩ := indexLines_getElem?_eq_some.1 hi
  have hname := hnames p (List.mem_of_getElem? hp)
  have hline := newline_notMem_of_mem_indexAnchors (List.mem_of_getElem? hanchor)
  refine ⟨?_, rfl⟩
  simp [indexItem, link, hname, hline]

theorem written_indexPiece (hnames : ∀ p ∈ patterns, '\n' ∉ p.name) :
    (indexPiece patterns).written = indexLines patterns ++ [[]] := by
  refine Text.flatMap_splitLines_of_no_newline fun l hl => ?_
  rcases List.mem_append.1 hl with hl | hl
  · exact (of_mem_indexLines hnames hl).1
  · rw [List.mem_singleton.1 hl]
    exact List.not_mem_nil

theorem head?_indexPiece (hnames : ∀ p ∈ patterns, '\n' ∉ p.name) {c : Char} (hc : c ≠ '*') :
    ∀ l ∈ indexLines patterns ++ [[]], l.head? ≠ some c := by
  intro l hl
  rcases List.mem_append.1 hl with hl | hl
  · rw [(of_mem_indexLines hnames hl).2]
    exact fun h => hc (Option.some.inj h).symm
  · rw [List.mem_singleton.1 hl]
    exact nofun

theorem sound_indexPiece (hnames : ∀ p ∈ patterns, '\n' ∉ p.name) :
    (indexPiece patterns).Sound := by
  show AllClosed (indexPiece patterns).written
  rw [written_indexPiece hnames]
  exact allClosed_of_plain (head?_indexPiece hnames (by decide))

/-- The index has no headings but its own. -/
theorem ownHeadings_indexPiece (hnames : ∀ p ∈ patterns, '\n' ∉ p.name) :
    (indexPiece patterns).ownHeadings = [] := by
  show headingsOf (indexPiece patterns).written = []
  rw [written_indexPiece hnames, headingsOf,
    places_of_plain (head?_indexPiece hnames (by decide)), List.filterMap_map,
    List.filterMap_eq_nil_iff]
  exact fun l hl => headingText?_of_head? (head?_indexPiece hnames (by decide) l hl)

end Index

end Markdown

/-! ## 5. Headings that are apart -/

theorem head?_numbered {base : Text} (h : base ≠ []) (n : Nat) :
    (numbered base n).head? = base.head? := by
  cases n with
  | zero => rfl
  | succ n => rw [numbered, List.append_assoc, List.head?_append_of_ne_nil _ h]

theorem firstUnused_congr {taken taken' : List Text} {base : Text}
    (h : ∀ n, numbered base n ∈ taken ↔ numbered base n ∈ taken') :
    firstUnused taken base = firstUnused taken' base := by
  have hfind := exists_unused taken' base
  refine firstUnused_eq (fun hm => Nat.find_spec hfind ((h _).1 hm)) fun m hm => ?_
  exact (h m).2 (not_not.1 (Nat.find_min hfind hm))

/-- Headings that never get an anchor of some kind do not change which anchors of this kind are taken.
    Of the other headings each one must get such anchors always or never. -/
theorem mem_ruleAnchors_iff {kind : Text → Prop} {all own others : List Text}
    (h : Interleaved all own others)
    (hown : ∀ x ∈ own, (∀ n, kind (numbered (slug x) n)) ∨ ∀ n, ¬ kind (numbered (slug x) n))
    (hothers : ∀ x ∈ others, ∀ n, ¬ kind (numbered (slug x) n)) {taken taken' : List Text}
    (htaken : ∀ a, kind a → (a ∈ taken ↔ a ∈ taken')) {a : Text} (ha : kind a) :
    a ∈ (ruleAnchors taken all).reverse ++ taken ↔
      a ∈ (ruleAnchors taken' own).reverse ++ taken' := by
  -- an anchor that is not of the kind is none of those that are compared
  have hskip : ∀ {x : Text}, (∀ n, ¬ kind (numbered (slug x) n)) → ∀ {b : Text}, kind b →
      ∀ us vs : List Text, b ∈ firstUnused us (slug x) :: vs ↔ b ∈ vs := by
    intro x hx b hb us vs
    rw [List.mem_cons, or_iff_right]
    rintro rfl
    exact hx _ hb
  induction h generalizing taken taken' with
  | nil => exact htaken a ha
  | left x _ ih =>
    have hrest := fun y hy => hown y (List.mem_cons_of_mem x hy)
    rw [ruleAnchors, ruleAnchors, List.reverse_cons, List.reverse_cons, List.append_assoc,
      List.append_assoc]
    refine ih hrest hothers fun b hb => ?_
    rcases hown x List.mem_cons_self with hx | hx
    · have hanchor : firstUnused taken (slug x) = firstUnused taken' (slug x) :=
        firstUnused_congr fun n => htaken _ (hx n)
      rw [hanchor, List.mem_cons, List.mem_cons, htaken b hb]
    · rw [hskip hx hb, hskip hx hb, htaken b hb]
  | right x _ ih =>
    rw [ruleAnchors, List.reverse_cons, List.append_assoc]
    refine ih hown (fun y hy => hothers y (List.mem_cons_of_mem x hy)) fun b hb => ?_
    rw [hskip (hothers x List.mem_cons_self) hb, htaken b hb]

/-- So they change no anchor of a heading that gets anchors of this kind. -/
theorem firstUnused_interleaved {kind : Text → Prop} {all own others : List Text} {heading : Text}
    (h : Interleaved all own others) (hheading : ∀ n, kind (numbered (slug heading) n))
    (hown : ∀ x ∈ own, (∀ n, kind (numbered (slug x) n)) ∨ ∀ n, ¬ kind (numbered (slug x) n))
    (hothers : ∀ x ∈ others, ∀ n, ¬ kind (numbered (slug x) n)) :
    firstUnused (ruleAnchors [] all).reverse (slug heading) =
      firstUnused (ruleAnchors [] own).reverse (slug heading) := by
  have htaken : ∀ a, kind a → (a ∈ ([] : List Text) ↔ a ∈ ([] : List Text)) := fun _ _ => Iff.rfl
  refine firstUnused_congr fun n => ?_
  have hmem := mem_ruleAnchors_iff h hown hothers htaken (hheading n)
  rwa [List.append_nil, List.append_nil] at hmem

namespace Markdown

/-! ## 6. Agreement -/

section Agreement

variable {front rest : List Pattern} {p : Pattern}

/-- The pieces of a document before a section, when the given patterns have sections before it. -/
def piecesBefore (patterns front : List Pattern) : List Piece :=
  .heading 2 indexHeading :: indexPiece patterns :: front.flatMap sectionPieces

/-- A section starts with its heading, behind the lines of the pieces before it. -/
theorem exists_splitLines_render (front : List Pattern) (rest : List Pattern)
    (hname : '\n' ∉ p.name) : ∃ after, Text.splitLines (render (front ++ p :: rest)) =
      (piecesBefore (front ++ p :: rest) front).flatMap Piece.written ++
        ("### ".toList ++ p.name) :: after := by
  have hheading : (Piece.heading 3 p.name).written = ["### ".toList ++ p.name, []] :=
    Piece.written_heading 3 hname
  have hsection : (sectionPieces p).flatMap Piece.written = ("### ".toList ++ p.name) :: [] ::
      (sectionPieces p).tail.flatMap Piece.written := by
    rw [sectionPieces, List.flatMap_cons, hheading]
    rfl
  refine ⟨[] :: ((sectionPieces p).tail.flatMap Piece.written ++
    (rest.flatMap sectionPieces).flatMap Piece.written ++ [[]]), ?_⟩
  rw [splitLines_render (List.append_ne_nil_of_right_ne_nil _ (List.cons_ne_nil _ _)),
    piecesBefore, List.flatMap_append, List.flatMap_cons]
  simp only [List.flatMap_cons, List.flatMap_append, hsection, List.append_assoc, List.cons_append]

theorem length_piecesBefore (hnames : ∀ q ∈ front ++ p :: rest, '\n' ∉ q.name) :
    ((piecesBefore (front ++ p :: rest) front).flatMap Piece.written).length =
      sectionStart (front ++ p :: rest) front.length := by
  have hheading : (Piece.heading 2 indexHeading).written.length = 2 := rfl
  have hitems : (indexLines (front ++ p :: rest)).length = (front ++ p :: rest).length := by
    rw [indexLines, List.length_zipWith]
    have hlen := length_indexAnchors (front ++ p :: rest)
    rw [indexAnchors] at hlen
    omega
  rw [piecesBefore, List.flatMap_cons, List.flatMap_cons, List.length_append, List.length_append,
    written_indexPiece hnames, hheading, List.length_append, hitems, List.flatMap_assoc,
    sectionStart, List.take_left]
  simp only [List.length_singleton]
  omega

theorem sound_piecesBefore {patterns : List Pattern} (hnames : ∀ q ∈ patterns, '\n' ∉ q.name)
    (hsound : ∀ q ∈ front, ∀ x ∈ sectionPieces q, x.Sound) :
    ∀ x ∈ piecesBefore patterns front, x.Sound := by
  intro x hx
  rcases List.mem_cons.1 hx with rfl | hx
  · exact ⟨by decide, by decide⟩
  · rcases List.mem_cons.1 hx with rfl | hx
    · exact sound_indexPiece hnames
    · obtain ⟨q, hq, hx⟩ := List.mem_flatMap.1 hx
      exact hsound q hq x hx

theorem headings_piecesBefore (patterns front : List Pattern) :
    headings (piecesBefore patterns front) = documentHeadings front := by
  rw [documentHeadings, ← flatMap_headings_sectionPieces, List.flatMap_map, ← headings_flatMap]
  rfl

theorem ownHeadings_piecesBefore {patterns : List Pattern} (hnames : ∀ q ∈ patterns, '\n' ∉ q.name)
    (front : List Pattern) : (piecesBefore patterns front).flatMap Piece.ownHeadings =
      (front.flatMap sectionPieces).flatMap Piece.ownHeadings := by
  rw [piecesBefore, List.flatMap_cons, List.flatMap_cons, ownHeadings_indexPiece hnames]
  rfl

/-- The link of a pattern stands in the index, outside all regions. -/
theorem documentLines_index (hnames : ∀ q ∈ front ++ p :: rest, '\n' ∉ q.name) :
    (documentLines (front ++ p :: rest))[front.length + 2]? = some ⟨indexItem p.name
      (firstUnused (ruleAnchors [] (documentHeadings front)).reverse (slug p.name)), .plain⟩ := by
  have hplain : ∀ l ∈ ["## ".toList ++ indexHeading, []] ++
      (indexLines (front ++ p :: rest) ++ [[]]), l.head? ≠ some '\x60' := by
    intro l hl
    rcases List.mem_append.1 hl with hl | hl
    · exact Piece.plain_heading (by decide : 1 ≤ 2) indexHeading l hl
    · exact head?_indexPiece hnames (by decide) l hl
  have hlines : Text.splitLines (render (front ++ p :: rest)) =
      (["## ".toList ++ indexHeading, []] ++ (indexLines (front ++ p :: rest) ++ [[]])) ++
        (((front ++ p :: rest).flatMap sectionPieces).flatMap Piece.written ++ [[]]) := by
    rw [splitLines_render (List.append_ne_nil_of_right_ne_nil _ (List.cons_ne_nil _ _)),
      List.flatMap_cons, List.flatMap_cons, written_indexPiece hnames,
      Piece.written_heading 2 (by decide), List.append_assoc, List.append_assoc, List.append_assoc]
    rfl
  have hitem : (indexLines (front ++ p :: rest))[front.length]? = some (indexItem p.name _) :=
    indexLines_getElem?_eq_some.2 ⟨p, _, by simp, indexAnchors_getElem?_length front p rest, rfl⟩
  have hlt := (List.getElem?_eq_some_iff.1 hitem).1
  rw [documentLines, hlines, places_append (allClosed_of_plain hplain), places_of_plain hplain,
    List.getElem?_append_left (by simp; omega), List.getElem?_map,
    List.getElem?_append_right (by simp), List.getElem?_append_left (by simpa using hlt)]
  exact congrArg (Option.map _) hitem

/-- A section starts with the name of its pattern as a heading, behind the lines of the pieces before
    it. -/
theorem exists_documentLines {front : List Pattern} (rest : List Pattern)
    (hnames : ∀ q ∈ front ++ p :: rest, '\n' ∉ q.name)
    (hsound : ∀ q ∈ front, ∀ x ∈ sectionPieces q, x.Sound) : ∃ before after,
    documentLines (front ++ p :: rest) = before ++ ⟨"### ".toList ++ p.name, .plain⟩ :: after ∧
      before.length = sectionStart (front ++ p :: rest) front.length ∧
      Interleaved (before.filterMap Line.heading?) (documentHeadings front)
        ((front.flatMap sectionPieces).flatMap Piece.ownHeadings) := by
  have hbefore := sound_piecesBefore hnames hsound
  have hclosed := allClosed_flatMap fun x hx => (hbefore x hx).allClosed
  obtain ⟨after, hlines⟩ := exists_splitLines_render front rest (hnames p (by simp))
  have hheading : ∀ ls, places (("### ".toList ++ p.name) :: ls) =
      ⟨"### ".toList ++ p.name, .plain⟩ :: places ls := fun _ => rfl
  refine ⟨places ((piecesBefore (front ++ p :: rest) front).flatMap Piece.written), places after,
    ?_, ?_, ?_⟩
  · rw [documentLines, hlines, places_append hclosed, hheading]
  · rw [← length_piecesBefore hnames, ← List.length_map (·.text), places, map_text_placesBy]
  · have hwritten := interleaved_written hbefore
    rwa [headings_piecesBefore, ownHeadings_piecesBefore hnames] at hwritten

theorem documentHeadings_subset (front rest : List Pattern) :
    documentHeadings front ⊆ documentHeadings (front ++ rest) := by
  rw [documentHeadings, documentHeadings, List.flatMap_append, ← List.cons_append]
  exact List.subset_append_left _ _

/-- Where the pieces are sound, and the names of the patterns get anchors of a kind that the headings
    of the texts never get, the index agrees with the document. -/
theorem indexAgrees_of_sound {patterns : List Pattern} {kind : Text → Prop}
    (hlines : ∀ q ∈ patterns, '\n' ∉ q.name)
    (hsound : ∀ q ∈ patterns, ∀ x ∈ sectionPieces q, x.Sound)
    (hnames : ∀ q ∈ patterns, ∀ n, kind (numbered (slug q.name) n))
    (hheadings : ∀ y ∈ documentHeadings patterns,
      (∀ n, kind (numbered (slug y) n)) ∨ ∀ n, ¬ kind (numbered (slug y) n))
    (htexts : ∀ x ∈ (patterns.flatMap sectionPieces).flatMap Piece.ownHeadings,
      ∀ n, ¬ kind (numbered (slug x) n)) : IndexAgrees patterns := by
  intro i p hp
  obtain ⟨front, rest, rfl, rfl⟩ := exists_split_of_getElem? hp
  have hmem : p ∈ front ++ p :: rest := List.mem_append_right _ List.mem_cons_self
  obtain ⟨before, after, hdocument, hlength, hwritten⟩ := exists_documentLines rest hlines
    fun q hq => hsound q (List.mem_append_left _ hq)
  have hname : Line.heading? ⟨"### ".toList ++ p.name, .plain⟩ = some p.name := by
    obtain ⟨-, hphrase⟩ := hsound p hmem (.heading 3 p.name) List.mem_cons_self
    exact headingText?_heading (by decide : 1 ≤ 3) (by decide) hphrase.trimmed
  have hothers : ∀ x ∈ (front.flatMap sectionPieces).flatMap Piece.ownHeadings,
      ∀ n, ¬ kind (numbered (slug x) n) := by
    intro x hx
    refine htexts x ?_
    rw [List.flatMap_append, List.flatMap_append]
    exact List.mem_append_left _ hx
  have hanchor := firstUnused_interleaved hwritten (hnames p hmem)
    (fun y hy => hheadings y (documentHeadings_subset front (p :: rest) hy)) hothers
  refine ⟨_, documentLines_index hlines, ?_, ?_⟩
  · rw [hdocument, ← hlength, List.getElem?_append_right (Nat.le_refl _), Nat.sub_self]
    rfl
  · rw [hdocument, List.take_left' hlength, List.filterMap_append, List.filterMap_cons_some hname,
      ruleAnchors_getElem?_length, List.append_nil, hanchor]

end Agreement

/-- **The index agrees with the document as it is written**, for every source text of which the
    descriptions, reasons, tasks and code close the regions that they open, and of which the names of
    the patterns get anchors of some kind that the headings in the texts never get. Any other heading
    of the document has to get anchors of this kind always or never. -/
theorem indexAgrees_of_apart (source : Text) (kind : Text → Prop)
    (hclosed : ∀ p ∈ Source.patterns source, ∀ x ∈ sectionPieces p, AllClosed x.written)
    (hnames : ∀ p ∈ Source.patterns source, ∀ n, kind (numbered (slug p.name) n))
    (hheadings : ∀ y ∈ documentHeadings (Source.patterns source),
      (∀ n, kind (numbered (slug y) n)) ∨ ∀ n, ¬ kind (numbered (slug y) n))
    (htexts : ∀ x ∈ ((Source.patterns source).flatMap sectionPieces).flatMap Piece.ownHeadings,
      ∀ n, ¬ kind (numbered (slug x) n)) : IndexAgrees (Source.patterns source) := by
  have htidy : ∀ p ∈ Source.patterns source, p.Tidy := by
    intro p hp
    obtain ⟨body, hbody, hp⟩ := Source.exists_body_of_mem_patterns hp
    exact (Source.tidy_readBody hbody hp).1
  exact indexAgrees_of_sound (fun p hp => (htidy p hp).name.no_newline)
    (fun p hp => sound_of_mem_sectionPieces (htidy p hp) (hclosed p hp)) hnames hheadings htexts

/-- A comment in which a description has a heading that is also written for tasks, and code that looks
    like the heading of a pattern. -/
def illustrated : Text := List.flatten <| List.map String.toList
  ["/*\n@pattern Card\n@description\n# Todo\n\x60\x60\x60\n# Card\n\x60\x60\x60\n",
    "@todo Tests\n@pattern Card\n*/"]

/-- Its patterns get anchors that start with a letter that its other headings do not start with, so
    the index agrees with its document. -/
theorem indexAgrees_of_apart_illustrated :
    (documentLines (Source.patterns illustrated)).filterMap Line.heading? =
      ["Index", "Card", "Todo", "Todo", "Card"].map String.toList ∧
    IndexAgrees (Source.patterns illustrated) := by
  have hclosed : ∀ p ∈ Source.patterns illustrated, ∀ x ∈ sectionPieces p, AllClosed x.written := by
    decide +kernel
  have hnames : ∀ p ∈ Source.patterns illustrated,
      slug p.name ≠ [] ∧ (slug p.name).head? = some 'c' := by
    decide +kernel
  have hheadings : ∀ y ∈ documentHeadings (Source.patterns illustrated), slug y ≠ [] := by
    decide +kernel
  have htexts : ∀ x ∈ ((Source.patterns illustrated).flatMap sectionPieces).flatMap
      Piece.ownHeadings, slug x ≠ [] ∧ (slug x).head? ≠ some 'c' := by
    decide +kernel
  refine ⟨by decide +kernel, indexAgrees_of_apart illustrated (fun a => a.head? = some 'c')
    hclosed (fun p hp n => ?_) (fun y hy => ?_) fun x hx n => ?_⟩
  · rw [head?_numbered (hnames p hp).1]
    exact (hnames p hp).2
  · simp only [head?_numbered (hheadings y hy)]
    by_cases hc : (slug y).head? = some 'c'
    · exact .inl fun _ => hc
    · exact .inr fun _ => hc
  · rw [head?_numbered (htexts x hx).1]
    exact (htexts x hx).2

end Markdown

end PatternBook
