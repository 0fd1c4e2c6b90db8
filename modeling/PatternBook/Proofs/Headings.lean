import PatternBook.Document.Markdown
import PatternBook.Proofs.AnchorRule

/-!
# Headings and the index

The index of a document stands before its sections, and its links have to reach them. This file says
which headings a document has and where the links lead:

* `patternHeadings`, `documentHeadings` -- the headings in document order, read off the patterns;
* `headings_sectionPieces` -- a section emits exactly the headings of its pattern;
* `sectionAnchors_getElem?` -- the anchor kept for a section is the one that its first heading gets by
  the rule, at its position among all headings;
* `render_eq_pieces` -- the document is its pieces, line by line;
* `render_index` -- so each link of the index leads to the heading of its section, and no two links
  lead to the same place, nor one to the index itself.
-/

namespace PatternBook.Markdown

/-! ## 1. Headings in document order -/

/-- The headings of the section of a pattern. -/
def patternHeadings (p : Pattern) : List Text :=
  p.name ::
    ((if p.parameters = [] then [] else ["Parameters".toList]) ++
    (if p.examples = [] then [] else
      "Examples".toList :: (p.examples.map (·.description)).filter (· ≠ [])) ++
    (if p.metadata.todos = [] then [] else ["Todo".toList]))

/-- The headings of a document. -/
def documentHeadings (patterns : List Pattern) : List Text :=
  indexHeading :: patterns.flatMap patternHeadings

/-- The document as pieces, with the given anchors in its index. -/
def documentPieces (patterns : List Pattern) (anchors : List Text) : List Piece :=
  .heading 2 indexHeading ::
    .lines (List.zipWith (fun p anchor => indexItem p.name anchor) patterns anchors ++ [[]]) ::
    patterns.flatMap sectionPieces

theorem headings_append (ps qs : List Piece) : headings (ps ++ qs) = headings ps ++ headings qs :=
  List.filterMap_append

/-- Pieces that are put together from parts have the headings of the parts. -/
theorem headings_flatMap {α : Type} (l : List α) (f : α → List Piece) :
    headings (l.flatMap f) = l.flatMap fun a => headings (f a) := List.filterMap_flatMap

/-- Only the description of an example is a heading. -/
theorem headings_examplePieces (e : Example) :
    headings (examplePieces e) = if e.description.isEmpty then [] else [e.description] := by
  have hheight : headings (e.height.toList.map fun h =>
      paragraph ("_Preview height: ".toList ++ Text.decimal h ++ "px_".toList)) = [] := by
    cases e.height <;> rfl
  have hblocks : headings (e.codeBlocks.map fun b => .lines (blockLines b)) = [] := by
    rw [headings, List.filterMap_map, List.filterMap_eq_nil_iff]
    exact fun _ _ => rfl
  rw [examplePieces, headings_append, headings_append, hheight, hblocks, List.append_nil,
    List.append_nil]
  split <;> rfl

theorem headings_flatMap_examplePieces (es : List Example) :
    headings (es.flatMap examplePieces) = (es.map (·.description)).filter (· ≠ []) := by
  induction es with
  | nil => rfl
  | cons e es ih =>
    rw [List.flatMap_cons, headings_append, headings_examplePieces, ih]
    cases hd : e.description with
    | nil => simp [hd]
    | cons c t => simp [hd]

/-- **A section emits exactly the headings of its pattern.** -/
theorem headings_sectionPieces (p : Pattern) : headings (sectionPieces p) = patternHeadings p := by
  have htitle : headings (titlePieces p.title) = [] := by
    unfold titlePieces
    split <;> rfl
  have hbadges : headings (badgePieces p.metadata.entries.toList) = [] := by
    unfold badgePieces
    split <;> rfl
  have hdeprecated : headings (deprecatedPieces p.metadata.deprecated) = [] := by
    cases p.metadata.deprecated <;> rfl
  have hdescription : headings (descriptionPieces p.description) = [] := by
    unfold descriptionPieces
    dsimp only
    split <;> rfl
  have hparameters : headings (parameterPieces p.parameters) =
      if p.parameters = [] then [] else ["Parameters".toList] := by
    cases p.parameters <;> rfl
  have hexamples : headings (examplesPieces p.examples) = if p.examples = [] then [] else
      "Examples".toList :: (p.examples.map (·.description)).filter (· ≠ []) := by
    cases he : p.examples with
    | nil => rfl
    | cons e es =>
      rw [if_neg (List.cons_ne_nil e es), ← headings_flatMap_examplePieces]
      rfl
  have htodos : headings (todoPieces p.metadata.todos) =
      if p.metadata.todos = [] then [] else ["Todo".toList] := by
    cases p.metadata.todos <;> rfl
  have hcons : headings (sectionPieces p) = p.name :: headings (titlePieces p.title ++
      badgePieces p.metadata.entries.toList ++ deprecatedPieces p.metadata.deprecated ++
      descriptionPieces p.description ++ parameterPieces p.parameters ++
      examplesPieces p.examples ++ todoPieces p.metadata.todos) := rfl
  rw [hcons]
  simp only [headings_append, htitle, hbadges, hdeprecated, hdescription, hparameters, hexamples,
    htodos, List.nil_append]
  rfl

theorem flatMap_headings_sectionPieces (patterns : List Pattern) :
    (patterns.map sectionPieces).flatMap headings = patterns.flatMap patternHeadings := by
  rw [List.flatMap_map]
  exact List.flatMap_congr fun p _ => headings_sectionPieces p

/-- The headings of a document's pieces are those read off the patterns. -/
theorem headings_documentPieces (patterns : List Pattern) (anchors : List Text) :
    headings (documentPieces patterns anchors) = documentHeadings patterns := by
  rw [documentHeadings, ← flatMap_headings_sectionPieces, List.flatMap_map, ← headings_flatMap]
  rfl

/-- Behind the headings of the patterns before it stands the name of a pattern. -/
theorem documentHeadings_getElem? {patterns : List Pattern} {i : Nat} {p : Pattern}
    (hp : patterns[i]? = some p) :
    (documentHeadings patterns)[(documentHeadings (patterns.take i)).length]? = some p.name := by
  obtain ⟨hi, rfl⟩ := List.getElem?_eq_some_iff.1 hp
  have hsplit : documentHeadings patterns = documentHeadings (patterns.take i) ++
      (patternHeadings patterns[i] ++ (patterns.drop (i + 1)).flatMap patternHeadings) := by
    rw [documentHeadings, documentHeadings, List.cons_append, ← List.flatMap_cons,
      ← List.drop_eq_getElem_cons hi, ← List.flatMap_append, List.take_append_drop]
  rw [hsplit, List.getElem?_append_right (Nat.le_refl _), Nat.sub_self]
  rfl

/-! ## 2. Anchors of sections -/

section Sections

variable {used : Anchors} {taken : List Text}

/-- The first section keeps the anchor of its first heading, and all its headings count for the
    others. -/
theorem sectionAnchors_cons (h : used.Tracks taken) (s : List Piece) (rest : List (List Piece)) :
    ∃ later : Anchors, later.Tracks ((ruleAnchors taken (headings s)).reverse ++ taken) ∧
      sectionAnchors used (s :: rest) =
        (ruleAnchors taken (headings s)).take 1 ++ sectionAnchors later rest := by
  obtain ⟨hanchors, hclaimed⟩ := Anchors.tracks_claimAll h (headings s)
  refine ⟨(used.claimAll (headings s)).2, hclaimed, ?_⟩
  rw [← hanchors]
  rfl

/-- **The anchor kept for a section** is that of its first heading among all headings. -/
theorem sectionAnchors_getElem? (h : used.Tracks taken) {sections : List (List Piece)}
    (hne : ∀ s ∈ sections, headings s ≠ []) {i : Nat} (hi : i < sections.length) :
    (sectionAnchors used sections)[i]? =
      (ruleAnchors taken (sections.flatMap headings))[((sections.take i).flatMap headings).length]? := by
  induction sections generalizing used taken i with
  | nil => exact absurd hi (Nat.not_lt_zero i)
  | cons s rest ih =>
    obtain ⟨later, hclaimed, hanchors⟩ := sectionAnchors_cons h s rest
    have hlen : (ruleAnchors taken (headings s)).length = (headings s).length :=
      length_ruleAnchors taken (headings s)
    have hpos := List.length_pos_iff.2 (hne s List.mem_cons_self)
    have hfirst : ((ruleAnchors taken (headings s)).take 1).length = 1 := by
      rw [List.length_take, hlen]
      omega
    rw [hanchors, List.flatMap_cons, ruleAnchors_append]
    cases i with
    | zero =>
      rw [List.getElem?_append_left (by omega), List.getElem?_take_of_lt (by decide)]
      simp only [List.take_zero, List.flatMap_nil, List.length_nil]
      rw [List.getElem?_append_left (by omega)]
    | succ i =>
      have hrest : ∀ t ∈ rest, headings t ≠ [] := fun t ht => hne t (List.mem_cons_of_mem s ht)
      rw [List.getElem?_append_right (by omega), hfirst, Nat.add_sub_cancel,
        ih hclaimed hrest (Nat.lt_of_succ_lt_succ hi), List.take_succ_cons, List.flatMap_cons,
        List.length_append, List.getElem?_append_right (by omega), hlen, Nat.add_sub_cancel_left]

/-- The anchors kept for the sections are among those of all headings, in order. -/
theorem sectionAnchors_sublist (h : used.Tracks taken) (sections : List (List Piece)) :
    (sectionAnchors used sections).Sublist (ruleAnchors taken (sections.flatMap headings)) := by
  induction sections generalizing used taken with
  | nil => exact List.Sublist.refl _
  | cons s rest ih =>
    obtain ⟨later, hclaimed, hanchors⟩ := sectionAnchors_cons h s rest
    rw [hanchors, List.flatMap_cons, ruleAnchors_append]
    exact (List.take_sublist 1 _).append (ih hclaimed)

theorem length_sectionAnchors (h : used.Tracks taken) {sections : List (List Piece)}
    (hne : ∀ s ∈ sections, headings s ≠ []) :
    (sectionAnchors used sections).length = sections.length := by
  induction sections generalizing used taken with
  | nil => rfl
  | cons s rest ih =>
    obtain ⟨later, hclaimed, hanchors⟩ := sectionAnchors_cons h s rest
    have hpos := List.length_pos_iff.2 (hne s List.mem_cons_self)
    have hlen := length_ruleAnchors taken (headings s)
    have hlater := ih hclaimed fun t ht => hne t (List.mem_cons_of_mem s ht)
    rw [hanchors, List.length_append, hlater, List.length_take, List.length_cons]
    omega

end Sections

/-! ## 3. The document -/

/-- Lines that are joined and then ended are ended one by one. -/
theorem endLines_sectionText {pieces : List Piece} (h : pieces.flatMap Piece.toLines ≠ []) :
    Text.endLines [sectionText pieces] = Text.endLines (pieces.flatMap Piece.toLines) := by
  have hjoin : ∀ ls : List Text, ls ≠ [] → Text.joinLines ls ++ ['\n'] = Text.endLines ls := by
    intro ls hls
    induction ls with
    | nil => exact absurd rfl hls
    | cons l ls ih =>
      cases ls with
      | nil => simp [Text.joinLines, Text.endLines]
      | cons m ls =>
        have ih' := ih (List.cons_ne_nil m ls)
        rw [Text.joinLines] at ih' ⊢
        rw [List.intercalate_cons_cons, List.append_assoc, ih']
        rfl
  rw [sectionText, ← hjoin _ h, Text.endLines, List.flatMap_singleton]

/-- **The document is its pieces**, line by line. -/
theorem render_eq_pieces {patterns : List Pattern} (h : patterns ≠ []) :
    render patterns = Text.endLines ((documentPieces patterns
      (sectionAnchors (Anchors.claim {} indexHeading).2 (patterns.map sectionPieces))).flatMap
        Piece.toLines) := by
  have hsections : Text.endLines (patterns.map fun p => sectionText (sectionPieces p)) =
      Text.endLines ((patterns.flatMap sectionPieces).flatMap Piece.toLines) := by
    unfold Text.endLines
    rw [List.flatMap_map, List.flatMap_assoc, List.flatMap_assoc]
    refine List.flatMap_congr fun p _ => ?_
    have hp : Text.endLines [sectionText (sectionPieces p)] = _ :=
      endLines_sectionText (List.cons_ne_nil _ _)
    simpa [Text.endLines, List.flatMap_assoc] using hp
  have happend : ∀ ls ms : List Text, Text.endLines (ls ++ ms) =
      Text.endLines ls ++ Text.endLines ms := fun ls ms => List.flatMap_append
  rw [render, if_neg (by simpa using h), happend, hsections, ← happend]
  simp [documentPieces, Piece.toLines, indexLines]

/-- The heading of the index comes first, and gets its slug as its anchor. -/
theorem firstUnused_indexHeading : firstUnused [] (slug indexHeading) = "index".toList := by
  have hslug : slug indexHeading = "index".toList := by decide +kernel
  exact (firstUnused_eq (n := 0) List.not_mem_nil nofun).trans hslug

/-- **Index links point at the right heading.** The document of a list of patterns is an index with one
    link for each pattern and then the sections in order. Its headings are those read off the
    patterns, and the link of a pattern leads to the anchor that the rule gives to the pattern's name
    at its position among them. No two links lead to one anchor, and none to that of the index. -/
theorem render_index {patterns : List Pattern} (h : patterns ≠ []) : ∃ anchors : List Text,
    anchors.length = patterns.length ∧
    render patterns = Text.endLines ((documentPieces patterns anchors).flatMap Piece.toLines) ∧
    headings (documentPieces patterns anchors) = documentHeadings patterns ∧
    (∀ i p, patterns[i]? = some p →
      (documentHeadings patterns)[(documentHeadings (patterns.take i)).length]? = some p.name ∧
      anchors[i]? = (ruleAnchors [] (documentHeadings patterns))[
        (documentHeadings (patterns.take i)).length]?) ∧
    anchors.Nodup ∧ "index".toList ∉ anchors := by
  obtain ⟨-, htracks⟩ := Anchors.tracks_claim Anchors.tracks_empty indexHeading
  rw [firstUnused_indexHeading] at htracks
  have hne : ∀ s ∈ patterns.map sectionPieces, headings s ≠ [] := by
    intro s hs
    obtain ⟨p, -, rfl⟩ := List.mem_map.1 hs
    rw [headings_sectionPieces]
    exact List.cons_ne_nil _ _
  have hrule : ruleAnchors [] (documentHeadings patterns) =
      "index".toList :: ruleAnchors ["index".toList] (patterns.flatMap patternHeadings) := by
    rw [documentHeadings, ruleAnchors, firstUnused_indexHeading]
  have hsub := sectionAnchors_sublist htracks (patterns.map sectionPieces)
  rw [flatMap_headings_sectionPieces] at hsub
  obtain ⟨hnodup, hfree⟩ :=
    nodup_ruleAnchors ["index".toList] (patterns.flatMap patternHeadings)
  refine ⟨sectionAnchors (Anchors.claim {} indexHeading).2 (patterns.map sectionPieces), ?_,
    render_eq_pieces h, headings_documentPieces patterns _,
    fun i p hp => ⟨documentHeadings_getElem? hp, ?_⟩,
    hnodup.sublist hsub, fun hm => hfree _ (hsub.subset hm) List.mem_cons_self⟩
  · rw [length_sectionAnchors htracks hne, List.length_map]
  · obtain ⟨hi, -⟩ := List.getElem?_eq_some_iff.1 hp
    have hanchor := sectionAnchors_getElem? htracks hne (i := i) (by rwa [List.length_map])
    rw [← List.map_take, flatMap_headings_sectionPieces, flatMap_headings_sectionPieces] at hanchor
    rw [hanchor, hrule, documentHeadings, List.length_cons, List.getElem?_cons_succ]

/-- Patterns whose headings have slugs that run into each other. -/
def colliding : List Pattern :=
  [{ name := "Index".toList, metadata := { todos := [[]] } },
   { name := "Todo".toList, examples := [{ description := "A 1".toList }, { description := [] }] },
   { name := "A".toList }, { name := "A".toList }]

/-- The links of these patterns lead to their headings. -/
theorem render_index_colliding : colliding ≠ [] ∧ ∃ anchors : List Text, anchors.length = 4 ∧
    render colliding = Text.endLines ((documentPieces colliding anchors).flatMap Piece.toLines) ∧
    headings (documentPieces colliding anchors) =
      ["Index", "Index", "Todo", "Todo", "Examples", "A 1", "A", "A"].map String.toList ∧
    anchors[3]? = (ruleAnchors [] (documentHeadings colliding))[7]? ∧
    anchors.Nodup ∧ "index".toList ∉ anchors := by
  have h : colliding ≠ [] := List.cons_ne_nil _ _
  obtain ⟨anchors, hlen, hrender, hheadings, hanchor, hnodup, hindex⟩ := render_index h
  refine ⟨h, anchors, hlen, hrender, hheadings.trans ?_, ?_, hnodup, hindex⟩
  · decide +kernel
  · exact (hanchor 3 { name := "A".toList } rfl).2

example : indexLines colliding = ["* [Index](#index-1)", "* [Todo](#todo-1)", "* [A](#a)",
    "* [A](#a-2)"].map String.toList := by decide +kernel

end PatternBook.Markdown
