import PatternBook.Proofs.Payloads
import PatternBook.Proofs.Tokens

/-!
# Lines that stand alone

Lines that leave no region open and start with a tag line have tokens of their own, which do not
depend on the lines around them (`Standalone`), so the tokens of such pieces of a body can be put
one after another (`Standalone.append`). The written fields are pieces of this kind:

* `standalone_tag` -- a tag line with the code blocks that follow it;
* `standalone_description` -- a description, whatever its lines are.
-/

namespace PatternBook

/-! ## 1. Segments of joined lines -/

/-- Lines that leave no region open are cut without regard to what follows them. -/
theorem segmentsBy_append (view : Text → Text) {ls : List Text}
    (h : ∀ s ∈ segmentsBy view ls, s.isUnclosed = false) (ms : List Text) :
    segmentsBy view (ls ++ ms) = segmentsBy view ls ++ segmentsBy view ms := by
  fun_induction segmentsBy view ls with
  | case1 => rfl
  | case2 l ls hl ih =>
    rw [List.cons_append, segmentsBy, hl]
    simp only [List.cons_append, ih fun s hs => h s (List.mem_cons_of_mem _ hs)]
  | case3 l ls lang hl isInner after ih =>
    have hclosed : after.head?.isNone = false := h _ List.mem_cons_self
    have hne : after ≠ [] := by
      intro hnil
      rw [hnil] at hclosed
      cases hclosed
    -- the closing line is found among `ls`, so what is inside and what is left are as before
    have hdrop : (ls ++ ms).dropWhile isInner = after ++ ms := by
      rw [List.dropWhile_append, List.isEmpty_eq_false_iff.2 hne]
      rfl
    have htake : (ls ++ ms).takeWhile isInner = ls.takeWhile isInner := by
      rw [List.takeWhile_append, if_neg]
      have hlen : (ls.takeWhile isInner).length + after.length = ls.length := by
        rw [← List.length_append, List.takeWhile_append_dropWhile]
      have hpos := List.length_pos_iff.2 hne
      omega
    rw [List.cons_append, segmentsBy, hl]
    show Segment.fenced
        ⟨l, lang, (ls ++ ms).takeWhile isInner, ((ls ++ ms).dropWhile isInner).head?⟩ ::
      segmentsBy view ((ls ++ ms).dropWhile isInner).tail = _
    rw [hdrop, htake, List.head?_append_of_ne_nil _ hne, List.tail_append_of_ne_nil hne,
      ih fun s hs => h s (List.mem_cons_of_mem _ hs)]
    rfl

/-- The segments hold all lines. -/
theorem flatMap_lines_segments (ls : List Text) : (segments ls).flatMap Segment.lines = ls := by
  have h : (segments ls).flatMap (fun s => s.places.map (·.text)) = ls := by
    rw [← List.map_flatMap, segments, flatMap_places, map_text_placesBy]
  simpa only [map_text_places] using h

@[simp] theorem segments_nil : segments [] = [] := by rw [segments, segmentsBy]

/-- A line that opens no region is a segment of its own. -/
theorem segments_cons {l : Text} (h : Fence.opening? l = none) (ls : List Text) :
    segments (l :: ls) = .plain l :: segments ls := by
  rw [segments, segmentsBy, id, h]
  rfl

/-- A line that opens a region, lines that do not close it, and one that does are one segment. -/
theorem segments_region {opener closer : Text} {lang : Option Text} {inner : List Text}
    (ho : Fence.opening? opener = some lang) (hi : ∀ l ∈ inner, Fence.isClosing l = false)
    (hc : Fence.isClosing closer = true) (after : List Text) :
    segments (opener :: inner ++ closer :: after) =
      .fenced ⟨opener, lang, inner, some closer⟩ :: segments after := by
  have hinner : ∀ l ∈ inner, (!Fence.isClosing (id l)) = true := fun l hl => by simp [hi l hl]
  rw [List.cons_append, segments, segmentsBy, id, ho]
  simp only [List.takeWhile_append_of_pos hinner, List.dropWhile_append_of_pos hinner]
  simp [hc, segments]

/-- An opening line and lines that do not close its region are one segment, which runs to the end. -/
theorem segments_unclosed {opener : Text} {lang : Option Text} {inner : List Text}
    (ho : Fence.opening? opener = some lang) (hi : ∀ l ∈ inner, Fence.isClosing l = false) :
    segments (opener :: inner) = [.fenced ⟨opener, lang, inner, none⟩] := by
  have hinner : ∀ l ∈ inner, (!Fence.isClosing (id l)) = true := fun l hl => by simp [hi l hl]
  rw [segments, segmentsBy, id, ho]
  simp only [List.takeWhile_eq_self_iff.2 hinner, List.dropWhile_eq_nil_iff.2 hinner]
  simp [segmentsBy]

/-- **Induction on the segments of lines.** The first segment is a line that opens no region, a region
    up to the line that closes it, or a region that runs to the end. -/
@[elab_as_elim]
theorem segments_induction {motive : List Text → Prop} (nil : motive [])
    (plain : ∀ l ls, Fence.opening? l = none → motive ls → motive (l :: ls))
    (region : ∀ opener lang inner closer ls, Fence.opening? opener = some lang →
      (∀ l ∈ inner, Fence.isClosing l = false) → Fence.isClosing closer = true → motive ls →
      motive (opener :: inner ++ closer :: ls))
    (unclosed : ∀ opener lang inner, Fence.opening? opener = some lang →
      (∀ l ∈ inner, Fence.isClosing l = false) → motive (opener :: inner))
    (ls : List Text) : motive ls := by
  induction ls using segmentsBy.induct id with
  | case1 => exact nil
  | case2 l ls h ih => exact plain l ls h ih
  | case3 l ls lang h isInner after ih =>
    have hinner : ∀ m ∈ ls.takeWhile isInner, Fence.isClosing m = false := by
      intro m hm
      simpa [isInner] using List.mem_takeWhile_imp hm
    have hlines : ls = ls.takeWhile isInner ++ after := List.takeWhile_append_dropWhile.symm
    rw [hlines]
    cases hafter : after with
    | nil =>
      rw [List.append_nil]
      exact unclosed l lang _ h hinner
    | cons c ms =>
      have hclosing : Fence.isClosing c = true := by
        have hhead := List.head?_dropWhile_not isInner ls
        rw [show ls.dropWhile isInner = c :: ms from hafter] at hhead
        simpa [isInner] using hhead
      rw [hafter] at ih
      exact region l lang _ c ms h hinner hclosing ih

/-! ## 2. Standalone lines -/

/-- Lines with the given tokens, of which no region is left open, and of which nothing stands before
    the first tag line. -/
structure Standalone (ls : List Text) (ts : List Token) : Prop where
  closed : ∀ s ∈ segments ls, s.isUnclosed = false
  headed : (groupAt Segment.tag? (segments ls)).1 = []
  tokens : (groupAt Segment.tag? (segments ls)).2.flatMap Token.ofGroup = ts

namespace Standalone

variable {ls ms : List Text} {ts us : List Token}

theorem value_ofLines (h : Standalone ls ts) : (Token.ofLines ls).value = ts := by
  show Token.ofRegions (groupAt Segment.tag? (segments ls)).1 ++
    (groupAt Segment.tag? (segments ls)).2.flatMap Token.ofGroup = ts
  rw [h.headed, h.tokens]
  rfl

theorem nil : Standalone [] [] := by
  refine ⟨?_, ?_, ?_⟩ <;> simp [segments, segmentsBy]

/-- **Standalone lines can be put one after another**, and so are their tokens. -/
theorem append (h : Standalone ls ts) (k : Standalone ms us) : Standalone (ls ++ ms) (ts ++ us) := by
  have hsegs : segments (ls ++ ms) = segments ls ++ segments ms := segmentsBy_append id h.closed ms
  have hgroups := groupAt_append (segments ls) k.headed
  refine ⟨?_, ?_, ?_⟩
  · intro s hs
    rw [hsegs] at hs
    rcases List.mem_append.1 hs with hs | hs
    · exact h.closed s hs
    · exact k.closed s hs
  · rw [hsegs, hgroups]
    exact h.headed
  · rw [hsegs, hgroups, List.flatMap_append, h.tokens, k.tokens]

end Standalone

/-! ## 3. Tag lines and code -/

/-- The fence of a code block names its language. -/
theorem opening?_ticks {lang : Option Text} (h : ∀ s ∈ lang, s.IsWord ∧ '\x60' ∉ s) :
    Fence.opening? (Fence.ticks ++ lang.getD []) = some lang := by
  refine Fence.opening?_eq_some_iff.2 ⟨[], by simp, fun s hs => ?_, by simp⟩
  obtain ⟨hword, htick⟩ := h s hs
  exact ⟨hword.ne_nil, fun c hc => ⟨hword.no_blank c hc, fun he => htick (he ▸ hc)⟩⟩

/-- The region of a written code block. -/
def CodeBlock.region (b : CodeBlock) : Region :=
  ⟨Fence.ticks ++ b.lang.getD [], b.lang, Text.splitLines b.code, some Fence.ticks⟩

/-- A code block whose lines do not look like a closing fence is one region, which its second fence
    closes, and what follows is cut on its own. -/
theorem CodeBlock.segments_lines_append {b : CodeBlock} (hl : ∀ s ∈ b.lang, s.IsWord ∧ '\x60' ∉ s)
    (hi : ∀ l ∈ Text.splitLines b.code, Fence.isClosing l = false) (after : List Text) :
    segments (b.lines ++ after) = .fenced b.region :: segments after := by
  have hassoc : b.lines ++ after = (Fence.ticks ++ b.lang.getD []) :: Text.splitLines b.code ++
      Fence.ticks :: after := by
    rw [lines, List.append_assoc, List.singleton_append]
  rw [hassoc]
  exact segments_region (opening?_ticks hl) hi (by decide) after

/-- The code of a written code block is read back. -/
theorem CodeBlock.block_region {b : CodeBlock} (h : b.code.trim = b.code) : b.region.block = b := by
  have hcode : Fence.code (Text.splitLines b.code) = b.code := by
    rw [Fence.code, Text.joinLines, Text.splitLines, List.intercalate_splitOn, h]
  show (⟨b.lang, Fence.code (Text.splitLines b.code)⟩ : CodeBlock) = b
  rw [hcode]

theorem segments_codeBlocks {blocks : List CodeBlock} (h : ∀ b ∈ blocks, b.WellFormed) :
    segments (blocks.flatMap CodeBlock.lines) = blocks.map fun b => .fenced b.region := by
  induction blocks with
  | nil => rw [List.flatMap_nil, segments_nil, List.map_nil]
  | cons b blocks ih =>
    have hb := h b List.mem_cons_self
    rw [List.flatMap_cons, CodeBlock.segments_lines_append hb.lang fun l hl => (hb.inner l hl).1,
      ih fun c hc => h c (List.mem_cons_of_mem b hc), List.map_cons]

theorem ofRegions_codeBlocks {blocks : List CodeBlock} (h : ∀ b ∈ blocks, b.WellFormed) :
    Token.ofRegions (blocks.map fun b => .fenced b.region) = blocks.map .code := by
  have hblock : ∀ b ∈ blocks, (Token.code b.region.block) = .code b := by
    intro b hb
    rw [CodeBlock.block_region (h b hb).trimmed]
  rw [Token.ofRegions, List.filterMap_map]
  show blocks.filterMap (fun b => some (Token.code b.region.block)) = blocks.map .code
  rw [List.filterMap_eq_map', List.map_congr_left hblock]

/-- A tag line and segments without tag lines, of which no region is left open, stand alone. -/
theorem standalone_cons (tag : Tag) {rest : Text} (hr : rest.IsPhrase) {ls : List Text}
    (hclosed : ∀ s ∈ segments ls, s.isUnclosed = false) (htag : ∀ s ∈ segments ls, s.tag? = none) :
    Standalone (Tag.line tag rest :: ls) (Token.ofGroup ((tag, rest), segments ls)) := by
  have hsegs := segments_cons (Tag.opening?_line tag rest) ls
  have hhead : (Segment.plain (Tag.line tag rest)).tag? = some (tag, rest) :=
    Tag.ofLine?_line tag hr.head?_not_blank
  have hgroup : groupAt Segment.tag? (segments (Tag.line tag rest :: ls)) =
      ([], [((tag, rest), segments ls)]) := by
    rw [hsegs, groupAt_cons_heading _ hhead, groupAt_of_none htag]
  refine ⟨?_, ?_, ?_⟩
  · intro s hs
    rw [hsegs] at hs
    rcases List.mem_cons.1 hs with hs | hs
    · rw [hs]
      rfl
    · exact hclosed s hs
  · rw [hgroup]
  · rw [hgroup, List.flatMap_singleton]

/-- **A tag line and the code blocks behind it**: one token for the tag, one for each block. -/
theorem standalone_tag {tag : Tag} (hd : tag ≠ .description) {rest : Text} (hr : rest.IsPhrase)
    {blocks : List CodeBlock} (hb : ∀ b ∈ blocks, b.WellFormed) :
    Standalone (Tag.line tag rest :: blocks.flatMap CodeBlock.lines)
      (.tag tag (rest ++ ['\n']) :: blocks.map .code) := by
  have hsegs := segments_codeBlocks hb
  have hmem : ∀ s ∈ segments (blocks.flatMap CodeBlock.lines), ∃ b : CodeBlock,
      s = .fenced b.region := by
    intro s hs
    rw [hsegs] at hs
    obtain ⟨b, -, hbs⟩ := List.mem_map.1 hs
    exact ⟨b, hbs.symm⟩
  have hclosed : ∀ s ∈ segments (blocks.flatMap CodeBlock.lines), s.isUnclosed = false := by
    intro s hs
    obtain ⟨b, rfl⟩ := hmem s hs
    rfl
  have htag : ∀ s ∈ segments (blocks.flatMap CodeBlock.lines), s.tag? = none := by
    intro s hs
    obtain ⟨b, rfl⟩ := hmem s hs
    rfl
  have hplain : (blocks.map fun b => Segment.fenced b.region).filterMap Segment.plain? = [] := by
    simp [List.filterMap_map, Function.comp_def, Segment.plain?]
  have h := standalone_cons tag hr hclosed htag
  rw [ofGroup_eq, if_neg hd, if_neg hd, hsegs, hplain, ofRegions_codeBlocks hb] at h
  simpa [Text.endLines] using h

theorem standalone_tag_line {tag : Tag} (hd : tag ≠ .description) {rest : Text}
    (hr : rest.IsPhrase) : Standalone [Tag.line tag rest] [.tag tag (rest ++ ['\n'])] := by
  have hnone : ∀ b ∈ ([] : List CodeBlock), b.WellFormed := by simp
  exact standalone_tag hd hr hnone

/-- **A description** is one token, whatever code stands in it. -/
theorem standalone_description {ls : List Text} (h : IsDescription ls) :
    Standalone (Tag.line .description [] :: ls) [.tag .description ('\n' :: Text.endLines ls)] := by
  have hs := standalone_cons .description ⟨rfl, List.not_mem_nil⟩ h.closed h.no_tag
  rw [ofGroup_eq, if_pos rfl, if_pos rfl, flatMap_lines_segments] at hs
  exact hs

end PatternBook
