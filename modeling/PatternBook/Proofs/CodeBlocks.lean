import PatternBook.Proofs.Tidy
import PatternBook.Proofs.WrittenHeadings

/-!
# Code blocks and their fences

The code of a region is trimmed as a whole when it is read, and a document sets the trimmed code
between fences again (`Markdown.blockLines`). This file says when these lines are read back as the
block they were written from:

* `Text.trimStart_joinLines`, `Text.map_trimEnd_splitLines` -- a trim takes blank lines and the
  margin of the first line from the front of joined lines, and from the back nothing that `trimEnd`
  of each line would not take;
* `Fence.splitLines_code` -- so all lines of a block but the first are lines of the region, as far as
  a closing fence is concerned, and the first one may have lost its margin;
* `Region.HidesFence` -- an indented fence is a line of code, but no longer if it comes first;
* `CodeBlock.read_back` -- a block is read back exactly when its region hides no fence.
-/

namespace PatternBook

/-! ## 1. A trim and the lines of a text -/

namespace Text

/-- From the front of joined lines a trim takes the blank lines and the margin of the next one. -/
theorem trimStart_joinLines (ls : List Text) :
    trimStart (joinLines ls) = joinLines ((ls.dropWhile isAllBlank).modifyHead trimStart) := by
  induction ls with
  | nil => rfl
  | cons l ls ih =>
    cases h : l.isAllBlank with
    | true =>
      rw [List.dropWhile_cons_of_pos h, ← ih]
      cases ls with
      | nil => simpa [joinLines, List.intercalate_singleton] using trimStart_append_of_blank h []
      | cons m ms =>
        rw [joinLines, List.intercalate_cons_cons, List.append_assoc, trimStart_append_of_blank h]
        exact List.dropWhile_cons_of_pos (by decide)
    | false =>
      rw [List.dropWhile_cons_of_neg (by rw [h]; decide), List.modifyHead_cons]
      cases ls with
      | nil => simp [joinLines, List.intercalate_singleton]
      | cons m ms =>
        rw [joinLines, joinLines, List.intercalate_cons_cons, List.intercalate_cons_cons,
          List.append_assoc, List.append_assoc, trimStart_append_of_not_blank h]

/-- The trim of a text at its end, by its first character. -/
theorem trimEnd_cons (c : Char) (t : Text) :
    trimEnd (c :: t) = if t.trimEnd = [] ∧ isBlank c = true then [] else c :: t.trimEnd := by
  rw [trimEnd, List.reverse_cons, List.dropWhile_append, trimEnd]
  by_cases h : t.reverse.dropWhile isBlank = []
  · cases hc : isBlank c <;> simp [h, hc]
  · simp [h]

/-- White space behind a text adds lines to it, but changes none of its lines before their trailing
    white space. -/
theorem map_trimEnd_splitLines_append (t : Text) {s : Text} (h : ∀ c ∈ s, isBlank c = true) :
    (splitLines t).map trimEnd <+: (splitLines (t ++ s)).map trimEnd := by
  unfold splitLines
  induction t with
  | nil =>
    obtain ⟨first, rest, hs⟩ := List.exists_cons_of_ne_nil (List.splitOn_ne_nil '\n' s)
    have hfirst : trimEnd first = [] := by
      refine trimEnd_eq_nil fun c hc => h c ?_
      have hmem : first ∈ splitLines s := by
        rw [splitLines, hs]
        exact List.mem_cons_self
      exact (infix_of_mem_splitLines hmem).subset hc
    rw [List.nil_append, List.splitOn_nil, hs, List.map_cons, List.map_cons, hfirst]
    exact ⟨rest.map trimEnd, rfl⟩
  | cons c t ih =>
    rw [List.cons_append, List.splitOn_cons_eq_if_modifyHead, List.splitOn_cons_eq_if_modifyHead]
    split
    · rw [List.map_cons, List.map_cons, List.cons_prefix_cons]
      exact ⟨rfl, ih⟩
    · obtain ⟨first, rest, hx⟩ := List.exists_cons_of_ne_nil (List.splitOn_ne_nil '\n' t)
      obtain ⟨first', rest', hy⟩ := List.exists_cons_of_ne_nil (List.splitOn_ne_nil '\n' (t ++ s))
      rw [hx, hy, List.map_cons, List.map_cons, List.cons_prefix_cons] at ih
      rw [hx, hy, List.modifyHead_cons, List.modifyHead_cons, List.map_cons, List.map_cons,
        List.cons_prefix_cons, trimEnd_cons, trimEnd_cons, ih.1]
      exact ⟨rfl, ih.2⟩

/-- A trim at the end of a text takes from its lines only trailing white space and blank lines. -/
theorem map_trimEnd_splitLines (t : Text) :
    (splitLines t.trimEnd).map trimEnd <+: (splitLines t).map trimEnd := by
  obtain ⟨-, gap, ht, hgap⟩ := trimEnd_eq_iff.1 (rfl : t.trimEnd = t.trimEnd)
  have h := map_trimEnd_splitLines_append t.trimEnd hgap
  rwa [← ht] at h

end Text

/-! ## 2. The lines of code -/

namespace Fence

/-- Trailing white space does not matter to a closing line. -/
theorem isClosing_congr {l m : Text} (h : l.trimEnd = m.trimEnd) : isClosing l = isClosing m := by
  rw [isClosing, isClosing, h]

/-- **The lines of the code of a region**: up to trailing white space, the first one is the first line
    that is not blank without its margin, and each other one is a line of the region. -/
theorem splitLines_code {inner : List Text} (h : ∀ l ∈ inner, '\n' ∉ l) :
    ∃ first rest, Text.splitLines (code inner) = first :: rest ∧
      first.trimEnd = ((inner.find? fun l => !l.isAllBlank).map Text.trim).getD [] ∧
      ∀ m ∈ rest, ∃ l ∈ inner, m.trimEnd = l.trimEnd := by
  have hcode : code inner =
      (Text.joinLines ((inner.dropWhile Text.isAllBlank).modifyHead Text.trimStart)).trimEnd := by
    rw [code, Text.trim, Text.trimStart_joinLines]
  have hfind : (inner.find? fun l => !l.isAllBlank) = (inner.dropWhile Text.isAllBlank).head? := by
    rw [List.find?_eq_head?_dropWhile_not]
    simp only [Bool.not_not]
  rw [hcode, hfind]
  cases hcore : inner.dropWhile Text.isAllBlank with
  | nil => exact ⟨[], [], rfl, rfl, by simp⟩
  | cons l ls =>
    have hsub : ∀ m ∈ l :: ls, m ∈ inner := by
      intro m hm
      rw [← hcore] at hm
      exact (List.dropWhile_suffix _).subset hm
    have hlines : ∀ m ∈ l.trimStart :: ls, '\n' ∉ m := by
      intro m hm
      rcases List.mem_cons.1 hm with rfl | hm
      · exact fun hn => h l (hsub l List.mem_cons_self) ((Text.trimStart_suffix l).subset hn)
      · exact h m (hsub m (List.mem_cons_of_mem l hm))
    have hsplit : Text.splitLines (Text.joinLines (l.trimStart :: ls)) = l.trimStart :: ls :=
      List.splitOn_intercalate '\n' hlines (List.cons_ne_nil _ _)
    have hpre := Text.map_trimEnd_splitLines (Text.joinLines (l.trimStart :: ls))
    obtain ⟨first, rest, hfirst⟩ := List.exists_cons_of_ne_nil
      (List.splitOn_ne_nil '\n' (Text.joinLines (l.trimStart :: ls)).trimEnd)
    rw [hsplit, Text.splitLines, hfirst, List.map_cons, List.map_cons, List.cons_prefix_cons] at hpre
    refine ⟨first, rest, hfirst, hpre.1, fun m hm => ?_⟩
    obtain ⟨l', hl', hm'⟩ := List.mem_map.1 (hpre.2.subset (List.mem_map_of_mem hm))
    exact ⟨l', hsub l' (List.mem_cons_of_mem l hl'), hm'.symm⟩

end Fence

/-! ## 3. Regions that hide a fence -/

/-- The first line of a region that is not blank is a closing fence but for its margin. It does not
    close the region, but the code starts with it, and the margin is trimmed away. -/
def Region.HidesFence (r : Region) : Prop :=
  ∃ l ∈ r.inner.find? fun l => !Text.isAllBlank l, l.trim = Fence.ticks

instance (r : Region) : Decidable r.HidesFence :=
  inferInstanceAs (Decidable (∃ l ∈ r.inner.find? fun l => !Text.isAllBlank l, l.trim = Fence.ticks))

/-- The lines inside a region do not close it. -/
theorem isClosing_of_mem_segments {ls : List Text} {r : Region} (hr : .fenced r ∈ segments ls) :
    ∀ l ∈ r.inner, Fence.isClosing l = false := by
  induction ls using segments_induction with
  | nil => simp at hr
  | plain l ls h ih =>
    rw [segments_cons h] at hr
    rcases List.mem_cons.1 hr with hr | hr
    · cases hr
    · exact ih hr
  | region opener lang inner closer ls ho hi hc ih =>
    rw [segments_region ho hi hc] at hr
    rcases List.mem_cons.1 hr with hr | hr
    · cases hr
      exact hi
    · exact ih hr
  | unclosed opener lang inner ho hi =>
    rw [segments_unclosed ho hi, List.mem_singleton] at hr
    cases hr
    exact hi

section Region

variable {ls : List Text} (hls : ∀ l ∈ ls, '\n' ∉ l) {r : Region} (hr : .fenced r ∈ segments ls)
include hls hr

/-- Only the first line of a block can look like a closing fence, and it does where the region hides
    one. -/
theorem Region.isClosing_splitLines : ∃ first rest,
    Text.splitLines r.block.code = first :: rest ∧ (Fence.isClosing first = true ↔ r.HidesFence) ∧
    ∀ m ∈ rest, Fence.isClosing m = false := by
  have hinner := isClosing_of_mem_segments hr
  have hmem : ∀ l ∈ r.inner, '\n' ∉ l := fun l hl =>
    hls l (mem_of_mem_segments hr (List.mem_cons_of_mem _ (List.mem_append_left _ hl)))
  obtain ⟨first, rest, hsplit, hfirst, hrest⟩ := Fence.splitLines_code hmem
  refine ⟨first, rest, hsplit, ?_, fun m hm => ?_⟩
  · rw [Fence.isClosing, hfirst, beq_iff_eq, HidesFence]
    cases r.inner.find? fun l => !Text.isAllBlank l with
    | none => simp [Fence.ticks]
    | some l => simp
  · obtain ⟨l, hl, hml⟩ := hrest m hm
    rw [Fence.isClosing_congr hml, hinner l hl]

/-- The block of a region that hides no fence is one region again, whatever is written behind it. -/
theorem Region.segments_lines_block (hh : ¬ r.HidesFence) (after : List Text) :
    segments (r.block.lines ++ after) = .fenced r.block.region :: segments after := by
  obtain ⟨first, rest, hsplit, hfirst, hrest⟩ := isClosing_splitLines hls hr
  refine CodeBlock.segments_lines_append (Token.tidy_block hr).lang (fun l hl => ?_) after
  rw [hsplit] at hl
  rcases List.mem_cons.1 hl with rfl | hl
  · exact Bool.eq_false_iff.2 fun hc => hh (hfirst.1 hc)
  · exact hrest l hl

/-- The block of a region that hides a fence ends at its first line, and its code stands behind it. -/
theorem Region.segments_lines_of_hidesFence (hh : r.HidesFence) (after : List Text) :
    ∃ first rest, Text.splitLines r.block.code = first :: rest ∧
      segments (r.block.lines ++ after) =
        .fenced ⟨Fence.ticks ++ r.lang.getD [], r.lang, [], some first⟩ ::
          segments (rest ++ Fence.ticks :: after) := by
  obtain ⟨first, rest, hsplit, hfirst, -⟩ := isClosing_splitLines hls hr
  refine ⟨first, rest, hsplit, ?_⟩
  have hlines : r.block.lines ++ after = (Fence.ticks ++ r.lang.getD []) :: [] ++
      first :: (rest ++ Fence.ticks :: after) := by
    rw [CodeBlock.lines, hsplit]
    simp [Region.block]
  rw [hlines]
  exact segments_region (opening?_ticks (Token.tidy_block hr).lang) (by simp) (hfirst.2 hh) _

/-- A block is read back from its lines exactly when its region hides no fence. -/
theorem Region.value_ofLines_lines_iff :
    (Token.ofLines r.block.lines).value = [.code r.block] ↔ ¬ r.HidesFence := by
  constructor
  · intro hvalue hh
    obtain ⟨first, rest, hsplit, hsegs⟩ := segments_lines_of_hidesFence hls hr hh []
    rw [List.append_nil] at hsegs
    -- the first token is an empty block, but the code that was written is not empty
    have hempty : r.block.code = [] := by
      have hplain : (Segment.fenced ⟨Fence.ticks ++ r.lang.getD [], r.lang, [], some first⟩).tag? =
        none := rfl
      rw [Token.ofLines, hsegs, groupAt_cons_plain _ hplain] at hvalue
      have hcode := (List.cons.inj hvalue).1
      exact (congrArg CodeBlock.code (Token.code.inj hcode)).symm
    obtain ⟨first', rest', hsplit', hfirst, -⟩ := isClosing_splitLines hls hr
    rw [hempty] at hsplit'
    obtain ⟨rfl, -⟩ := List.cons.inj hsplit'
    exact absurd (hfirst.2 hh) (by decide)
  · intro hh
    have hsegs := segments_lines_block hls hr hh []
    rw [List.append_nil] at hsegs
    rw [Token.ofLines, hsegs]
    simp [segments, segmentsBy, groupAt, Segment.tag?, Segment.plain?, Token.ofRegions,
      Segment.fenced?, CodeBlock.block_region (Token.tidy_block hr).code]

end Region

/-! ## 4. Blocks of a document -/

/-- The lines of a block in a document are those of the block, and an empty one. -/
theorem Markdown.flatMap_splitLines_blockLines {b : CodeBlock} (h : b.Tidy) :
    (blockLines b).flatMap Text.splitLines = b.lines ++ [[]] := by
  have hopener : Text.splitLines (Fence.ticks ++ b.lang.getD []) = [Fence.ticks ++ b.lang.getD []] := by
    refine List.splitOn_eq_singleton fun hn => ?_
    rcases List.mem_append.1 hn with hn | hn
    · exact absurd hn (by decide)
    · cases hs : b.lang with
      | none => simp [hs] at hn
      | some s =>
        rw [hs] at hn
        exact absurd ((h.lang s hs).1.no_blank _ hn) (by decide)
  have hticks : "\x60\x60\x60".toList = Fence.ticks := rfl
  have hclosing : Text.splitLines Fence.ticks = [Fence.ticks] := by decide
  rw [blockLines, hticks, List.flatMap_cons, hopener, List.flatMap_cons, List.flatMap_cons, hclosing,
    CodeBlock.lines]
  simp [Text.splitLines]

/-- **When a block survives its document.** A code token of lines comes from a region, and the lines
    that a document writes for it are read back as this token alone exactly when the region hides no
    fence. Then nothing that is written behind the block changes how it is read; and in no case does
    a line of the code behind the first one end the block. -/
theorem CodeBlock.read_back {ls : List Text} (hls : ∀ l ∈ ls, '\n' ∉ l) {b : CodeBlock}
    (hb : .code b ∈ (Token.ofLines ls).value) :
    (∃ r, .fenced r ∈ segments ls ∧ r.block = b) ∧
    (Markdown.blockLines b).flatMap Text.splitLines = b.lines ++ [[]] ∧
    (∀ l ∈ (Text.splitLines b.code).tail, Fence.isClosing l = false) ∧
    ∀ r, .fenced r ∈ segments ls → r.block = b →
      ((Token.ofLines b.lines).value = [.code b] ↔ ¬ r.HidesFence) ∧
      (¬ r.HidesFence → ∀ after, segments (b.lines ++ after) = .fenced b.region :: segments after) := by
  have hregion : ∃ r, .fenced r ∈ segments ls ∧ r.block = b := by
    rcases Token.cases_of_mem_ofLines hb with ⟨r, hr, hrb⟩ | ⟨tag, rest, owned, -, -, htag⟩
    · exact ⟨r, hr, (Token.code.inj hrb).symm⟩
    · cases htag
  refine ⟨hregion, ?_, ?_, ?_⟩
  · obtain ⟨r, hr, rfl⟩ := hregion
    exact Markdown.flatMap_splitLines_blockLines (Token.tidy_block hr)
  · obtain ⟨r, hr, rfl⟩ := hregion
    obtain ⟨first, rest, hsplit, -, hrest⟩ := Region.isClosing_splitLines hls hr
    rw [hsplit]
    exact hrest
  · rintro r hr rfl
    exact ⟨Region.value_ofLines_lines_iff hls hr, Region.segments_lines_block hls hr⟩

/-- Lines of a block with an indented fence behind its first line of code. -/
def Fence.laterFence : List Text :=
  ["\x60\x60\x60js", "", "  let x", " \x60\x60\x60", "\x60\x60\x60 "].map String.toList

/-- The block of these lines is read back. -/
theorem CodeBlock.read_back_laterFence : (∀ l ∈ Fence.laterFence, '\n' ∉ l) ∧
    .code ⟨some "js".toList, "let x\n \x60\x60\x60".toList⟩ ∈ (Token.ofLines Fence.laterFence).value ∧
    (Token.ofLines (lines ⟨some "js".toList, "let x\n \x60\x60\x60".toList⟩)).value =
      [.code ⟨some "js".toList, "let x\n \x60\x60\x60".toList⟩] := by
  have hls : ∀ l ∈ Fence.laterFence, '\n' ∉ l := by decide
  have hb : .code ⟨some "js".toList, "let x\n \x60\x60\x60".toList⟩ ∈
      (Token.ofLines Fence.laterFence).value := by decide +kernel
  obtain ⟨-, -, -, hback⟩ := CodeBlock.read_back hls hb
  let r : Region := ⟨"\x60\x60\x60js".toList, some "js".toList,
    ["", "  let x", " \x60\x60\x60"].map String.toList, some "\x60\x60\x60 ".toList⟩
  have hr : .fenced r ∈ segments Fence.laterFence := by decide +kernel
  exact ⟨hls, hb, (hback r hr (by decide)).1.2 (by decide)⟩

/-- Lines of a block whose first line of code is an indented fence. -/
def Fence.firstFence : List Text :=
  ["\x60\x60\x60", "  \x60\x60\x60", "foo", "\x60\x60\x60"].map String.toList

/-- **The block of these lines is not read back.** Written again, its first line has lost its margin
    and ends the block: two empty blocks are read instead. -/
theorem CodeBlock.not_read_back : (∀ l ∈ Fence.firstFence, '\n' ∉ l) ∧
    (Token.ofLines Fence.firstFence).value = [.code ⟨none, "\x60\x60\x60\nfoo".toList⟩] ∧
    (Token.ofLines (lines ⟨none, "\x60\x60\x60\nfoo".toList⟩)).value =
      [.code ⟨none, []⟩, .code ⟨none, []⟩] ∧
    (Token.ofLines (lines ⟨none, "\x60\x60\x60\nfoo".toList⟩)).value ≠
      [.code ⟨none, "\x60\x60\x60\nfoo".toList⟩] := by
  decide +kernel

end PatternBook
