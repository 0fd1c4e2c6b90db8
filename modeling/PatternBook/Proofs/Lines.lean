import PatternBook.Proofs.Layout

/-!
# Comments written from lines

The way from lines to a comment and back:

* `infix_of_mem_splitLines` -- the lines of a text stand in it, and hold no newline;
* `IsLine` -- what makes a text one line of a comment: it holds no newline and no closing mark, and
  does not end with a carriage return, which reading would drop;
* `ofLines` -- the comment that has the given lines;
* `rawLines_joinLines` -- the lines of a body that was joined from lines are these lines;
* `patterns_ofLines` -- so the patterns of such a comment are those of its lines, as the vote and the
  framing leave them.
-/

namespace PatternBook

open Comments (opening closing)

/-! ## 1. The lines of a text -/

/-- A line of a text holds no newline. -/
theorem Text.newline_notMem_of_mem_splitLines {t l : Text} (h : l ∈ splitLines t) : '\n' ∉ l :=
  notMem_of_mem_splitOn h

/-- A line stands in the text that is joined from lines. -/
theorem Text.infix_joinLines {ls : List Text} {l : Text} (h : l ∈ ls) : l <:+: joinLines ls := by
  unfold joinLines
  induction ls with
  | nil => cases h
  | cons m ms ih =>
    cases ms with
    | nil =>
      rw [List.mem_singleton.1 h, List.intercalate_singleton]
    | cons n ms =>
      rw [List.intercalate_cons_cons]
      rcases List.mem_cons.1 h with h | h
      · rw [h, List.append_assoc]
        exact (List.prefix_append _ _).isInfix
      · exact (ih h).trans (List.suffix_append _ _).isInfix

/-- A line of a text stands in the text. -/
theorem Text.infix_of_mem_splitLines {t l : Text} (h : l ∈ splitLines t) : l <:+: t := by
  have hj := infix_joinLines h
  rwa [joinLines, splitLines, List.intercalate_splitOn] at hj

/-! ## 2. Lines and joined lines -/

/-- A text that can stand as one line of a comment. -/
structure Body.IsLine (l : Text) : Prop where
  no_newline : '\n' ∉ l
  no_return : l.getLast? ≠ some '\r'
  no_closing : ¬ closing <:+: l

namespace Body

instance (l : Text) : Decidable (IsLine l) :=
  decidable_of_iff ('\n' ∉ l ∧ l.getLast? ≠ some '\r' ∧ ¬ closing <:+: l)
    ⟨fun ⟨h₁, h₂, h₃⟩ => ⟨h₁, h₂, h₃⟩, fun h => ⟨h.no_newline, h.no_return, h.no_closing⟩⟩

/-- A text without a star holds no closing mark. -/
theorem not_closing_of_star {t : Text} (h : '*' ∉ t) : ¬ closing <:+: t :=
  fun hc => h (hc.subset List.mem_cons_self)

/-- No closing mark stands across a joint behind which no slash follows. -/
theorem not_closing_append {s t : Text} (hs : ¬ closing <:+: s) (ht : ¬ closing <:+: t)
    (hslash : t.head? ≠ some '/') : ¬ closing <:+: s ++ t := by
  unfold closing at hs ht ⊢
  rw [Text.pair_infix_append_iff]
  intro h
  rcases h with h | h | ⟨-, h⟩
  · exact hs h
  · exact ht h
  · exact hslash h

/-- A text without a star starts no closing mark, whatever follows it. -/
theorem not_closing_append_of_star {s t : Text} (hs : '*' ∉ s) (ht : ¬ closing <:+: t) :
    ¬ closing <:+: s ++ t := by
  intro h
  unfold closing at h
  rw [Text.pair_infix_append_iff] at h
  rcases h with h | h | ⟨h, -⟩
  · exact not_closing_of_star hs h
  · exact ht h
  · exact hs (List.mem_of_getLast? h)

/-- The lines of a text joined from lines are these lines; no line at all reads as an empty one. -/
theorem rawLines_joinLines {ls : List Text} (h : ∀ l ∈ ls, IsLine l) :
    rawLines (Text.joinLines ls) = if ls = [] then [[]] else ls := by
  split
  · rename_i hls
    subst hls
    rfl
  · rename_i hls
    have hsplit : Text.splitLines (Text.joinLines ls) = ls :=
      List.splitOn_intercalate '\n' (fun l hl => (h l hl).no_newline) hls
    have hdrop : ∀ l ∈ ls, dropReturn l = l := fun l hl => if_neg (h l hl).no_return
    rw [rawLines, hsplit, List.map_congr_left hdrop, List.map_id']

/-- Joined lines hold no closing mark, since the newline between them is no part of the mark. -/
theorem not_closing_joinLines {ls : List Text} (h : ∀ l ∈ ls, ¬ closing <:+: l) :
    ¬ closing <:+: Text.joinLines ls := by
  unfold closing at h ⊢
  unfold Text.joinLines
  induction ls with
  | nil => simp
  | cons l ls ih =>
    have hl := h l List.mem_cons_self
    have hls := ih fun m hm => h m (List.mem_cons_of_mem l hm)
    cases ls with
    | nil => simpa using hl
    | cons m ms =>
      rw [List.intercalate_cons_cons, List.append_assoc, Text.pair_infix_append_iff,
        Text.pair_infix_append_iff]
      rintro (h₁ | (h₂ | h₃ | ⟨h₄, -⟩) | ⟨-, h₅⟩)
      · exact hl h₁
      · have := h₂.length_le
        simp at this
      · exact hls h₃
      · simp at h₄
      · simp at h₅

end Body

/-! ## 3. Comments of lines -/

/-- The comment with the given lines. -/
def Comments.ofLines (ls : List Text) : Text := opening ++ Text.joinLines ls ++ closing

/-- The patterns of the lines of a body. -/
def Pattern.ofLines (ls : List Text) : List Pattern := (ofTokens (Token.ofLines ls).value).value

/-- The patterns of a comment written from lines. -/
theorem Source.patterns_ofLines {ls : List Text} (h : ∀ l ∈ ls, Body.IsLine l) :
    patterns (Comments.ofLines ls) = Pattern.ofLines (Body.lines (Text.joinLines ls)) :=
  patterns_comment (Body.not_closing_joinLines fun l hl => (h l hl).no_closing)

end PatternBook
