import Mathlib.Data.List.Forall2
import PatternBook.Proofs.LineKinds
import PatternBook.Proofs.Lines
import PatternBook.Proofs.Places
import PatternBook.Proofs.WhiteSpace

/-!
# Decoration

A comment may write a star before each of its lines. This file shows that such stars leave no trace
in the patterns that are read:

* `Decorated` -- the ways to set a star before a line, with or without a space after it;
* `isDecorated_of_stars` -- where every line that is not blank carries a star, one line that votes is
  enough, and no line that carries a star is blank;
* `no_plain_of_no_voter` -- where nobody votes, all lines are fenced code, and there is nothing to
  read with or without the stars;
* `patterns_decorated` -- so a decorated comment has the patterns of its bare lines, and so has the
  undecorated comment, as long as its own lines do not pass the vote.
-/

namespace PatternBook

open Comments (closing)

/-! ## 1. Decorated lines -/

/-- A line and the line with a star set before it. The star follows a margin of spaces and tabs, and
    either a space follows it, or the line itself, if the line does not start with a character that
    would be read with the star. -/
inductive Decorated : Text → Text → Prop where
  | spaced {margin line : Text} (hm : ∀ c ∈ margin, c = ' ' ∨ c = '\t') :
      Decorated line (margin ++ '*' :: ' ' :: line)
  | tight {margin line : Text} (hm : ∀ c ∈ margin, c = ' ' ∨ c = '\t')
      (hl : ∀ c ∈ line.head?, c ≠ ' ' ∧ c ≠ '*' ∧ c ≠ '/') :
      Decorated line (margin ++ '*' :: line)

namespace Body

theorem dropWhile_isIndent_star {margin : Text} (hm : ∀ c ∈ margin, c = ' ' ∨ c = '\t') (t : Text) :
    (margin ++ '*' :: t).dropWhile Tag.isIndent = '*' :: t := by
  have h : ∀ c ∈ margin, Tag.isIndent c = true := fun c hc => Tag.isIndent_iff.2 (hm c hc)
  rw [List.dropWhile_append_of_pos h]
  rfl

/-- A decorated line is read as the line without its star. -/
theorem undecorate?_of_decorated {l d : Text} (h : Decorated l d) : undecorate? d = some l := by
  cases h with
  | spaced hm =>
    rw [undecorate?, dropWhile_isIndent_star hm]
    rfl
  | tight hm hl =>
    rw [undecorate?, dropWhile_isIndent_star hm]
    cases l with
    | nil => rfl
    | cons c l =>
      obtain ⟨h₁, h₂, h₃⟩ := hl c rfl
      simp [h₁, h₂, h₃]

theorem star_mem_of_decorated {l d : Text} (h : Decorated l d) : '*' ∈ d := by
  cases h <;> simp

/-- A decorated line is no tag line. -/
theorem ofLine?_of_decorated {l d : Text} (h : Decorated l d) : Tag.ofLine? d = none := by
  cases h with
  | spaced hm =>
    rw [Tag.ofLine?, dropWhile_isIndent_star hm]
    rfl
  | tight hm hl =>
    rw [Tag.ofLine?, dropWhile_isIndent_star hm]
    rfl

/-- A margin before a line leaves it a line. -/
theorem isLine_margin_append {margin t : Text} (hm : ∀ c ∈ margin, c = ' ' ∨ c = '\t')
    (hne : t ≠ []) (ht : IsLine t) : IsLine (margin ++ t) where
  no_newline := by
    rw [List.mem_append]
    rintro (h | h)
    · rcases hm _ h with h' | h' <;> exact absurd h' (by decide)
    · exact ht.no_newline h
  no_return := by
    rw [List.getLast?_append_of_ne_nil margin hne]
    exact ht.no_return
  no_closing := by
    refine not_closing_append_of_star (fun h => ?_) ht.no_closing
    rcases hm _ h with h' | h' <;> exact absurd h' (by decide)

/-- A star before a line leaves it a line, if no slash follows the star. -/
theorem isLine_star_cons {t : Text} (ht : IsLine t) (hs : t.head? ≠ some '/') :
    IsLine ('*' :: t) where
  no_newline := by
    rw [List.mem_cons]
    rintro (h | h)
    · exact absurd h (by decide)
    · exact ht.no_newline h
  no_return := by
    cases t with
    | nil => decide
    | cons c t => simpa using ht.no_return
  no_closing := by
    show ¬ closing <:+: ['*'] ++ t
    exact not_closing_append (by decide) ht.no_closing hs

/-- A decorated line can stand in a comment where the bare line can. -/
theorem isLine_of_decorated {l d : Text} (h : Decorated l d) (hl : IsLine l) : IsLine d := by
  cases h with
  | spaced hm =>
    have hsp : IsLine ([' '] ++ l) := by
      cases l with
      | nil => exact ⟨by decide, by decide, by decide⟩
      | cons c l => exact isLine_margin_append (by simp) (List.cons_ne_nil c l) hl
    exact isLine_margin_append hm (List.cons_ne_nil _ _) (isLine_star_cons hsp (by simp))
  | tight hm hh =>
    refine isLine_margin_append hm (List.cons_ne_nil _ _) (isLine_star_cons hl fun hs => ?_)
    exact (hh _ hs).2.2 rfl

/-! ## 2. The vote -/

/-- Where every line that is not blank carries a star, one line that votes is enough. -/
theorem isDecorated_of_stars {lines : List Text}
    (hs : ∀ l ∈ lines, Text.isAllBlank l = false → (undecorate? l).isSome = true)
    (hv : voters lines ≠ []) : isDecorated lines = true := by
  have hall : (voters lines).countP (fun l => (undecorate? l).isSome) = (voters lines).length := by
    rw [List.countP_eq_length]
    intro v hvm
    obtain ⟨hplain, hblank⟩ := List.mem_filter.1 hvm
    exact hs v (mem_of_mem_plain? hplain) (by simpa using hblank)
  have hpos := List.length_pos_iff.2 hv
  unfold isDecorated
  simp only [hall, decide_eq_true_eq]
  omega

section Vote

variable {bare lines : List Text} (h : List.Forall₂ Decorated bare lines)
include h

theorem exists_bare {d : Text} (hd : d ∈ lines) : ∃ l ∈ bare, Decorated l d := by
  induction h with
  | nil => cases hd
  | cons hr _ ih =>
    rcases List.mem_cons.1 hd with rfl | hd
    · exact ⟨_, List.mem_cons_self, hr⟩
    · obtain ⟨l, hl, hld⟩ := ih hd
      exact ⟨l, List.mem_cons_of_mem _ hl, hld⟩

/-- Without their stars the lines are the bare lines. -/
theorem map_undecorate : lines.map undecorate = bare := by
  induction h with
  | nil => rfl
  | cons hr _ ih => rw [List.map_cons, ih, undecorate, undecorate?_of_decorated hr, Option.getD_some]

/-- Every line carries a star. -/
theorem isSome_undecorate? {d : Text} (hd : d ∈ lines) : (undecorate? d).isSome = true := by
  obtain ⟨l, -, hl⟩ := exists_bare h hd
  rw [undecorate?_of_decorated hl]
  rfl

/-- If nobody votes, all lines stand in regions, since no line that carries a star is blank. -/
theorem no_plain_of_no_voter (hv : voters lines = []) :
    (placesBy undecorate false lines).filter Line.isPlain = [] := by
  have hfilter : ∀ d ∈ (segmentsBy undecorate lines).filterMap Segment.plain?,
      (!Text.isAllBlank d) = true := by
    intro d hd
    obtain ⟨l, -, hl⟩ := exists_bare h (mem_of_mem_plain? hd)
    rw [Text.not_isAllBlank_of_mem (star_mem_of_decorated hl) (by decide)]
    rfl
  unfold voters at hv
  rw [List.filter_eq_self.2 hfilter, filterMap_plain?_eq, flatMap_places] at hv
  exact List.map_eq_nil_iff.1 hv

/-- The same holds of the bare lines. -/
theorem no_plain_bare (hv : voters lines = []) : (places bare).filter Line.isPlain = [] := by
  have hno := no_plain_of_no_voter h hv
  have hplain : (Line.isPlain ∘ fun x : Line => (⟨undecorate x.text, x.place⟩ : Line)) =
      Line.isPlain := rfl
  rw [places, ← map_undecorate h, placesBy_map, List.filter_map, hplain, hno]
  rfl

end Vote

/-! ## 3. Framing -/

/-- What is left of lines without the framing lines at both ends. -/
structure Unframed (ls core : List Text) : Prop where
  split : ∃ top bottom, ls = top ++ core ++ bottom ∧ (∀ l ∈ top, isFraming l = true) ∧
    ∀ l ∈ bottom, isFraming l = true
  first : ∀ l ∈ core.head?, isFraming l = false
  last : ∀ l ∈ core.getLast?, isFraming l = false

/-- The first line behind the leading framing is not framing. -/
theorem isFraming_head?_dropWhile (ls : List Text) {l : Text}
    (h : l ∈ (ls.dropWhile isFraming).head?) : isFraming l = false := by
  have hd := List.head?_dropWhile_not isFraming ls
  rw [Option.mem_def.1 h] at hd
  exact hd

/-- Dropping the framing leaves what stands between the framing lines at both ends. -/
theorem unframed_dropFraming (ls : List Text) : Unframed ls (dropFraming ls) := by
  have hback : ls.dropWhile isFraming = dropFraming ls ++
      ((ls.dropWhile isFraming).reverse.takeWhile isFraming).reverse := by
    rw [dropFraming, ← List.reverse_append, List.takeWhile_append_dropWhile, List.reverse_reverse]
  refine ⟨⟨ls.takeWhile isFraming, ((ls.dropWhile isFraming).reverse.takeWhile isFraming).reverse,
    ?_, ?_, ?_⟩, ?_, ?_⟩
  · rw [List.append_assoc, ← hback, List.takeWhile_append_dropWhile]
  · exact fun l hl => List.mem_takeWhile_imp hl
  · exact fun l hl => List.mem_takeWhile_imp (List.mem_reverse.1 hl)
  · intro l hl
    refine isFraming_head?_dropWhile ls ?_
    rw [hback, List.head?_append, Option.mem_def.1 hl]
    rfl
  · intro l hl
    rw [dropFraming, List.getLast?_reverse] at hl
    exact isFraming_head?_dropWhile _ hl

/-- What is left is all that is left: there is one way to drop the framing. -/
theorem Unframed.dropFraming_eq {ls core : List Text} (h : Unframed ls core) :
    dropFraming ls = core := by
  obtain ⟨top, bottom, rfl, htop, hbottom⟩ := h.split
  have hstart : (top ++ core ++ bottom).dropWhile isFraming =
      (core ++ bottom).dropWhile isFraming := by
    rw [List.append_assoc, List.dropWhile_append_of_pos htop]
  rw [dropFraming, hstart]
  cases hcore : core with
  | nil =>
    rw [List.nil_append, List.dropWhile_eq_nil_iff.2 hbottom]
    rfl
  | cons c cs =>
    have hfirst : (core ++ bottom).dropWhile isFraming = core ++ bottom := by
      rw [hcore, List.cons_append, List.dropWhile_cons, h.first c (by rw [hcore]; rfl)]
      rfl
    have hlast : core.reverse.dropWhile isFraming = core.reverse := by
      cases hr : core.reverse with
      | nil => rfl
      | cons d ds =>
        have hd : core.getLast? = some d := by rw [← List.head?_reverse, hr]; rfl
        rw [List.dropWhile_cons, h.last d hd]
        rfl
    rw [← hcore, hfirst, List.reverse_append,
      List.dropWhile_append_of_pos fun l hl => hbottom l (List.mem_reverse.1 hl), hlast,
      List.reverse_reverse]

/-- The opening line of a region is not framing: it holds a backtick. -/
theorem not_isFraming_of_opening? {l : Text} {lang : Option Text}
    (h : Fence.opening? l = some lang) : isFraming l = false := by
  obtain ⟨gap, hopen⟩ := Fence.opening?_eq_some_iff.1 h
  have htick : '\x60' ∈ l := by
    rw [hopen.line_eq]
    exact List.mem_append_left _ (by decide)
  rw [isFraming, List.all_eq_false]
  exact ⟨_, Text.mem_trim_of_not_blank htick (by decide), by decide⟩

theorem dropFraming_subset {ls : List Text} {l : Text} (h : l ∈ dropFraming ls) : l ∈ ls := by
  unfold dropFraming at h
  rw [List.mem_reverse] at h
  have h₁ := (List.dropWhile_suffix isFraming).subset h
  rw [List.mem_reverse] at h₁
  exact (List.dropWhile_suffix isFraming).subset h₁

/-- Where the first line is not framing, only lines at the end are dropped. -/
theorem dropFraming_prefix_of_head {l : Text} (h : isFraming l = false) (ls : List Text) :
    dropFraming (l :: ls) <+: l :: ls := by
  have hd : (l :: ls).dropWhile isFraming = l :: ls := by
    rw [List.dropWhile_cons, h]
    rfl
  rw [dropFraming, hd, ← List.reverse_suffix, List.reverse_reverse]
  exact List.dropWhile_suffix isFraming

/-- Lines that all stand in regions still do without their framing. -/
theorem no_plain_dropFraming {ls : List Text} (h : (places ls).filter Line.isPlain = []) :
    (places (dropFraming ls)).filter Line.isPlain = [] := by
  cases ls with
  | nil => rfl
  | cons l ls =>
    have hframe : isFraming l = false := by
      cases ho : Fence.opening? l with
      | some lang => exact not_isFraming_of_opening? ho
      | none =>
        have hp : Line.Place.ofText false l = .plain := by simp [Line.Place.ofText, ho]
        simp [places, placesBy, Line.isPlain, hp] at h
    obtain ⟨rest, hrest⟩ := dropFraming_prefix_of_head hframe ls
    have hpre := placesBy_append id false (dropFraming (l :: ls)) rest
    rw [hrest] at hpre
    have hsub := hpre.sublist.filter Line.isPlain
    rw [show placesBy id false (l :: ls) = places (l :: ls) from rfl, h] at hsub
    exact List.eq_nil_of_sublist_nil hsub

end Body

/-! ## 4. Lines without a tag -/

/-- Lines among which no plain one is a tag line have no patterns. -/
theorem Pattern.ofLines_of_no_tag {ls : List Text}
    (h : ∀ l ∈ (segments ls).filterMap Segment.plain?, Tag.ofLine? l = none) : ofLines ls = [] := by
  have htag : ∀ s ∈ segments ls, s.tag? = none := by
    intro s hs
    cases s with
    | plain line => exact h line (List.mem_filterMap.2 ⟨_, hs, rfl⟩)
    | fenced r => rfl
  have htokens : (Token.ofLines ls).value = Token.ofRegions (segments ls) := by
    simp [Token.ofLines, groupAt_of_none htag]
  have hrecord : ∀ t ∈ Token.ofRegions (segments ls), t.record? = none := by
    intro t ht
    obtain ⟨s, -, hs⟩ := List.mem_filterMap.1 ht
    obtain ⟨r, -, rfl⟩ := Option.map_eq_some_iff.1 hs
    rfl
  simp [ofLines, ofTokens, htokens, groupAt_of_none hrecord, Logged.join]

/-! ## 5. Comments with and without stars -/

/-- The lines of an undecorated body. -/
theorem Body.lines_joinLines {ls : List Text} (h : ∀ l ∈ ls, IsLine l)
    (hv : isDecorated ls = false) : lines (Text.joinLines ls) = dropFraming ls := by
  rw [lines, rawLines_joinLines h]
  split
  · rename_i hls
    subst hls
    simp [isDecorated, voters, segmentsBy, Fence.opening?, Text.isAllBlank]
    rfl
  · simp [hv]

/-- The lines of a decorated body. -/
theorem Body.lines_joinLines_of_decorated {ls : List Text} (h : ∀ l ∈ ls, IsLine l)
    (hv : isDecorated ls = true) : lines (Text.joinLines ls) = dropFraming (ls.map undecorate) := by
  have hne : ls ≠ [] := by
    intro hls
    rw [hls] at hv
    simp [isDecorated, voters, segmentsBy] at hv
  rw [lines, rawLines_joinLines h, if_neg hne, if_pos hv]

/-- **Decoration is invisible.** A comment whose lines all carry a star has the patterns of its bare
    lines without their framing, whatever the bare lines are. The bare lines as a comment of their
    own have the same patterns, unless they pass the vote themselves. -/
theorem patterns_decorated {bare lines : List Text} (hb : ∀ l ∈ bare, Body.IsLine l)
    (h : List.Forall₂ Decorated bare lines) :
    Body.Unframed bare (Body.dropFraming bare) ∧
    Source.patterns (Comments.ofLines lines) = Pattern.ofLines (Body.dropFraming bare) ∧
    (Body.isDecorated bare = false →
      Source.patterns (Comments.ofLines bare) = Pattern.ofLines (Body.dropFraming bare)) := by
  have hlines : ∀ d ∈ lines, Body.IsLine d := by
    intro d hd
    obtain ⟨l, hl, hld⟩ := Body.exists_bare h hd
    exact Body.isLine_of_decorated hld (hb l hl)
  refine ⟨Body.unframed_dropFraming bare, ?_, fun hv => ?_⟩
  · rw [Source.patterns_ofLines hlines]
    by_cases hv : Body.voters lines = []
    · -- nobody votes: neither the decorated nor the bare lines hold a tag line
      have hvote : Body.isDecorated lines = false := by simp [Body.isDecorated, hv]
      have hbare := Body.no_plain_dropFraming (Body.no_plain_bare h hv)
      rw [Body.lines_joinLines hlines hvote]
      rw [Pattern.ofLines_of_no_tag, Pattern.ofLines_of_no_tag]
      · intro l hl
        rw [segments, filterMap_plain?_eq, flatMap_places] at hl
        rw [places] at hbare
        rw [hbare] at hl
        cases hl
      · intro d hd
        obtain ⟨l, -, hl⟩ := Body.exists_bare h (Body.dropFraming_subset (mem_of_mem_plain? hd))
        exact Body.ofLine?_of_decorated hl
    · have hvote := Body.isDecorated_of_stars (fun d hd _ => Body.isSome_undecorate? h hd) hv
      rw [Body.lines_joinLines_of_decorated hlines hvote, Body.map_undecorate h]
  · rw [Source.patterns_ofLines hb, Body.lines_joinLines hb hv]

/-- A body with a bullet and an empty line, decorated in three ways and not at all. -/
theorem patterns_decorated_bullet :
    Source.patterns (Comments.ofLines
      [['\t'] ++ '*' :: "@pattern A".toList, [' '] ++ '*' :: ' ' :: "* x".toList, [] ++ '*' :: []]) =
      [{ name := "A".toList }] ∧
    Source.patterns (Comments.ofLines ["@pattern A".toList, "* x".toList, []]) =
      [{ name := "A".toList }] := by
  have hb : ∀ l ∈ ["@pattern A".toList, "* x".toList, []], Body.IsLine l := by decide
  have h : List.Forall₂ Decorated ["@pattern A".toList, "* x".toList, []]
      [['\t'] ++ '*' :: "@pattern A".toList, [' '] ++ '*' :: ' ' :: "* x".toList, [] ++ '*' :: []] :=
    .cons (.tight (by simp) (by simp))
      (.cons (.spaced (by simp)) (.cons (.tight (by simp) (by simp)) .nil))
  have hv : Body.isDecorated ["@pattern A".toList, "* x".toList, []] = false := by decide +kernel
  have hp : Pattern.ofLines (Body.dropFraming ["@pattern A".toList, "* x".toList, []]) =
      [{ name := "A".toList }] := by decide +kernel
  obtain ⟨-, h₁, h₂⟩ := patterns_decorated hb h
  exact ⟨h₁.trans hp, (h₂ hv).trans hp⟩

end PatternBook
