import PatternBook.Comment.Fence
import PatternBook.Comment.Tag
import PatternBook.Proofs.WhiteSpace

/-!
# Kinds of lines

A line of a comment body opens a tag, opens a fenced region, closes one, or is text. This file gives each
of these kinds its grammar, and shows that the readers of lines accept exactly the grammar:

* `Tag.Opens`, `Tag.ofLine?_eq_some_iff` -- a tag line is indentation, an at sign, the name of a tag, and
  what white space sets off from the name. One name may be the front part of another, and it is the white
  space that tells the two apart (`Tag.Opens.unique`);
* `Fence.Opens`, `Fence.opening?_eq_some_iff` -- an opening line is three backticks, the name of a language
  or nothing, and white space;
* `Fence.isClosing_iff` -- a closing line is an opening line without a language, although the one is
  recognised from its end and the other from its front;
* `Tag.ofLine?_of_opening?` -- no line is a tag line and an opening line, so it does not matter which of
  the two is asked first.
-/

namespace PatternBook

/-! ## 1. Tag lines -/

namespace Tag

/-- White space is no letter. -/
theorem isAlpha_of_isBlank {c : Char} (h : Text.isBlank c = true) : c.isAlpha = false := by
  refine Bool.eq_false_iff.2 fun ha => ?_
  have hletter : (65 ≤ c.toNat ∧ c.toNat ≤ 90) ∨ (97 ≤ c.toNat ∧ c.toNat ≤ 122) := by
    rcases Bool.or_eq_true_iff.1 ha with hupper | hlower
    · exact .inl (of_decide_eq_true hupper : 'A'.val ≤ c.val ∧ c.val ≤ 'Z'.val)
    · obtain ⟨hge, hle⟩ := Bool.and_eq_true_iff.1 hlower
      exact .inr ⟨(of_decide_eq_true hge : 'a'.val ≤ c.val), (of_decide_eq_true hle : c.val ≤ 'z'.val)⟩
  simp only [Text.isBlank, Bool.or_eq_true, decide_eq_true_eq, beq_iff_eq] at h
  omega

theorem name_isAlpha (tag : Tag) : ∀ c ∈ tag.name, c.isAlpha = true := by
  have h : tag.name.all Char.isAlpha = true := by cases tag <;> decide
  exact List.all_eq_true.1 h

theorem isIndent_iff {c : Char} : isIndent c = true ↔ c = ' ' ∨ c = '\t' := by
  simp [isIndent]

/-- A line opens a tag: `indent` is spaces and tabs, the name of the tag stands behind an at sign, and
    `after` is what follows the name, set off from it by white space. -/
structure Opens (tag : Tag) (indent after line : Text) : Prop where
  line_eq : line = indent ++ '@' :: (tag.name ++ after)
  indent : ∀ c ∈ indent, c = ' ' ∨ c = '\t'
  set_off : ∀ c ∈ after.head?, Text.isBlank c = true

/-- The indentation ends at the at sign, and the name of the tag is made of all letters behind it. -/
theorem Opens.cuts {tag : Tag} {indent after line : Text} (h : tag.Opens indent after line) :
    (line.takeWhile isIndent = indent ∧ line.dropWhile isIndent = '@' :: (tag.name ++ after)) ∧
      (tag.name ++ after).takeWhile Char.isAlpha = tag.name ∧
      (tag.name ++ after).dropWhile Char.isAlpha = after :=
  ⟨Text.takeWhile_dropWhile_eq_iff.2
      ⟨h.line_eq, fun c hc => isIndent_iff.2 (h.indent c hc), by simp [isIndent]⟩,
    Text.takeWhile_dropWhile_eq_iff.2
      ⟨rfl, name_isAlpha tag, fun c hc => isAlpha_of_isBlank (h.set_off c hc)⟩⟩

/-- **A line opens at most one tag**, and there is one way to cut it at the tag. -/
theorem Opens.unique {tag tag' : Tag} {indent indent' after after' line : Text}
    (h : tag.Opens indent after line) (h' : tag'.Opens indent' after' line) :
    tag = tag' ∧ indent = indent' ∧ after = after' := by
  obtain ⟨⟨hindent, hbehind⟩, hname, hafter⟩ := h.cuts
  obtain ⟨⟨hindent', hbehind'⟩, hname', hafter'⟩ := h'.cuts
  have hsame : tag.name ++ after = tag'.name ++ after' :=
    (List.cons.inj (hbehind.symm.trans hbehind')).2
  rw [hsame] at hname hafter
  -- both names are the letters behind the at sign, so neither is a proper front part of the other
  have hnames : tag.name = tag'.name := hname.symm.trans hname'
  have hfound : some tag = some tag' := by rw [← ofName?_name tag, ← ofName?_name tag', hnames]
  exact ⟨Option.some.inj hfound, hindent.symm.trans hindent', hafter.symm.trans hafter'⟩

/-- **A line is read as a tag line exactly if it opens the tag.** -/
theorem ofLine?_eq_some_iff {line rest : Text} {tag : Tag} : ofLine? line = some (tag, rest) ↔
    ∃ indent after, tag.Opens indent after line ∧ rest = after.trimStart := by
  constructor
  · intro h
    unfold ofLine? at h
    split at h
    · rename_i behind hbehind
      dsimp only at h
      split at h
      · rename_i hend
        obtain ⟨found, hname, hpair⟩ := Option.map_eq_some_iff.1 h
        obtain ⟨rfl, rfl⟩ := Prod.mk.inj hpair
        obtain ⟨hline, hindent, -⟩ := Text.takeWhile_dropWhile_eq_iff.1 ⟨rfl, hbehind⟩
        refine ⟨line.takeWhile isIndent, behind.dropWhile Char.isAlpha, ⟨?_, ?_, ?_⟩, rfl⟩
        · rw [name_of_ofName? hname, List.takeWhile_append_dropWhile]
          exact hline
        · exact fun c hc => isIndent_iff.1 (hindent c hc)
        · intro c hc
          cases hafter : behind.dropWhile Char.isAlpha with
          | nil => simp [hafter] at hc
          | cons d after =>
            rw [hafter] at hend hc
            cases hc
            simpa using hend
      · cases h
    · cases h
  · rintro ⟨indent, after, h, rfl⟩
    obtain ⟨⟨-, hbehind⟩, hname, hafter⟩ := h.cuts
    have hend : (after.isEmpty || after.head?.any Text.isBlank) = true := by
      cases after with
      | nil => rfl
      | cons c after => exact h.set_off c rfl
    rw [ofLine?, hbehind]
    simp only [hname, hafter, hend, ofName?_name, if_true, Option.map_some]

end Tag

/-! ## 2. Fence lines -/

namespace Fence

theorem isLangChar_iff {c : Char} :
    isLangChar c = true ↔ Text.isBlank c = false ∧ c ≠ '\x60' := by
  simp [isLangChar]

/-- A line opens a fenced region: it is three backticks, the name of a language or nothing, and white
    space. A name is not empty, and holds neither white space nor backticks. -/
structure Opens (lang : Option Text) (gap line : Text) : Prop where
  line_eq : line = ticks ++ (lang.getD [] ++ gap)
  lang : ∀ name ∈ lang, name ≠ [] ∧ ∀ c ∈ name, Text.isBlank c = false ∧ c ≠ '\x60'
  gap : ∀ c ∈ gap, Text.isBlank c = true

/-- The language is all that stands behind the backticks up to white space. -/
theorem Opens.cuts {lang : Option Text} {gap line : Text} (h : Opens lang gap line) :
    (lang.getD [] ++ gap).takeWhile isLangChar = lang.getD [] ∧
      (lang.getD [] ++ gap).dropWhile isLangChar = gap := by
  refine Text.takeWhile_dropWhile_eq_iff.2 ⟨rfl, fun c hc => ?_, fun c hc => ?_⟩
  · cases lang with
    | none => cases hc
    | some name => exact isLangChar_iff.2 ((h.lang name rfl).2 c hc)
  · simp [isLangChar, h.gap c (List.mem_of_mem_head? hc)]

/-- A name that is not empty is that of a language, and an empty one stands for none. -/
theorem ite_isEmpty_eq_iff {name : Text} {lang : Option Text} :
    (if name.isEmpty then none else some name) = lang ↔
      name = lang.getD [] ∧ ∀ s ∈ lang, s ≠ [] := by
  cases lang with
  | none => cases name <;> simp
  | some s => cases name <;> simp +contextual [eq_comm]

/-- **A line is read as an opening line exactly if it opens a region.** -/
theorem opening?_eq_some_iff {line : Text} {lang : Option Text} :
    opening? line = some lang ↔ ∃ gap, Opens lang gap line := by
  constructor
  · intro h
    unfold opening? at h
    split at h
    · cases h
    · rename_i behind hbehind
      have hcut := List.takeWhile_append_dropWhile (p := isLangChar) (l := behind)
      dsimp only at h
      split at h
      · rename_i hblank
        obtain ⟨hname, hne⟩ := ite_isEmpty_eq_iff.1 (Option.some.inj h)
        rw [hname] at hcut
        refine ⟨behind.dropWhile isLangChar, ?_, fun name hmem => ?_, List.all_eq_true.1 hblank⟩
        · rw [hcut]
          exact Text.dropStart?_eq_some_iff.1 hbehind
        · obtain rfl := Option.mem_def.1 hmem
          refine ⟨hne name rfl, fun c hc => isLangChar_iff.1 ?_⟩
          rw [Option.getD_some] at hname
          rw [← hname] at hc
          exact List.mem_takeWhile_imp hc
      · cases h
  · rintro ⟨gap, h⟩
    obtain ⟨hname, hgap⟩ := h.cuts
    have hbehind : line.dropStart? ticks = some (lang.getD [] ++ gap) :=
      Text.dropStart?_eq_some_iff.2 h.line_eq
    have hblank : Text.isAllBlank gap = true := List.all_eq_true.2 h.gap
    rw [opening?, hbehind]
    simp only [hname, hgap, hblank, if_true]
    exact congrArg some (ite_isEmpty_eq_iff.2 ⟨rfl, fun name hmem => (h.lang name hmem).1⟩)

/-- **A closing line is an opening line without a language.** -/
theorem isClosing_iff {line : Text} : isClosing line = true ↔ opening? line = some none := by
  rw [opening?_eq_some_iff, isClosing, beq_iff_eq, Text.trimEnd_eq_iff]
  constructor
  · rintro ⟨-, gap, hline, hgap⟩
    exact ⟨gap, hline, nofun, hgap⟩
  · rintro ⟨gap, h⟩
    exact ⟨by simp [ticks, Text.isBlank], gap, h.line_eq, h.gap⟩

end Fence

/-! ## 3. One kind for each line -/

/-- An opening line is no tag line, so it does not matter which of the two is asked first. -/
theorem Tag.ofLine?_of_opening? {line : Text} {lang : Option Text}
    (h : Fence.opening? line = some lang) : ofLine? line = none := by
  obtain ⟨gap, h⟩ := Fence.opening?_eq_some_iff.1 h
  rw [h.line_eq]
  rfl

/-- **Lines are told apart by their grammar.** A line is read as a tag line exactly if it opens the tag,
    and it opens no second tag, although the name of one tag is the front part of the name of another. It
    is read as an opening line exactly if it opens a region, and as a closing line exactly if it opens one
    without a language. No line is a tag line and an opening line. -/
theorem line_kinds (line : Text) :
    (∀ tag rest, Tag.ofLine? line = some (tag, rest) ↔
      ∃ indent after, Tag.Opens tag indent after line ∧ rest = after.trimStart) ∧
    (∀ tag tag' indent indent' after after', Tag.Opens tag indent after line →
      Tag.Opens tag' indent' after' line → tag = tag' ∧ indent = indent' ∧ after = after') ∧
    (∃ tag tag' : Tag, tag ≠ tag' ∧ tag.name <+: tag'.name) ∧
    (∀ lang, Fence.opening? line = some lang ↔ ∃ gap, Fence.Opens lang gap line) ∧
    (Fence.isClosing line = true ↔ Fence.opening? line = some none) ∧
    (Tag.ofLine? line = none ∨ Fence.opening? line = none) := by
  refine ⟨fun _ _ => Tag.ofLine?_eq_some_iff, fun _ _ _ _ _ _ h h' => h.unique h',
    ⟨.newExample, .exampleHeight, by decide, by decide⟩,
    fun _ => Fence.opening?_eq_some_iff, Fence.isClosing_iff, ?_⟩
  cases h : Fence.opening? line with
  | none => exact .inr rfl
  | some lang => exact .inl (Tag.ofLine?_of_opening? h)

/-- A line whose tag has a name that starts with the name of another tag, and a line that closes a
    region, both with white space beyond ASCII. -/
theorem line_kinds_exampleHeight :
    Tag.ofLine? "\t @exampleHeight\u2003 300".toList = some (.exampleHeight, "300".toList) ∧
    ¬ Tag.Opens .newExample ['\t', ' '] "Height\u2003 300".toList
      "\t @exampleHeight\u2003 300".toList ∧
    Fence.isClosing "\x60\x60\x60\u3000\t".toList = true ∧
    Tag.ofLine? "\x60\x60\x60\u3000\t".toList = none := by
  obtain ⟨htag, hunique, -⟩ := line_kinds "\t @exampleHeight\u2003 300".toList
  obtain ⟨-, -, -, hfence, hclosing, hapart⟩ := line_kinds "\x60\x60\x60\u3000\t".toList
  have hopens : Tag.Opens .exampleHeight ['\t', ' '] ('\u2003' :: " 300".toList)
      "\t @exampleHeight\u2003 300".toList := ⟨by decide, by simp, by simp [Text.isBlank]⟩
  have hopening : Fence.opening? "\x60\x60\x60\u3000\t".toList = some none :=
    (hfence none).2 ⟨['\u3000', '\t'], by decide, by simp, by simp [Text.isBlank]⟩
  refine ⟨(htag _ _).2 ⟨_, _, hopens, by decide⟩, fun h => ?_, hclosing.2 hopening,
    hapart.resolve_right (by rw [hopening]; decide)⟩
  exact absurd (hunique _ _ _ _ _ _ h hopens).1 (by decide)

end PatternBook
