import PatternBook.Document.Format
import PatternBook.Proofs.Layout

/-!
# Line endings

A source text may end its lines with a newline alone or with a carriage return before it. Both
readings give the same patterns:

* `withReturns` -- the text with a carriage return before each newline;
* `Layout.withReturns` -- its layout is that of the text, piece by piece: no carriage return and no
  newline is part of a mark, so no mark appears and none is lost (`bodies_withReturns`);
* `rawLines_withReturns` -- the raw lines of a body drop the carriage returns again, unless the body
  had some of its own at the end of a line;
* `patterns_withReturns` -- so the patterns are the same, and with them the documents.
-/

namespace PatternBook

open Comments (opening closing)

/-- The text with a carriage return before each newline. -/
def Text.withReturns (t : Text) : Text := t.flatMap fun c => if c = '\n' then ['\r', '\n'] else [c]

namespace Text

theorem withReturns_append (s t : Text) :
    (s ++ t).withReturns = s.withReturns ++ t.withReturns := List.flatMap_append

theorem withReturns_newline (t : Text) :
    withReturns ('\n' :: t) = '\r' :: '\n' :: t.withReturns := rfl

theorem withReturns_cons {c : Char} (hc : c ≠ '\n') (t : Text) :
    withReturns (c :: t) = c :: t.withReturns := by
  simp [withReturns, hc]

/-! ## 1. Marks -/

/-- A mark of two characters that end no line stands in the text with returns only where it stands
    in the text. -/
theorem pair_infix_of_withReturns {a b : Char} (ha : a ≠ '\r' ∧ a ≠ '\n') (hb : b ≠ '\r')
    {t : Text} (h : [a, b] <:+: t.withReturns) : [a, b] <:+: t := by
  induction t with
  | nil => exact h
  | cons c t ih =>
    by_cases hc : c = '\n'
    · subst hc
      rw [withReturns_newline, List.infix_cons_iff, List.infix_cons_iff] at h
      rcases h with h | h | h
      · exact absurd (List.cons_prefix_cons.1 h).1 ha.1
      · exact absurd (List.cons_prefix_cons.1 h).1 ha.2
      · exact List.infix_cons (ih h)
    · rw [withReturns_cons hc, List.infix_cons_iff] at h
      rcases h with h | h
      · -- the mark stands at the front, and its second character starts the rest
        obtain ⟨hac, hrest⟩ := List.cons_prefix_cons.1 h
        cases t with
        | nil => simp [withReturns] at hrest
        | cons d t =>
          by_cases hd : d = '\n'
          · subst hd
            rw [withReturns_newline] at hrest
            exact absurd (List.cons_prefix_cons.1 hrest).1 hb
          · rw [withReturns_cons hd] at hrest
            have hbd := (List.cons_prefix_cons.1 hrest).1
            exact ⟨[], t, by rw [hac, hbd]; rfl⟩
      · exact List.infix_cons (ih h)

theorem not_opening_withReturns {t : Text} (h : ¬ opening <:+: t) : ¬ opening <:+: t.withReturns :=
  fun hr => h (pair_infix_of_withReturns (by decide) (by decide) hr)

theorem not_closing_withReturns {t : Text} (h : ¬ closing <:+: t) : ¬ closing <:+: t.withReturns :=
  fun hr => h (pair_infix_of_withReturns (by decide) (by decide) hr)

end Text

/-! ## 2. Layouts -/

/-- The comment with returns in its body and its gap. -/
def ClosedComment.withReturns (c : ClosedComment) : ClosedComment :=
  ⟨c.body.withReturns, c.gap.withReturns, Text.not_closing_withReturns c.body_free,
    Text.not_opening_withReturns c.gap_free⟩

theorem ClosedComment.text_withReturns (c : ClosedComment) :
    c.withReturns.text = c.text.withReturns := by
  have ho : opening.withReturns = opening := by decide
  have hc : closing.withReturns = closing := by decide
  simp only [text, Text.withReturns_append, ho, hc]
  rfl

namespace Layout

/-- The layout with returns in all its pieces. -/
def withReturns (d : Layout) : Layout where
  lead := d.lead.withReturns
  comments := d.comments.map ClosedComment.withReturns
  tail := d.tail.map Text.withReturns
  lead_free := Text.not_opening_withReturns d.lead_free
  tail_free := by
    intro t ht
    obtain ⟨s, hs, rfl⟩ := Option.map_eq_some_iff.1 (Option.mem_def.1 ht)
    exact Text.not_closing_withReturns (d.tail_free s hs)

theorem text_withReturns (d : Layout) : d.withReturns.text = d.text.withReturns := by
  have hcomments : (d.comments.map ClosedComment.withReturns).flatMap ClosedComment.text =
      Text.withReturns (d.comments.flatMap ClosedComment.text) := by
    unfold Text.withReturns
    rw [List.flatMap_map, List.flatMap_assoc]
    exact List.flatMap_congr fun c _ => c.text_withReturns
  have htail : d.withReturns.tailText = d.tailText.withReturns := by
    obtain ⟨lead, comments, tail, hl, ht⟩ := d
    cases tail with
    | none => rfl
    | some t => exact (Text.withReturns_append opening t).symm
  rw [text, text, front, front, Text.withReturns_append, Text.withReturns_append, htail, ← hcomments]
  rfl

/-- **The bodies of a text with returns** are the bodies of the text with returns. -/
theorem bodies_withReturns (t : Text) :
    (ofText t.withReturns).bodies = (ofText t).bodies.map Text.withReturns := by
  have h : (ofText t).withReturns.text = t.withReturns := by rw [text_withReturns, text_ofText]
  rw [← text_eq_iff.1 h]
  simp [bodies, withReturns, ClosedComment.withReturns]

/-- The bodies stand in the text. -/
theorem infix_of_mem_bodies {t body : Text} (h : body ∈ (ofText t).bodies) : body <:+: t := by
  obtain ⟨c, hc, rfl⟩ := List.mem_map.1 h
  have hbody : c.body <:+: c.text := by
    unfold ClosedComment.text
    rw [List.append_assoc, List.append_assoc]
    exact (List.infix_append' opening c.body (closing ++ c.gap))
  have hcomment : c.text <:+: (ofText t).comments.flatMap ClosedComment.text :=
    List.infix_of_mem_flatten (List.mem_map_of_mem hc)
  have hfront : (ofText t).comments.flatMap ClosedComment.text <:+: t := by
    conv => rhs; rw [← text_ofText t]
    exact (List.suffix_append _ _).isInfix.trans (List.prefix_append _ _).isInfix
  exact (hbody.trans hcomment).trans hfront

end Layout

/-! ## 3. Raw lines -/

namespace Body

theorem rawLines_newline (t : Text) : rawLines ('\n' :: t) = [] :: rawLines t := by
  simp [rawLines, Text.splitLines, List.splitOn_cons_eq_if_modifyHead, dropReturn]

/-- A character before a line that is not empty becomes part of the line. -/
theorem rawLines_cons {c d : Char} (hc : c ≠ '\n') (hd : d ≠ '\n') (t : Text) :
    rawLines (c :: d :: t) = (rawLines (d :: t)).modifyHead (c :: ·) := by
  have hdrop : ∀ l : Text, dropReturn (c :: d :: l) = c :: dropReturn (d :: l) := by
    intro l
    unfold dropReturn
    rw [List.getLast?_cons_cons]
    split <;> rfl
  cases hs : t.splitOn '\n' with
  | nil => exact absurd hs (List.splitOn_ne_nil _ _)
  | cons l ls =>
    simp [rawLines, Text.splitLines, List.splitOn_cons_eq_if_modifyHead, hc, hd, hs, hdrop]

/-- A character before an empty line is a line of its own. -/
theorem rawLines_cons_newline {c : Char} (hc : c ≠ '\n') (t : Text) :
    rawLines (c :: '\n' :: t) = dropReturn [c] :: rawLines t := by
  simp [rawLines, Text.splitLines, List.splitOn_cons_eq_if_modifyHead, hc]

/-- **Returns at the ends of lines are dropped**, so a text that has none of its own has the lines it
    had without them. -/
theorem rawLines_withReturns {t : Text} (h : ¬ ['\r', '\n'] <:+: t) :
    rawLines t.withReturns = rawLines t := by
  induction t with
  | nil => rfl
  | cons c t ih =>
    have ht : ¬ ['\r', '\n'] <:+: t := fun hr => h (List.infix_cons hr)
    by_cases hc : c = '\n'
    · subst hc
      rw [Text.withReturns_newline, rawLines_cons_newline (by decide), rawLines_newline, ih ht]
      rfl
    · rw [Text.withReturns_cons hc]
      cases t with
      | nil => rfl
      | cons d t =>
        by_cases hd : d = '\n'
        · -- the character ends its line, and is no carriage return
          subst hd
          have hr : c ≠ '\r' := by
            rintro rfl
            exact h ⟨[], t, rfl⟩
          have hlater : rawLines (Text.withReturns t) = rawLines t := by
            have ih' := ih ht
            rw [Text.withReturns_newline, rawLines_cons_newline (by decide), rawLines_newline] at ih'
            exact (List.cons.inj ih').2
          rw [Text.withReturns_newline, rawLines_cons hc (by decide),
            rawLines_cons_newline (by decide), rawLines_cons_newline hc, hlater]
          simp [dropReturn, hr]
        · rw [Text.withReturns_cons hd, rawLines_cons hc hd, rawLines_cons hc hd,
            ← Text.withReturns_cons hd, ih ht]

end Body

/-! ## 4. Source texts -/

namespace Source

/-- A body is read by its raw lines. -/
theorem readBody_withReturns {body : Text} (h : ¬ ['\r', '\n'] <:+: body) :
    readBody body.withReturns = readBody body := by
  have hlines : Body.lines body.withReturns = Body.lines body := by
    rw [Body.lines, Body.lines, Body.rawLines_withReturns h]
  rw [readBody, readBody, hlines]

/-- **Line endings do not matter.** Where no carriage return stands before a newline, the text with a
    carriage return before each newline has the same patterns, and so the same documents. -/
theorem patterns_withReturns {source : Text} (h : ¬ ['\r', '\n'] <:+: source) :
    patterns source.withReturns = patterns source ∧
    ∀ f : Format, f.render (patterns source.withReturns) = f.render (patterns source) := by
  have hpatterns : patterns source.withReturns = patterns source := by
    rw [patterns_eq, patterns_eq, Layout.bodies_withReturns, List.flatMap_map]
    refine List.flatMap_congr fun body hbody => ?_
    have hb : ¬ ['\r', '\n'] <:+: body := fun hr => h (hr.trans (Layout.infix_of_mem_bodies hbody))
    rw [readBody_withReturns hb]
  exact ⟨hpatterns, fun f => by rw [hpatterns]⟩

/-- A comment with a verbatim description and code, in which a carriage return stands inside a line
    and at the end. -/
def returning : Text :=
  "/*\n@pattern A\n@description\n x\ry\n@example\n\x60\x60\x60\na\n\nb\n\x60\x60\x60\n\r*/".toList

/-- The comment is read alike with returns before its newlines. -/
theorem patterns_withReturns_returning : ¬ ['\r', '\n'] <:+: returning ∧
    patterns returning.withReturns =
      [{ name := "A".toList, description := "\n x\ry\n".toList,
         examples := [⟨[], none, [⟨none, "a\n\nb".toList⟩]⟩] }] ∧
    ∀ f : Format, f.render (patterns returning.withReturns) = f.render (patterns returning) := by
  have h : ¬ ['\r', '\n'] <:+: returning := by decide +kernel
  obtain ⟨hpatterns, hrender⟩ := patterns_withReturns h
  refine ⟨h, hpatterns.trans ?_, hrender⟩
  decide +kernel

end Source

end PatternBook
