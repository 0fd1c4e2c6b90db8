import PatternBook.Proofs.Events
import PatternBook.Proofs.Marks

/-!
# The layout of a source text

The scan for comments reads a source text as gaps, closed comments, and at the end perhaps a comment
that is never closed. This file fixes that reading as a type of its own and compares the scan with
it:

* `Layout` -- the pieces of a text, with the conditions on them as fields: no gap holds the mark
  that opens a comment, no body and no tail holds the mark that closes one;
* `ofText` -- the layout of a text; it is the only one (`text_eq_iff`);
* `scanFrom_eq` -- the scan finds the bodies of the layout, and the byte offset of its tail;
* `existsUnique_layout` -- the whole reading of a source text in terms of its layout: only the
  bodies decide which patterns are found, and texts may be put one after the other.
-/

namespace PatternBook

open Comments (opening closing scan scanFrom)

/-! ## 1. Layouts -/

/-- A closed comment and the gap between it and what follows. -/
structure ClosedComment where
  body : Text
  gap : Text
  body_free : ¬ closing <:+: body
  gap_free : ¬ opening <:+: gap

/-- The comment with its marks, and its gap. -/
def ClosedComment.text (c : ClosedComment) : Text := opening ++ c.body ++ closing ++ c.gap

/-- A text as gaps and comments: the gap before the first comment, the closed comments, and what
    follows the opening mark of the comment that is never closed, if there is one. -/
structure Layout where
  lead : Text
  comments : List ClosedComment
  tail : Option Text
  lead_free : ¬ opening <:+: lead
  tail_free : ∀ t ∈ tail, ¬ closing <:+: t

namespace Layout

/-- The part of the text before the tail. -/
def front (d : Layout) : Text := d.lead ++ d.comments.flatMap ClosedComment.text

/-- The tail as it is written: nothing, or an opening mark and text. -/
def tailText (d : Layout) : Text :=
  match d.tail with
  | none => []
  | some t => opening ++ t

/-- The text of a layout. -/
def text (d : Layout) : Text := d.front ++ d.tailText

/-- The bodies of the closed comments. -/
def bodies (d : Layout) : List Text := d.comments.map (·.body)

/-- The gap after the last closed comment, or the only one. -/
def lastGap (d : Layout) : Text :=
  (d.lead :: d.comments.map (·.gap)).getLast (List.cons_ne_nil _ _)

/-- The byte offset of the tail, if there is one. -/
def tailOffset? (d : Layout) : Option Nat := d.tail.map fun _ => d.front.utf8Length

/-- The layout with a gap and a comment set before it; the old lead becomes the comment's gap. -/
def push (gap body : Text) (hg : ¬ opening <:+: gap) (hb : ¬ closing <:+: body) (d : Layout) :
    Layout :=
  ⟨gap, ⟨body, d.lead, hb, d.lead_free⟩ :: d.comments, d.tail, hg, d.tail_free⟩

end Layout

/-! ## 2. Cutting at the marks -/

theorem cut?_opening_iff {t gap inside : Text} : t.cut? opening = some (gap, inside) ↔
    t = gap ++ opening ++ inside ∧ ¬ opening <:+: gap :=
  Text.cut?_pair_iff (by decide)

theorem cut?_closing_iff {t body rest : Text} : t.cut? closing = some (body, rest) ↔
    t = body ++ closing ++ rest ∧ ¬ closing <:+: body :=
  Text.cut?_pair_iff (by decide)

theorem cut?_opening_none {t : Text} : t.cut? opening = none ↔ ¬ opening <:+: t :=
  Text.cut?_eq_none_iff (by decide)

theorem cut?_closing_none {t : Text} : t.cut? closing = none ↔ ¬ closing <:+: t :=
  Text.cut?_eq_none_iff (by decide)

theorem utf8Length_append (s t : Text) : (s ++ t).utf8Length = s.utf8Length + t.utf8Length := by
  induction s with
  | nil => simp [Text.utf8Length]
  | cons c s ih =>
    have h : ∀ u : Text, Text.utf8Length (c :: u) = c.utf8Size + u.utf8Length := fun _ => rfl
    rw [List.cons_append, h, h, ih, Nat.add_assoc]

/-! ## 3. The layout of a text -/

namespace Layout

/-- The layout of a text. -/
def ofText (t : Text) : Layout :=
  match hg : t.cut? opening with
  | none => ⟨t, [], none, cut?_opening_none.1 hg, by simp⟩
  | some (gap, inside) =>
    match hb : inside.cut? closing with
    | none => ⟨gap, [], some inside, (cut?_opening_iff.1 hg).2, by simpa using cut?_closing_none.1 hb⟩
    | some (body, rest) =>
      push gap body (cut?_opening_iff.1 hg).2 (cut?_closing_iff.1 hb).2 (ofText rest)
termination_by t.length
decreasing_by exact Comments.length_rest_lt hg hb

theorem text_push (gap body : Text) (hg : ¬ opening <:+: gap) (hb : ¬ closing <:+: body)
    (d : Layout) : (push gap body hg hb d).text = gap ++ opening ++ (body ++ closing ++ d.text) := by
  simp [text, front, tailText, push, ClosedComment.text]

/-- Every text is the text of its layout. -/
theorem text_ofText (t : Text) : (ofText t).text = t := by
  fun_induction ofText t with
  | case1 t hg => simp [text, front, tailText]
  | case2 t gap inside hg hb =>
    obtain ⟨rfl, -⟩ := cut?_opening_iff.1 hg
    simp [text, front, tailText]
  | case3 t gap inside hg body rest hb ih =>
    obtain ⟨rfl, -⟩ := cut?_opening_iff.1 hg
    obtain ⟨rfl, -⟩ := cut?_closing_iff.1 hb
    rw [text_push, ih]

/-- A text without an opening mark is one gap. -/
theorem ofText_of_free {t : Text} (h : ¬ opening <:+: t) : ofText t = ⟨t, [], none, h, by simp⟩ := by
  rw [ofText]
  split
  · rfl
  · rename_i gap inside hcut
    rw [cut?_opening_none.2 h] at hcut
    cases hcut

/-- A gap and a comment that is never closed. -/
theorem ofText_of_tail {gap inside : Text} (hg : ¬ opening <:+: gap) (hi : ¬ closing <:+: inside) :
    ofText (gap ++ opening ++ inside) = ⟨gap, [], some inside, hg, by simpa using hi⟩ := by
  have hcut : (gap ++ opening ++ inside).cut? opening = some (gap, inside) :=
    cut?_opening_iff.2 ⟨rfl, hg⟩
  rw [ofText]
  split
  · rename_i h
    rw [hcut] at h
    cases h
  · rename_i g i h
    rw [hcut] at h
    cases h
    split
    · rfl
    · rename_i b r hb
      rw [cut?_closing_none.2 hi] at hb
      cases hb

/-- A gap, a closed comment, and the layout of what follows it. -/
theorem ofText_of_comment {gap body : Text} (hg : ¬ opening <:+: gap) (hb : ¬ closing <:+: body)
    (rest : Text) :
    ofText (gap ++ opening ++ (body ++ closing ++ rest)) = push gap body hg hb (ofText rest) := by
  have hcut : (gap ++ opening ++ (body ++ closing ++ rest)).cut? opening =
      some (gap, body ++ closing ++ rest) := cut?_opening_iff.2 ⟨rfl, hg⟩
  have hcut' : (body ++ closing ++ rest).cut? closing = some (body, rest) :=
    cut?_closing_iff.2 ⟨rfl, hb⟩
  rw [ofText]
  split
  · rename_i h
    rw [hcut] at h
    cases h
  · rename_i g i h
    rw [hcut] at h
    cases h
    split
    · rename_i h'
      rw [hcut'] at h'
      cases h'
    · rename_i b r h'
      rw [hcut'] at h'
      cases h'
      rfl

/-- **The text of a layout has no other layout.** -/
theorem ofText_text (d : Layout) : ofText d.text = d := by
  obtain ⟨lead, comments, tail, hl, ht⟩ := d
  induction comments generalizing lead with
  | nil =>
    cases tail with
    | none => simpa [text, front, tailText] using ofText_of_free hl
    | some t => simpa [text, front, tailText] using ofText_of_tail hl (ht t rfl)
  | cons c comments ih =>
    -- the comment is pushed before the layout that its gap leads
    have h := text_push lead c.body hl c.body_free ⟨c.gap, comments, tail, c.gap_free, ht⟩
    have hd : push lead c.body hl c.body_free ⟨c.gap, comments, tail, c.gap_free, ht⟩ =
        ⟨lead, c :: comments, tail, hl, ht⟩ := rfl
    rw [← hd, h, ofText_of_comment hl c.body_free, ih]

/-- A text has exactly one layout. -/
theorem text_eq_iff {d : Layout} {t : Text} : d.text = t ↔ d = ofText t := by
  constructor
  · rintro rfl
    exact (ofText_text d).symm
  · rintro rfl
    exact text_ofText t

/-! ## 4. The scan reads the layout -/

/-- The bodies and the offset of a layout with a comment set before it. -/
theorem tailOffset?_push (gap body : Text) (hg : ¬ opening <:+: gap) (hb : ¬ closing <:+: body)
    (d : Layout) : (push gap body hg hb d).tailOffset? =
      d.tailOffset?.map (gap.utf8Length + 2 + body.utf8Length + 2 + ·) := by
  have hf : (push gap body hg hb d).front = gap ++ opening ++ body ++ closing ++ d.front := by
    simp [front, push, ClosedComment.text]
  have ho : opening.utf8Length = 2 := by decide
  have hc : closing.utf8Length = 2 := by decide
  have hlen : (push gap body hg hb d).front.utf8Length =
      gap.utf8Length + 2 + body.utf8Length + 2 + d.front.utf8Length := by
    simp only [hf, utf8Length_append, ho, hc]
  have ht : (push gap body hg hb d).tail = d.tail := rfl
  simp only [tailOffset?, hlen, ht, Option.map_map]
  rfl

/-- The scan, without the equations that its recursion carries. -/
theorem scanFrom_unfold (offset : Nat) (t : Text) :
    scanFrom offset t =
      match t.cut? opening with
      | none => ⟨[], none⟩
      | some (gap, inside) =>
        match inside.cut? closing with
        | none => ⟨[], some (offset + gap.utf8Length)⟩
        | some (body, rest) =>
          ⟨body :: (scanFrom (offset + gap.utf8Length + 2 + body.utf8Length + 2) rest).bodies,
            (scanFrom (offset + gap.utf8Length + 2 + body.utf8Length + 2) rest).unterminated⟩ := by
  rw [scanFrom]
  split
  · rename_i hg
    rw [hg]
  · rename_i gap inside hg
    rw [hg]
    dsimp only
    split
    · rename_i hb
      rw [hb]
    · rename_i body rest hb
      rw [hb]

/-- **The scan finds the bodies of the layout and the offset of its tail.** -/
theorem scanFrom_eq (offset : Nat) (t : Text) :
    scanFrom offset t = ⟨(ofText t).bodies, (ofText t).tailOffset?.map (offset + ·)⟩ := by
  fun_induction ofText t generalizing offset with
  | case1 t hg =>
    rw [scanFrom_unfold, hg]
    rfl
  | case2 t gap inside hg hb =>
    rw [scanFrom_unfold, hg]
    simp [hb, bodies, tailOffset?, front]
  | case3 t gap inside hg body rest hb ih =>
    rw [scanFrom_unfold, hg]
    simp only [hb, ih, tailOffset?_push, Option.map_map]
    congr 2
    funext n
    simp only [Function.comp_apply]
    omega

/-! ## 5. Texts one after the other -/

theorem bodies_push (gap body : Text) (hg : ¬ opening <:+: gap) (hb : ¬ closing <:+: body)
    (d : Layout) : (push gap body hg hb d).bodies = body :: d.bodies := rfl

/-- A gap before a text changes nothing, unless an opening mark lies across the joint. -/
theorem bodies_ofText_gap_append {gap : Text} (hg : ¬ opening <:+: gap) (t : Text)
    (hj : ¬ (gap.getLast? = some '/' ∧ t.head? = some '*')) :
    (ofText (gap ++ t)).bodies = (ofText t).bodies := by
  have hfree : ¬ opening <:+: gap ++ (ofText t).lead := by
    unfold opening
    rw [Text.pair_infix_append_iff]
    rintro (h | h | ⟨h₁, h₂⟩)
    · exact hg h
    · exact (ofText t).lead_free h
    · refine hj ⟨h₁, ?_⟩
      rw [← text_ofText t]
      simp [text, front, h₂]
  have h : (⟨gap ++ (ofText t).lead, (ofText t).comments, (ofText t).tail, hfree,
      (ofText t).tail_free⟩ : Layout).text = gap ++ (ofText t).text := by
    simp [text, front, tailText]
  rw [text_ofText] at h
  rw [← text_eq_iff.1 h]
  rfl

/-- **The bodies of joined texts are the bodies of the two texts**, if the first text leaves no
    comment open and no opening mark lies across the joint. -/
theorem bodies_ofText_append (d : Layout) (ht : d.tail = none) (t : Text)
    (hj : ¬ (d.lastGap.getLast? = some '/' ∧ t.head? = some '*')) :
    (ofText (d.text ++ t)).bodies = d.bodies ++ (ofText t).bodies := by
  obtain ⟨lead, comments, tail, hl, hf⟩ := d
  subst ht
  induction comments generalizing lead with
  | nil => simpa [text, front, tailText, bodies] using bodies_ofText_gap_append hl t hj
  | cons c comments ih =>
    have hd : (⟨lead, c :: comments, none, hl, hf⟩ : Layout) =
        push lead c.body hl c.body_free ⟨c.gap, comments, none, c.gap_free, hf⟩ := rfl
    have hj' : ¬ ((⟨c.gap, comments, none, c.gap_free, hf⟩ : Layout).lastGap.getLast? = some '/' ∧
        t.head? = some '*') := by
      simpa [lastGap] using hj
    have htext : (⟨lead, c :: comments, none, hl, hf⟩ : Layout).text ++ t = lead ++ opening ++
        (c.body ++ closing ++ ((⟨c.gap, comments, none, c.gap_free, hf⟩ : Layout).text ++ t)) := by
      rw [hd, text_push]
      simp
    rw [htext, ofText_of_comment hl c.body_free, bodies_push, ih c.gap c.gap_free hj']
    rfl

end Layout

/-! ## 6. Events of bodies

The scan alone reports a comment that is never closed: the events of a body are about its lines,
tokens and records. -/

/-- The offset of an event that reports a comment that is never closed. -/
def Event.unterminatedAt? : Event → Option Nat
  | .unterminatedComment offset => some offset
  | _ => none

theorem Source.unterminatedAt?_readBody (body : Text) :
    (readBody body).events.filterMap Event.unterminatedAt? = [] := by
  refine List.filterMap_eq_nil_iff.2 fun e he => ?_
  rcases cases_of_mem_readBody he with hdetail | ⟨p, rfl⟩ | ⟨n, rfl⟩
  · cases e <;> first | rfl | cases hdetail
  · rfl
  · rfl

/-! ## 7. Reading a source text -/

namespace Source

/-- Only the bodies of a text decide which patterns are found in it. -/
theorem patterns_eq (t : Text) :
    patterns t = (Layout.ofText t).bodies.flatMap fun body => (readBody body).value := by
  simp [patterns, read, scan, Layout.scanFrom_eq, Logged.join, List.flatMap_map]

/-- The patterns of a text that is one comment are those of its body. -/
theorem patterns_comment {body : Text} (h : ¬ closing <:+: body) :
    patterns (opening ++ body ++ closing) = (readBody body).value := by
  have hg : ¬ opening <:+: [] := by decide
  have ht : opening ++ body ++ closing = [] ++ opening ++ (body ++ closing ++ []) := by simp
  rw [patterns_eq, ht, Layout.ofText_of_comment hg h, Layout.bodies_push,
    Layout.ofText_of_free hg]
  simp [Layout.bodies]

/-- The log of a text reports the tail of its layout, and nothing else of that kind. -/
theorem unterminatedAt?_read (t : Text) :
    (read t).events.filterMap Event.unterminatedAt? = (Layout.ofText t).tailOffset?.toList := by
  have hb : (Logged.join ((scan t).bodies.map readBody)).events.filterMap Event.unterminatedAt? =
      [] := by
    simp [Logged.join, List.filterMap_flatMap, List.flatMap_map, unterminatedAt?_readBody]
  have hs : (scan t).unterminated = (Layout.ofText t).tailOffset? := by
    simp [scan, Layout.scanFrom_eq]
  simp only [read, List.filterMap_append, hb, List.append_nil, hs]
  cases (Layout.ofText t).tailOffset? <;> rfl

/-- **Comment scanning accepts exactly its grammar, and only comment bodies matter.** A source text
    has exactly one layout. The scan finds its bodies and the byte offset of its tail, which is all
    that is reported about comments that are never closed. The patterns of the text are those of the
    comments taken one by one, so no gap counts, and a text that leaves no comment open can be
    followed by another one, unless an opening mark lies across the joint. -/
theorem existsUnique_layout (source : Text) : ∃ d : Layout,
    (∀ e : Layout, e.text = source ↔ e = d) ∧
    scan source = ⟨d.bodies, d.tail.map fun _ => d.front.utf8Length⟩ ∧
    (read source).events.filterMap Event.unterminatedAt? =
      (d.tail.map fun _ => d.front.utf8Length).toList ∧
    patterns source = d.bodies.flatMap (fun body => patterns (opening ++ body ++ closing)) ∧
    (∀ e : Layout, e.bodies = d.bodies → patterns e.text = patterns source) ∧
    (∀ next : Text, d.tail = none → ¬ (d.lastGap.getLast? = some '/' ∧ next.head? = some '*') →
      patterns (source ++ next) = patterns source ++ patterns next) := by
  refine ⟨Layout.ofText source, fun e => Layout.text_eq_iff, ?_, unterminatedAt?_read source, ?_, ?_,
    ?_⟩
  · simp [scan, Layout.scanFrom_eq, Layout.tailOffset?, Function.comp_def]
  · rw [patterns_eq]
    refine List.flatMap_congr fun body hbody => ?_
    obtain ⟨c, -, rfl⟩ := List.mem_map.1 hbody
    exact (patterns_comment c.body_free).symm
  · intro e he
    rw [patterns_eq e.text, Layout.ofText_text, he, ← patterns_eq]
  · intro next ht hj
    have hb := Layout.bodies_ofText_append (Layout.ofText source) ht next hj
    rw [Layout.text_ofText] at hb
    rw [patterns_eq (source ++ next), hb, List.flatMap_append, ← patterns_eq, ← patterns_eq]

end Source

end PatternBook
