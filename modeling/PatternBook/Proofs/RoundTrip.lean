import PatternBook.Proofs.Decoration
import PatternBook.Proofs.Standalone

/-!
# Written patterns read back

Reading undoes writing: a comment written from the fields of a pattern has this pattern and no other
(`patterns_writing`). The proof follows the stages of reading from the back to the front:

* `Reads` -- lines that turn one pattern into another when they are read; `reads_field` says that the
  lines of a field do to a pattern what `Pattern.write` does;
* `ofLines_allLines` -- so the lines of all fields have the pattern that the fields say;
* `lines_starred`, `lines_unstarred` -- vote and framing leave exactly these lines of the comment.
-/

namespace PatternBook

/-! ## 1. Drafts -/

namespace Draft

/-- Tokens are read one after another. -/
theorem steps_append (d : Draft) (ts us : List Token) :
    (d.steps (ts ++ us)).value = ((d.steps ts).value.steps us).value := by
  induction ts generalizing d with
  | nil => rfl
  | cons t ts ih => exact ih (d.step t).value

theorem changeLast?_concat {α : Type} (f : α → α) (l : List α) (a : α) :
    changeLast? f (l ++ [a]) = some (l ++ [f a]) := by
  rw [changeLast?, List.getLast?_concat, List.dropLast_concat]
  rfl

/-- Code goes to the last example as long as the reader stands at it. -/
theorem steps_code {p : Pattern} {focus : Focus} {es : List Example} {e : Example}
    (hp : p.examples = es ++ [e]) (hf : focus ≠ .elsewhere) (blocks : List CodeBlock) :
    ((Draft.mk p focus).steps (blocks.map .code)).value.pattern =
      { p with examples := es ++ [{ e with codeBlocks := e.codeBlocks ++ blocks }] } := by
  induction blocks generalizing p focus e with
  | nil =>
    rw [List.map_nil, List.append_nil, steps]
    show p = { p with examples := es ++ [e] }
    rw [← hp]
  | cons b blocks ih =>
    have hstep : ((Draft.mk p focus).step (.code b)).value =
        ⟨{ p with examples := es ++ [{ e with codeBlocks := e.codeBlocks ++ [b] }] }, .inside⟩ := by
      cases focus with
      | elsewhere => exact absurd rfl hf
      | opened => simp [step, writeCode, hp, changeLast?_concat]
      | inside => simp [step, writeCode, hp, changeLast?_concat]
    rw [List.map_cons, steps]
    show ((((Draft.mk p focus).step (.code b)).value.steps (blocks.map .code)).value).pattern = _
    rw [hstep, ih rfl (by decide)]
    simp

end Draft

/-! ## 2. Lines that are read -/

/-- Lines that turn a pattern into another when they are read behind its `@pattern` tag, wherever
    the reader stands. -/
def Reads (ls : List Text) (p p' : Pattern) : Prop :=
  ∃ ts, Standalone ls ts ∧ (∀ t ∈ ts, t.record? = none) ∧
    ∀ focus, ((Draft.mk p focus).steps ts).value.pattern = p'

theorem Reads.nil (p : Pattern) : Reads [] p p :=
  ⟨[], Standalone.nil, by simp, fun _ => rfl⟩

/-- What is read in turn is done in turn. -/
theorem Reads.append {ls ms : List Text} {p p' p'' : Pattern} (h : Reads ls p p')
    (k : Reads ms p' p'') : Reads (ls ++ ms) p p'' := by
  obtain ⟨ts, hs, hr, hp⟩ := h
  obtain ⟨us, ks, kr, kp⟩ := k
  refine ⟨ts ++ us, hs.append ks, ?_, ?_⟩
  · intro t ht
    rcases List.mem_append.1 ht with ht | ht
    · exact hr t ht
    · exact kr t ht
  · intro focus
    have hd : ((Draft.mk p focus).steps ts).value =
        ⟨p', ((Draft.mk p focus).steps ts).value.focus⟩ := by
      rw [← hp focus]
    rw [Draft.steps_append, hd]
    exact kp _

/-- A tag line alone is read as its tag writes. -/
theorem reads_tag {tag : Tag} (hd : tag ≠ .description) (ht : tag ≠ .pattern) {rest : Text}
    (hr : rest.IsPhrase) {p p' : Pattern}
    (hw : ∀ focus, ((Draft.mk p focus).writeTag tag (rest ++ ['\n'])).value = p') :
    Reads [Tag.line tag rest] p p' := by
  refine ⟨[.tag tag (rest ++ ['\n'])], standalone_tag_line hd hr, ?_, hw⟩
  intro t hm
  rw [List.mem_singleton.1 hm]
  cases tag with
  | pattern => exact absurd rfl ht
  | _ => rfl

/-! ## 3. Examples -/

/-- The tokens of the tag lines of an example. -/
def Example.tagTokens (e : Example) : List Token :=
  .tag .newExample (e.description ++ ['\n']) ::
    e.height.toList.map fun n => .tag .exampleHeight (Text.decimal n ++ ['\n'])

theorem standalone_example {e : Example} (h : e.WellFormed) :
    Standalone e.lines (e.tagTokens ++ e.codeBlocks.map .code) := by
  unfold Example.lines Example.tagTokens
  cases e.height with
  | none => exact standalone_tag (by decide) h.description h.codeBlocks
  | some n =>
    have hhead := standalone_tag_line (by decide : Tag.newExample ≠ .description) h.description
    have hheight := standalone_tag (by decide : Tag.exampleHeight ≠ .description)
      (Payload.isWord_decimal n).isPhrase h.codeBlocks
    exact hhead.append hheight

/-- The tag lines of an example open it and set its height. -/
theorem steps_tagTokens {e : Example} (h : e.WellFormed) (p : Pattern) (focus : Focus) :
    ∃ focus', focus' ≠ .elsewhere ∧ ((Draft.mk p focus).steps e.tagTokens).value =
      ⟨{ p with examples := p.examples ++ [⟨e.description, e.height, []⟩] }, focus'⟩ := by
  have hfirst := Payload.firstLine_append_newline h.description
  unfold Example.tagTokens
  cases hh : e.height with
  | none =>
    refine ⟨.opened, by decide, ?_⟩
    simp [Draft.steps, Draft.step, Draft.writeTag, Draft.focusAfter, hfirst]
  | some n =>
    have hheight := Payload.height?_decimal (h.height n hh)
    refine ⟨.inside, by decide, ?_⟩
    simp [Draft.steps, Draft.step, Draft.writeTag, Draft.focusAfter, hfirst,
      Draft.changeLast?_concat, hheight]

/-- An example is read with its height and its code. -/
theorem reads_example {e : Example} (h : e.WellFormed) (p : Pattern) :
    Reads e.lines p { p with examples := p.examples ++ [e] } := by
  refine ⟨_, standalone_example h, ?_, ?_⟩
  · intro t ht
    rcases List.mem_append.1 ht with ht | ht
    · rcases List.mem_cons.1 ht with ht | ht
      · rw [ht]
        rfl
      · obtain ⟨n, -, rfl⟩ := List.mem_map.1 ht
        rfl
    · obtain ⟨b, -, rfl⟩ := List.mem_map.1 ht
      rfl
  · intro focus
    obtain ⟨focus', hf, hd⟩ := steps_tagTokens h p focus
    rw [Draft.steps_append, hd, Draft.steps_code rfl hf]
    rfl

/-! ## 4. Fields -/

/-- **The lines of a field do to a pattern what the field says.** -/
theorem reads_field {f : Field} (h : f.WellFormed) (p : Pattern) : Reads f.lines p (p.write f) := by
  cases f with
  | title t =>
    refine reads_tag (by decide) (by decide) h fun focus => ?_
    rw [Draft.writeTag, Payload.firstLine_append_newline h]
    rfl
  | description ls =>
    refine ⟨_, standalone_description h, ?_, fun focus => rfl⟩
    intro t ht
    rw [List.mem_singleton.1 ht]
    rfl
  | entry key value =>
    obtain ⟨hk, htodos, hdeprecated, hv⟩ := h
    refine reads_tag (by decide) (by decide) (Payload.isPhrase_entryText hk hv) fun focus => ?_
    rw [Draft.writeTag, Payload.entry?_entryText hk hv]
    show ({ p with metadata := Draft.addEntry p.metadata key value } : Pattern) = _
    rw [Draft.addEntry, if_neg htodos, if_neg hdeprecated]
    rfl
  | parameter q =>
    refine reads_tag (by decide) (by decide) (Parameter.isPhrase_text h) fun focus => ?_
    rw [Draft.writeTag, Parameter.parameter_text h]
    rfl
  | todo t =>
    refine reads_tag (by decide) (by decide) h fun focus => ?_
    rw [Draft.writeTag, Text.trim_append_newline h.trimmed]
    rfl
  | deprecated t =>
    refine reads_tag (by decide) (by decide) h fun focus => ?_
    rw [Draft.writeTag, Text.trim_append_newline h.trimmed]
    rfl
  | newExample e => exact reads_example h p

/-- The lines of fields do what the fields say, in turn. -/
theorem reads_fields {fs : List Field} (h : ∀ f ∈ fs, f.WellFormed) (p : Pattern) :
    Reads (fs.flatMap Field.lines) p (fs.foldl Pattern.write p) := by
  induction fs generalizing p with
  | nil => exact Reads.nil p
  | cons f fs ih =>
    have hf := reads_field (h f List.mem_cons_self) p
    exact hf.append (ih (fun g hg => h g (List.mem_cons_of_mem f hg)) (p.write f))

/-- **The lines of a name and of fields have the pattern that these say, and no other.** -/
theorem ofLines_allLines {name : Text} {fs : List Field} (hname : name.IsPhrase) (hne : name ≠ [])
    (h : ∀ f ∈ fs, f.WellFormed) :
    Pattern.ofLines (Field.allLines name fs) = [Pattern.ofFields name fs] := by
  obtain ⟨ts, hs, hr, hp⟩ := reads_fields h { name }
  have hhead := standalone_tag_line (by decide : Tag.pattern ≠ .description) hname
  have htokens : (Token.ofLines (Field.allLines name fs)).value =
      .tag .pattern (name ++ ['\n']) :: ts := (hhead.append hs).value_ofLines
  have hgroup : groupAt Token.record? (.tag .pattern (name ++ ['\n']) :: ts) =
      ([], [(name ++ ['\n'], ts)]) := by
    rw [groupAt_cons_heading ts (show Token.record? (.tag .pattern (name ++ ['\n'])) = _ from rfl),
      groupAt_of_none hr]
  have hrecord : (Pattern.ofRecord (name ++ ['\n'], ts)).value = [Pattern.ofFields name fs] := by
    have hn : name.isEmpty = false := List.isEmpty_eq_false_iff.2 hne
    simp only [Pattern.ofRecord, Payload.firstLine_append_newline hname, hn]
    exact congrArg (fun q => [q]) (hp .elsewhere)
  simp [Pattern.ofLines, htokens, Pattern.ofTokens, hgroup, Logged.join, hrecord]

/-! ## 5. The fields of a pattern -/

/-- Things said of a pattern one after another are collected. -/
theorem foldl_collect {α : Type} (field : α → Field) (put : List α → Pattern)
    (h : ∀ l a, (put l).write (field a) = put (l ++ [a])) (l m : List α) :
    (m.map field).foldl Pattern.write (put l) = put (l ++ m) := by
  induction m generalizing l with
  | nil => rw [List.append_nil, List.map_nil, List.foldl_nil]
  | cons a m ih =>
    rw [List.map_cons, List.foldl_cons, h, ih, List.append_assoc, List.singleton_append]

/-- Entries said one after another are written into the metadata. -/
theorem foldl_entries (es : List (Text × Text)) (p : Pattern) :
    (es.map fun e => Field.entry e.1 e.2).foldl Pattern.write p =
      { p with metadata := { p.metadata with
        entries := es.foldl (fun m e => m.insert e.1 e.2) p.metadata.entries } } := by
  induction es generalizing p with
  | nil => rfl
  | cons e es ih => exact ih (p.write (.entry e.1 e.2))

/-- **The fields of a pattern say the pattern.** -/
theorem ofFields_fields {p : Pattern} (h : p.description = [] ∨
    p.description = '\n' :: Text.endLines (descriptionLines p.description)) :
    Pattern.ofFields p.name p.fields = p := by
  have hdescription : List.foldl Pattern.write { name := p.name }
      (if p.description.isEmpty then [] else [.description (descriptionLines p.description)]) =
      { name := p.name, description := p.description } := by
    rcases h with h | h
    · rw [h]
      rfl
    · have hne : p.description.isEmpty = false := by
        rw [h]
        rfl
      rw [hne]
      show ({ name := p.name, description := _ } : Pattern) = _
      rw [← h]
  have hparameters : ∀ q : Pattern, (p.parameters.map Field.parameter).foldl Pattern.write q =
      { q with parameters := q.parameters ++ p.parameters } := by
    intro q
    exact foldl_collect .parameter (fun l => { q with parameters := l }) (fun _ _ => rfl) _ _
  have htodos : ∀ q : Pattern, (p.metadata.todos.map Field.todo).foldl Pattern.write q =
      { q with metadata := { q.metadata with todos := q.metadata.todos ++ p.metadata.todos } } := by
    intro q
    exact foldl_collect .todo (fun l => { q with metadata := { q.metadata with todos := l } })
      (fun _ _ => rfl) _ _
  have hexamples : ∀ q : Pattern, (p.examples.map Field.newExample).foldl Pattern.write q =
      { q with examples := q.examples ++ p.examples } := by
    intro q
    exact foldl_collect .newExample (fun l => { q with examples := l }) (fun _ _ => rfl) _ _
  have hdeprecated : ∀ q : Pattern, q.metadata.deprecated = none →
      (p.metadata.deprecated.toList.map Field.deprecated).foldl Pattern.write q =
        { q with metadata := { q.metadata with deprecated := p.metadata.deprecated } } := by
    intro q hq
    cases p.metadata.deprecated with
    | none =>
      show q = { q with metadata := { q.metadata with deprecated := none } }
      rw [← hq]
    | some t => rfl
  have hentries : p.metadata.entries.toList.foldl (fun m e => m.insert e.1 e.2) .empty =
      p.metadata.entries := SortedMap.ofList_toList _
  unfold Pattern.ofFields Pattern.fields
  simp only [List.foldl_append, List.foldl_cons, hdescription, Pattern.write, foldl_entries,
    hparameters, htodos, hdeprecated, hexamples, hentries, List.nil_append]

/-! ## 6. The last line -/

namespace Body

theorem EndsInText.append_left {ms : List Text} (h : EndsInText ms) (ls : List Text) :
    EndsInText (ls ++ ms) := by
  obtain ⟨l, hl, hf⟩ := h
  refine ⟨l, ?_, hf⟩
  rw [List.getLast?_append, Option.mem_def.1 hl]
  rfl

theorem EndsInText.append_flatMap {α : Type} {ls : List Text} (h : EndsInText ls)
    {piece : α → List Text} {xs : List α} (hx : ∀ x ∈ xs, EndsInText (piece x)) :
    EndsInText (ls ++ xs.flatMap piece) := by
  induction xs generalizing ls with
  | nil => rwa [List.flatMap_nil, List.append_nil]
  | cons x xs ih =>
    rw [List.flatMap_cons, ← List.append_assoc]
    exact ih ((hx x List.mem_cons_self).append_left ls) fun y hy => hx y (List.mem_cons_of_mem x hy)

theorem endsInText_tag (ls : List Text) (tag : Tag) (rest : Text) :
    EndsInText (ls ++ [Tag.line tag rest]) :=
  ⟨Tag.line tag rest, List.getLast?_concat, Tag.isFraming_line tag rest⟩

end Body

/-- A field ends with a tag line or a fence, unless it is a description. -/
theorem Field.endsInText_lines {f : Field} (h : ∀ ls, f ≠ .description ls) :
    Body.EndsInText f.lines := by
  cases f with
  | description ls => exact absurd rfl (h ls)
  | newExample e =>
    have htags : Body.EndsInText (Tag.line .newExample e.description ::
        e.height.toList.map fun n => Tag.line .exampleHeight (Text.decimal n)) := by
      cases e.height with
      | none => exact Body.endsInText_tag [] _ _
      | some n => exact Body.endsInText_tag [_] _ _
    refine htags.append_flatMap fun b _ => ?_
    exact ⟨Fence.ticks, List.getLast?_concat, by decide⟩
  | title t => exact Body.endsInText_tag [] _ _
  | entry key value => exact Body.endsInText_tag [] _ _
  | parameter q => exact Body.endsInText_tag [] _ _
  | todo t => exact Body.endsInText_tag [] _ _
  | deprecated t => exact Body.endsInText_tag [] _ _

/-- **The usual order of the fields is a writing.** -/
theorem isWriting_fields {p : Pattern} (h : p.WellFormed) : p.IsWriting p.fields := by
  refine ⟨fun f hf => hf, ofFields_fields h.description, ?_⟩
  obtain ⟨front, later, hfields, hlater⟩ : ∃ front later,
      p.fields = front ++ .title p.title :: later ∧ ∀ f ∈ later, ∀ ls, f ≠ .description ls := by
    unfold Pattern.fields
    simp only [List.append_assoc, List.cons_append]
    refine ⟨_, _, rfl, ?_⟩
    intro f hf ls hls
    rw [hls] at hf
    simp at hf
  have hlines : Field.allLines p.name p.fields =
      (Tag.line .pattern p.name :: front.flatMap Field.lines) ++ [Tag.line .title p.title] ++
        later.flatMap Field.lines := by
    simp [Field.allLines, hfields, Field.lines]
  rw [hlines]
  exact (Body.endsInText_tag _ _ _).append_flatMap fun f hf => Field.endsInText_lines (hlater f hf)

/-! ## 7. Comments -/

namespace Body

/-- Empty lines around the others do not vote. -/
theorem voters_between_empty (ls : List Text) : voters ([] :: ls ++ [[]]) = voters ls := by
  have hvoters : ∀ ms : List Text, voters ms =
      (((placesBy undecorate false ms).filter Line.isPlain).map (·.text)).filter
        fun l => !Text.isAllBlank l := by
    intro ms
    rw [voters, filterMap_plain?_eq, flatMap_places]
  obtain ⟨rest, hrest⟩ := placesBy_append undecorate false ls [[]]
  have htext : rest.map (·.text) = [[]] := by
    have hmap := map_text_placesBy undecorate false (ls ++ [[]])
    rw [← hrest, List.map_append, map_text_placesBy] at hmap
    exact List.append_cancel_left hmap
  have hblank : ((rest.filter Line.isPlain).map (·.text)).filter (fun l => !Text.isAllBlank l) =
      [] := by
    rw [List.filter_eq_nil_iff]
    intro l hl
    obtain ⟨x, hx, rfl⟩ := List.mem_map.1 hl
    have hmem : x.text ∈ rest.map (·.text) := List.mem_map_of_mem (List.mem_filter.1 hx).1
    rw [htext, List.mem_singleton] at hmem
    rw [hmem]
    decide
  have hfirst : placesBy undecorate false ([] :: ls ++ [[]]) =
      ⟨[], .plain⟩ :: placesBy undecorate false (ls ++ [[]]) := rfl
  rw [hvoters, hvoters, hfirst, ← hrest, List.filter_cons_of_pos rfl, List.map_cons,
    List.filter_cons_of_neg (by decide), List.filter_append, List.map_append, List.filter_append,
    hblank, List.append_nil]

/-- Blank lines around lines that start and end with text are framing. -/
theorem unframed_between {ls : List Text} (hfirst : ∀ l ∈ ls.head?, isFraming l = false)
    (hlast : EndsInText ls) {top bottom : Text} (ht : isFraming top = true)
    (hb : isFraming bottom = true) : Unframed (top :: ls ++ [bottom]) ls := by
  refine ⟨⟨[top], [bottom], rfl, by simpa using ht, by simpa using hb⟩, hfirst, ?_⟩
  obtain ⟨l, hl, hf⟩ := hlast
  intro m hm
  rw [Option.mem_def.1 hl] at hm
  obtain rfl : l = m := Option.some.inj hm
  exact hf

/-- The lines that a comment sets stars before are read without them, and the line that only closes
    the comment is dropped. -/
theorem lines_starred {ls : List Text} (h : ∀ l ∈ ls, IsLine l)
    (hfirst : ∀ l ∈ ls.head?, isFraming l = false) (hlast : EndsInText ls) :
    (∀ l ∈ ['*'] :: ls.map ([' ', '*', ' '] ++ ·) ++ [[' ']], IsLine l) ∧
    lines (Text.joinLines (['*'] :: ls.map ([' ', '*', ' '] ++ ·) ++ [[' ']])) = ls := by
  have hstars : List.Forall₂ Decorated ([] :: ls) (['*'] :: ls.map ([' ', '*', ' '] ++ ·)) := by
    refine .cons (@Decorated.tight [] [] (by simp) (by simp)) ?_
    rw [List.forall₂_map_right_iff, List.forall₂_same]
    intro l _
    exact @Decorated.spaced [' '] l (by simp)
  have hbare : ∀ l ∈ [] :: ls, IsLine l := by
    intro l hl
    rcases List.mem_cons.1 hl with hl | hl
    · rw [hl]
      decide
    · exact h l hl
  have hlines : ∀ l ∈ ['*'] :: ls.map ([' ', '*', ' '] ++ ·) ++ [[' ']], IsLine l := by
    intro l hl
    rcases List.mem_append.1 hl with hl | hl
    · obtain ⟨b, hb, hd⟩ := exists_bare hstars hl
      exact isLine_of_decorated hd (hbare b hb)
    · rw [List.mem_singleton.1 hl]
      decide
  have hvote : isDecorated (['*'] :: ls.map ([' ', '*', ' '] ++ ·) ++ [[' ']]) = true := by
    refine isDecorated_of_stars ?_ ?_
    · intro l hl hblank
      rcases List.mem_append.1 hl with hl | hl
      · exact isSome_undecorate? hstars hl
      · rw [List.mem_singleton.1 hl] at hblank
        exact absurd hblank (by decide)
    · -- the star behind the opening mark votes
      have hopen : Fence.opening? (undecorate ['*']) = none := rfl
      rw [voters, List.cons_append, segmentsBy, hopen]
      simp [Segment.plain?, Text.isAllBlank, Text.isBlank]
  refine ⟨hlines, ?_⟩
  have hundecorated : (['*'] :: ls.map ([' ', '*', ' '] ++ ·) ++ [[' ']]).map undecorate =
      [] :: ls ++ [[' ']] := by
    rw [List.map_append, map_undecorate hstars]
    rfl
  rw [lines_joinLines_of_decorated hlines hvote, hundecorated]
  exact (unframed_between hfirst hlast (by decide) (by decide)).dropFraming_eq

/-- Lines without stars are read as they are, unless they pass the vote. -/
theorem lines_unstarred {ls : List Text} (h : ∀ l ∈ ls, IsLine l)
    (hfirst : ∀ l ∈ ls.head?, isFraming l = false) (hlast : EndsInText ls)
    (hv : isDecorated ls = false) :
    (∀ l ∈ [] :: ls ++ [[]], IsLine l) ∧ lines (Text.joinLines ([] :: ls ++ [[]])) = ls := by
  have hlines : ∀ l ∈ [] :: ls ++ [[]], IsLine l := by
    intro l hl
    have hnil : IsLine [] := by decide
    simp only [List.cons_append, List.mem_cons, List.mem_append, List.not_mem_nil, or_false] at hl
    rcases hl with hl | hl | hl
    · exact hl ▸ hnil
    · exact h l hl
    · exact hl ▸ hnil
  have hvote : isDecorated ([] :: ls ++ [[]]) = false := by
    rw [isDecorated, voters_between_empty]
    exact hv
  rw [lines_joinLines hlines hvote]
  exact ⟨hlines, (unframed_between hfirst hlast (by decide) (by decide)).dropFraming_eq⟩

end Body

/-- The lines of a name and of fields can stand in a comment. -/
theorem isLine_allLines {p : Pattern} (h : p.WellFormed) {fs : List Field}
    (hfs : ∀ f ∈ fs, f ∈ p.fields) : ∀ l ∈ Field.allLines p.name fs, Body.IsLine l := by
  intro l hl
  rcases List.mem_cons.1 hl with hl | hl
  · rw [hl]
    exact Tag.isLine_line .pattern h.name (h.no_closing _ List.mem_cons_self)
  · obtain ⟨f, hf, hlf⟩ := List.mem_flatMap.1 hl
    refine Field.isLine_lines (h.fields f (hfs f hf)) (fun t ht => h.no_closing t ?_) l hlf
    exact List.mem_cons_of_mem _ (List.mem_flatMap.2 ⟨f, hfs f hf, ht⟩)

/-- **Reading undoes writing.** A pattern that the format carries is read back, and nothing else is
    read, from every comment that says all of it: with a star before each line, and without stars
    unless the lines themselves pass the vote. The fields may stand in any order that gives the
    pattern, and the usual order is one. -/
theorem patterns_writing {p : Pattern} (h : p.WellFormed) :
    p.IsWriting p.fields ∧
    ∀ fs, p.IsWriting fs →
      Source.patterns (Comments.starred (Field.allLines p.name fs)) = [p] ∧
      (Body.isDecorated (Field.allLines p.name fs) = false →
        Source.patterns (Comments.unstarred (Field.allLines p.name fs)) = [p]) := by
  refine ⟨isWriting_fields h, fun fs hw => ?_⟩
  have hlines := isLine_allLines h hw.subset
  have hfirst : ∀ l ∈ (Field.allLines p.name fs).head?, Body.isFraming l = false := by
    intro l hl
    obtain rfl : Tag.line .pattern p.name = l := Option.some.inj hl
    exact Tag.isFraming_line _ _
  have hread : Pattern.ofLines (Field.allLines p.name fs) = [p] := by
    rw [ofLines_allLines h.name h.name_ne_nil fun f hf => h.fields f (hw.subset f hf), hw.ofFields]
  refine ⟨?_, fun hv => ?_⟩
  · obtain ⟨hstarred, hbody⟩ := Body.lines_starred hlines hfirst hw.last
    rw [Comments.starred, Source.patterns_ofLines hstarred, hbody, hread]
  · obtain ⟨hunstarred, hbody⟩ := Body.lines_unstarred hlines hfirst hw.last hv
    rw [Comments.unstarred, Source.patterns_ofLines hunstarred, hbody, hread]

/-- A pattern whose texts look like parts of the format. -/
def Pattern.deceptive : Pattern where
  name := "Card *".toList
  title := "@title - x".toList
  description := "\n* a\n\x60\x60\x60css\n@pattern B\n\x60\x60\x60\n---\n\n".toList
  metadata :=
    { entries := .ofList [("-".toList, "- v".toList), ("k".toList, [])]
      todos := [[], "* t".toList]
      deprecated := some [] }
  parameters := [⟨"-".toList, " A ".toList, true, none, "d - e".toList⟩,
    ⟨"a b".toList, [], false, some "=[ ".toList, []⟩]
  examples := [⟨[], some 0, [⟨none, []⟩, ⟨some "css".toList, "@example\n \x60\x60\x60".toList⟩]⟩]

/-- The pattern is read back from both comments. -/
theorem patterns_writing_deceptive :
    Pattern.deceptive.WellFormed ∧
    Source.patterns (Comments.starred
      (Field.allLines Pattern.deceptive.name Pattern.deceptive.fields)) = [Pattern.deceptive] ∧
    Source.patterns (Comments.unstarred
      (Field.allLines Pattern.deceptive.name Pattern.deceptive.fields)) = [Pattern.deceptive] := by
  have h : Pattern.deceptive.WellFormed := by decide +kernel
  have hv : Body.isDecorated (Field.allLines Pattern.deceptive.name Pattern.deceptive.fields) =
      false := by decide +kernel
  obtain ⟨hw, hall⟩ := patterns_writing h
  obtain ⟨hs, hu⟩ := hall Pattern.deceptive.fields hw
  exact ⟨h, hs, hu hv⟩

end PatternBook
