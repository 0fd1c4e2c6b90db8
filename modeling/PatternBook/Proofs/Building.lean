import PatternBook.Comment.Record

/-!
# Patterns in one pass

`Pattern.ofTokens` groups the tokens of a body at the `@pattern` tags and reads each record on its own.
This file feeds the same tokens to a builder, one by one. It remembers the last tag, and whether the
token before was an `@example` tag, from the first token of the body on; a `@pattern` tag resets
neither but by being a tag itself.

* `Builder` -- the pattern that is being built if there is one, the patterns before it, what is
  remembered, and the events;
* `Builder.step` -- one token; `Builder.finish` -- the end of the body, which ends a pattern too;
* `Builder.focus` -- what is remembered says where the reader of a record would stand
  (`written_eq`, `coded_eq`, `focus_step`), on builders that are `Coherent`;
* `Builder.reading` -- what the builder has got to behind the tokens up to the next `@pattern`:
  `reading_cons` takes one of them, `reading_pattern` the `@pattern` tag behind them;
* `Builder.finish_run` -- the builder ends with the patterns and the events of `Pattern.ofTokens`.
-/

namespace PatternBook

/-! ## 1. The builder -/

/-- What has been read of the tokens of a body: the pattern that is being built, those before it, the
    last tag, whether it was `@example` and nothing came after it, and the events. -/
structure Builder where
  current : Option Pattern := none
  patterns : List Pattern := []
  lastTag : Option Tag := none
  afterExample : Bool := false
  events : List Event := []
  deriving DecidableEq

namespace Builder

/-- Whether code belongs to an example, as far as the tags go. -/
def takesCode (s : Builder) : Bool :=
  s.lastTag == some .newExample || s.lastTag == some .exampleHeight

/-- Ends the pattern that is being built. -/
def close (s : Builder) : Builder :=
  match s.current with
  | none => s
  | some p =>
    { s with
      current := none
      patterns := s.patterns ++ [p]
      events := s.events ++ [p.completeEvent] }

/-- Begins a pattern, if it has a name. -/
def openRecord (s : Builder) (payload : Text) : Builder :=
  let s := s.close
  let name := Payload.firstLine payload
  if name.isEmpty then { s with events := s.events ++ [.namelessPattern] }
  else { s with current := some { name } }

/-- The pattern with the field of a tag. A height counts right behind `@example` only; the other tags
    write whatever came before. -/
def written (s : Builder) (p : Pattern) (tag : Tag) (payload : Text) : Logged Pattern :=
  match tag with
  | .exampleHeight =>
    let setHeight (e : Example) : Example := { e with height := Payload.height? payload }
    match s.afterExample, changeLast? setHeight p.examples with
    | true, some examples => ⟨{ p with examples }, []⟩
    | _, _ => ⟨p, [.strayHeight p.name]⟩
  | _ => Draft.writeTag { pattern := p } tag payload

/-- The pattern with code in its last example. -/
def coded (s : Builder) (p : Pattern) (block : CodeBlock) : Logged Pattern :=
  let addBlock (e : Example) : Example := { e with codeBlocks := e.codeBlocks ++ [block] }
  match s.takesCode, changeLast? addBlock p.examples with
  | true, some examples => ⟨{ p with examples }, []⟩
  | _, _ => ⟨p, [.strayCode p.name block.lang]⟩

/-- The builder with another form of the pattern that is being built. -/
def change (s : Builder) (r : Logged Pattern) : Builder :=
  { s with current := some r.value, events := s.events ++ r.events }

/-- Takes a tag. -/
def readTag (s : Builder) (tag : Tag) (payload : Text) : Builder :=
  if tag = .pattern then s.openRecord payload
  else
    match s.current with
    | none => { s with events := s.events ++ [.tagBeforePattern tag] }
    | some p => s.change (s.written p tag payload)

/-- Takes code, which nobody misses where there is no pattern. -/
def readCode (s : Builder) (block : CodeBlock) : Builder :=
  match s.current with
  | none => s
  | some p => s.change (s.coded p block)

/-- Reads one token. -/
def step (s : Builder) : Token → Builder
  | .tag tag payload =>
    { s.readTag tag payload with lastTag := some tag, afterExample := tag == .newExample }
  | .code block => { s.readCode block with afterExample := false }

/-- Reads tokens from the start of a body. -/
def run (tokens : List Token) : Builder := tokens.foldl step {}

/-- The patterns and the events at the end of the tokens. -/
def finish (s : Builder) : Logged (List Pattern) := ⟨s.close.patterns, s.close.events⟩

/-! ## 2. What is remembered -/

/-- Where the reader of a record would stand with respect to the last example. -/
def focus (s : Builder) : Focus :=
  if s.afterExample then .opened else if s.takesCode then .inside else .elsewhere

/-- Right behind `@example` that is the last tag. -/
def Coherent (s : Builder) : Prop := s.afterExample = true → s.lastTag = some .newExample

variable {s : Builder}

/-- The draft of the pattern that is being built. -/
def draft (s : Builder) (p : Pattern) : Draft := ⟨p, s.focus⟩

theorem coherent_step (s : Builder) (t : Token) : (s.step t).Coherent := by
  cases t with
  | code block =>
    intro hafter
    cases hafter
  | tag tag payload =>
    intro hafter
    exact congrArg some (beq_iff_eq.1 hafter)

/-- A tag writes what it writes for the reader of the record. -/
theorem written_eq (s : Builder) (p : Pattern) (tag : Tag) (payload : Text) :
    s.written p tag payload = (s.draft p).writeTag tag payload := by
  cases tag with
  | exampleHeight =>
    simp only [written, draft, Draft.writeTag, focus]
    generalize changeLast? _ p.examples = changed
    cases s.afterExample with
    | true => cases changed <;> rfl
    | false => cases s.takesCode <;> rfl
  | _ => rfl

theorem takesCode_of_afterExample (h : s.Coherent) (hafter : s.afterExample = true) :
    s.takesCode = true := by
  rw [takesCode, h hafter]
  rfl

/-- Code goes where it goes for the reader of the record. -/
theorem coded_eq (h : s.Coherent) (p : Pattern) (block : CodeBlock) :
    s.coded p block = (s.draft p).writeCode block := by
  simp only [coded, draft, Draft.writeCode, focus]
  cases hafter : s.afterExample with
  | true =>
    rw [takesCode_of_afterExample h hafter]
    generalize changeLast? _ p.examples = changed
    cases changed <;> rfl
  | false =>
    generalize changeLast? _ p.examples = changed
    cases s.takesCode <;> cases changed <;> rfl

/-- One token moves the reader of the record on as it moves the builder. -/
theorem focus_step (h : s.Coherent) (p : Pattern) (t : Token) :
    (s.step t).focus = ((s.draft p).step t).value.focus := by
  cases t with
  | tag tag payload => cases tag <;> rfl
  | code block =>
    have htakes : (s.step (.code block)).takesCode = s.takesCode := by
      simp only [step, readCode]
      cases s.current <;> rfl
    have hfocus : (s.step (.code block)).focus = if s.takesCode then .inside else .elsewhere := by
      rw [focus, htakes]
      rfl
    rw [hfocus]
    show _ = if s.focus = .elsewhere then Focus.elsewhere else .inside
    rw [focus]
    cases hafter : s.afterExample with
    | true =>
      rw [takesCode_of_afterExample h hafter]
      rfl
    | false => cases s.takesCode <;> rfl

/-- One token of a record does to the pattern what it does to its draft. -/
theorem step_of_current (h : s.Coherent) {p : Pattern} (hp : s.current = some p) {t : Token}
    (ht : t.record? = none) :
    (s.step t).current = some ((s.draft p).step t).value.pattern ∧
      (s.step t).patterns = s.patterns ∧
      (s.step t).events = s.events ++ ((s.draft p).step t).events := by
  cases t with
  | tag tag payload =>
    have htag : tag ≠ .pattern := by
      rintro rfl
      cases ht
    simp only [step, readTag, if_neg htag, hp, written_eq]
    exact ⟨rfl, rfl, rfl⟩
  | code block =>
    simp only [step, readCode, hp, coded_eq h]
    exact ⟨rfl, rfl, rfl⟩

/-- Where there is no pattern, a token other than `@pattern` is at most reported. -/
theorem step_of_none (hp : s.current = none) {t : Token} (ht : t.record? = none) :
    (s.step t).current = none ∧ (s.step t).patterns = s.patterns ∧
      (s.step t).events = s.events ++ t.outsideEvent?.toList := by
  cases t with
  | tag tag payload =>
    have htag : tag ≠ .pattern := by
      rintro rfl
      cases ht
    simp only [step, readTag, if_neg htag, hp]
    exact ⟨trivial, trivial, rfl⟩
  | code block =>
    simp only [step, readCode, hp]
    exact ⟨trivial, trivial, (List.append_nil _).symm⟩

/-! ## 3. Records -/

/-- What the builder makes of the tokens up to the next `@pattern` tag or the end. -/
def pending (s : Builder) (tokens : List Token) : Logged (List Pattern) :=
  match s.current with
  | none => ⟨[], tokens.filterMap Token.outsideEvent?⟩
  | some p =>
    let r := (s.draft p).steps tokens
    ⟨[r.value.pattern], r.events ++ [r.value.pattern.completeEvent]⟩

/-- The patterns and the events behind the tokens up to the next `@pattern` tag or the end. -/
def reading (s : Builder) (tokens : List Token) : Logged (List Pattern) :=
  ⟨s.patterns ++ (s.pending tokens).value, s.events ++ (s.pending tokens).events⟩

theorem finish_eq (s : Builder) : s.finish = s.reading [] := by
  unfold finish close reading pending
  cases s.current with
  | none => simp
  | some p => rfl

/-- The tokens of a record can be taken one by one. -/
theorem reading_cons (h : s.Coherent) {t : Token} (ht : t.record? = none) (tokens : List Token) :
    s.reading (t :: tokens) = (s.step t).reading tokens := by
  unfold reading pending
  cases hp : s.current with
  | none =>
    obtain ⟨hcurrent, hpatterns, hevents⟩ := step_of_none hp ht
    rw [hcurrent, hpatterns, hevents]
    cases hevent : t.outsideEvent? <;> simp [hevent]
  | some p =>
    obtain ⟨hcurrent, hpatterns, hevents⟩ := step_of_current h hp ht
    have hdraft : (s.step t).draft ((s.draft p).step t).value.pattern =
        ((s.draft p).step t).value := by
      rw [draft, focus_step h p]
    rw [hcurrent, hpatterns, hevents]
    simp only [hdraft, Draft.steps, List.append_assoc]

/-- A `@pattern` tag ends what is being read, and the record that it opens is read on its own. -/
theorem reading_pattern (s : Builder) (payload : Text) (tokens : List Token) :
    (s.step (.tag .pattern payload)).reading tokens =
      ⟨(s.reading []).value ++ (Pattern.ofRecord (payload, tokens)).value,
        (s.reading []).events ++ (Pattern.ofRecord (payload, tokens)).events⟩ := by
  have hnone : s.close.current = none := by
    unfold close
    cases hp : s.current with
    | none => exact hp
    | some p => rfl
  rw [← finish_eq]
  simp only [step, readTag, if_true, openRecord, Pattern.ofRecord, finish]
  by_cases hname : (Payload.firstLine payload).isEmpty
  · simp [reading, pending, hname, hnone]
  · simp [reading, pending, hname, draft, focus, takesCode]

/-- **The builder and the records agree**, wherever reading starts. -/
theorem finish_foldl (tokens : List Token) (h : s.Coherent) :
    (tokens.foldl step s).finish =
      ⟨(s.reading (groupAt Token.record? tokens).1).value ++
          (Logged.join ((groupAt Token.record? tokens).2.map Pattern.ofRecord)).value,
        (s.reading (groupAt Token.record? tokens).1).events ++
          (Logged.join ((groupAt Token.record? tokens).2.map Pattern.ofRecord)).events⟩ := by
  induction tokens generalizing s with
  | nil =>
    rw [List.foldl_nil, groupAt_nil, finish_eq]
    simp [Logged.join]
  | cons t tokens ih =>
    rw [List.foldl_cons, ih (coherent_step s t)]
    cases ht : t.record? with
    | none => rw [groupAt_cons_plain _ ht, reading_cons h ht]
    | some payload =>
      obtain rfl : t = .tag .pattern payload := by
        cases t with
        | code block => cases ht
        | tag tag payload' => cases tag <;> cases ht; rfl
      rw [groupAt_cons_heading _ ht, reading_pattern]
      simp [Logged.join]

/-- **One pass gives the patterns and the events** that the records of the tokens give. -/
theorem finish_run (tokens : List Token) : (run tokens).finish = Pattern.ofTokens tokens := by
  have hstart : Coherent {} := fun hafter => by cases hafter
  rw [run, finish_foldl tokens hstart]
  rfl

/-- An example before the first pattern is remembered, but not behind `@pattern`. -/
example : (run [.tag .newExample "Lost\n".toList, .tag .pattern "A\n".toList,
    .code ⟨none, "x".toList⟩]).finish.value = [{ name := "A".toList }] := by
  decide +kernel

end Builder

end PatternBook
