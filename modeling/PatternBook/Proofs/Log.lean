import PatternBook.Proofs.Events

/-!
# What the log says about the patterns

The events of a text are no separate account: they can be read off its patterns and its tokens
(`events_tell_patterns`).

* Details say nothing of patterns and comments as a whole, so what is said of them stands at the end
  of a record and of a body.
* The code of a record is read token by token into two lists, what its examples hold and what is
  reported as dropped. `Interleaved` says that the two lists together are the code in its order, and
  `interleaved_steps` carries this through a record.
-/

namespace PatternBook

/-! ## 1. Patterns and comments as a whole -/

/-- The end of a record is all that is said of its pattern as a whole. -/
theorem Pattern.completed?_ofRecord (r : Text × List Token) :
    (ofRecord r).events.filterMap Event.completed? =
      (ofRecord r).value.map fun p => (p.name, p.parameters.length, p.examples.length) := by
  obtain ⟨payload, tokens⟩ := r
  simp only [ofRecord]
  split
  · refine Event.filterMap_of_isDetail Event.completed?_of_isDetail fun e he => ?_
    rcases List.mem_cons.1 he with rfl | he
    · rfl
    · exact Token.isDetail_of_mem_outside he
  · rw [List.filterMap_append,
      Event.filterMap_of_isDetail Event.completed?_of_isDetail fun e => Draft.isDetail_of_mem_steps]
    rfl

theorem Pattern.completed?_ofTokens (tokens : List Token) :
    (ofTokens tokens).events.filterMap Event.completed? =
      (ofTokens tokens).value.map fun p => (p.name, p.parameters.length, p.examples.length) := by
  simp only [ofTokens, Logged.join, List.filterMap_append, List.filterMap_flatMap, List.flatMap_map,
    List.map_flatMap, completed?_ofRecord]
  rw [Event.filterMap_of_isDetail Event.completed?_of_isDetail fun e => Token.isDetail_of_mem_outside]
  rfl

namespace Source

theorem completed?_readBody (body : Text) :
    (readBody body).events.filterMap Event.completed? =
      (readBody body).value.map fun p => (p.name, p.parameters.length, p.examples.length) := by
  simp only [readBody, List.filterMap_append, Pattern.completed?_ofTokens]
  rw [Event.filterMap_of_isDetail Event.completed?_of_isDetail fun e => Token.isDetail_of_mem_ofLines]
  split <;> simp [Event.completed?]

theorem skippedLines?_readBody (body : Text) :
    (readBody body).events.filterMap Event.skippedLines? =
      if (readBody body).value = [] then [(Body.lines body).length] else [] := by
  have hfound : (Pattern.ofTokens (Token.ofLines (Body.lines body)).value).events.filterMap
      Event.skippedLines? = [] := by
    refine List.filterMap_eq_nil_iff.2 fun e he => ?_
    obtain hd | ⟨p, rfl⟩ := Pattern.isDetail_or_complete_of_mem he
    · exact Event.skippedLines?_of_isDetail hd
    · rfl
  simp only [readBody, List.filterMap_append, hfound, List.isEmpty_iff]
  rw [Event.filterMap_of_isDetail Event.skippedLines?_of_isDetail
    fun e => Token.isDetail_of_mem_ofLines]
  split <;> rfl

/-- The comment that is never closed is the only event of a text that belongs to none of its
    bodies. -/
theorem filterMap_events_read {β : Type} {read? : Event → Option β}
    (hr : ∀ offset, read? (.unterminatedComment offset) = none) (source : Text) :
    (read source).events.filterMap read? =
      (Comments.scan source).bodies.flatMap fun body =>
        (readBody body).events.filterMap read? := by
  simp only [read, Logged.join, List.filterMap_append, List.filterMap_flatMap, List.flatMap_map]
  cases (Comments.scan source).unterminated with
  | none => rfl
  | some offset => simp [hr]

end Source

/-! ## 2. The code of a record -/

/-- Two lists that make up a third one between them, each in the order it has there. -/
inductive Interleaved {α : Type} : List α → List α → List α → Prop where
  | nil : Interleaved [] [] []
  | left {all first second : List α} (a : α) :
      Interleaved all first second → Interleaved (a :: all) (a :: first) second
  | right {all first second : List α} (a : α) :
      Interleaved all first second → Interleaved (a :: all) first (a :: second)

namespace Interleaved

variable {α β : Type} {all first second all' first' second' : List α}

theorem append (h : Interleaved all first second) (k : Interleaved all' first' second') :
    Interleaved (all ++ all') (first ++ first') (second ++ second') := by
  induction h with
  | nil => exact k
  | left a _ ih => exact .left a ih
  | right a _ ih => exact .right a ih

theorem map (f : α → β) (h : Interleaved all first second) :
    Interleaved (all.map f) (first.map f) (second.map f) := by
  induction h with
  | nil => exact .nil
  | left a _ ih => exact .left (f a) ih
  | right a _ ih => exact .right (f a) ih

end Interleaved

/-- The code of a token that is code. -/
def Token.block? : Token → Option CodeBlock
  | .tag _ _ => none
  | .code block => some block

/-- The code that the examples of a pattern hold, in order, each with the name of the pattern. -/
def Pattern.storedCode (p : Pattern) : List (Text × CodeBlock) :=
  p.examples.flatMap fun e => e.codeBlocks.map fun block => (p.name, block)

/-- The code that stands in a record, with the name of the record, from a place where the record of
    the given name is open. A `@pattern` tag ends a record, and it opens one if it has a name. -/
def Token.recordCode (current : Option Text) : List Token → List (Text × CodeBlock)
  | [] => []
  | .code block :: ts => current.toList.map (fun name => (name, block)) ++ recordCode current ts
  | .tag kind payload :: ts =>
    if kind = .pattern then
      let name := Payload.firstLine payload
      recordCode (if name.isEmpty then none else some name) ts
    else recordCode current ts

namespace Draft

theorem exists_of_changeLast? {α : Type} {f : α → α} {l m : List α} (h : changeLast? f l = some m) :
    ∃ front last, l = front ++ [last] ∧ m = front ++ [f last] := by
  obtain ⟨last, hlast, rfl⟩ := Option.map_eq_some_iff.1 h
  obtain ⟨front, rfl⟩ := List.getLast?_eq_some_iff.1 hlast
  exact ⟨front, last, rfl, by rw [List.dropLast_concat]⟩

theorem name_step (d : Draft) (t : Token) : (d.step t).value.pattern.name = d.pattern.name := by
  cases t with
  | tag tag payload =>
    cases tag <;> simp only [step, writeTag]
    all_goals
      split
      all_goals rfl
  | code block =>
    simp only [step, writeCode]
    split <;> rfl

theorem name_steps (d : Draft) (ts : List Token) :
    (d.steps ts).value.pattern.name = d.pattern.name := by
  induction ts generalizing d with
  | nil => rfl
  | cons t ts ih => exact (ih (d.step t).value).trans (name_step d t)

/-- A tag takes no code away from the examples and brings none in. -/
theorem codeBlocks_writeTag (d : Draft) (tag : Tag) (payload : Text) :
    (d.writeTag tag payload).value.examples.flatMap (·.codeBlocks) =
      d.pattern.examples.flatMap (·.codeBlocks) := by
  cases tag <;> simp only [writeTag]
  case metadata => split <;> rfl
  case newExample => simp
  case exampleHeight =>
    split
    · rename_i examples _ hchange
      obtain ⟨front, last, hold, rfl⟩ := exists_of_changeLast? hchange
      simp [hold]
    · rfl

/-- Code is kept by the last example or reported. -/
theorem writeCode_cases (d : Draft) (block : CodeBlock) :
    ((d.writeCode block).value.examples.flatMap (·.codeBlocks) =
        d.pattern.examples.flatMap (·.codeBlocks) ++ [block] ∧ (d.writeCode block).events = []) ∨
    ((d.writeCode block).value = d.pattern ∧
      (d.writeCode block).events = [.strayCode d.pattern.name block.lang]) := by
  simp only [writeCode]
  split
  · exact .inr ⟨rfl, rfl⟩
  · exact .inr ⟨rfl, rfl⟩
  · rename_i examples hchange _
    obtain ⟨front, last, hold, rfl⟩ := exists_of_changeLast? hchange
    left
    simp [hold]

/-- One token adds its code either to what the examples hold or to what is reported. -/
theorem interleaved_step (d : Draft) (t : Token) : ∃ kept dropped : List CodeBlock,
    Interleaved t.block?.toList kept dropped ∧
    (d.step t).value.pattern.examples.flatMap (·.codeBlocks) =
      d.pattern.examples.flatMap (·.codeBlocks) ++ kept ∧
    (d.step t).events.filterMap Event.droppedCode? =
      dropped.map fun block => (d.pattern.name, block.lang) := by
  cases t with
  | tag tag payload =>
    have hevents : (d.step (.tag tag payload)).events.filterMap Event.droppedCode? = [] := by
      refine List.filterMap_eq_nil_iff.2 fun e he => ?_
      obtain rfl | rfl | ⟨block, hblock, -⟩ := cases_of_mem_step he
      · rfl
      · rfl
      · cases hblock
    exact ⟨[], [], .nil, by rw [List.append_nil]; exact codeBlocks_writeTag d tag payload, hevents⟩
  | code block =>
    obtain ⟨hvalue, hevents⟩ | ⟨hvalue, hevents⟩ := writeCode_cases d block
    · exact ⟨[block], [], .left block .nil, hvalue, by simp [step, hevents]⟩
    · exact ⟨[], [block], .right block .nil, by simp [step, hvalue],
        by simp [step, hevents, Event.droppedCode?]⟩

/-- **The code of a record** is what its examples hold and what is reported of it. -/
theorem interleaved_steps (d : Draft) (ts : List Token) : ∃ kept dropped : List CodeBlock,
    Interleaved (ts.filterMap Token.block?) kept dropped ∧
    (d.steps ts).value.pattern.examples.flatMap (·.codeBlocks) =
      d.pattern.examples.flatMap (·.codeBlocks) ++ kept ∧
    (d.steps ts).events.filterMap Event.droppedCode? =
      dropped.map fun block => (d.pattern.name, block.lang) := by
  induction ts generalizing d with
  | nil => exact ⟨[], [], .nil, (List.append_nil _).symm, rfl⟩
  | cons t ts ih =>
    obtain ⟨kept, dropped, hsplit, hkept, hdropped⟩ := interleaved_step d t
    obtain ⟨kept', dropped', hsplit', hkept', hdropped'⟩ := ih (d.step t).value
    refine ⟨kept ++ kept', dropped ++ dropped', ?_, ?_, ?_⟩
    · have hblocks : (t :: ts).filterMap Token.block? =
          t.block?.toList ++ ts.filterMap Token.block? := by
        cases t <;> rfl
      rw [hblocks]
      exact hsplit.append hsplit'
    · rw [steps, hkept', hkept, List.append_assoc]
    · rw [steps, List.filterMap_append, hdropped, hdropped', name_step, List.map_append]

end Draft

/-! ## 3. The code of all records -/

/-- The code of a record that has a name. -/
def Pattern.codeOfRecord : Text × List Token → List (Text × CodeBlock)
  | (payload, tokens) =>
    let name := Payload.firstLine payload
    if name.isEmpty then [] else (tokens.filterMap Token.block?).map fun block => (name, block)

/-- Token by token or record by record, the same code stands in records. -/
theorem Token.recordCode_eq (current : Option Text) (tokens : List Token) :
    recordCode current tokens =
      (current.toList.flatMap fun name =>
        ((groupAt record? tokens).1.filterMap block?).map fun block => (name, block)) ++
      (groupAt record? tokens).2.flatMap Pattern.codeOfRecord := by
  induction tokens generalizing current with
  | nil => cases current <;> rfl
  | cons t ts ih =>
    cases t with
    | code block =>
      rw [recordCode, groupAt_cons_plain ts rfl, ih]
      cases current <;> simp [block?]
    | tag kind payload =>
      by_cases hkind : kind = .pattern
      · subst hkind
        have hopens : (Token.tag .pattern payload).record? = some payload := rfl
        rw [recordCode, if_pos rfl, groupAt_cons_heading ts hopens, ih]
        by_cases hname : (Payload.firstLine payload).isEmpty = true <;>
          simp [Pattern.codeOfRecord, hname]
      · have hplain : (Token.tag kind payload).record? = none := by
          cases kind <;> first | rfl | exact absurd rfl hkind
        rw [recordCode, if_neg hkind, groupAt_cons_plain ts hplain, ih]
        rfl

/-- The code of one record is stored in its pattern or reported under its name. -/
theorem Pattern.interleaved_ofRecord (r : Text × List Token) :
    ∃ dropped : List (Text × CodeBlock),
      Interleaved (codeOfRecord r) ((ofRecord r).value.flatMap storedCode) dropped ∧
      (ofRecord r).events.filterMap Event.droppedCode? =
        dropped.map fun d => (d.1, d.2.lang) := by
  obtain ⟨payload, tokens⟩ := r
  simp only [codeOfRecord, ofRecord]
  split
  · refine ⟨[], .nil, List.filterMap_eq_nil_iff.2 fun e he => ?_⟩
    rcases List.mem_cons.1 he with rfl | he
    · rfl
    · obtain ⟨t, -, ht⟩ := List.mem_filterMap.1 he
      cases t <;> cases ht
      rfl
  · obtain ⟨kept, dropped, hsplit, hkept, hdropped⟩ :=
      Draft.interleaved_steps { pattern := { name := Payload.firstLine payload } } tokens
    refine ⟨dropped.map fun block => (Payload.firstLine payload, block), ?_, ?_⟩
    · have hstored : ∀ p : Pattern, p.storedCode =
          (p.examples.flatMap (·.codeBlocks)).map fun block => (p.name, block) := by
        intro p
        rw [storedCode, List.map_flatMap]
      rw [List.flatMap_singleton, hstored, hkept, Draft.name_steps]
      exact hsplit.map _
    · simp [hdropped, completeEvent, Event.droppedCode?, Function.comp_def]

/-- The code of all records is stored in their patterns or reported. -/
theorem Pattern.interleaved_ofTokens (tokens : List Token) :
    ∃ dropped : List (Text × CodeBlock),
      Interleaved (Token.recordCode none tokens) ((ofTokens tokens).value.flatMap storedCode)
        dropped ∧
      (ofTokens tokens).events.filterMap Event.droppedCode? =
        dropped.map fun d => (d.1, d.2.lang) := by
  have hrecords : ∀ records : List (Text × List Token), ∃ dropped : List (Text × CodeBlock),
      Interleaved (records.flatMap codeOfRecord)
        ((Logged.join (records.map ofRecord)).value.flatMap storedCode) dropped ∧
      (Logged.join (records.map ofRecord)).events.filterMap Event.droppedCode? =
        dropped.map fun d => (d.1, d.2.lang) := by
    intro records
    induction records with
    | nil => exact ⟨[], .nil, rfl⟩
    | cons r records ih =>
      obtain ⟨first, hsplit, hfirst⟩ := interleaved_ofRecord r
      obtain ⟨later, hsplit', hlater⟩ := ih
      refine ⟨first ++ later, ?_, ?_⟩
      · simpa [Logged.join] using hsplit.append hsplit'
      · simpa [Logged.join, hfirst] using hlater
  obtain ⟨dropped, hsplit, hdropped⟩ := hrecords (groupAt Token.record? tokens).2
  refine ⟨dropped, ?_, ?_⟩
  · rw [Token.recordCode_eq]
    exact hsplit
  · have hlead : ((groupAt Token.record? tokens).1.filterMap Token.outsideEvent?).filterMap
        Event.droppedCode? = [] := by
      refine List.filterMap_eq_nil_iff.2 fun e he => ?_
      obtain ⟨t, -, ht⟩ := List.mem_filterMap.1 he
      cases t <;> cases ht
      rfl
    simp only [ofTokens, List.filterMap_append, hlead, List.nil_append]
    exact hdropped

/-! ## 4. The events of a text -/

namespace Source

/-- **The log agrees with the result.** The patterns of a text are reported as complete, in order
    and with their own numbers of parameters and examples, and nothing else is. The comments that
    are reported as skipped are those without a pattern, in order and with the numbers of their
    lines. And of any tokens, the code that stands in records is made up of what the examples of
    their patterns hold and of what is reported as dropped, both in order. -/
theorem events_tell_patterns (source : Text) (tokens : List Token) :
    (read source).events.filterMap Event.completed? =
      (patterns source).map (fun p => (p.name, p.parameters.length, p.examples.length)) ∧
    (read source).events.filterMap Event.skippedLines? =
      ((Comments.scan source).bodies.filter fun body => (readBody body).value = []).map
        (fun body => (Body.lines body).length) ∧
    ∃ stored dropped : List (Text × CodeBlock),
      Interleaved (Token.recordCode none tokens) stored dropped ∧
      stored = (Pattern.ofTokens tokens).value.flatMap Pattern.storedCode ∧
      (Pattern.ofTokens tokens).events.filterMap Event.droppedCode? =
        dropped.map fun d => (d.1, d.2.lang) := by
  refine ⟨?_, ?_, ?_⟩
  · rw [filterMap_events_read fun _ => rfl]
    simp only [completed?_readBody, patterns, read, Logged.join, List.flatMap_map,
      List.map_flatMap]
  · rw [filterMap_events_read fun _ => rfl]
    simp only [skippedLines?_readBody]
    induction (Comments.scan source).bodies with
    | nil => rfl
    | cons body bodies ih =>
      rw [List.flatMap_cons, ih, List.filter_cons]
      by_cases hbody : (readBody body).value = [] <;> simp [hbody]
  · obtain ⟨dropped, hsplit, hdropped⟩ := Pattern.interleaved_ofTokens tokens
    exact ⟨_, dropped, hsplit, rfl, hdropped⟩

end Source

end PatternBook
