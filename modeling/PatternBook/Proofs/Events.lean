import PatternBook.Source

/-!
# Kinds of events

Every event is a *detail*, about a line or a token, or one of the few about a pattern or a comment
as a whole. The stages that read the lines and the tokens of a body emit details only
(`isDetail_of_mem_ofLines`, `isDetail_of_mem_step`), a record adds what is said at its end, and the
body that it is skipped (`cases_of_mem_readBody`). So what is reported of patterns and comments is
found where they end, and nothing is reported there of other files (`isDuplicate_of_mem_read`).
-/

namespace PatternBook

/-! ## 1. Kinds of events -/

namespace Event

/-- Whether an event is about a line or a token, and not about a pattern or a comment as a whole. -/
def isDetail : Event → Bool
  | textBeforeTag _ | unclosedFence | namelessPattern | tagBeforePattern _ | emptyMetadata _
  | strayHeight _ | strayCode .. => true
  | _ => false

/-- What is said of a pattern that has been read to its end: its name and how many parameters and
    examples it has. -/
def completed? : Event → Option (Text × Nat × Nat)
  | patternComplete name parameters examples => some (name, parameters, examples)
  | _ => none

/-- The number of lines of a comment that documents nothing. -/
def skippedLines? : Event → Option Nat
  | commentSkipped lines => some lines
  | _ => none

/-- The pattern and the language of code that belongs to no example. -/
def droppedCode? : Event → Option (Text × Option Text)
  | strayCode pattern lang => some (pattern, lang)
  | _ => none

/-- Whether an event reports a pattern that two files document. -/
def isDuplicate : Event → Bool
  | duplicatePattern .. => true
  | _ => false

theorem completed?_of_isDetail {e : Event} (h : e.isDetail) : e.completed? = none := by
  cases e <;> first | rfl | cases h

theorem skippedLines?_of_isDetail {e : Event} (h : e.isDetail) : e.skippedLines? = none := by
  cases e <;> first | rfl | cases h

theorem isDuplicate_of_isDetail {e : Event} (h : e.isDetail) : e.isDuplicate = false := by
  cases e <;> first | rfl | cases h

/-- Where all events are details, nothing is said of anything else. -/
theorem filterMap_of_isDetail {β : Type} {read? : Event → Option β} {events : List Event}
    (hr : ∀ {e : Event}, e.isDetail → read? e = none) (h : ∀ e ∈ events, e.isDetail) :
    events.filterMap read? = [] :=
  List.filterMap_eq_nil_iff.2 fun e he => hr (h e he)

end Event

/-! ## 2. Which events a stage emits -/

theorem Token.isDetail_of_mem_ofLines {lines : List Text} {e : Event}
    (h : e ∈ (ofLines lines).events) : e.isDetail := by
  rcases List.mem_append.1 h with hlead | hend
  · obtain ⟨line, -, rfl⟩ := List.mem_map.1 hlead
    rfl
  · unfold unclosedEvents at hend
    split at hend
    · rw [List.mem_singleton.1 hend]
      rfl
    · cases hend

theorem Token.isDetail_of_mem_outside {tokens : List Token} {e : Event}
    (h : e ∈ tokens.filterMap outsideEvent?) : e.isDetail := by
  obtain ⟨t, -, ht⟩ := List.mem_filterMap.1 h
  cases t with
  | tag tag payload =>
    cases ht
    rfl
  | code block => cases ht

/-- A token in a record is reported only if it is not read, and then with the name of the record. -/
theorem Draft.cases_of_mem_step {d : Draft} {t : Token} {e : Event} (h : e ∈ (d.step t).events) :
    e = .emptyMetadata d.pattern.name ∨ e = .strayHeight d.pattern.name ∨
      ∃ block, t = .code block ∧ e = .strayCode d.pattern.name block.lang := by
  cases t with
  | tag tag payload =>
    cases tag <;> simp only [step, writeTag] at h
    case metadata =>
      split at h
      · cases h
      · exact .inl (List.mem_singleton.1 h)
    case exampleHeight =>
      split at h
      · cases h
      · exact .inr (.inl (List.mem_singleton.1 h))
    all_goals cases h
  | code block =>
    simp only [step, writeCode] at h
    split at h
    · exact .inr (.inr ⟨block, rfl, List.mem_singleton.1 h⟩)
    · exact .inr (.inr ⟨block, rfl, List.mem_singleton.1 h⟩)
    · cases h

theorem Draft.isDetail_of_mem_step {d : Draft} {t : Token} {e : Event}
    (h : e ∈ (d.step t).events) : e.isDetail := by
  obtain rfl | rfl | ⟨block, -, rfl⟩ := cases_of_mem_step h <;> rfl

theorem Draft.isDetail_of_mem_steps {d : Draft} {ts : List Token} {e : Event}
    (h : e ∈ (d.steps ts).events) : e.isDetail := by
  induction ts generalizing d with
  | nil => cases h
  | cons t ts ih =>
    rcases List.mem_append.1 h with hfirst | hlater
    · exact isDetail_of_mem_step hfirst
    · exact ih hlater

/-- The patterns of a body speak of no comment. -/
theorem Pattern.isDetail_or_complete_of_mem {tokens : List Token} {e : Event}
    (h : e ∈ (ofTokens tokens).events) : e.isDetail ∨ ∃ p : Pattern, e = p.completeEvent := by
  rcases List.mem_append.1 h with hlead | hrecords
  · exact .inl (Token.isDetail_of_mem_outside hlead)
  · simp only [Logged.join, List.flatMap_map] at hrecords
    obtain ⟨⟨payload, owned⟩, -, he⟩ := List.mem_flatMap.1 hrecords
    simp only [ofRecord] at he
    split at he
    · left
      rcases List.mem_cons.1 he with rfl | he
      · rfl
      · exact Token.isDetail_of_mem_outside he
    · rcases List.mem_append.1 he with he | he
      · exact .inl (Draft.isDetail_of_mem_steps he)
      · exact .inr ⟨_, List.mem_singleton.1 he⟩

/-- All that is said of a body. -/
theorem Source.cases_of_mem_readBody {body : Text} {e : Event} (h : e ∈ (readBody body).events) :
    e.isDetail ∨ (∃ p : Pattern, e = p.completeEvent) ∨ ∃ n, e = .commentSkipped n := by
  simp only [readBody, List.mem_append] at h
  rcases h with (hlines | htokens) | hskipped
  · exact .inl (Token.isDetail_of_mem_ofLines hlines)
  · rcases Pattern.isDetail_or_complete_of_mem htokens with hdetail | hcomplete
    · exact .inl hdetail
    · exact .inr (.inl hcomplete)
  · split at hskipped
    · exact .inr (.inr ⟨_, List.mem_singleton.1 hskipped⟩)
    · cases hskipped

/-- Reading a source text reports nothing of other files. -/
theorem Source.isDuplicate_of_mem_read {source : Text} {e : Event} (h : e ∈ (read source).events) :
    e.isDuplicate = false := by
  rcases List.mem_append.1 h with hopen | hbodies
  · obtain ⟨offset, -, rfl⟩ := List.mem_map.1 hopen
    rfl
  · simp only [Logged.join, List.flatMap_map] at hbodies
    obtain ⟨body, -, hbody⟩ := List.mem_flatMap.1 hbodies
    obtain hdetail | ⟨p, rfl⟩ | ⟨n, rfl⟩ := cases_of_mem_readBody hbody
    · exact Event.isDuplicate_of_isDetail hdetail
    · rfl
    · rfl

end PatternBook
