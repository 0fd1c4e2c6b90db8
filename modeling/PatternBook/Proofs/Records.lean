import PatternBook.Proofs.Log

/-!
# What a record says

The fields of a pattern, read off the tokens of its record and not off the steps of a reader. A field
is written in one of two ways: of titles, descriptions, reasons and values of one key the last one
stands, and parameters and tasks are collected. Two kinds of tag may write one field, since a
`@meta` with one of two keys does what `@todo` and `@deprecated` do.

* `Pattern.Takes` -- the fields of a pattern behind one token, from the fields before it;
* `steps_last`, `steps_collected` -- what the two ways of writing come to over a whole record;
* `Pattern.ofTokens_append` -- what stands before a record does not matter to it;
* `Pattern.ofTokens_fields` -- so the patterns of tokens are those of their records, and each says
  what its own tokens say. The examples of a record are the matter of `Proofs.Examples`.
-/

namespace PatternBook

/-! ## 1. What one token says -/

namespace Token

/-- The payload of a token with the given tag. -/
def payload? (tag : Tag) : Token → Option Text
  | .tag t payload => if t = tag then some payload else none
  | .code _ => none

/-- The value that a `@meta` tag gives to a key. -/
def value? (key : Text) (t : Token) : Option Text :=
  ((t.payload? .metadata).bind Payload.entry?).bind fun e => if e.1 = key then some e.2 else none

/-- The open task of a token. -/
def todo? : Token → Option Text
  | .tag .todo payload => some payload.trim
  | t => t.value? "todos".toList

/-- The reason for which a token calls the pattern deprecated. -/
def deprecated? : Token → Option Text
  | .tag .deprecated payload => some payload.trim
  | t => t.value? "deprecated".toList

theorem value?_entry {payload key value : Text} (h : Payload.entry? payload = some (key, value))
    (j : Text) : (tag .metadata payload).value? j = if key = j then some value else none := by
  simp only [value?, payload?, if_true, Option.bind_some, h]

theorem value?_blank {payload : Text} (h : Payload.entry? payload = none) (j : Text) :
    (tag .metadata payload).value? j = none := by
  simp only [value?, payload?, if_true, Option.bind_some, h, Option.bind_none]

end Token

/-- Whether a key of the metadata has a place of its own. -/
def Metadata.isReserved (key : Text) : Bool :=
  key == "todos".toList || key == "deprecated".toList

/-- The second pattern is the first one with the field that the token writes, whatever becomes of the
    examples. -/
structure Pattern.Takes (p : Pattern) (t : Token) (q : Pattern) : Prop where
  name : q.name = p.name
  title : q.title = ((t.payload? .title).map Payload.firstLine).getD p.title
  description : q.description = (t.payload? .description).getD p.description
  parameters : q.parameters =
    p.parameters ++ ((t.payload? .parameter).map Payload.parameter).toList
  todos : q.metadata.todos = p.metadata.todos ++ t.todo?.toList
  deprecated : q.metadata.deprecated = t.deprecated?.or p.metadata.deprecated
  entries : ∀ key, Metadata.isReserved key = false →
    q.metadata.get? key = (t.value? key).or (p.metadata.get? key)
  reserved : ∀ key, Metadata.isReserved key = true → q.metadata.get? key = p.metadata.get? key

namespace Draft

theorem todos_addEntry (m : Metadata) (key value : Text) : (addEntry m key value).todos =
    m.todos ++ (if key = "todos".toList then some value else none).toList := by
  unfold addEntry
  split
  · rfl
  · split <;> exact (List.append_nil _).symm

theorem deprecated_addEntry (m : Metadata) (key value : Text) : (addEntry m key value).deprecated =
    (if key = "deprecated".toList then some value else none).or m.deprecated := by
  unfold addEntry
  split
  · rename_i htodos
    have hne : key ≠ "deprecated".toList := by
      rw [htodos]
      decide
    rw [if_neg hne]
    rfl
  · split <;> rfl

theorem get?_addEntry (m : Metadata) (key value : Text) {j : Text}
    (hj : Metadata.isReserved j = false) :
    (addEntry m key value).get? j = (if key = j then some value else none).or (m.get? j) := by
  rw [Metadata.isReserved, Bool.or_eq_false_iff, beq_eq_false_iff_ne, beq_eq_false_iff_ne] at hj
  unfold addEntry
  split
  · rename_i htodos
    have hne : key ≠ j := fun hk => hj.1 (hk.symm.trans htodos)
    rw [if_neg hne]
    rfl
  · split
    · rename_i hdeprecated
      have hne : key ≠ j := fun hk => hj.2 (hk.symm.trans hdeprecated)
      rw [if_neg hne]
      rfl
    · refine (SortedMap.get?_insert m.entries key j value).trans ?_
      by_cases hk : key = j
      · rw [if_pos hk, if_pos hk.symm]
        rfl
      · rw [if_neg hk, if_neg (Ne.symm hk)]
        rfl

theorem get?_addEntry_of_isReserved (m : Metadata) (key value : Text) {j : Text}
    (hj : Metadata.isReserved j = true) : (addEntry m key value).get? j = m.get? j := by
  rw [Metadata.isReserved, Bool.or_eq_true, beq_iff_eq, beq_iff_eq] at hj
  unfold addEntry
  split
  · rfl
  · rename_i htodos
    split
    · rfl
    · rename_i hdeprecated
      have hne : j ≠ key := by
        rintro rfl
        exact hj.elim htodos hdeprecated
      exact (SortedMap.get?_insert m.entries key j value).trans (if_neg hne)

/-- **One token writes its field.** -/
theorem takes_step (d : Draft) (t : Token) : d.pattern.Takes t (d.step t).value.pattern := by
  cases t with
  | code block =>
    simp only [step, writeCode]
    split
    all_goals exact ⟨rfl, rfl, rfl, (List.append_nil _).symm, (List.append_nil _).symm, rfl,
      fun _ _ => rfl, fun _ _ => rfl⟩
  | tag tag payload =>
    cases tag with
    | metadata =>
      simp only [step, writeTag]
      split
      · rename_i key value h
        have hvalue := Token.value?_entry h
        refine ⟨rfl, rfl, rfl, (List.append_nil _).symm, ?_, ?_, fun j hj => ?_, fun j hj => ?_⟩
        · rw [todos_addEntry, ← hvalue]
          rfl
        · rw [deprecated_addEntry, ← hvalue]
          rfl
        · rw [hvalue]
          exact get?_addEntry d.pattern.metadata key value hj
        · exact get?_addEntry_of_isReserved d.pattern.metadata key value hj
      · rename_i h
        have hvalue := Token.value?_blank h
        refine ⟨rfl, rfl, rfl, (List.append_nil _).symm, ?_, ?_, fun j _ => ?_, fun _ _ => rfl⟩
        · have htodo : (Token.tag .metadata payload).todo? = none := hvalue _
          rw [htodo]
          exact (List.append_nil _).symm
        · have hdeprecated : (Token.tag .metadata payload).deprecated? = none := hvalue _
          rw [hdeprecated]
          rfl
        · rw [hvalue]
          rfl
    | parameter =>
      exact ⟨rfl, rfl, rfl, rfl, (List.append_nil _).symm, rfl, fun _ _ => rfl, fun _ _ => rfl⟩
    | todo =>
      exact ⟨rfl, rfl, rfl, (List.append_nil _).symm, rfl, rfl, fun _ _ => rfl, fun _ _ => rfl⟩
    | exampleHeight =>
      simp only [step, writeTag]
      split
      all_goals exact ⟨rfl, rfl, rfl, (List.append_nil _).symm, (List.append_nil _).symm, rfl,
        fun _ _ => rfl, fun _ _ => rfl⟩
    | _ =>
      exact ⟨rfl, rfl, rfl, (List.append_nil _).symm, (List.append_nil _).symm, rfl,
        fun _ _ => rfl, fun _ _ => rfl⟩

/-! ## 2. What the tokens of a record say -/

section Runs

variable {α : Type} {read? : Token → Option α}

/-- Of a field that each token overwrites, or leaves as it is, the last writing stands. -/
theorem steps_last (field : Pattern → α)
    (h : ∀ d t, field (step d t).value.pattern = (read? t).getD (field d.pattern)) (d : Draft)
    (ts : List Token) : field (d.steps ts).value.pattern =
      (ts.filterMap read?).getLast?.getD (field d.pattern) := by
  induction ts generalizing d with
  | nil => rfl
  | cons t ts ih =>
    rw [steps, ih, h]
    cases ht : read? t with
    | none => rw [List.filterMap_cons_none ht]; rfl
    | some a =>
      rw [List.filterMap_cons_some ht, List.getLast?_cons]
      cases (ts.filterMap read?).getLast? <;> rfl

/-- So it is for a field that may have no value. -/
theorem steps_last_or (field : Pattern → Option α)
    (h : ∀ d t, field (step d t).value.pattern = (read? t).or (field d.pattern)) (d : Draft)
    (ts : List Token) : field (d.steps ts).value.pattern =
      (ts.filterMap read?).getLast?.or (field d.pattern) := by
  have hstep : ∀ d t, field (step d t).value.pattern =
      ((read? t).map some).getD (field d.pattern) := by
    intro d t
    rw [h]
    cases read? t <;> rfl
  rw [steps_last field hstep, ← List.map_filterMap, List.getLast?_map]
  cases (ts.filterMap read?).getLast? <;> rfl

/-- A field to which each token may add is collected in the order of the tokens. -/
theorem steps_collected (field : Pattern → List α)
    (h : ∀ d t, field (step d t).value.pattern = field d.pattern ++ (read? t).toList) (d : Draft)
    (ts : List Token) : field (d.steps ts).value.pattern =
      field d.pattern ++ ts.filterMap read? := by
  induction ts generalizing d with
  | nil => exact (List.append_nil _).symm
  | cons t ts ih =>
    rw [steps, ih, h, List.append_assoc]
    cases ht : read? t with
    | none => rw [List.filterMap_cons_none ht]; rfl
    | some a => rw [List.filterMap_cons_some ht]; rfl

/-- A field that no token writes is kept. -/
theorem steps_kept (field : Pattern → α)
    (h : ∀ d t, field (step d t).value.pattern = field d.pattern) (d : Draft) (ts : List Token) :
    field (d.steps ts).value.pattern = field d.pattern := by
  induction ts generalizing d with
  | nil => rfl
  | cons t ts ih => rw [steps, ih, h]

end Runs

end Draft

/-! ## 3. Records -/

namespace Pattern

/-- What stands before a `@pattern` tag does not matter to what is read behind it. -/
theorem ofTokens_append (ts : List Token) {us : List Token}
    (h : ∀ t ∈ us.head?, t.record? ≠ none) :
    (ofTokens (ts ++ us)).value = (ofTokens ts).value ++ (ofTokens us).value := by
  have hlead : (groupAt Token.record? us).1 = [] := by
    cases us with
    | nil => rfl
    | cons t us =>
      obtain ⟨payload, ht⟩ := Option.ne_none_iff_exists'.1 (h t rfl)
      rw [groupAt_cons_heading us ht]
  simp only [ofTokens, Logged.join, groupAt_append ts hlead, List.map_append, List.flatMap_append]

/-- Tokens without a `@pattern` tag have no pattern. -/
theorem ofTokens_of_no_record {ts : List Token} (h : ∀ t ∈ ts, t.record? = none) :
    (ofTokens ts).value = [] := by
  simp only [ofTokens, Logged.join, groupAt_of_none h, List.map_nil, List.flatMap_nil]

/-- One record has one pattern, if it has a name. -/
theorem ofTokens_record (payload : Text) {us : List Token} (h : ∀ t ∈ us, t.record? = none) :
    (ofTokens (.tag .pattern payload :: us)).value =
      if Payload.firstLine payload = [] then []
      else [((Draft.mk { name := Payload.firstLine payload } .elsewhere).steps
        us).value.pattern] := by
  have hgroup : groupAt Token.record? (.tag .pattern payload :: us) = ([], [(payload, us)]) := by
    rw [groupAt_cons_heading us (show (Token.tag .pattern payload).record? = some payload from rfl),
      groupAt_of_none h]
  simp only [ofTokens, hgroup, Logged.join, List.map_cons, List.map_nil, List.flatMap_singleton,
    ofRecord, List.isEmpty_iff]
  split <;> rfl

/-- **Records are read on their own, and each says what its tokens say.** A `@pattern` tag closes what
    stands before it. Tokens without such a tag have no pattern, nor has a record without a name. Any
    other record has one pattern: its title, its description and its reason to be deprecated are the
    last ones that are given, its parameters and its tasks are collected in order, and a key other
    than the two that have a place of their own has the last value that it is given, if any. -/
theorem ofTokens_fields (ts us : List Token) (payload : Text) :
    (ofTokens (ts ++ .tag .pattern payload :: us)).value =
      (ofTokens ts).value ++ (ofTokens (.tag .pattern payload :: us)).value ∧
    ((∀ t ∈ us, t.record? = none) →
      (ofTokens us).value = [] ∧
      (Payload.firstLine payload = [] → (ofTokens (.tag .pattern payload :: us)).value = []) ∧
      (Payload.firstLine payload ≠ [] → ∃ p, (ofTokens (.tag .pattern payload :: us)).value = [p] ∧
        p.name = Payload.firstLine payload ∧
        p.title = ((us.filterMap (Token.payload? .title)).getLast?.map Payload.firstLine).getD [] ∧
        p.description = (us.filterMap (Token.payload? .description)).getLast?.getD [] ∧
        p.parameters = (us.filterMap (Token.payload? .parameter)).map Payload.parameter ∧
        p.metadata.todos = us.filterMap Token.todo? ∧
        p.metadata.deprecated = (us.filterMap Token.deprecated?).getLast? ∧
        ∀ key, p.metadata.get? key = if Metadata.isReserved key then none
          else (us.filterMap (Token.value? key)).getLast?)) := by
  refine ⟨ofTokens_append ts fun t ht => ?_, fun hus =>
    ⟨ofTokens_of_no_record hus, fun hname => ?_, fun hname => ?_⟩⟩
  · rw [← Option.mem_some.1 ht]
    exact Option.some_ne_none payload
  · rw [ofTokens_record payload hus, if_pos hname]
  · rw [ofTokens_record payload hus, if_neg hname]
    refine ⟨_, rfl, Draft.name_steps _ us, ?_, ?_, ?_, ?_, ?_, fun key => ?_⟩
    · rw [Draft.steps_last (·.title) fun d t => (Draft.takes_step d t).title,
        ← List.map_filterMap, List.getLast?_map]
    · exact Draft.steps_last (·.description) (fun d t => (Draft.takes_step d t).description) _ us
    · rw [Draft.steps_collected (·.parameters) fun d t => (Draft.takes_step d t).parameters,
        ← List.map_filterMap]
      rfl
    · exact Draft.steps_collected (·.metadata.todos) (fun d t => (Draft.takes_step d t).todos) _ us
    · rw [Draft.steps_last_or (·.metadata.deprecated) fun d t => (Draft.takes_step d t).deprecated]
      exact Option.or_none
    · split
      · rename_i hkey
        exact Draft.steps_kept (·.metadata.get? key)
          (fun d t => (Draft.takes_step d t).reserved key hkey) _ us
      · rename_i hkey
        rw [Draft.steps_last_or (·.metadata.get? key) fun d t =>
          (Draft.takes_step d t).entries key (Bool.eq_false_iff.2 hkey)]
        exact Option.or_none

/-- Tokens of a record in which fields are written again, and two of them by two kinds of tag. -/
def rewritten : List Token :=
  [.tag .deprecated "Use Tile\n".toList, .tag .title "A card\n".toList,
   .tag .metadata "status - draft\n".toList, .tag .metadata "todos - Add tests\n".toList,
   .tag .todo "Write\nmore\n".toList, .tag .metadata "deprecated\n".toList,
   .tag .title "Cards\nof all kinds\n".toList, .tag .metadata "status - ready\n".toList]

/-- Behind a title that stands in no record, these tokens say what they say on their own. -/
theorem ofTokens_fields_rewritten : ∃ p,
    (ofTokens (.tag .title "Lost\n".toList ::
      .tag .pattern "Card\n".toList :: rewritten)).value = [p] ∧
    p.name = "Card".toList ∧ p.title = "Cards".toList ∧ p.description = [] ∧
    p.metadata.todos = ["Add tests".toList, "Write\nmore".toList] ∧
    p.metadata.deprecated = some [] ∧
    p.metadata.get? "status".toList = some "ready".toList ∧
    p.metadata.get? "todos".toList = none := by
  obtain ⟨happend, hrecord⟩ :=
    ofTokens_fields [.tag .title "Lost\n".toList] rewritten "Card\n".toList
  have hplain : ∀ t ∈ rewritten, t.record? = none := by decide +kernel
  have hname : Payload.firstLine "Card\n".toList ≠ [] := by decide +kernel
  obtain ⟨p, hp, hfields⟩ := (hrecord hplain).2.2 hname
  obtain ⟨hname, htitle, hdescription, -, htodos, hdeprecated, hentries⟩ := hfields
  refine ⟨p, happend.trans ?_, hname.trans ?_, htitle.trans ?_, hdescription.trans ?_,
    htodos.trans ?_, hdeprecated.trans ?_, (hentries _).trans ?_, (hentries _).trans ?_⟩
  · rw [hp]
    rfl
  all_goals decide +kernel

end Pattern

end PatternBook
