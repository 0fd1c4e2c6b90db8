import PatternBook.Proofs.Examples
import PatternBook.Proofs.Filters

/-!
# Code behind a stray height

Of an example one expects that its code is the code that stands right behind its tag, or behind the
height right there, up to the next tag. A height anywhere else is ignored and reported. But code is
routed by the last tag alone, and an ignored height is a tag: what stands right behind it goes to the
example as well, although other tags have ended the example's code long before.

* `Token.codeBehind` -- the code that one expects, and `Token.codeAstray` -- the code that comes with
  ignored heights;
* `codeOf_append`, `codeWithin_true` -- an example has the one and then the other;
* `codeAstray_ne_nil_iff` -- there is code of the second kind exactly if code stands right behind a
  height that does not follow its `@example` (`HasStrayHeight`);
* `Pattern.codeStandsBehind_iff` -- so the expectation is met by the tokens without such a height, and by
  no others (`not_codeStandsBehind`).
-/

namespace PatternBook

namespace Token

/-! ## 1. The code of an example -/

/-- The tokens behind an `@example` without the height that stands first. -/
def behindHeight : List Token → List Token
  | .tag .exampleHeight _ :: rest => rest
  | rest => rest

/-- The code right behind an `@example`, or behind the height right there, up to the next tag. -/
def codeBehind (rest : List Token) : List CodeBlock :=
  ((behindHeight rest).takeWhile fun t => t.block?.isSome).filterMap block?

/-- The code of tokens that goes to an example opened before them: what follows a tag that code may
    follow, which may be the tag before them, up to the next example. -/
def codeWithin : Bool → List Token → List CodeBlock
  | _, [] => []
  | _, .tag kind _ :: rest =>
    if kind = .newExample then [] else codeWithin (kind = .exampleHeight) rest
  | true, .code block :: rest => block :: codeWithin true rest
  | false, .code _ :: rest => codeWithin false rest

/-- The code of an example that stands behind a later tag than its own. -/
def codeAstray (rest : List Token) : List CodeBlock :=
  codeWithin false ((behindHeight rest).dropWhile fun t => t.block?.isSome)

/-- Once another example has been opened, none before it gets code. -/
theorem codeOf_append_of_lt {ts : List Token} {k : Nat} (h : k + 1 < exampleCount ts)
    (rest : List Token) : codeOf (ts ++ rest) k = codeOf ts k := by
  induction rest using List.reverseRecOn with
  | nil => rw [List.append_nil]
  | append_singleton rest t ih =>
    have hcount : exampleCount ts ≤ exampleCount (ts ++ rest) := by
      rw [exampleCount_append]
      exact Nat.le_add_right _ _
    rw [← List.append_assoc, codeOf_concat, ih, if_neg fun hlast => by omega]
    exact List.append_nil _

/-- Behind the tokens that have opened an example, the code that goes to it is read off the rest. -/
theorem codeOf_append {ts : List Token} {k : Nat} (h : exampleCount ts = k + 1) (rest : List Token) :
    codeOf (ts ++ rest) k = codeOf ts k ++ codeWithin (EndsInExample ts) rest := by
  induction rest generalizing ts with
  | nil => simp [codeWithin]
  | cons t rest ih =>
    have hsplit : ts ++ t :: rest = (ts ++ [t]) ++ rest := by simp
    rw [hsplit]
    cases t with
    | code block =>
      have hends : EndsInExample (ts ++ [.code block]) ↔ EndsInExample ts := by
        simp [EndsInExample, lastTag?_concat, tag?]
      rw [ih ((exampleCount_concat_of_not rfl ts).trans h), codeOf_concat]
      by_cases hlast : EndsInExample ts <;> simp [h, hends, hlast, codeWithin, block?]
    | tag kind payload =>
      have hnone : (Token.tag kind payload).block? = none := rfl
      by_cases hkind : kind = .newExample
      · subst hkind
        have hlt : k + 1 < exampleCount (ts ++ [.tag .newExample payload]) := by
          rw [exampleCount_append, exampleCount_cons_example]
          omega
        rw [codeOf_append_of_lt hlt, codeOf_concat, hnone]
        simp [codeWithin]
      · have hopens : (Token.tag kind payload).isExample = false := by
          simpa [isExample, tag?] using hkind
        have hends : EndsInExample (ts ++ [.tag kind payload]) ↔ kind = .exampleHeight := by
          simp [EndsInExample, lastTag?_concat, tag?, hkind]
        rw [ih ((exampleCount_concat_of_not hopens ts).trans h), codeOf_concat, hnone]
        simp [codeWithin, hkind, hends]

/-- The code up to the next tag comes first. -/
theorem codeWithin_true (rest : List Token) : codeWithin true rest =
    (rest.takeWhile fun t => t.block?.isSome).filterMap block? ++
      codeWithin false (rest.dropWhile fun t => t.block?.isSome) := by
  induction rest with
  | nil => rfl
  | cons t rest ih =>
    cases t with
    | code block => simp [codeWithin, block?, ih]
    | tag kind payload => simp [codeWithin, block?]

/-- The code of an example is the code behind its tag, and the code that comes with ignored heights. -/
theorem codeOf_example (front : List Token) (description : Text) (rest : List Token) :
    codeOf (front ++ .tag .newExample description :: rest) (exampleCount front) =
      codeBehind rest ++ codeAstray rest := by
  have hsplit : front ++ .tag .newExample description :: rest =
      (front ++ [.tag .newExample description]) ++ rest := by simp
  have hcount : exampleCount (front ++ [.tag .newExample description]) = exampleCount front + 1 := by
    rw [exampleCount_append, exampleCount_cons_example]
    rfl
  have hends : EndsInExample (front ++ [.tag .newExample description]) := by
    simp [EndsInExample, lastTag?_concat, tag?]
  have hempty : codeOf (front ++ [.tag .newExample description]) (exampleCount front) = [] := by
    rw [codeOf_concat, codeOf_eq_nil (Nat.le_refl _)]
    exact congrArg Option.toList (ite_self none)
  have hheight : codeWithin true rest = codeWithin true (behindHeight rest) := by
    unfold behindHeight
    split
    · simp [codeWithin]
    · rfl
  rw [hsplit, codeOf_append hcount, hempty, decide_eq_true hends, hheight, codeWithin_true]
  rfl

/-! ## 2. Where code goes astray -/

/-- Before the next example, code stands right behind a height. -/
def HasHeightedCode (rest : List Token) : Prop :=
  ∃ mid payload block later, rest = mid ++ .tag .exampleHeight payload :: .code block :: later ∧
    ∀ t ∈ mid, t.isExample = false

/-- Before the next example, code stands right behind a height that is not the first token. -/
def HasStrayHeight (rest : List Token) : Prop :=
  ∃ mid payload block later, rest = mid ++ .tag .exampleHeight payload :: .code block :: later ∧
    mid ≠ [] ∧ ∀ t ∈ mid, t.isExample = false

theorem not_hasHeightedCode_nil : ¬ HasHeightedCode [] := by
  rintro ⟨mid, _, _, _, h, -⟩
  simp at h

theorem hasStrayHeight_cons (t : Token) (rest : List Token) :
    HasStrayHeight (t :: rest) ↔ t.isExample = false ∧ HasHeightedCode rest := by
  constructor
  · rintro ⟨mid, payload, block, later, hsplit, hne, hmid⟩
    obtain ⟨u, mid, rfl⟩ := List.exists_cons_of_ne_nil hne
    obtain ⟨rfl, rfl⟩ := List.cons_eq_cons.1 hsplit
    exact ⟨hmid t List.mem_cons_self, mid, payload, block, later, rfl, fun u hu =>
      hmid u (List.mem_cons_of_mem _ hu)⟩
  · rintro ⟨ht, mid, payload, block, later, rfl, hmid⟩
    exact ⟨t :: mid, payload, block, later, rfl, List.cons_ne_nil _ _,
      List.forall_mem_cons.2 ⟨ht, hmid⟩⟩

/-- Where a token is not a height in front of code, it matters only in that examples end the search. -/
theorem hasHeightedCode_cons {t : Token} {rest : List Token}
    (h : ∀ payload block later, t = .tag .exampleHeight payload → rest ≠ .code block :: later) :
    HasHeightedCode (t :: rest) ↔ t.isExample = false ∧ HasHeightedCode rest := by
  rw [← hasStrayHeight_cons]
  constructor
  · rintro ⟨mid, payload, block, later, hsplit, hmid⟩
    refine ⟨mid, payload, block, later, hsplit, ?_, hmid⟩
    rintro rfl
    obtain ⟨ht, hrest⟩ := List.cons_eq_cons.1 hsplit
    exact h payload block later ht hrest
  · rintro ⟨mid, payload, block, later, hsplit, -, hmid⟩
    exact ⟨mid, payload, block, later, hsplit, hmid⟩

theorem hasHeightedCode_cons_code (block : CodeBlock) (rest : List Token) :
    HasHeightedCode (.code block :: rest) ↔ HasHeightedCode rest :=
  (hasHeightedCode_cons (by simp)).trans (and_iff_right rfl)

theorem hasHeightedCode_dropWhile (rest : List Token) :
    HasHeightedCode (rest.dropWhile fun t => t.block?.isSome) ↔ HasHeightedCode rest := by
  induction rest with
  | nil => rfl
  | cons t rest ih =>
    cases t with
    | tag kind payload => rfl
    | code block => exact ih.trans (hasHeightedCode_cons_code block rest).symm

/-- Behind a tag that ends an example's code, code goes to the example exactly if it stands behind a
    height. -/
theorem codeWithin_false_ne_nil_iff (rest : List Token) :
    codeWithin false rest ≠ [] ↔ HasHeightedCode rest := by
  induction rest with
  | nil => exact iff_of_false (fun h => h rfl) not_hasHeightedCode_nil
  | cons t rest ih =>
    cases t with
    | code block => exact ih.trans (hasHeightedCode_cons_code block rest).symm
    | tag kind payload =>
      by_cases hheight : kind = .exampleHeight
      · subst hheight
        match rest, ih with
        | .code block :: rest, _ =>
          exact iff_of_true (List.cons_ne_nil _ _) ⟨[], payload, block, rest, rfl, nofun⟩
        | [], ih | .tag kind payload' :: rest, ih =>
          exact ih.trans ((hasHeightedCode_cons (by simp)).trans (and_iff_right rfl)).symm
      · have hnext := @hasHeightedCode_cons (.tag kind payload) rest fun _ _ _ h =>
          absurd (Token.tag.inj h).1 hheight
        rw [hnext, ← ih]
        by_cases hkind : kind = .newExample <;> simp [codeWithin, hkind, hheight, isExample, tag?]

/-- Code goes to an example beside what stands behind its tag exactly if there is code behind a height
    that does not follow the tag. -/
theorem codeAstray_ne_nil_iff (rest : List Token) : codeAstray rest ≠ [] ↔ HasStrayHeight rest := by
  rw [codeAstray, codeWithin_false_ne_nil_iff, hasHeightedCode_dropWhile]
  cases rest with
  | nil => exact iff_of_false not_hasHeightedCode_nil fun ⟨mid, _, _, _, h, _⟩ => by simp at h
  | cons t rest =>
    rw [hasStrayHeight_cons]
    by_cases hheight : ∃ payload, t = .tag .exampleHeight payload
    · obtain ⟨payload, rfl⟩ := hheight
      exact (and_iff_right rfl).symm
    · have hbehind : behindHeight (t :: rest) = t :: rest := by
        unfold behindHeight
        split
        · rename_i payload _ h
          exact absurd ⟨payload, (List.cons_eq_cons.1 h).1⟩ hheight
        · rfl
      rw [hbehind]
      exact hasHeightedCode_cons fun payload _ _ h => absurd ⟨payload, h⟩ hheight

/-! ## 3. All examples of a record -/

/-- What is read off the tokens behind each `@example`, in order. -/
def behindExamples {α : Type} (read : List Token → α) : List Token → List α
  | [] => []
  | t :: rest =>
    if t.isExample then read rest :: behindExamples read rest else behindExamples read rest

section

variable {α : Type} (read : List Token → α)

theorem length_behindExamples (ts : List Token) :
    (behindExamples read ts).length = exampleCount ts := by
  induction ts with
  | nil => rfl
  | cons t ts ih => by_cases ht : t.isExample <;> simp [behindExamples, exampleCount, ht] <;> exact ih

theorem behindExamples_getElem? (front : List Token) (description : Text) (rest : List Token) :
    (behindExamples read (front ++ .tag .newExample description :: rest))[exampleCount front]? =
      some (read rest) := by
  induction front with
  | nil => rfl
  | cons t front ih =>
    by_cases ht : t.isExample <;> simp [behindExamples, exampleCount, ht] <;> exact ih

/-- Each number below the count is that of an example. -/
theorem exists_of_lt_exampleCount {ts : List Token} {k : Nat} (h : k < exampleCount ts) :
    ∃ front description rest, ts = front ++ .tag .newExample description :: rest ∧
      exampleCount front = k := by
  induction ts generalizing k with
  | nil => cases h
  | cons t ts ih =>
    cases ht : t.isExample with
    | false =>
      have hk : k < exampleCount ts := by simpa [exampleCount, ht] using h
      obtain ⟨front, description, rest, rfl, hcount⟩ := ih hk
      exact ⟨t :: front, description, rest, rfl, by simpa [exampleCount, ht] using hcount⟩
    | true =>
      obtain ⟨description, rfl⟩ : ∃ description, t = .tag .newExample description := by
        cases t with
        | code block => cases ht
        | tag kind payload =>
          have hkind : kind = .newExample := by simpa [isExample, tag?] using ht
          exact ⟨payload, by rw [hkind]⟩
      cases k with
      | zero => exact ⟨[], description, ts, rfl, rfl⟩
      | succ k =>
        have hk : k < exampleCount ts := by
          rw [exampleCount_cons_example] at h
          omega
        obtain ⟨front, description', rest, rfl, hcount⟩ := ih hk
        exact ⟨.tag .newExample description :: front, description', rest, rfl, by
          rw [exampleCount_cons_example, hcount]⟩

/-- A list with one element for each example is read off the tokens if each element is. -/
theorem eq_behindExamples {l : List α} {ts : List Token} (hlength : l.length = exampleCount ts)
    (h : ∀ front description rest, ts = front ++ .tag .newExample description :: rest →
      l[exampleCount front]? = some (read rest)) : l = behindExamples read ts := by
  refine List.ext_getElem? fun k => ?_
  by_cases hk : k < exampleCount ts
  · obtain ⟨front, description, rest, hsplit, rfl⟩ := exists_of_lt_exampleCount hk
    rw [h front description rest hsplit, hsplit, behindExamples_getElem?]
  · rw [List.getElem?_eq_none (by omega), List.getElem?_eq_none]
    rw [length_behindExamples]
    omega

/-- The same is read behind all examples exactly if it is behind each of them. -/
theorem behindExamples_eq_iff {read read' : List Token → α} {ts : List Token} :
    behindExamples read ts = behindExamples read' ts ↔ ∀ front description rest,
      ts = front ++ .tag .newExample description :: rest → read rest = read' rest := by
  constructor
  · rintro h front description rest rfl
    have hread := behindExamples_getElem? read front description rest
    rw [h, behindExamples_getElem?] at hread
    exact (Option.some.inj hread).symm
  · refine fun h => eq_behindExamples read' (length_behindExamples read ts) ?_
    rintro front description rest hsplit
    rw [← h front description rest hsplit, hsplit, behindExamples_getElem?]

end

end Token

open Token

namespace Draft

/-- Each example of a record has the code behind its tag, and the code that comes with ignored
    heights. -/
theorem codeBlocks_steps (name : Text) (ts : List Token) :
    ((Draft.mk { name } .elsewhere).steps ts).value.pattern.examples.map (·.codeBlocks) =
      behindExamples (fun rest => codeBehind rest ++ codeAstray rest) ts := by
  have hfollows := follows_steps name ts
  refine eq_behindExamples _ ?_ fun front description rest hsplit => ?_
  · rw [List.length_map, hfollows.length]
  · rw [List.getElem?_map, hfollows.example_getElem? front description rest hsplit, hsplit,
      codeOf_example]
    rfl

theorem events_steps_append (d : Draft) (ts us : List Token) : (d.steps (ts ++ us)).events =
    (d.steps ts).events ++ ((d.steps ts).value.steps us).events := by
  induction ts generalizing d with
  | nil => rfl
  | cons t ts ih => simp only [List.cons_append, steps, ih, List.append_assoc]

theorem events_step_height {d : Draft} (h : d.focus ≠ .opened) (payload : Text) :
    (d.step (.tag .exampleHeight payload)).events = [.strayHeight d.pattern.name] := by
  simp only [step, writeTag]
  split
  · rename_i hfocus _
    exact absurd hfocus h
  · rfl

/-- The height in front of code that goes astray is reported as ignored. -/
theorem strayHeight_mem_steps (name : Text) (front : List Token) (description : Text)
    {rest : List Token} (h : HasStrayHeight rest) : Event.strayHeight name ∈
      ((Draft.mk { name } .elsewhere).steps
        (front ++ .tag .newExample description :: rest)).events := by
  obtain ⟨mid, payload, block, later, rfl, hne, hmid⟩ := h
  have hsplit : front ++ .tag .newExample description ::
      (mid ++ .tag .exampleHeight payload :: .code block :: later) =
        (front ++ .tag .newExample description :: mid) ++
          .tag .exampleHeight payload :: .code block :: later := by simp
  have hfocus : ((Draft.mk { name } .elsewhere).steps
      (front ++ .tag .newExample description :: mid)).value.focus ≠ .opened := by
    intro hopened
    obtain ⟨t, ht, hopens⟩ := (follows_steps name _).opened.1 hopened
    have hlast : t ∈ mid := by
      obtain ⟨u, mid, rfl⟩ := List.exists_cons_of_ne_nil hne
      rw [List.getLast?_append, List.getLast?_cons_cons] at ht
      refine List.mem_of_mem_getLast? ?_
      rw [List.getLast?_cons] at ht ⊢
      exact ht
    rw [hmid t hlast] at hopens
    cases hopens
  rw [hsplit, events_steps_append]
  refine List.mem_append_right _ (List.mem_append_left _ ?_)
  rw [events_step_height hfocus, name_steps]
  exact List.mem_singleton_self _

end Draft

/-! ## 4. All records -/

namespace Pattern

/-- The records that have a name: the payload of a `@pattern` tag with the tokens up to the next one. -/
def namedRecords (ts : List Token) : List (Text × List Token) :=
  (groupAt Token.record? ts).2.filter fun r => Payload.firstLine r.1 ≠ []

/-- Each example of each pattern has the code that stands right behind its tag, or behind the height
    right there, up to the next tag. -/
def CodeStandsBehind (ts : List Token) : Prop :=
  (ofTokens ts).value.map (fun p => p.examples.map (·.codeBlocks)) =
    (namedRecords ts).map fun r => behindExamples codeBehind r.2

instance (ts : List Token) : Decidable (CodeStandsBehind ts) :=
  inferInstanceAs (Decidable (_ = _))

theorem mem_events_ofTokens {ts : List Token} {r : Text × List Token} (h : r ∈ namedRecords ts)
    {e : Event} (he : e ∈ ((Draft.mk { name := Payload.firstLine r.1 } .elsewhere).steps r.2).events) :
    e ∈ (ofTokens ts).events := by
  obtain ⟨hmem, hname⟩ := List.mem_filter.1 h
  have hname : Payload.firstLine r.1 ≠ [] := by simpa using hname
  have hrecord : e ∈ (ofRecord r).events := by
    obtain ⟨payload, owned⟩ := r
    simp only [ofRecord]
    rw [if_neg (by simpa using hname)]
    exact List.mem_append_left _ he
  refine List.mem_append_right _ ?_
  simp only [Logged.join, List.flatMap_map]
  exact List.mem_flatMap.2 ⟨r, hmem, hrecord⟩

/-- **Code behind ignored heights.** Each pattern has, for each `@example` of its record, the code that
    stands behind the tag, and then the code that comes with heights that are not right behind an
    `@example`. So all code is where one expects it exactly if no code before the next example stands
    right behind such a height; and where it does, the height has been reported as ignored. -/
theorem codeStandsBehind_iff (ts : List Token) :
    (ofTokens ts).value.map (fun p => p.examples.map (·.codeBlocks)) =
      (namedRecords ts).map (fun r =>
        behindExamples (fun rest => codeBehind rest ++ codeAstray rest) r.2) ∧
    (CodeStandsBehind ts ↔ ∀ r ∈ namedRecords ts, ∀ front description rest,
      r.2 = front ++ .tag .newExample description :: rest → ¬ HasStrayHeight rest) ∧
    ∀ r ∈ namedRecords ts, ∀ front description rest,
      r.2 = front ++ .tag .newExample description :: rest → HasStrayHeight rest →
        .strayHeight (Payload.firstLine r.1) ∈ (ofTokens ts).events := by
  have hcode : (ofTokens ts).value.map (fun p => p.examples.map (·.codeBlocks)) =
      (namedRecords ts).map fun r =>
        behindExamples (fun rest => codeBehind rest ++ codeAstray rest) r.2 := by
    rw [value_ofTokens, List.map_map]
    exact List.map_congr_left fun r _ => Draft.codeBlocks_steps _ r.2
  refine ⟨hcode, ?_, fun r hr front description rest hsplit hstray => ?_⟩
  · rw [CodeStandsBehind, hcode, List.map_inj_left]
    refine forall₂_congr fun r _ => behindExamples_eq_iff.trans ?_
    refine forall₄_congr fun front description rest _ => ?_
    rw [List.append_right_eq_self, ← codeAstray_ne_nil_iff, not_not]
  · refine mem_events_ofTokens hr ?_
    rw [hsplit]
    exact Draft.strayHeight_mem_steps _ front description hstray

/-- A record in which a second height brings code back to the first example. -/
def revived : Text × List Token :=
  ("P\n".toList, [.tag .newExample "First\n".toList, .tag .exampleHeight "10\n".toList,
    .code ⟨none, "a".toList⟩, .tag .todo "t\n".toList, .code ⟨none, "dropped".toList⟩,
    .tag .exampleHeight "20\n".toList, .code ⟨none, "b".toList⟩, .code ⟨none, "c".toList⟩,
    .tag .newExample "Second\n".toList, .code ⟨none, "d".toList⟩])

/-- The first example has the code behind its own height and that behind the second one, which is
    reported as ignored. -/
theorem codeStandsBehind_iff_revived :
    let ts := .tag .pattern revived.1 :: revived.2
    (ofTokens ts).value.map (fun p => p.examples.map (·.codeBlocks)) =
      [[[⟨none, "a".toList⟩, ⟨none, "b".toList⟩, ⟨none, "c".toList⟩], [⟨none, "d".toList⟩]]] ∧
    ¬ CodeStandsBehind ts ∧ .strayHeight "P".toList ∈ (ofTokens ts).events := by
  intro ts
  obtain ⟨hcode, hiff, hevents⟩ := codeStandsBehind_iff ts
  have hrecord : revived ∈ namedRecords ts := by decide +kernel
  have hstray : HasStrayHeight (revived.2.drop 1) :=
    ⟨(revived.2.drop 1).take 4, "20\n".toList, ⟨none, "b".toList⟩, revived.2.drop 7, rfl,
      by decide +kernel, by decide +kernel⟩
  refine ⟨hcode.trans ?_, fun h => ?_, ?_⟩
  · decide +kernel
  · exact hiff.1 h revived hrecord [] "First\n".toList (revived.2.drop 1) rfl hstray
  · exact hevents revived hrecord [] "First\n".toList (revived.2.drop 1) rfl hstray

/-- An example whose code a task has ended, and a height behind the task. -/
def misled : List Token :=
  [.tag .pattern "P\n".toList, .tag .newExample "\n".toList, .tag .todo "t\n".toList,
    .tag .exampleHeight "1\n".toList, .code ⟨none, "x".toList⟩]

/-- Code behind an ignored height goes to an example whose own code has long ended. -/
theorem not_codeStandsBehind : ¬ CodeStandsBehind misled ∧
    .strayHeight "P".toList ∈ (ofTokens misled).events := by
  decide +kernel

end Pattern

end PatternBook
