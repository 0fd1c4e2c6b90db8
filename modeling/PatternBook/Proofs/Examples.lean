import PatternBook.Proofs.Records
import PatternBook.Proofs.RoundTrip

/-!
# Which example a token belongs to

The examples of a pattern, read off the order of the tags in its record. Each `@example` opens one.
Code belongs to the example opened last, as long as the tag before the code is `@example` or
`@exampleHeight`. A height belongs to the example whose `@example` stands right before it.

* `codeOf` -- the code of one example, by the positions of the tokens;
* `Draft.Routes` -- what one token does to the examples;
* `Draft.Follows` -- what the examples and the focus of a reader have to do with the tokens it has
  read: the focus says which tag was last and whether it was the last token, and each example has the
  height and the code that its place among the tokens gives it;
* `Follows.step`, `follows_steps` -- each token keeps this, so it holds behind all of them;
* `Pattern.ofTokens_examples` -- so the examples of a record are those that its tags say. Later
  tokens change none but the last one, and a height in the wrong place does nothing.
-/

namespace PatternBook

/-! ## 1. Places of tokens -/

namespace Token

/-- Whether a token opens an example. -/
def isExample (t : Token) : Bool := t.tag? == some .newExample

/-- The height that a token asks for. -/
def height? (t : Token) : Option Nat := (t.payload? .exampleHeight).bind Payload.height?

/-- How many examples the tokens open. -/
def exampleCount (ts : List Token) : Nat := ts.countP isExample

/-- The last tag of the tokens, code left aside. -/
def lastTag? (ts : List Token) : Option Tag := (ts.filterMap tag?).getLast?

/-- Whether the last tag of the tokens is one that code may follow. -/
def EndsInExample (ts : List Token) : Prop :=
  lastTag? ts = some .newExample ∨ lastTag? ts = some .exampleHeight

instance (ts : List Token) : Decidable (EndsInExample ts) :=
  inferInstanceAs (Decidable (_ ∨ _))

/-- The code at a position, if it belongs to the example with the given number: this is the last one
    opened before it, and the tag before it is one that code may follow. -/
def codeAt (ts : List Token) (k j : Nat) : Option CodeBlock :=
  if exampleCount (ts.take j) = k + 1 ∧ EndsInExample (ts.take j) then ts[j]?.bind block? else none

/-- The code of the example with the given number. -/
def codeOf (ts : List Token) (k : Nat) : List CodeBlock :=
  (List.range ts.length).filterMap (codeAt ts k)

theorem height?_eq_some {t : Token} {h : Nat} :
    t.height? = some h ↔ ∃ payload, t = .tag .exampleHeight payload ∧
      Payload.height? payload = some h := by
  cases t with
  | code block => simp [height?, payload?]
  | tag kind payload => cases kind <;> simp [height?, payload?]

theorem exampleCount_append (ts us : List Token) :
    exampleCount (ts ++ us) = exampleCount ts + exampleCount us := List.countP_append

theorem exampleCount_cons_example (payload : Text) (ts : List Token) :
    exampleCount (.tag .newExample payload :: ts) = exampleCount ts + 1 :=
  List.countP_cons_of_pos rfl

theorem exampleCount_concat_of_not {t : Token} (h : t.isExample = false) (ts : List Token) :
    exampleCount (ts ++ [t]) = exampleCount ts := by
  rw [exampleCount_append, exampleCount, exampleCount, List.countP_singleton, h]
  rfl

theorem lastTag?_concat (ts : List Token) (t : Token) :
    lastTag? (ts ++ [t]) = t.tag?.or (lastTag? ts) := by
  rw [lastTag?, List.filterMap_append]
  cases t with
  | tag kind payload => exact List.getLast?_concat
  | code block => exact congrArg List.getLast? (List.append_nil _)

theorem exampleCount_of_codeAt {ts : List Token} {k j : Nat} {block : CodeBlock}
    (h : codeAt ts k j = some block) : exampleCount (ts.take j) = k + 1 := by
  unfold codeAt at h
  split at h
  · rename_i hplace
    exact hplace.1
  · cases h

/-- A further token adds its code to the example it belongs to. -/
theorem codeOf_concat (ts : List Token) (t : Token) (k : Nat) : codeOf (ts ++ [t]) k =
    codeOf ts k ++
      (if exampleCount ts = k + 1 ∧ EndsInExample ts then t.block? else none).toList := by
  have hbefore : (List.range ts.length).filterMap (codeAt (ts ++ [t]) k) = codeOf ts k := by
    refine List.filterMap_congr fun j hj => ?_
    have hlt := List.mem_range.1 hj
    rw [codeAt, codeAt, List.take_append_of_le_length (Nat.le_of_lt hlt),
      List.getElem?_append_left hlt]
  have hlast : codeAt (ts ++ [t]) k ts.length =
      if exampleCount ts = k + 1 ∧ EndsInExample ts then t.block? else none := by
    rw [codeAt, List.take_left, List.getElem?_concat_length]
    rfl
  rw [codeOf, List.length_append, List.length_singleton, List.range_succ, List.filterMap_append,
    hbefore, ← hlast]
  cases h : codeAt (ts ++ [t]) k ts.length with
  | none => rw [List.filterMap_cons_none h]; rfl
  | some block => rw [List.filterMap_cons_some h]; rfl

/-- An example that is not yet opened has no code. -/
theorem codeOf_eq_nil {ts : List Token} {k : Nat} (h : exampleCount ts ≤ k) : codeOf ts k = [] := by
  refine List.filterMap_eq_nil_iff.2 fun j _ => if_neg fun hj => ?_
  have hle : exampleCount (ts.take j) ≤ exampleCount ts :=
    List.Sublist.countP_le (List.take_sublist j ts)
  omega

end Token

open Token

/-! ## 2. One token -/

namespace Draft

/-- The examples behind one token: a new one, the last one with a height or with more code, or the
    same ones. -/
inductive Routes (d : Draft) : Token → List Example → Prop where
  | opened (payload : Text) : Routes d (.tag .newExample payload)
      (d.pattern.examples ++ [{ description := Payload.firstLine payload }])
  | height (payload : Text) {front : List Example} {last : Example}
      (hfocus : d.focus = .opened) (hold : d.pattern.examples = front ++ [last]) :
      Routes d (.tag .exampleHeight payload)
        (front ++ [{ last with height := Payload.height? payload }])
  | code (block : CodeBlock) {front : List Example} {last : Example}
      (hfocus : d.focus ≠ .elsewhere) (hold : d.pattern.examples = front ++ [last]) :
      Routes d (.code block) (front ++ [{ last with codeBlocks := last.codeBlocks ++ [block] }])
  | same {t : Token} (hopens : t.isExample = false)
      (hheight : t.tag? = some .exampleHeight → d.focus ≠ .opened ∨ d.pattern.examples = [])
      (hcode : t.tag? = none → d.focus = .elsewhere ∨ d.pattern.examples = []) :
      Routes d t d.pattern.examples

theorem eq_nil_of_changeLast? {α : Type} {f : α → α} {l : List α} (h : changeLast? f l = none) :
    l = [] := List.getLast?_eq_none_iff.1 (Option.map_eq_none_iff.1 h)

/-- A tag that has nothing to do with examples leaves them as they are. -/
theorem Routes.same_of_tag (d : Draft) {kind : Tag} (hopens : kind ≠ .newExample)
    (hheight : kind ≠ .exampleHeight) (payload : Text) :
    d.Routes (.tag kind payload) d.pattern.examples := by
  refine .same ?_ (fun htag => absurd (Option.some.inj htag) hheight) fun htag => ?_
  · simpa [isExample, tag?] using hopens
  · cases htag

theorem Routes.same_of_code {d : Draft} (h : d.focus = .elsewhere ∨ d.pattern.examples = [])
    (block : CodeBlock) : d.Routes (.code block) d.pattern.examples := by
  refine .same rfl (fun htag => ?_) fun _ => h
  cases htag

theorem Routes.same_of_height {d : Draft} (h : d.focus ≠ .opened ∨ d.pattern.examples = [])
    (payload : Text) : d.Routes (.tag .exampleHeight payload) d.pattern.examples := by
  refine .same rfl (fun _ => h) fun htag => ?_
  cases htag

theorem routes_step (d : Draft) (t : Token) :
    d.Routes t (d.step t).value.pattern.examples := by
  cases t with
  | code block =>
    simp only [step, writeCode]
    split
    · rename_i hfocus
      exact .same_of_code (.inl hfocus) block
    · rename_i hnone _
      exact .same_of_code (.inr (eq_nil_of_changeLast? hnone)) block
    · rename_i hsome hfocus
      obtain ⟨front, last, hold, rfl⟩ := exists_of_changeLast? hsome
      exact .code block hfocus hold
  | tag kind payload =>
    cases kind with
    | newExample => exact .opened payload
    | exampleHeight =>
      simp only [step, writeTag]
      split
      · rename_i hfocus hsome
        obtain ⟨front, last, hold, rfl⟩ := exists_of_changeLast? hsome
        exact .height payload hfocus hold
      · rename_i hother
        refine .same_of_height ?_ payload
        by_cases hfocus : d.focus = .opened
        · exact .inr (eq_nil_of_changeLast? (Option.eq_none_iff_forall_ne_some.2 fun examples h =>
            hother examples hfocus h))
        · exact .inl hfocus
    | metadata =>
      simp only [step, writeTag]
      split
      all_goals exact .same_of_tag d (by decide) (by decide) payload
    | _ => exact .same_of_tag d (by decide) (by decide) payload

theorem focus_step (d : Draft) (t : Token) :
    ((d.step t).value.focus = .opened ↔ t.isExample = true) ∧
    ((d.step t).value.focus = .elsewhere ↔ t.tag?.elim (d.focus = .elsewhere) fun kind =>
      kind ≠ .newExample ∧ kind ≠ .exampleHeight) := by
  cases t with
  | code block =>
    by_cases hfocus : d.focus = .elsewhere <;> simp [step, hfocus, isExample, tag?]
  | tag kind payload => cases kind <;> simp [step, focusAfter, isExample, tag?]

/-! ## 3. All tokens -/

/-- What the examples and the focus of a reader have to do with the tokens it has read. -/
structure Follows (d : Draft) (ts : List Token) : Prop where
  length : d.pattern.examples.length = exampleCount ts
  opened : d.focus = .opened ↔ ∃ t ∈ ts.getLast?, t.isExample = true
  elsewhere : d.focus = .elsewhere ↔ ¬ EndsInExample ts
  example_getElem? : ∀ front payload rest, ts = front ++ .tag .newExample payload :: rest →
    d.pattern.examples[exampleCount front]? =
      some ⟨Payload.firstLine payload, rest.head?.bind Token.height?, codeOf ts (exampleCount front)⟩

/-- A token in a longer list is the last one or stands in front of it. -/
theorem split_concat {α : Type} {ts front rest : List α} {t u : α}
    (h : ts ++ [t] = front ++ u :: rest) :
    (rest = [] ∧ t = u ∧ ts = front) ∨ ∃ later, rest = later ++ [t] ∧ ts = front ++ u :: later := by
  rcases List.eq_nil_or_concat rest with rfl | ⟨later, last, rfl⟩
  · obtain ⟨hts, ht⟩ := List.append_inj' h rfl
    exact .inl ⟨rfl, List.singleton_inj.1 ht, hts⟩
  · rw [List.concat_eq_append, ← List.cons_append, ← List.append_assoc] at h
    obtain ⟨hts, ht⟩ := List.append_inj' h rfl
    exact .inr ⟨later, by rw [List.singleton_inj.1 ht, List.concat_eq_append], hts⟩

section Step

variable {d : Draft} {ts : List Token} (h : d.Follows ts) {t : Token} {es : List Example}
include h

theorem Follows.length_routes (hr : d.Routes t es) : es.length = exampleCount (ts ++ [t]) := by
  cases hr with
  | opened payload =>
    rw [List.length_append, h.length, exampleCount_append, exampleCount_cons_example]
    rfl
  | height payload hfocus hold =>
    rw [exampleCount_concat_of_not rfl, ← h.length, hold, List.length_append, List.length_append]
    rfl
  | code block hfocus hold =>
    rw [exampleCount_concat_of_not rfl, ← h.length, hold, List.length_append, List.length_append]
    rfl
  | same hopens => rw [exampleCount_concat_of_not hopens, h.length]

/-- Where an example has just been opened, each example is that one or has another one behind it. -/
theorem Follows.later_of_opened (hfocus : d.focus = .opened) {front later : List Token}
    {payload : Text} (hts : ts = front ++ .tag .newExample payload :: later) :
    later = [] ∨ 0 < exampleCount later := by
  rcases List.eq_nil_or_concat later with rfl | ⟨init, last, rfl⟩
  · exact .inl rfl
  · obtain ⟨u, hu, hopens⟩ := h.opened.1 hfocus
    rw [hts, List.concat_eq_append, ← List.cons_append, ← List.append_assoc,
      List.getLast?_concat] at hu
    refine .inr (List.countP_pos_iff.2 ⟨u, ?_, hopens⟩)
    rw [Option.mem_some.1 hu, List.concat_eq_append]
    exact List.mem_append_right _ List.mem_cons_self

/-- Code that is dropped belongs to none of the examples there are. -/
theorem Follows.block_of_same (hne : d.pattern.examples ≠ [])
    (hcode : t.tag? = none → d.focus = .elsewhere ∨ d.pattern.examples = []) (k : Nat) :
    (if exampleCount ts = k + 1 ∧ EndsInExample ts then t.block? else none) = none := by
  cases t with
  | tag kind payload => exact ite_self none
  | code block =>
    have hfocus := (hcode rfl).resolve_right hne
    exact if_neg fun hends => h.elsewhere.1 hfocus hends.2

/-- A height that is dropped is not asked for right behind the tag of an example. -/
theorem Follows.asked_of_same (hne : d.pattern.examples ≠ [])
    (hheight : t.tag? = some .exampleHeight → d.focus ≠ .opened ∨ d.pattern.examples = [])
    {front later : List Token} {payload : Text}
    (hts : ts = front ++ .tag .newExample payload :: later) :
    (later.head?.or [t].head?).bind Token.height? = later.head?.bind Token.height? := by
  cases later with
  | cons u later => rfl
  | nil =>
    refine Option.eq_none_iff_forall_ne_some.2 fun asked hasked => ?_
    obtain ⟨payload', rfl, -⟩ := height?_eq_some.1 hasked
    have hlast : ts.getLast? = some (.tag .newExample payload) := by
      rw [hts]
      exact List.getLast?_concat
    have hopened := h.opened.2 ⟨_, hlast, rfl⟩
    exact (hheight rfl).elim (fun hfocus => hfocus hopened) hne

/-- An example that the tokens have opened keeps what its place gives it, with what the new token
    adds. -/
theorem Follows.getElem?_routes (hr : d.Routes t es) {front later : List Token} {payload : Text}
    (hts : ts = front ++ .tag .newExample payload :: later) :
    es[exampleCount front]? = some ⟨Payload.firstLine payload,
      (later ++ [t]).head?.bind Token.height?, codeOf (ts ++ [t]) (exampleCount front)⟩ := by
  have hold := h.example_getElem? front payload later hts
  have hcount : exampleCount ts = exampleCount front + (exampleCount later + 1) := by
    rw [hts, exampleCount_append, exampleCount_cons_example]
  have hlength := h.length
  rw [codeOf_concat, List.head?_append]
  cases hr with
  | opened payload' =>
    have hblock : (Token.tag .newExample payload').block? = none := rfl
    rw [List.getElem?_append_left (by omega), hold, hblock, ite_self, Option.toList_none,
      List.append_nil]
    cases later <;> rfl
  | @height payload' es last hfocus hlast =>
    have hblock : (Token.tag .exampleHeight payload').block? = none := rfl
    rw [hlast] at hold hlength
    rw [List.length_append, List.length_singleton] at hlength
    rw [hblock, ite_self, Option.toList_none, List.append_nil]
    rcases h.later_of_opened hfocus hts with rfl | hlater
    · -- the example has just been opened, so it is the last one
      have hk : exampleCount front = es.length := by
        rw [show exampleCount [] = 0 from rfl] at hcount
        omega
      rw [hk, List.getElem?_concat_length] at hold ⊢
      rw [Option.some.inj hold]
      rfl
    · rw [List.getElem?_append_left (by omega)] at hold ⊢
      rw [hold]
      cases later with
      | nil => cases hlater
      | cons u later => rfl
  | @code block es last hfocus hlast =>
    rw [hlast] at hold hlength
    rw [List.length_append, List.length_singleton] at hlength
    have hhead : (later.head?.or [Token.code block].head?).bind Token.height? =
        later.head?.bind Token.height? := by cases later <;> rfl
    rw [hhead]
    by_cases hk : exampleCount front = es.length
    · rw [if_pos ⟨by omega, not_not.1 fun hends => hfocus (h.elsewhere.2 hends)⟩]
      rw [hk, List.getElem?_concat_length] at hold ⊢
      rw [Option.some.inj hold]
      rfl
    · rw [if_neg fun hends => hk (by omega), Option.toList_none, List.append_nil]
      rw [List.getElem?_append_left (by omega)] at hold ⊢
      exact hold
  | same hopens hheight hcode =>
    have hne : d.pattern.examples ≠ [] := by
      intro hnil
      rw [hnil, List.length_nil] at hlength
      omega
    rw [hold, h.block_of_same hne hcode, h.asked_of_same hne hheight hts, Option.toList_none,
      List.append_nil]

theorem Follows.step (t : Token) : (d.step t).value.Follows (ts ++ [t]) := by
  have hr := routes_step d t
  obtain ⟨hopened, helsewhere⟩ := focus_step d t
  refine ⟨h.length_routes hr, ?_, ?_, fun front payload rest hsplit => ?_⟩
  · rw [hopened, List.getLast?_concat]
    simp
  · rw [helsewhere, EndsInExample, lastTag?_concat]
    cases t with
    | code block => exact h.elsewhere
    | tag kind payload => simp [tag?]
  · obtain ⟨rfl, rfl, rfl⟩ | ⟨later, rfl, hts⟩ := split_concat hsplit
    · have hcode : codeOf (ts ++ [.tag .newExample payload]) (exampleCount ts) = [] := by
        rw [codeOf_concat, codeOf_eq_nil (Nat.le_refl _)]
        exact congrArg Option.toList (ite_self none)
      rw [hcode, ← h.length]
      exact List.getElem?_concat_length
    · exact h.getElem?_routes hr hts

end Step

/-- **The examples follow the tokens** of a record from its beginning. -/
theorem follows_steps (name : Text) (ts : List Token) :
    ((Draft.mk { name } .elsewhere).steps ts).value.Follows ts := by
  induction ts using List.reverseRecOn with
  | nil =>
    refine ⟨rfl, by simp [steps], by simp [steps, EndsInExample, lastTag?], ?_⟩
    exact fun front payload rest hsplit => absurd hsplit (by simp)
  | append_singleton ts t ih =>
    rw [steps_append]
    exact ih.step t

/-! ## 4. What later tokens leave alone -/

theorem dropLast_prefix_routes {d : Draft} {t : Token} {es : List Example} (hr : d.Routes t es) :
    d.pattern.examples.dropLast <+: es.dropLast := by
  cases hr with
  | opened payload =>
    rw [List.dropLast_concat]
    exact List.dropLast_prefix _
  | height payload hfocus hold => rw [hold, List.dropLast_concat, List.dropLast_concat]
  | code block hfocus hold => rw [hold, List.dropLast_concat, List.dropLast_concat]
  | same => exact List.prefix_refl _

/-- Only the last example can still change. -/
theorem dropLast_prefix_steps (d : Draft) (ts : List Token) :
    d.pattern.examples.dropLast <+: (d.steps ts).value.pattern.examples := by
  induction ts generalizing d with
  | nil => exact List.dropLast_prefix _
  | cons t ts ih =>
    have hlater := ih (d.step t).value
    exact (dropLast_prefix_routes (routes_step d t)).trans hlater

/-- The heights of the examples. -/
def heights (d : Draft) : List (Option Nat) := d.pattern.examples.map (·.height)

/-- The heights behind one token, from those before it. Of the focus no more is needed than whether an
    example has just been opened. -/
def heightsBehind (opened : Bool) (hs : List (Option Nat)) : Token → List (Option Nat)
  | .tag .newExample _ => hs ++ [none]
  | .tag .exampleHeight payload =>
    if opened then (changeLast? (fun _ => Payload.height? payload) hs).getD hs else hs
  | _ => hs

theorem heights_step (d : Draft) (t : Token) :
    (d.step t).value.heights = heightsBehind (d.focus == .opened) d.heights t := by
  have hr := routes_step d t
  unfold heights
  generalize (d.step t).value.pattern.examples = es at hr
  cases hr with
  | opened payload => exact List.map_append
  | height payload hfocus hold =>
    rw [heightsBehind, hfocus, hold, List.map_append, List.map_append, List.map_singleton,
      List.map_singleton, changeLast?_concat]
    rfl
  | code block hfocus hold =>
    rw [hold]
    simp [heightsBehind]
  | same hopens hheight hcode =>
    cases t with
    | code block => rfl
    | tag kind payload =>
      cases kind with
      | newExample => cases hopens
      | exampleHeight =>
        rcases hheight rfl with hfocus | hnil
        · simp [heightsBehind, hfocus]
        · simp [heightsBehind, hnil, changeLast?]
      | _ => rfl

/-- Readers that agree on the heights and on whether an example has just been opened go on to do so. -/
theorem heights_steps_congr {d e : Draft} (hheights : d.heights = e.heights)
    (hopened : d.focus = .opened ↔ e.focus = .opened) (ts : List Token) :
    (d.steps ts).value.heights = (e.steps ts).value.heights := by
  induction ts generalizing d e with
  | nil => exact hheights
  | cons t ts ih =>
    have hflag : (d.focus == .opened) = (e.focus == .opened) :=
      Bool.eq_iff_iff.2 (by simpa using hopened)
    refine ih ?_ ((focus_step d t).1.trans (focus_step e t).1.symm)
    rw [heights_step, heights_step, hheights, hflag]

/-- A height that is not right behind an `@example` could as well be left out. -/
theorem heights_steps_stray (name : Text) {front : List Token} (asked : Text) (rest : List Token)
    (hlast : ∀ t ∈ front.getLast?, t.isExample = false) :
    ((Draft.mk { name } .elsewhere).steps (front ++ rest)).value.heights =
      ((Draft.mk { name } .elsewhere).steps
        (front ++ .tag .exampleHeight asked :: rest)).value.heights := by
  have hfocus : ((Draft.mk { name } .elsewhere).steps front).value.focus ≠ .opened := by
    intro hopened
    obtain ⟨t, ht, hopens⟩ := (follows_steps name front).opened.1 hopened
    rw [hlast t ht] at hopens
    cases hopens
  rw [steps_append, steps_append]
  refine heights_steps_congr ?_ ?_ rest
  · rw [heights_step, beq_false_of_ne hfocus]
    rfl
  · exact iff_of_false hfocus fun hopened => absurd ((focus_step _ _).1.1 hopened) nofun

end Draft

theorem Interleaved.sublist_left {α : Type} {all first second : List α}
    (h : Interleaved all first second) : first.Sublist all := by
  induction h with
  | nil => exact List.Sublist.refl _
  | left a _ ih => exact ih.cons_cons a
  | right a _ ih => exact ih.cons a

/-! ## 5. Examples of a record -/

namespace Pattern

/-- **The examples of a record are those that its tags say.** A record with a name has one example for
    each `@example`, in order. An example has the height that the token right behind its tag asks
    for, if that is a height that can be read, and the code that stands behind its tag and before the
    next `@example`, as far as the tag before the code is `@example` or `@exampleHeight`. Hence no
    code is in two examples, tokens change no example but the last one, and a height that is not
    right behind an `@example` could as well be left out. -/
theorem ofTokens_examples (before us after : List Token) (payload : Text)
    (hname : Payload.firstLine payload ≠ []) (hus : ∀ t ∈ us, t.record? = none)
    (hafter : ∀ t ∈ after.head?, t.record? ≠ none) : ∃ p,
    (ofTokens (before ++ .tag .pattern payload :: (us ++ after))).value =
      (ofTokens before).value ++ p :: (ofTokens after).value ∧
    p.name = Payload.firstLine payload ∧
    p.examples.length = exampleCount us ∧
    (∀ front description rest, us = front ++ .tag .newExample description :: rest → ∃ e,
      p.examples[exampleCount front]? = some e ∧
      e.description = Payload.firstLine description ∧
      (∀ h, e.height = some h ↔ ∃ asked, rest.head? = some (.tag .exampleHeight asked) ∧
        Payload.height? asked = some h) ∧
      e.codeBlocks = codeOf us (exampleCount front)) ∧
    (p.examples.flatMap (·.codeBlocks)).Sublist (us.filterMap block?) ∧
    (∀ k l j block block', codeAt us k j = some block → codeAt us l j = some block' → k = l) ∧
    (∀ front rest, us = front ++ rest → ∃ q,
      (ofTokens (.tag .pattern payload :: front)).value = [q] ∧
      q.examples.dropLast <+: p.examples) ∧
    ∀ front asked rest, us = front ++ .tag .exampleHeight asked :: rest →
      (∀ t ∈ front.getLast?, t.isExample = false) → ∃ q,
        (ofTokens (.tag .pattern payload :: (front ++ rest))).value = [q] ∧
        q.examples.map (·.height) = p.examples.map (·.height) := by
  have hrecord : ∀ ts : List Token, (∀ t ∈ ts, t.record? = none) →
      (ofTokens (.tag .pattern payload :: ts)).value =
        [((Draft.mk { name := Payload.firstLine payload } .elsewhere).steps ts).value.pattern] :=
    fun ts hts => by rw [ofTokens_record payload hts, if_neg hname]
  have hfollows := Draft.follows_steps (Payload.firstLine payload) us
  refine ⟨((Draft.mk { name := Payload.firstLine payload } .elsewhere).steps us).value.pattern, ?_,
    Draft.name_steps _ us, hfollows.length, fun front description rest hsplit => ?_, ?_,
    fun k l j block block' hk hl => ?_, fun front rest hsplit => ?_,
    fun front asked rest hsplit hlast => ?_⟩
  · have hopens : ∀ t ∈ (Token.tag .pattern payload :: us ++ after).head?, t.record? ≠ none := by
      intro t ht
      rw [← Option.mem_some.1 ht]
      exact Option.some_ne_none payload
    rw [← List.cons_append, ofTokens_append before hopens, ofTokens_append _ hafter,
      hrecord us hus]
    rfl
  · refine ⟨_, hfollows.example_getElem? front description rest hsplit, rfl, fun h => ?_, rfl⟩
    simp only [Option.bind_eq_some_iff, height?_eq_some]
    constructor
    · rintro ⟨t, ht, asked, rfl, hasked⟩
      exact ⟨asked, ht, hasked⟩
    · rintro ⟨asked, ht, hasked⟩
      exact ⟨_, ht, asked, rfl, hasked⟩
  · obtain ⟨kept, dropped, hsplit, hkept, -⟩ :=
      Draft.interleaved_steps (Draft.mk { name := Payload.firstLine payload } .elsewhere) us
    rw [hkept]
    exact hsplit.sublist_left
  · have hnumber := exampleCount_of_codeAt hk
    have hnumber' := exampleCount_of_codeAt hl
    omega
  · subst hsplit
    refine ⟨_, hrecord front fun t ht => hus t (List.mem_append_left _ ht), ?_⟩
    rw [Draft.steps_append]
    exact Draft.dropLast_prefix_steps _ rest
  · subst hsplit
    refine ⟨_, hrecord (front ++ rest) fun t ht => hus t ?_, ?_⟩
    · rcases List.mem_append.1 ht with ht | ht
      · exact List.mem_append_left _ ht
      · exact List.mem_append_right _ (List.mem_cons_of_mem _ ht)
    · exact Draft.heights_steps_stray _ asked rest hlast

/-- Tokens of a record with code and heights in all kinds of places. -/
def scattered : List Token :=
  [.tag .exampleHeight "10".toList, .code ⟨none, "lost".toList⟩,
   .tag .newExample "First\n".toList, .tag .exampleHeight "20px".toList,
   .code ⟨none, "a".toList⟩, .tag .exampleHeight "30".toList, .code ⟨none, "b".toList⟩,
   .tag .todo [], .code ⟨none, "dropped".toList⟩,
   .tag .newExample "Second\n".toList, .code ⟨none, "c".toList⟩,
   .tag .exampleHeight "40".toList, .code ⟨none, "d".toList⟩]

/-- Between two other records these tokens make two examples, the first one with a height. -/
theorem ofTokens_examples_scattered : ∃ p,
    (ofTokens ([.code ⟨none, "early".toList⟩] ++ .tag .pattern "Card\n".toList ::
      (scattered ++ [.tag .pattern "Tile\n".toList, .code ⟨none, "late".toList⟩]))).value =
        [p, { name := "Tile".toList }] ∧
    p.examples.length = 2 ∧
    (∃ e, p.examples[0]? = some e ∧ e.description = "First".toList ∧ e.height = some 20 ∧
      e.codeBlocks = [⟨none, "a".toList⟩, ⟨none, "b".toList⟩]) ∧
    ∃ e, p.examples[1]? = some e ∧ e.description = "Second".toList ∧ e.height = none ∧
      e.codeBlocks = [⟨none, "c".toList⟩, ⟨none, "d".toList⟩] := by
  obtain ⟨p, hvalue, -, hlength, hexamples, -⟩ :=
    ofTokens_examples [.code ⟨none, "early".toList⟩] scattered
      [.tag .pattern "Tile\n".toList, .code ⟨none, "late".toList⟩] "Card\n".toList
      (by decide +kernel) (by decide +kernel) (by decide +kernel)
  obtain ⟨first, hfirst, hdescription, hheight, hcode⟩ :=
    hexamples (scattered.take 2) "First\n".toList (scattered.drop 3) rfl
  obtain ⟨second, hsecond, hdescription', hheight', hcode'⟩ :=
    hexamples (scattered.take 9) "Second\n".toList (scattered.drop 10) rfl
  have hbehind : (scattered.drop 10).head? = some (.code ⟨none, "c".toList⟩) := rfl
  refine ⟨p, hvalue.trans ?_, hlength.trans ?_, ⟨first, hfirst, hdescription.trans ?_, ?_,
    hcode.trans ?_⟩, second, hsecond, hdescription'.trans ?_, ?_, hcode'.trans ?_⟩
  · rfl
  · decide +kernel
  · decide +kernel
  · exact (hheight 20).2 ⟨"20px".toList, rfl, by decide +kernel⟩
  · decide +kernel
  · decide +kernel
  · refine Option.eq_none_iff_forall_ne_some.2 fun h hh => ?_
    obtain ⟨asked, hasked, -⟩ := (hheight' h).1 hh
    rw [hbehind] at hasked
    cases hasked
  · decide +kernel

end Pattern

end PatternBook
