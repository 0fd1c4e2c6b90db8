import PatternBook.Proofs.Tidy

/-!
# How a parameter accounts for its payload

A parameter is read from three parts of its payload: a type in braces, a name that may stand in brackets,
and what follows the name. Braces, brackets, equals signs and dashes may occur in any of them, and a
brace or a bracket need not be closed; the first mark of each kind decides.

* `Parameter.ReadFrom` -- what each part says of the parameter, and how the text decides where the parts
  are cut;
* `typeGroup_eq_iff`, `bracketGroup?_eq_some_iff`, `parameterDescription_eq_iff` -- the same for the
  readers of the parts;
* `Payload.parameter_eq_iff` -- so the parameter of a payload is the one that can be read from it in this
  way. A group that is not closed makes no part, and its text belongs to a bare name.
-/

namespace PatternBook

/-- The parameter is read from the parts of a text: from `typed`, the type in braces with the white space
    behind it, from `named`, the name with its brackets, and from `after`, what follows the name. -/
structure Parameter.ReadFrom (q : Parameter) (text typed named after : Text) : Prop where
  whole : text = typed ++ named ++ after
  type : (typed = [] ∧ q.type = []) ∨ ∃ gap : Text, typed = '\x7b' :: q.type ++ '\x7d' :: gap ∧
    '\x7d' ∉ q.type ∧ gap.isAllBlank = true
  typed_nil_iff : typed = [] ↔ text.head? ≠ some '\x7b' ∨ '\x7d' ∉ text
  rest_head : ∀ c ∈ (named ++ after).head?, Text.isBlank c = false
  optional_iff : q.required = false ↔ (named ++ after).head? = some '[' ∧ ']' ∈ named ++ after
  brackets : q.required = false → ∃ inner : Text, named = '[' :: inner ++ [']'] ∧ ']' ∉ inner ∧
    (('=' ∉ inner ∧ q.name = inner.trim ∧ q.defaultValue = none) ∨
      ∃ front value : Text, inner = front ++ '=' :: value ∧ '=' ∉ front ∧ q.name = front.trim ∧
        q.defaultValue = some value)
  bare : q.required = true → q.defaultValue = none ∧ named = q.name ∧
    (∀ c ∈ named, Text.isBlank c = false) ∧ ∀ c ∈ after.head?, Text.isBlank c = true
  description : (¬ [' ', '-', ' '] <:+: after ∧ q.description = []) ∨
    ∃ front rest : Text, after = front ++ [' ', '-', ' '] ++ rest ∧
      ¬ [' ', '-', ' '] <:+: front ++ [' ', '-'] ∧ q.description = rest.trim

namespace Payload

/-! ## 1. The readers of the parts -/

/-- A type is set in braces at the front, the first closing one of which ends it; without both braces
    there is none. -/
theorem typeGroup_eq_iff {text type rest : Text} : typeGroup text = (type, rest) ↔
      (∃ gap : Text, text = '\x7b' :: type ++ '\x7d' :: gap ++ rest ∧ '\x7d' ∉ type ∧
        gap.isAllBlank = true ∧ ∀ c ∈ rest.head?, Text.isBlank c = false) ∨
      ((text.head? ≠ some '\x7b' ∨ '\x7d' ∉ text) ∧ type = [] ∧ rest = text) := by
  unfold typeGroup
  split
  · rename_i text
    cases hcut : Text.cut? text ['\x7d'] with
    | none =>
      have hopen := Text.cut?_single_eq_none_iff.1 hcut
      simp only [Prod.mk.injEq]
      constructor
      · rintro ⟨rfl, rfl⟩
        exact .inr ⟨.inr (by simpa using hopen), rfl, rfl⟩
      · rintro (⟨gap, htext, -, -, -⟩ | ⟨-, rfl, rfl⟩)
        · refine absurd ?_ hopen
          rw [(List.cons.inj htext).2]
          simp
        · exact ⟨rfl, rfl⟩
    | some parts =>
      obtain ⟨type', rest'⟩ := parts
      obtain ⟨htext, hclose⟩ := Text.cut?_single_iff.1 hcut
      simp only [Prod.mk.injEq]
      constructor
      · rintro ⟨rfl, rfl⟩
        refine .inl ⟨rest'.takeWhile Text.isBlank, ?_, hclose,
          List.all_eq_true.2 fun c hc => List.mem_takeWhile_imp hc, Text.head?_trimStart rest'⟩
        rw [htext, Text.trimStart, List.cons_append, List.cons_append, List.append_assoc,
          List.cons_append, List.takeWhile_append_dropWhile]
      · rintro (⟨gap, htext', hclose', hgap, hrest⟩ | ⟨hnone, -, -⟩)
        · have hcut' : Text.cut? text ['\x7d'] = some (type, gap ++ rest) := by
            rw [Text.cut?_single_iff]
            exact ⟨by simpa using (List.cons.inj htext').2, hclose'⟩
          rw [hcut] at hcut'
          cases hcut'
          exact ⟨rfl, (Text.trimStart_append_of_blank hgap rest).trans (Text.trimStart_of_head? hrest)⟩
        · refine absurd hnone ?_
          simp [htext]
  · rename_i hother
    have hbrace : text.head? ≠ some '\x7b' := by
      intro hhead
      obtain ⟨after, hafter⟩ := List.head?_eq_some_iff.1 hhead
      exact hother after hafter
    simp only [Prod.mk.injEq]
    constructor
    · rintro ⟨rfl, rfl⟩
      exact .inr ⟨.inl hbrace, rfl, rfl⟩
    · rintro (⟨gap, htext, -, -, -⟩ | ⟨-, rfl, rfl⟩)
      · refine absurd ?_ hbrace
        rw [htext]
        rfl
      · exact ⟨rfl, rfl⟩

/-- So the reader of types cuts a text into the part of the type and the rest. -/
theorem typeGroup_eq_iff_append {text type rest : Text}
    (hhead : ∀ c ∈ text.head?, Text.isBlank c = false) :
    typeGroup text = (type, rest) ↔ ∃ typed : Text, text = typed ++ rest ∧
      ((typed = [] ∧ type = []) ∨ ∃ gap : Text, typed = '\x7b' :: type ++ '\x7d' :: gap ∧
        '\x7d' ∉ type ∧ gap.isAllBlank = true) ∧
      (typed = [] ↔ text.head? ≠ some '\x7b' ∨ '\x7d' ∉ text) ∧
      ∀ c ∈ rest.head?, Text.isBlank c = false := by
  rw [typeGroup_eq_iff]
  constructor
  · rintro (⟨gap, htext, hclose, hgap, hrest⟩ | ⟨hnone, rfl, rfl⟩)
    · refine ⟨_, htext, .inr ⟨gap, rfl, hclose, hgap⟩, iff_of_false (by simp) ?_, hrest⟩
      rw [htext]
      simp
    · exact ⟨[], rfl, .inl ⟨rfl, rfl⟩, iff_of_true rfl hnone, hhead⟩
  · rintro ⟨typed, rfl, ⟨rfl, rfl⟩ | ⟨gap, rfl, hclose, hgap⟩, hnil, hrest⟩
    · exact .inr ⟨hnil.1 rfl, rfl, rfl⟩
    · exact .inl ⟨gap, rfl, hclose, hgap, hrest⟩

/-- A name in brackets ends at the first closing bracket. -/
theorem bracketGroup?_eq_some_iff {text inner after : Text} :
    bracketGroup? text = some (inner, after) ↔
      text = '[' :: inner ++ ']' :: after ∧ ']' ∉ inner := by
  unfold bracketGroup?
  split
  · rw [Text.cut?_single_iff, List.cons_append, List.cons_inj_right]
  · rename_i hother
    constructor
    · intro h
      cases h
    · rintro ⟨htext, -⟩
      exact absurd htext (hother _)

theorem bracketGroup?_eq_none_iff {text : Text} :
    bracketGroup? text = none ↔ ¬ (text.head? = some '[' ∧ ']' ∈ text) := by
  unfold bracketGroup?
  split
  · rw [Text.cut?_single_eq_none_iff]
    simp
  · rename_i hother
    refine ⟨fun _ h => ?_, fun _ => rfl⟩
    obtain ⟨after, hafter⟩ := List.head?_eq_some_iff.1 h.1
    exact hother after hafter

/-- The description stands behind the first dash between spaces. -/
theorem parameterDescription_eq_iff {text description : Text} :
    parameterDescription text = description ↔
      (¬ [' ', '-', ' '] <:+: text ∧ description = []) ∨
      ∃ front rest : Text, text = front ++ [' ', '-', ' '] ++ rest ∧
        ¬ [' ', '-', ' '] <:+: front ++ [' ', '-'] ∧ description = rest.trim := by
  have hmark : [' ', '-', ' '] ≠ ([] : Text) := List.cons_ne_nil _ _
  unfold parameterDescription
  cases hcut : Text.cut? text [' ', '-', ' '] with
  | none =>
    have hnone := (Text.cut?_eq_none_iff hmark).1 hcut
    constructor
    · rintro rfl
      exact .inl ⟨hnone, rfl⟩
    · rintro (⟨-, rfl⟩ | ⟨front, rest, htext, -, -⟩)
      · rfl
      · exact absurd ⟨front, rest, htext.symm⟩ hnone
  | some parts =>
    obtain ⟨front, rest⟩ := parts
    obtain ⟨htext, hfirst⟩ := (Text.cut?_eq_some_iff hmark).1 hcut
    constructor
    · rintro rfl
      exact .inr ⟨front, rest, htext, hfirst, rfl⟩
    · rintro (⟨hnone, -⟩ | ⟨front', rest', htext', hfirst', rfl⟩)
      · exact absurd ⟨front, rest, htext.symm⟩ hnone
      · -- the first place of the dash is one place
        rw [(Text.cut?_eq_some_iff hmark).2 ⟨htext', hfirst'⟩] at hcut
        cases hcut
        rfl

/-! ## 2. The parameter of a payload -/

/-- **A parameter accounts for its payload.** The parameter of a payload is read from the parts into
    which the trimmed payload is cut, and no other parameter can be read from it. -/
theorem parameter_eq_iff {payload : Text} {q : Parameter} : parameter payload = q ↔
    ∃ typed named after : Text, q.ReadFrom payload.trim typed named after := by
  have hhead := (Text.trim_eq_self_iff.1 (Text.trim_trim payload)).1
  constructor
  · rintro rfl
    obtain ⟨type, rest, hparts⟩ : ∃ type rest, typeGroup payload.trim = (type, rest) := ⟨_, _, rfl⟩
    obtain ⟨typed, hwhole, htype, hnil, hrest⟩ := (typeGroup_eq_iff_append hhead).1 hparts
    obtain ⟨inner, after, hgroup, hname⟩ | ⟨hgroup, hq⟩ := parameter_cases payload hparts
    · obtain ⟨rfl, hclose⟩ := bracketGroup?_eq_some_iff.1 hgroup
      have hsplit : '[' :: inner ++ ']' :: after = ('[' :: inner ++ [']']) ++ after := by simp
      rw [hsplit] at hwhole hrest
      refine ⟨typed, '[' :: inner ++ [']'], after, ?_⟩
      -- the equals sign decides about nothing but the name and the default value
      have hread : ∀ name defaultValue,
          (('=' ∉ inner ∧ name = inner.trim ∧ defaultValue = none) ∨
            ∃ front value : Text, inner = front ++ '=' :: value ∧ '=' ∉ front ∧ name = front.trim ∧
              defaultValue = some value) →
          Parameter.ReadFrom ⟨name, type, false, defaultValue, parameterDescription after⟩ payload.trim
            typed ('[' :: inner ++ [']']) after := fun _ _ hname =>
        { whole := by rw [hwhole, ← List.append_assoc typed]
          type := htype
          typed_nil_iff := hnil
          rest_head := hrest
          optional_iff := iff_of_true rfl (by simp)
          brackets := fun _ => ⟨inner, rfl, hclose, hname⟩
          bare := nofun
          description := parameterDescription_eq_iff.1 rfl }
      obtain ⟨name, value, hinner, heq, hq⟩ | ⟨heq, hq⟩ := hname
      · rw [hq]
        exact hread _ _ (.inr ⟨name, value, hinner, heq, rfl, rfl⟩)
      · rw [hq]
        exact hread _ _ (.inl ⟨heq, rfl, rfl⟩)
    · have hsplit := List.takeWhile_append_dropWhile (p := fun c => !Text.isBlank c) (l := rest)
      refine ⟨typed, rest.takeWhile fun c => !Text.isBlank c,
        rest.dropWhile fun c => !Text.isBlank c, ?_⟩
      rw [hq]
      exact {
        whole := by rw [List.append_assoc, hsplit, hwhole]
        type := htype
        typed_nil_iff := hnil
        rest_head := by rwa [hsplit]
        optional_iff := iff_of_false (by simp) (by
          rw [hsplit]
          exact bracketGroup?_eq_none_iff.1 hgroup)
        brackets := nofun
        bare := fun _ => ⟨rfl, rfl, fun c hc => by simpa using List.mem_takeWhile_imp hc,
          fun c hc => by
            have hnot := List.head?_dropWhile_not (fun c => !Text.isBlank c) rest
            rw [Option.mem_def.1 hc] at hnot
            simpa using hnot⟩
        description := parameterDescription_eq_iff.1 rfl }
  · rintro ⟨typed, named, after, h⟩
    have hgroup : typeGroup payload.trim = (q.type, named ++ after) :=
      (typeGroup_eq_iff_append hhead).2 ⟨typed, by rw [← List.append_assoc, h.whole], h.type,
        h.typed_nil_iff, h.rest_head⟩
    have hdescription : parameterDescription after = q.description :=
      parameterDescription_eq_iff.2 h.description
    unfold parameter
    obtain ⟨name, type, required, defaultValue, description⟩ := q
    cases required with
    | true =>
      obtain ⟨rfl, rfl, hblank, hafter⟩ := h.bare rfl
      have hnone : bracketGroup? (named ++ after) = none :=
        bracketGroup?_eq_none_iff.2 fun hopen => by cases h.optional_iff.2 hopen
      obtain ⟨htake, hdrop⟩ := Text.takeWhile_append_of_no_blank hblank hafter
      simp only [hgroup, hnone, htake, hdrop, hdescription]
    | false =>
      obtain ⟨inner, rfl, hclose, hname⟩ := h.brackets rfl
      have hsome : bracketGroup? ('[' :: inner ++ [']'] ++ after) = some (inner, after) :=
        bracketGroup?_eq_some_iff.2 ⟨by simp, hclose⟩
      obtain ⟨heq, rfl, rfl⟩ | ⟨front, value, hinner, heq, rfl, rfl⟩ := hname
      · simp only [hgroup, hsome, Text.cut?_single_eq_none_iff.2 heq, hdescription]
      · simp only [hgroup, hsome, Text.cut?_single_iff.2 ⟨hinner, heq⟩, hdescription]

/-- A brace that is not closed belongs to the name, as do the brackets behind it. -/
example : parameter "\x7bNumber [size=2] - a - b".toList =
    ⟨"\x7bNumber".toList, [], true, none, "a - b".toList⟩ := by
  decide +kernel

end Payload

end PatternBook
