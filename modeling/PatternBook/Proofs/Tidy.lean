import PatternBook.Proofs.Decoration
import PatternBook.Proofs.Standalone

/-!
# What reading promises

Whatever a source text looks like, the patterns that are read from it are tidy: every reader of a
payload cuts its answer down to a form that the rest of the library can rely on.

* `Pattern.Tidy` -- the promise, field by field, and `Pattern.texts` -- all texts of a pattern;
* `Draft.tidy_step`, `Draft.tidy_steps` -- one token keeps a draft tidy, and so does a whole record;
* `Draft.texts_step`, `Draft.texts_steps` -- every text of a pattern is cut out of a token, so a
  property that passes from a text to its parts passes from the tokens to the pattern;
* `Token.tidy_ofLines`, `Token.texts_ofLines` -- the tokens of lines are tidy, and hold no mark that
  closes comments if the lines hold none;
* `tidy_of_mem_patterns` -- so every pattern of a source text is tidy, and none of its texts holds
  that mark.
-/

namespace PatternBook

open Comments (closing)

/-! ## 1. The promise -/

/-- A code block without white space around its code, whose language is a word if there is one. -/
structure CodeBlock.Tidy (b : CodeBlock) : Prop where
  code : b.code.trim = b.code
  lang : ∀ s ∈ b.lang, s.IsWord ∧ '\x60' ∉ s

/-- An example described in one line, whose height takes no more than 32 bits. -/
structure Example.Tidy (e : Example) : Prop where
  description : e.description.IsPhrase
  height : ∀ n ∈ e.height, n < 0x100000000
  codeBlocks : ∀ b ∈ e.codeBlocks, b.Tidy

/-- A parameter with a bare name and no default value, or with a name that was set in brackets. -/
structure Parameter.Tidy (q : Parameter) : Prop where
  type : '\x7d' ∉ q.type
  description : q.description.trim = q.description
  name :
    (q.required = true ∧ q.defaultValue = none ∧ ∀ c ∈ q.name, Text.isBlank c = false) ∨
    (q.required = false ∧ q.name.trim = q.name ∧ ']' ∉ q.name ∧ '=' ∉ q.name ∧
      ∀ v ∈ q.defaultValue, ']' ∉ v)

/-- Metadata whose keys are words other than the two that have a place of their own. -/
structure Metadata.Tidy (m : Metadata) : Prop where
  keys : ∀ e ∈ m.entries.toList, e.1.IsWord ∧ e.1 ≠ "todos".toList ∧ e.1 ≠ "deprecated".toList
  values : ∀ e ∈ m.entries.toList, e.2.trim = e.2
  todos : ∀ t ∈ m.todos, t.trim = t
  deprecated : ∀ t ∈ m.deprecated, t.trim = t

/-- **A pattern in the form that reading promises.** -/
structure Pattern.Tidy (p : Pattern) : Prop where
  name_ne_nil : p.name ≠ []
  name : p.name.IsPhrase
  title : p.title.IsPhrase
  description : p.description = [] ∨ p.description.getLast? = some '\n'
  metadata : p.metadata.Tidy
  parameters : ∀ q ∈ p.parameters, q.Tidy
  examples : ∀ e ∈ p.examples, e.Tidy

/-- The texts of a code block. -/
def CodeBlock.texts (b : CodeBlock) : List Text := b.lang.toList ++ [b.code]

/-- The texts of an example. -/
def Example.texts (e : Example) : List Text := e.description :: e.codeBlocks.flatMap CodeBlock.texts

/-- The texts of a parameter. -/
def Parameter.texts (q : Parameter) : List Text :=
  [q.name, q.type, q.description] ++ q.defaultValue.toList

/-- The texts of the metadata. -/
def Metadata.texts (m : Metadata) : List Text :=
  (m.entries.toList.flatMap fun e => [e.1, e.2]) ++ m.todos ++ m.deprecated.toList

/-- All texts of a pattern. -/
def Pattern.texts (p : Pattern) : List Text :=
  [p.name, p.title, p.description] ++ p.metadata.texts ++ p.parameters.flatMap Parameter.texts ++
    p.examples.flatMap Example.texts

theorem Example.forall_texts {P : Text → Prop} {e : Example} : (∀ t ∈ e.texts, P t) ↔
    P e.description ∧ ∀ b ∈ e.codeBlocks, ∀ t ∈ b.texts, P t := by
  simp only [texts, List.forall_mem_cons, List.forall_mem_flatMap]

theorem Metadata.forall_texts {P : Text → Prop} {m : Metadata} : (∀ t ∈ m.texts, P t) ↔
    (∀ e ∈ m.entries.toList, P e.1 ∧ P e.2) ∧ (∀ t ∈ m.todos, P t) ∧ ∀ t ∈ m.deprecated, P t := by
  simp only [texts, List.forall_mem_append, List.forall_mem_flatMap]
  simp [and_assoc]

/-- What holds of all texts of a pattern holds of its parts. -/
theorem Pattern.forall_texts {P : Text → Prop} {p : Pattern} : (∀ t ∈ p.texts, P t) ↔
    (P p.name ∧ P p.title ∧ P p.description) ∧ (∀ t ∈ p.metadata.texts, P t) ∧
      (∀ q ∈ p.parameters, ∀ t ∈ q.texts, P t) ∧ ∀ e ∈ p.examples, ∀ t ∈ e.texts, P t := by
  simp only [texts, List.forall_mem_append, List.forall_mem_cons, List.forall_mem_flatMap]
  simp [and_assoc]

/-! ## 2. Payloads -/

namespace Payload

theorem isPhrase_firstLine (payload : Text) : (firstLine payload).IsPhrase where
  trimmed := Text.trim_trim _
  no_newline := by
    intro hn
    have h := List.mem_takeWhile_imp ((Text.trim_infix _).subset hn)
    exact absurd h (by decide)

theorem firstLine_infix (payload : Text) : firstLine payload <:+: payload :=
  (Text.trim_infix _).trans (List.takeWhile_prefix _).isInfix

theorem height?_lt {payload : Text} {n : Nat} (h : height? payload = some n) : n < 0x100000000 := by
  unfold height? at h
  simp only at h
  split at h
  · cases h
  · split at h
    · rename_i hlt
      rw [← Option.some.inj h]
      exact hlt
    · cases h

/-- What follows the key of an entry gives a trimmed value, cut out of it. -/
theorem trim_entryValue {rest : Text} (h : rest.trim = rest) :
    (entryValue rest).trim = entryValue rest ∧ entryValue rest <:+: rest := by
  unfold entryValue
  split
  · rename_i value hvalue
    have hrest := Text.dropStart?_eq_some_iff.1 hvalue
    have hsuffix : value.trimStart <:+ rest := by
      rw [hrest]
      exact (Text.trimStart_suffix value).trans (List.suffix_append _ _)
    refine ⟨Text.trim_eq_self_iff.2 ⟨Text.head?_trimStart value, fun c hc => ?_⟩, hsuffix.isInfix⟩
    -- the value ends where the trimmed rest does
    obtain ⟨front, hfront⟩ := hsuffix
    refine (Text.trim_eq_self_iff.1 h).2 c ?_
    rw [← hfront, List.getLast?_append, Option.mem_def.1 hc]
    rfl
  · split
    · exact ⟨rfl, List.nil_infix⟩
    · exact ⟨h, List.infix_rfl⟩

/-- **The entry of a payload** has a word as its key and a trimmed value, both cut out of the
    payload. -/
theorem entry?_tidy {payload key value : Text} (h : entry? payload = some (key, value)) :
    key.IsWord ∧ value.trim = value ∧ key <:+: payload ∧ value <:+: payload := by
  unfold entry? at h
  simp only at h
  split at h
  · cases h
  · rename_i hne
    simp only [Option.some.injEq, Prod.mk.injEq] at h
    obtain ⟨rfl, rfl⟩ := h
    have htrim := Text.trim_infix payload
    obtain ⟨hvalue, hpart⟩ := trim_entryValue
      (Text.trim_trim (payload.trim.dropWhile fun c => !Text.isBlank c))
    refine ⟨⟨?_, ?_⟩, hvalue, (List.takeWhile_prefix _).isInfix.trans htrim, ?_⟩
    · -- the trimmed payload does not start with a blank
      cases hp : payload.trim with
      | nil => exact absurd (by rw [hp]; rfl) hne
      | cons c rest =>
        have hc : Text.isBlank c = false :=
          (Text.trim_eq_self_iff.1 (Text.trim_trim payload)).1 c (by rw [hp]; rfl)
        simp [hc]
    · intro c hc
      simpa using List.mem_takeWhile_imp hc
    · exact ((hpart.trans (Text.trim_infix _)).trans (List.dropWhile_suffix _).isInfix).trans htrim

/-- The type of a parameter is free of the brace that ends it. -/
theorem typeGroup_tidy (text : Text) :
    '\x7d' ∉ (typeGroup text).1 ∧ (typeGroup text).1 <:+: text ∧ (typeGroup text).2 <:+: text := by
  unfold typeGroup
  split
  · rename_i after
    split
    · rename_i type rest hcut
      obtain ⟨hafter, hfree⟩ := Text.cut?_single_iff.1 hcut
      refine ⟨hfree, ?_, ?_⟩
      · rw [hafter]
        exact List.infix_cons (List.prefix_append _ _).isInfix
      · rw [hafter]
        refine List.infix_cons ((Text.trimStart_suffix rest).isInfix.trans ?_)
        exact ((List.suffix_cons _ rest).trans (List.suffix_append _ _)).isInfix
    · exact ⟨List.not_mem_nil, List.nil_infix, List.infix_rfl⟩
  · exact ⟨List.not_mem_nil, List.nil_infix, List.infix_rfl⟩

/-- The group in brackets is free of the bracket that ends it. -/
theorem bracketGroup?_tidy {text inner after : Text} (h : bracketGroup? text = some (inner, after)) :
    ']' ∉ inner ∧ inner <:+: text ∧ after <:+: text := by
  unfold bracketGroup? at h
  split at h
  · obtain ⟨htext, hfree⟩ := Text.cut?_single_iff.1 h
    rw [htext]
    exact ⟨hfree, List.infix_cons (List.prefix_append _ _).isInfix,
      List.infix_cons ((List.suffix_cons _ after).trans (List.suffix_append _ _)).isInfix⟩
  · cases h

theorem parameterDescription_tidy (text : Text) :
    (parameterDescription text).trim = parameterDescription text ∧
      parameterDescription text <:+: text := by
  unfold parameterDescription
  split
  · rename_i front description hcut
    refine ⟨Text.trim_trim description, (Text.trim_infix description).trans ?_⟩
    rw [Text.eq_of_cut? hcut]
    exact (List.suffix_append _ _).isInfix
  · exact ⟨rfl, List.nil_infix⟩

/-- A parameter is read in one of three ways: with a name and a default value in brackets, with a
    name alone in brackets, or with a bare name. -/
theorem parameter_cases (payload : Text) {type rest : Text} (h : typeGroup payload.trim = (type, rest)) :
    (∃ inner after, bracketGroup? rest = some (inner, after) ∧
      ((∃ name value, inner = name ++ '=' :: value ∧ '=' ∉ name ∧
          parameter payload = ⟨name.trim, type, false, some value, parameterDescription after⟩) ∨
        ('=' ∉ inner ∧
          parameter payload = ⟨inner.trim, type, false, none, parameterDescription after⟩))) ∨
    (bracketGroup? rest = none ∧
      parameter payload = ⟨rest.takeWhile fun c => !Text.isBlank c, type, true, none,
        parameterDescription (rest.dropWhile fun c => !Text.isBlank c)⟩) := by
  unfold parameter
  simp only [h]
  cases hgroup : bracketGroup? rest with
  | none => exact .inr ⟨rfl, rfl⟩
  | some group =>
    obtain ⟨inner, after⟩ := group
    refine .inl ⟨inner, after, rfl, ?_⟩
    dsimp only
    cases hcut : inner.cut? ['='] with
    | none => exact .inr ⟨Text.cut?_single_eq_none_iff.1 hcut, rfl⟩
    | some parts =>
      obtain ⟨name, value⟩ := parts
      obtain ⟨hinner, heq⟩ := Text.cut?_single_iff.1 hcut
      exact .inl ⟨name, value, hinner, heq, rfl⟩

/-- **The parameter of a payload** is tidy. -/
theorem tidy_parameter (payload : Text) : (parameter payload).Tidy := by
  obtain ⟨htype, -, -⟩ := typeGroup_tidy payload.trim
  rcases parameter_cases payload rfl with
    ⟨inner, after, hgroup, ⟨name, value, rfl, heq, hq⟩ | ⟨heq, hq⟩⟩ | ⟨-, hq⟩
  · obtain ⟨hfree, -, -⟩ := bracketGroup?_tidy hgroup
    rw [hq]
    refine ⟨htype, (parameterDescription_tidy after).1, .inr ⟨rfl, Text.trim_trim name, ?_, ?_, ?_⟩⟩
    · exact fun hm => hfree (List.mem_append_left _ ((Text.trim_infix name).subset hm))
    · exact fun hm => heq ((Text.trim_infix name).subset hm)
    · intro v hv hm
      obtain rfl : value = v := Option.some.inj hv
      exact hfree (List.mem_append_right _ (List.mem_cons_of_mem _ hm))
  · obtain ⟨hfree, -, -⟩ := bracketGroup?_tidy hgroup
    rw [hq]
    refine ⟨htype, (parameterDescription_tidy after).1, .inr ⟨rfl, Text.trim_trim inner, ?_, ?_, ?_⟩⟩
    · exact fun hm => hfree ((Text.trim_infix inner).subset hm)
    · exact fun hm => heq ((Text.trim_infix inner).subset hm)
    · intro v hv
      cases hv
  · rw [hq]
    refine ⟨htype, (parameterDescription_tidy _).1, .inl ⟨rfl, rfl, fun c hc => ?_⟩⟩
    simpa using List.mem_takeWhile_imp hc

/-- All texts of the parameter of a payload are cut out of the payload. -/
theorem infix_of_mem_texts_parameter {payload t : Text} (h : t ∈ (parameter payload).texts) :
    t <:+: payload := by
  obtain ⟨-, htype, hrest⟩ := typeGroup_tidy payload.trim
  refine List.IsInfix.trans ?_ (Text.trim_infix payload)
  rcases parameter_cases payload rfl with
    ⟨inner, after, hgroup, ⟨name, value, rfl, -, hq⟩ | ⟨-, hq⟩⟩ | ⟨-, hq⟩
  · obtain ⟨-, hinner, hafter⟩ := bracketGroup?_tidy hgroup
    simp only [hq, Parameter.texts, List.mem_append, List.mem_cons, List.not_mem_nil, or_false,
      Option.toList_some] at h
    rcases h with (rfl | rfl | rfl) | rfl
    · exact ((Text.trim_infix name).trans (List.prefix_append _ _).isInfix).trans
        (hinner.trans hrest)
    · exact htype
    · exact (parameterDescription_tidy after).2.trans (hafter.trans hrest)
    · exact ((List.suffix_cons _ _).trans (List.suffix_append _ _)).isInfix.trans
        (hinner.trans hrest)
  · obtain ⟨-, hinner, hafter⟩ := bracketGroup?_tidy hgroup
    simp only [hq, Parameter.texts, List.mem_append, List.mem_cons, List.not_mem_nil, or_false,
      Option.toList_none] at h
    rcases h with rfl | rfl | rfl
    · exact (Text.trim_infix inner).trans (hinner.trans hrest)
    · exact htype
    · exact (parameterDescription_tidy after).2.trans (hafter.trans hrest)
  · simp only [hq, Parameter.texts, List.mem_append, List.mem_cons, List.not_mem_nil, or_false,
      Option.toList_none] at h
    rcases h with rfl | rfl | rfl
    · exact (List.takeWhile_prefix _).isInfix.trans hrest
    · exact htype
    · exact ((parameterDescription_tidy _).2.trans (List.dropWhile_suffix _).isInfix).trans hrest

end Payload

/-! ## 3. One token -/

/-- The texts of a token. -/
def Token.texts : Token → List Text
  | .tag _ payload => [payload]
  | .code block => block.texts

/-- A token as lines give it: a payload ends with a newline, and a code block is tidy. -/
def Token.Tidy : Token → Prop
  | .tag _ payload => payload.getLast? = some '\n'
  | .code block => block.Tidy

/-- Where the last element is changed, the others are as before. -/
theorem mem_of_changeLast? {α : Type} {f : α → α} {l m : List α} (h : changeLast? f l = some m)
    {b : α} (hb : b ∈ m) : b ∈ l ∨ ∃ a ∈ l, b = f a := by
  obtain ⟨a, ha, rfl⟩ := Option.map_eq_some_iff.1 h
  rcases List.mem_append.1 hb with hb | hb
  · exact .inl (List.dropLast_subset l hb)
  · exact .inr ⟨a, List.mem_of_getLast? ha, List.mem_singleton.1 hb⟩

/-- The entries behind a written entry are the old ones and the written one. -/
theorem SortedMap.mem_insert {m : SortedMap Text Text} {key value : Text} {e : Text × Text}
    (h : e ∈ (m.insert key value).toList) : e ∈ m.toList ∨ e = (key, value) := by
  have hmem : ∀ l : List (Text × Text), e ∈ alterEntries key (fun _ => value) l →
      e ∈ l ∨ e = (key, value) := by
    intro l
    induction l with
    | nil => exact fun h => .inr (List.mem_singleton.1 h)
    | cons d l ih => grind [alterEntries]
  exact hmem m.toList h

namespace Draft

/-- An entry goes to its place in the metadata, which stays tidy. -/
theorem tidy_addEntry {m : Metadata} {key value : Text} (hm : m.Tidy) (hk : key.IsWord)
    (hv : value.trim = value) : (addEntry m key value).Tidy := by
  unfold addEntry
  split
  · refine { hm with todos := fun t ht => ?_ }
    rcases List.mem_append.1 ht with ht | ht
    · exact hm.todos t ht
    · rwa [List.mem_singleton.1 ht]
  · rename_i htodos
    split
    · refine { hm with deprecated := fun t ht => ?_ }
      rwa [← Option.some.inj ht]
    · rename_i hdeprecated
      refine { hm with keys := fun e he => ?_, values := fun e he => ?_ }
      · rcases SortedMap.mem_insert he with he | rfl
        · exact hm.keys e he
        · exact ⟨hk, htodos, hdeprecated⟩
      · rcases SortedMap.mem_insert he with he | rfl
        · exact hm.values e he
        · exact hv

/-- Writing the field of a tag keeps the pattern tidy. -/
theorem tidy_writeTag {d : Draft} {payload : Text} (hd : d.pattern.Tidy)
    (hp : payload.getLast? = some '\n') (tag : Tag) : (d.writeTag tag payload).value.Tidy := by
  cases tag with
  | pattern => exact hd
  | title => exact { hd with title := Payload.isPhrase_firstLine payload }
  | description => exact { hd with description := .inr hp }
  | metadata =>
    unfold writeTag
    dsimp only
    split
    · rename_i key value hentry
      obtain ⟨hk, hv, -, -⟩ := Payload.entry?_tidy hentry
      exact { hd with metadata := tidy_addEntry hd.metadata hk hv }
    · exact hd
  | parameter =>
    refine { hd with parameters := fun q hq => ?_ }
    rcases List.mem_append.1 hq with hq | hq
    · exact hd.parameters q hq
    · rw [List.mem_singleton.1 hq]
      exact Payload.tidy_parameter payload
  | todo =>
    refine { hd with metadata := { hd.metadata with todos := fun t ht => ?_ } }
    rcases List.mem_append.1 ht with ht | ht
    · exact hd.metadata.todos t ht
    · rw [List.mem_singleton.1 ht]
      exact Text.trim_trim payload
  | deprecated =>
    refine { hd with metadata := { hd.metadata with deprecated := fun t ht => ?_ } }
    rw [← Option.some.inj ht]
    exact Text.trim_trim payload
  | newExample =>
    refine { hd with examples := fun e he => ?_ }
    rcases List.mem_append.1 he with he | he
    · exact hd.examples e he
    · rw [List.mem_singleton.1 he]
      exact ⟨Payload.isPhrase_firstLine payload, nofun, nofun⟩
  | exampleHeight =>
    unfold writeTag
    dsimp only
    split
    · rename_i examples _ hlast
      refine { hd with examples := fun e he => ?_ }
      rcases mem_of_changeLast? hlast he with he | ⟨a, ha, rfl⟩
      · exact hd.examples e he
      · exact { hd.examples a ha with height := fun n hn => Payload.height?_lt hn }
    · exact hd

/-- Giving code to the last example keeps the pattern tidy. -/
theorem tidy_writeCode {d : Draft} {block : CodeBlock} (hd : d.pattern.Tidy) (hb : block.Tidy) :
    (d.writeCode block).value.Tidy := by
  unfold writeCode
  dsimp only
  split
  · exact hd
  · exact hd
  · rename_i examples hlast _
    refine { hd with examples := fun e he => ?_ }
    rcases mem_of_changeLast? hlast he with he | ⟨a, ha, rfl⟩
    · exact hd.examples e he
    · refine { hd.examples a ha with codeBlocks := fun b hbm => ?_ }
      rcases List.mem_append.1 hbm with hbm | hbm
      · exact (hd.examples a ha).codeBlocks b hbm
      · rwa [List.mem_singleton.1 hbm]

/-- **One token keeps a draft tidy.** -/
theorem tidy_step {d : Draft} {t : Token} (hd : d.pattern.Tidy) (ht : t.Tidy) :
    (d.step t).value.pattern.Tidy := by
  cases t with
  | tag tag payload => exact tidy_writeTag hd ht tag
  | code block => exact tidy_writeCode hd ht

/-- **A whole record keeps a draft tidy.** -/
theorem tidy_steps {d : Draft} {ts : List Token} (hd : d.pattern.Tidy) (ht : ∀ t ∈ ts, t.Tidy) :
    (d.steps ts).value.pattern.Tidy := by
  induction ts generalizing d with
  | nil => exact hd
  | cons t ts ih =>
    exact ih (tidy_step hd (ht t List.mem_cons_self)) fun u hu => ht u (List.mem_cons_of_mem t hu)

/-! A property that passes from a text to its parts passes from a token to the pattern, since every
reader of a payload cuts its texts out of the payload. -/

section Texts

variable {P : Text → Prop} (hP : ∀ {s t : Text}, s <:+: t → P t → P s)

theorem texts_addEntry {m : Metadata} {key value : Text} (hm : ∀ t ∈ m.texts, P t) (hk : P key)
    (hv : P value) : ∀ t ∈ (addEntry m key value).texts, P t := by
  obtain ⟨hentries, htodos, hdeprecated⟩ := Metadata.forall_texts.1 hm
  unfold addEntry
  split
  · refine Metadata.forall_texts.2 ⟨hentries, fun t ht => ?_, hdeprecated⟩
    rcases List.mem_append.1 ht with ht | ht
    · exact htodos t ht
    · rwa [List.mem_singleton.1 ht]
  · split
    · refine Metadata.forall_texts.2 ⟨hentries, htodos, fun t ht => ?_⟩
      rwa [← Option.some.inj ht]
    · refine Metadata.forall_texts.2 ⟨fun e he => ?_, htodos, hdeprecated⟩
      rcases SortedMap.mem_insert he with he | rfl
      · exact hentries e he
      · exact ⟨hk, hv⟩

include hP

theorem texts_writeTag {d : Draft} {payload : Text} (hd : ∀ t ∈ d.pattern.texts, P t)
    (hp : P payload) (tag : Tag) : ∀ t ∈ (d.writeTag tag payload).value.texts, P t := by
  obtain ⟨⟨hname, htitle, hdescription⟩, hm, hparameters, hexamples⟩ := Pattern.forall_texts.1 hd
  have hline : P (Payload.firstLine payload) := hP (Payload.firstLine_infix payload) hp
  have htrim : P payload.trim := hP (Text.trim_infix payload) hp
  cases tag with
  | pattern => exact hd
  | title =>
    exact Pattern.forall_texts.2 ⟨⟨hname, hline, hdescription⟩, hm, hparameters, hexamples⟩
  | description =>
    exact Pattern.forall_texts.2 ⟨⟨hname, htitle, hp⟩, hm, hparameters, hexamples⟩
  | metadata =>
    unfold writeTag
    dsimp only
    split
    · rename_i key value hentry
      obtain ⟨-, -, hk, hv⟩ := Payload.entry?_tidy hentry
      exact Pattern.forall_texts.2 ⟨⟨hname, htitle, hdescription⟩,
        texts_addEntry hm (hP hk hp) (hP hv hp), hparameters, hexamples⟩
    · exact hd
  | parameter =>
    refine Pattern.forall_texts.2 ⟨⟨hname, htitle, hdescription⟩, hm, fun q hq => ?_, hexamples⟩
    rcases List.mem_append.1 hq with hq | hq
    · exact hparameters q hq
    · rw [List.mem_singleton.1 hq]
      exact fun t ht => hP (Payload.infix_of_mem_texts_parameter ht) hp
  | todo =>
    obtain ⟨hentries, htodos, hdeprecated⟩ := Metadata.forall_texts.1 hm
    refine Pattern.forall_texts.2 ⟨⟨hname, htitle, hdescription⟩,
      Metadata.forall_texts.2 ⟨hentries, fun t ht => ?_, hdeprecated⟩, hparameters, hexamples⟩
    rcases List.mem_append.1 ht with ht | ht
    · exact htodos t ht
    · rwa [List.mem_singleton.1 ht]
  | deprecated =>
    obtain ⟨hentries, htodos, -⟩ := Metadata.forall_texts.1 hm
    refine Pattern.forall_texts.2 ⟨⟨hname, htitle, hdescription⟩,
      Metadata.forall_texts.2 ⟨hentries, htodos, fun t ht => ?_⟩, hparameters, hexamples⟩
    rwa [← Option.some.inj ht]
  | newExample =>
    refine Pattern.forall_texts.2 ⟨⟨hname, htitle, hdescription⟩, hm, hparameters, fun e he => ?_⟩
    rcases List.mem_append.1 he with he | he
    · exact hexamples e he
    · rw [List.mem_singleton.1 he]
      exact Example.forall_texts.2 ⟨hline, nofun⟩
  | exampleHeight =>
    unfold writeTag
    dsimp only
    split
    · rename_i examples _ hlast
      refine Pattern.forall_texts.2 ⟨⟨hname, htitle, hdescription⟩, hm, hparameters, fun e he => ?_⟩
      rcases mem_of_changeLast? hlast he with he | ⟨a, ha, rfl⟩
      · exact hexamples e he
      · exact hexamples a ha
    · exact hd

omit hP in
theorem texts_writeCode {d : Draft} {block : CodeBlock} (hd : ∀ t ∈ d.pattern.texts, P t)
    (hb : ∀ t ∈ block.texts, P t) : ∀ t ∈ (d.writeCode block).value.texts, P t := by
  obtain ⟨hown, hm, hparameters, hexamples⟩ := Pattern.forall_texts.1 hd
  unfold writeCode
  dsimp only
  split
  · exact hd
  · exact hd
  · rename_i examples hlast _
    refine Pattern.forall_texts.2 ⟨hown, hm, hparameters, fun e he => ?_⟩
    rcases mem_of_changeLast? hlast he with he | ⟨a, ha, rfl⟩
    · exact hexamples e he
    · obtain ⟨hdescription, hblocks⟩ := Example.forall_texts.1 (hexamples a ha)
      refine Example.forall_texts.2 ⟨hdescription, fun b hbm => ?_⟩
      rcases List.mem_append.1 hbm with hbm | hbm
      · exact hblocks b hbm
      · rwa [List.mem_singleton.1 hbm]

/-- **One token brings in nothing but parts of its own texts.** -/
theorem texts_step {d : Draft} {t : Token} (hd : ∀ s ∈ d.pattern.texts, P s)
    (ht : ∀ s ∈ t.texts, P s) : ∀ s ∈ (d.step t).value.pattern.texts, P s := by
  cases t with
  | tag tag payload => exact texts_writeTag hP hd (ht payload List.mem_cons_self) tag
  | code block => exact texts_writeCode hd ht

/-- **A whole record brings in nothing but parts of the texts of its tokens.** -/
theorem texts_steps {d : Draft} {ts : List Token} (hd : ∀ s ∈ d.pattern.texts, P s)
    (ht : ∀ t ∈ ts, ∀ s ∈ t.texts, P s) : ∀ s ∈ (d.steps ts).value.pattern.texts, P s := by
  induction ts generalizing d with
  | nil => exact hd
  | cons t ts ih =>
    exact ih (texts_step hP hd (ht t List.mem_cons_self))
      fun u hu => ht u (List.mem_cons_of_mem t hu)

end Texts

end Draft

/-! ## 4. Records -/

theorem Token.eq_of_record? {t : Token} {payload : Text} (h : t.record? = some payload) :
    t = .tag .pattern payload := by
  unfold record? at h
  split at h
  · rw [Option.some.inj h]
  · cases h

/-- **The patterns of tidy tokens are tidy**, and all their texts are cut out of the tokens. -/
theorem Pattern.tidy_ofTokens {P : Text → Prop} (hP : ∀ {s t : Text}, s <:+: t → P t → P s)
    (hnil : P []) {tokens : List Token} (ht : ∀ t ∈ tokens, t.Tidy)
    (hs : ∀ t ∈ tokens, ∀ s ∈ t.texts, P s) {p : Pattern} (hp : p ∈ (ofTokens tokens).value) :
    p.Tidy ∧ ∀ s ∈ p.texts, P s := by
  obtain ⟨⟨payload, owned⟩, hrecord, hp⟩ : ∃ r ∈ (groupAt Token.record? tokens).2,
      p ∈ (ofRecord r).value := by
    simpa [ofTokens, Logged.join] using hp
  obtain ⟨⟨t, htm, hpayload⟩, howned⟩ := mem_of_mem_groups hrecord
  have hname : P (Payload.firstLine payload) := by
    refine hP (Payload.firstLine_infix payload) (hs t htm payload ?_)
    rw [Token.eq_of_record? hpayload]
    exact List.mem_cons_self
  unfold ofRecord at hp
  dsimp only at hp
  split at hp
  · cases hp
  · rename_i hne
    -- the record starts with a pattern that has a name and nothing else
    have htidy : Pattern.Tidy { name := Payload.firstLine payload } :=
      { name_ne_nil := fun h => hne (List.isEmpty_iff.2 h)
        name := Payload.isPhrase_firstLine payload
        title := ⟨rfl, List.not_mem_nil⟩
        description := .inl rfl
        metadata :=
          { keys := List.forall_mem_nil _
            values := List.forall_mem_nil _
            todos := List.forall_mem_nil _
            deprecated := fun t ht => absurd ht (Option.not_mem_none t) }
        parameters := List.forall_mem_nil _
        examples := List.forall_mem_nil _ }
    have htexts : ∀ s ∈ Pattern.texts { name := Payload.firstLine payload }, P s :=
      Pattern.forall_texts.2 ⟨⟨hname, hnil, hnil⟩, List.forall_mem_nil _, List.forall_mem_nil _,
        List.forall_mem_nil _⟩
    rw [List.mem_singleton.1 hp]
    exact ⟨Draft.tidy_steps htidy fun u hu => ht u (howned u hu),
      Draft.texts_steps hP htexts fun u hu => hs u (howned u hu)⟩

/-! ## 5. Tokens of lines -/

/-- The language of an opening line is a word without backticks. -/
theorem Fence.isWord_of_opening? {line s : Text} (h : opening? line = some (some s)) :
    s.IsWord ∧ '\x60' ∉ s ∧ s <:+: line := by
  obtain ⟨gap, hopen⟩ := opening?_eq_some_iff.1 h
  obtain ⟨hne, hchar⟩ := hopen.lang s rfl
  refine ⟨⟨hne, fun c hc => (hchar c hc).1⟩, fun hm => (hchar _ hm).2 rfl, ?_⟩
  rw [hopen.line_eq]
  exact (List.prefix_append s gap).isInfix.trans (List.suffix_append _ _).isInfix

/-- A region keeps the language that its opening line names. -/
theorem opening?_of_mem_segmentsBy {view : Text → Text} {ls : List Text} {r : Region}
    (h : .fenced r ∈ segmentsBy view ls) : Fence.opening? (view r.opener) = some r.lang := by
  fun_induction segmentsBy view ls with
  | case1 => cases h
  | case2 l ls hl ih =>
    rcases List.mem_cons.1 h with h | h
    · cases h
    · exact ih h
  | case3 l ls lang hl isInner after ih =>
    rcases List.mem_cons.1 h with h | h
    · cases h
      exact hl
    · exact ih h

/-- The lines of a segment are among the lines. -/
theorem mem_of_mem_segments {ls : List Text} {s : Segment} (hs : s ∈ segments ls) {l : Text}
    (hl : l ∈ s.lines) : l ∈ ls := by
  rw [← flatMap_lines_segments ls]
  exact List.mem_flatMap.2 ⟨s, hs, hl⟩

/-- Newline-terminated lines hold no closing mark, since a newline is no part of the mark. -/
theorem Body.not_closing_endLines {ls : List Text} (h : ∀ l ∈ ls, ¬ closing <:+: l) :
    ¬ closing <:+: Text.endLines ls := by
  induction ls with
  | nil => decide
  | cons l ls ih =>
    have hlater : ¬ closing <:+: ['\n'] ++ Text.endLines ls :=
      not_closing_append_of_star (by decide) (ih fun m hm => h m (List.mem_cons_of_mem l hm))
    have hcons : Text.endLines (l :: ls) = l ++ (['\n'] ++ Text.endLines ls) := by
      simp [Text.endLines]
    rw [hcons]
    exact not_closing_append (h l List.mem_cons_self) hlater (by simp)

theorem Text.getLast?_endLines (l : Text) (ls : List Text) :
    (Text.endLines (l :: ls)).getLast? = some '\n' := by
  induction ls generalizing l with
  | nil => simp [endLines]
  | cons m ls ih =>
    have hcons : Text.endLines (l :: m :: ls) = (l ++ ['\n']) ++ Text.endLines (m :: ls) := by
      simp [Text.endLines]
    rw [hcons, List.getLast?_append, ih m]
    rfl

/-- What follows a tag on its line is cut out of the line. -/
theorem Tag.infix_of_ofLine? {line rest : Text} {tag : Tag} (h : ofLine? line = some (tag, rest)) :
    rest <:+: line := by
  obtain ⟨indent, after, hopen, rfl⟩ := ofLine?_eq_some_iff.1 h
  have hafter : after <:+ line := by
    rw [hopen.line_eq, ← List.cons_append, ← List.append_assoc]
    exact List.suffix_append _ _
  exact ((Text.trimStart_suffix after).trans hafter).isInfix

namespace Token

variable {ls : List Text}

/-- The code of a region among the lines is tidy. -/
theorem tidy_block {r : Region} (hr : .fenced r ∈ segments ls) : r.block.Tidy where
  code := Text.trim_trim _
  lang := by
    intro s hs
    have hopening : Fence.opening? r.opener = some r.lang := opening?_of_mem_segmentsBy hr
    rw [show r.lang = some s from hs] at hopening
    obtain ⟨hword, htick, -⟩ := Fence.isWord_of_opening? hopening
    exact ⟨hword, htick⟩

/-- The code of a region holds no closing mark if the lines hold none. -/
theorem texts_block (hls : ∀ l ∈ ls, ¬ closing <:+: l) {r : Region} (hr : .fenced r ∈ segments ls) :
    ∀ s ∈ r.block.texts, ¬ closing <:+: s := by
  intro s hs hc
  rcases List.mem_append.1 hs with hs | hs
  · have hopening : Fence.opening? r.opener = some r.lang := opening?_of_mem_segmentsBy hr
    rw [show r.lang = some s from Option.mem_toList.1 hs] at hopening
    obtain ⟨-, -, hpart⟩ := Fence.isWord_of_opening? hopening
    exact hls _ (mem_of_mem_segments hr List.mem_cons_self) (hc.trans hpart)
  · rw [List.mem_singleton.1 hs] at hc
    refine Body.not_closing_joinLines (fun l hl => hls l ?_) (hc.trans (Text.trim_infix _))
    exact mem_of_mem_segments hr (List.mem_cons_of_mem _ (List.mem_append_left _ hl))

/-- A token of lines is the code of one of their regions, or the tag of one of them with lines that
    follow it. -/
theorem cases_of_mem_ofLines {t : Token} (h : t ∈ (ofLines ls).value) :
    (∃ r, .fenced r ∈ segments ls ∧ t = .code r.block) ∨
    ∃ tag rest owned, (∃ l ∈ ls, Tag.ofLine? l = some (tag, rest)) ∧ (∀ l ∈ owned, l ∈ ls) ∧
      t = .tag tag (Text.endLines (rest :: owned)) := by
  have hregions : ∀ segs : List Segment, (∀ s ∈ segs, s ∈ segments ls) → t ∈ ofRegions segs →
      ∃ r, .fenced r ∈ segments ls ∧ t = .code r.block := by
    intro segs hsegs ht
    obtain ⟨s, hs, hts⟩ := List.mem_filterMap.1 ht
    cases s with
    | plain line => cases hts
    | fenced r => exact ⟨r, hsegs _ hs, (Option.some.inj hts).symm⟩
  rcases List.mem_append.1 h with h | h
  · exact .inl (hregions _ (fun s hs => mem_of_mem_lead hs) h)
  · obtain ⟨⟨⟨tag, rest⟩, segs⟩, hgroup, ht⟩ := List.mem_flatMap.1 h
    obtain ⟨⟨s, hs, hheading⟩, howned⟩ := mem_of_mem_groups hgroup
    rw [ofGroup_eq] at ht
    rcases List.mem_cons.1 ht with ht | ht
    · refine .inr ⟨tag, rest, _, ?_, fun l hl => ?_, ht⟩
      · cases s with
        | plain line => exact ⟨line, mem_of_mem_segments hs List.mem_cons_self, hheading⟩
        | fenced r => cases hheading
      · split at hl
        · obtain ⟨s', hs', hl'⟩ := List.mem_flatMap.1 hl
          exact mem_of_mem_segments (howned s' hs') hl'
        · obtain ⟨s', hs', hl'⟩ := List.mem_filterMap.1 hl
          cases s' with
          | plain line =>
            obtain rfl : line = l := Option.some.inj hl'
            exact mem_of_mem_segments (howned _ hs') List.mem_cons_self
          | fenced r => cases hl'
    · split at ht
      · cases ht
      · exact .inl (hregions _ howned ht)

theorem tidy_ofLines {t : Token} (h : t ∈ (ofLines ls).value) : t.Tidy := by
  rcases cases_of_mem_ofLines h with ⟨r, hr, rfl⟩ | ⟨tag, rest, owned, -, -, rfl⟩
  · exact tidy_block hr
  · exact Text.getLast?_endLines rest owned

/-- The tokens of lines without a closing mark hold none. -/
theorem texts_ofLines (hls : ∀ l ∈ ls, ¬ closing <:+: l) {t : Token} (h : t ∈ (ofLines ls).value) :
    ∀ s ∈ t.texts, ¬ closing <:+: s := by
  rcases cases_of_mem_ofLines h with ⟨r, hr, rfl⟩ | ⟨tag, rest, owned, ⟨l, hl, hrest⟩, howned, rfl⟩
  · exact texts_block hls hr
  · intro s hs
    rw [List.mem_singleton.1 hs]
    refine Body.not_closing_endLines fun m hm => ?_
    rcases List.mem_cons.1 hm with rfl | hm
    · exact fun hc => hls l hl (hc.trans (Tag.infix_of_ofLine? hrest))
    · exact hls m (howned m hm)

end Token

/-! ## 6. Source texts -/

/-- Without its decoration a line is a part of itself. -/
theorem Body.undecorate_infix (line : Text) : undecorate line <:+: line := by
  have hstart : ∀ rest, line.dropWhile Tag.isIndent = rest → rest <:+: line := by
    rintro rest rfl
    exact (List.dropWhile_suffix _).isInfix
  unfold undecorate undecorate?
  split
  · exact List.nil_infix
  · rename_i c rest hrest
    have hline := hstart _ hrest
    split
    · exact List.infix_rfl
    · split
      · exact ((List.suffix_cons c rest).trans (List.suffix_cons '*' _)).isInfix.trans hline
      · exact (List.suffix_cons '*' _).isInfix.trans hline
  · exact List.infix_rfl

/-- The lines of a body are cut out of the body. -/
theorem Body.infix_of_mem_lines {body l : Text} (h : l ∈ lines body) : l <:+: body := by
  have hraw : ∀ m ∈ rawLines body, m <:+: body := by
    intro m hm
    obtain ⟨n, hn, rfl⟩ := List.mem_map.1 hm
    refine List.IsInfix.trans ?_ (Text.infix_of_mem_splitLines hn)
    unfold dropReturn
    split
    · exact (List.dropLast_prefix n).isInfix
    · exact List.infix_rfl
  have hmem := dropFraming_subset h
  split at hmem
  · obtain ⟨m, hm, rfl⟩ := List.mem_map.1 hmem
    exact (Body.undecorate_infix m).trans (hraw m hm)
  · exact hraw l hmem

/-- A pattern of a source text is one of a comment body, in which no comment is closed. -/
theorem Source.exists_body_of_mem_patterns {source : Text} {p : Pattern} (h : p ∈ patterns source) :
    ∃ body, ¬ closing <:+: body ∧ p ∈ (readBody body).value := by
  rw [patterns_eq] at h
  obtain ⟨body, hbody, hp⟩ := List.mem_flatMap.1 h
  obtain ⟨c, -, rfl⟩ := List.mem_map.1 hbody
  exact ⟨c.body, c.body_free, hp⟩

/-- The patterns of a body without a closing mark are tidy, and hold no closing mark. -/
theorem Source.tidy_readBody {body : Text} (hbody : ¬ closing <:+: body) {p : Pattern}
    (hp : p ∈ (readBody body).value) : p.Tidy ∧ ∀ t ∈ p.texts, ¬ closing <:+: t := by
  have hlines : ∀ l ∈ Body.lines body, ¬ closing <:+: l :=
    fun l hl hc => hbody (hc.trans (Body.infix_of_mem_lines hl))
  exact Pattern.tidy_ofTokens (P := fun t => ¬ closing <:+: t)
    (fun hpart ht hc => ht (hc.trans hpart)) (by decide) (fun t ht => Token.tidy_ofLines ht)
    (fun t ht => Token.texts_ofLines hlines ht) hp

/-- **Every pattern that is read is tidy**, whatever the source text, and the mark that closes
    comments stands in none of its texts. -/
theorem Source.tidy_of_mem_patterns {source : Text} {p : Pattern} (h : p ∈ patterns source) :
    p.Tidy ∧ ∀ t ∈ p.texts, ¬ closing <:+: t := by
  obtain ⟨body, hbody, hp⟩ := exists_body_of_mem_patterns h
  exact tidy_readBody hbody hp

/-- A comment with unclosed groups, a separator without a value, a height that is too large and code
    that is never closed. -/
def Comments.malformed : Text := List.flatten <| List.map String.toList
  ["/** @pattern  Menu \n * @param \x7bA [b= c\n * @param [ x=] - y \n * @meta todos -\n",
    " * @meta k - - v \n * @exampleHeight 7\n * @example\n * @exampleHeight 4294967296\n",
    " * \x60\x60\x60js\n * a */"]

/-- What is read from it. -/
def Pattern.salvaged : Pattern where
  name := "Menu".toList
  metadata := { entries := .ofList [("k".toList, "- v".toList)], todos := [[]] }
  parameters := [⟨"\x7bA".toList, [], true, none, []⟩, ⟨"x".toList, [], false, some [], "y".toList⟩]
  examples := [⟨[], none, [⟨some "js".toList, "a".toList⟩]⟩]

/-- The pattern is read, and is tidy. -/
theorem tidy_salvaged : Pattern.salvaged ∈ Source.patterns Comments.malformed ∧
    Pattern.salvaged.Tidy ∧ ∀ t ∈ Pattern.salvaged.texts, ¬ closing <:+: t := by
  have h : Pattern.salvaged ∈ Source.patterns Comments.malformed := by decide +kernel
  exact ⟨h, Source.tidy_of_mem_patterns h⟩

end PatternBook
