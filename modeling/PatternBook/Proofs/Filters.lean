import PatternBook.Filter
import PatternBook.Proofs.Payloads
import PatternBook.Proofs.Records
import PatternBook.Source

/-!
# What filters ask of the tags

A filter is a text, and it is asked of a pattern, whose metadata a record has written step by step.
This file says what it asks of the tags of the record:

* `Source.records` -- the records of a source text that have a name, and `Pattern.ofNamed` -- the
  pattern of such a record;
* `Token.entries` -- what the `@meta` tags of a record say, in order, and `get?_ofNamed`,
  `isDeprecated_ofNamed` -- what the metadata of its pattern makes of it;
* `Filter.IsKey` -- the keys that an expression can ask for;
* `ofText_equals`, `ofText_key`, `accepts_negated` -- how an expression is read;
* `apply_patterns` -- so a filter keeps the patterns of the records whose tags say what it asks for.
-/

namespace PatternBook

/-! ## 1. Records of a source text -/

/-- The pattern of a record that has a name. -/
def Pattern.ofNamed (r : Text × List Token) : Pattern :=
  ((Draft.mk { name := Payload.firstLine r.1 } .elsewhere).steps r.2).value.pattern

/-- The records of a source text that have a name: in each of its comments the payload of a `@pattern`
    tag with the tokens up to the next one. -/
def Source.records (source : Text) : List (Text × List Token) :=
  (Comments.scan source).bodies.flatMap fun body =>
    (groupAt Token.record? (Token.ofLines (Body.lines body)).value).2.filter fun r =>
      Payload.firstLine r.1 ≠ []

theorem Pattern.value_ofTokens (tokens : List Token) :
    (ofTokens tokens).value =
      ((groupAt Token.record? tokens).2.filter fun r => Payload.firstLine r.1 ≠ []).map ofNamed := by
  simp only [ofTokens, Logged.join]
  induction (groupAt Token.record? tokens).2 with
  | nil => rfl
  | cons r records ih =>
    obtain ⟨payload, owned⟩ := r
    rw [List.map_cons, List.flatMap_cons, ih]
    by_cases hname : Payload.firstLine payload = [] <;> simp [ofRecord, hname, ofNamed]

/-- The patterns of a source text are those of its records that have a name. -/
theorem Source.patterns_eq_records (source : Text) :
    patterns source = (records source).map Pattern.ofNamed := by
  simp only [patterns, read, Logged.join, records, List.flatMap_map, List.map_flatMap]
  exact List.flatMap_congr fun body _ => Pattern.value_ofTokens _

/-! ## 2. What the tags of a record say -/

/-- The key and the value of a `@meta` tag. -/
def Token.metadata? (t : Token) : Option (Text × Text) := (t.payload? .metadata).bind Payload.entry?

/-- The keys and the values that the `@meta` tags give, in order. -/
def Token.entries (ts : List Token) : List (Text × Text) := ts.filterMap metadata?

theorem Token.filterMap_value? (ts : List Token) (key : Text) :
    ts.filterMap (value? key) = ((entries ts).filter fun e => e.1 = key).map (·.2) := by
  have hread : value? key = fun t => ((metadata? t).filter fun e => e.1 = key).map (·.2) := by
    funext t
    show (metadata? t).bind (fun e => if e.1 = key then some e.2 else none) = _
    cases metadata? t with
    | none => rfl
    | some e => by_cases he : e.1 = key <;> simp [Option.filter, he]
  rw [hread, entries, List.filter_filterMap, List.map_filterMap]

theorem Token.exists_value?_iff {ts : List Token} {key : Text} :
    (∃ t ∈ ts, (t.value? key).isSome = true) ↔ ∃ value, (key, value) ∈ entries ts := by
  constructor
  · rintro ⟨t, ht, hvalue⟩
    obtain ⟨value, hvalue⟩ := Option.isSome_iff_exists.1 hvalue
    obtain ⟨e, he, hkey⟩ := Option.bind_eq_some_iff.1 hvalue
    split at hkey
    · rename_i hk
      exact ⟨e.2, List.mem_filterMap.2 ⟨t, ht, by rw [← hk]; exact he⟩⟩
    · cases hkey
  · rintro ⟨value, hmem⟩
    obtain ⟨t, ht, he⟩ := List.mem_filterMap.1 hmem
    refine ⟨t, ht, Option.isSome_iff_exists.2 ⟨value, ?_⟩⟩
    exact Option.bind_eq_some_iff.2 ⟨(key, value), he, if_pos rfl⟩

/-- A token calls the pattern deprecated if it is a `@deprecated` tag, or a `@meta` tag with that
    key. -/
theorem Token.isSome_deprecated?_iff (t : Token) : t.deprecated?.isSome = true ↔
    (∃ payload, t = .tag .deprecated payload) ∨ (t.value? "deprecated".toList).isSome = true := by
  unfold deprecated?
  split
  · simp
  · rename_i hother
    refine ⟨.inr, ?_⟩
    rintro (⟨payload, rfl⟩ | h)
    · exact absurd rfl (hother payload)
    · exact h

namespace Pattern

/-- A key that has no place of its own has the value of the last `@meta` tag with that key. -/
theorem get?_ofNamed (r : Text × List Token) {key : Text} (h : Metadata.isReserved key = false) :
    (ofNamed r).metadata.get? key =
      ((Token.entries r.2).filter fun e => e.1 = key).getLast?.map (·.2) := by
  rw [← List.getLast?_map, ← Token.filterMap_value?]
  exact (Draft.steps_last_or (·.metadata.get? key)
    (fun d t => (Draft.takes_step d t).entries key h) _ r.2).trans Option.or_none

/-- A key that has a place of its own has no value among the others. -/
theorem get?_ofNamed_reserved (r : Text × List Token) {key : Text}
    (h : Metadata.isReserved key = true) : (ofNamed r).metadata.get? key = none :=
  Draft.steps_kept (·.metadata.get? key) (fun d t => (Draft.takes_step d t).reserved key h) _ r.2

/-- A pattern is deprecated if one of its tags says so. -/
theorem isDeprecated_ofNamed (r : Text × List Token) : (ofNamed r).metadata.isDeprecated = true ↔
    (∃ payload, .tag .deprecated payload ∈ r.2) ∨
      ∃ value, ("deprecated".toList, value) ∈ Token.entries r.2 := by
  have hdeprecated : (ofNamed r).metadata.deprecated =
      (r.2.filterMap Token.deprecated?).getLast? :=
    (Draft.steps_last_or (·.metadata.deprecated)
      (fun d t => (Draft.takes_step d t).deprecated) _ r.2).trans Option.or_none
  have hreasons : (ofNamed r).metadata.isDeprecated = true ↔
      ∃ t ∈ r.2, t.deprecated?.isSome = true := by
    rw [Metadata.isDeprecated, hdeprecated, List.getLast?_isSome, Ne, List.filterMap_eq_nil_iff]
    simp [Option.isSome_iff_ne_none]
  rw [hreasons, ← Token.exists_value?_iff]
  constructor
  · rintro ⟨t, ht, hsome⟩
    rcases t.isSome_deprecated?_iff.1 hsome with ⟨payload, rfl⟩ | hvalue
    · exact .inl ⟨payload, ht⟩
    · exact .inr ⟨t, ht, hvalue⟩
  · rintro (⟨payload, ht⟩ | ⟨t, ht, hvalue⟩)
    · exact ⟨_, ht, rfl⟩
    · exact ⟨t, ht, t.isSome_deprecated?_iff.2 (.inr hvalue)⟩

end Pattern

namespace Filter

/-! ## 3. How expressions are read -/

/-- A key that an expression can ask for: a word that is neither cut nor turned around, and has no
    place of its own in the metadata. -/
structure IsKey (k : Text) : Prop where
  word : k.IsWord
  no_equals : '=' ∉ k
  no_mark : k.head? ≠ some '!'
  ne_deprecated : k ≠ "deprecated".toList
  ne_todos : k ≠ "todos".toList

instance (k : Text) : Decidable (IsKey k) :=
  decidable_of_iff (k.IsWord ∧ '=' ∉ k ∧ k.head? ≠ some '!' ∧ k ≠ "deprecated".toList ∧
      k ≠ "todos".toList)
    ⟨fun ⟨h₁, h₂, h₃, h₄, h₅⟩ => ⟨h₁, h₂, h₃, h₄, h₅⟩, fun h =>
      ⟨h.word, h.no_equals, h.no_mark, h.ne_deprecated, h.ne_todos⟩⟩

theorem IsKey.not_isReserved {k : Text} (h : IsKey k) : Metadata.isReserved k = false := by
  rw [Metadata.isReserved, Bool.or_eq_false_iff, beq_eq_false_iff_ne, beq_eq_false_iff_ne]
  exact ⟨h.ne_todos, h.ne_deprecated⟩

theorem ofText_of_head? {e : Text} (h : e.head? ≠ some '!') : ofText e = ⟨false, .ofText e⟩ := by
  unfold ofText
  split
  · exact absurd rfl h
  · rfl

/-- An expression with an equals sign is cut at the first one. -/
theorem ofText_equals {k : Text} (hequals : '=' ∉ k) (hmark : k.head? ≠ some '!') (v : Text) :
    ofText (k ++ '=' :: v) = ⟨false, .equals k.trim v.trim⟩ := by
  have hhead : (k ++ '=' :: v).head? ≠ some '!' := by
    cases k with
    | nil =>
      rw [List.nil_append, List.head?_cons]
      decide
    | cons c k => exact hmark
  have hword : k ++ '=' :: v ≠ "deprecated".toList := by
    intro h
    have hmem : '=' ∈ k ++ '=' :: v := List.mem_append_right k List.mem_cons_self
    rw [h] at hmem
    exact absurd hmem (by decide)
  rw [ofText_of_head? hhead, Condition.ofText, if_neg hword,
    Text.cut?_single_iff.2 ⟨rfl, hequals⟩]

/-- An expression without an equals sign asks for a key. -/
theorem ofText_key {k : Text} (hequals : '=' ∉ k) (hmark : k.head? ≠ some '!')
    (hword : k ≠ "deprecated".toList) : ofText k = ⟨false, .present k⟩ := by
  have hcut : k.cut? ['='] = none := by
    rw [Text.cut?_eq_none_iff (List.cons_ne_nil _ _), List.singleton_infix_iff]
    exact hequals
  rw [ofText_of_head? hmark, Condition.ofText, if_neg hword, hcut]

/-- An exclamation mark turns an expression around. -/
theorem accepts_negated {e : Text} (h : e.head? ≠ some '!') (p : Pattern) :
    (ofText ('!' :: e)).accepts p = !(ofText e).accepts p := by
  rw [ofText_of_head? h]
  simp [ofText, accepts]

/-- A value is asked of the key before the equals sign. -/
theorem accepts_equals {k : Text} (hequals : '=' ∉ k) (hmark : k.head? ≠ some '!')
    (htrim : k.trim = k) (v : Text) (p : Pattern) :
    (ofText (k ++ '=' :: v)).accepts p = true ↔ p.metadata.get? k = some v.trim := by
  rw [ofText_equals hequals hmark, htrim]
  simp [accepts, Condition.holds]

/-! ## 4. Filters and tags -/

/-- The value of a key is that of the last `@meta` tag with the key. -/
theorem accepts_equals_ofNamed {k v : Text} (hk : IsKey k) (hv : v.trim = v)
    (r : Text × List Token) : (ofText (k ++ '=' :: v)).accepts (Pattern.ofNamed r) = true ↔
      ((Token.entries r.2).filter fun e => e.1 = k).getLast? = some (k, v) := by
  rw [accepts_equals hk.no_equals hk.no_mark hk.word.isPhrase.trimmed, hv,
    Pattern.get?_ofNamed r hk.not_isReserved, Option.map_eq_some_iff]
  constructor
  · rintro ⟨e, he, rfl⟩
    have hkey : e.1 = k := by simpa using (List.mem_filter.1 (List.mem_of_getLast? he)).2
    rw [he, ← hkey]
  · exact fun he => ⟨(k, v), he, rfl⟩

/-- A key is present if some `@meta` tag has it. -/
theorem accepts_key_ofNamed {k : Text} (hk : IsKey k) (r : Text × List Token) :
    (ofText k).accepts (Pattern.ofNamed r) = true ↔ ∃ v, (k, v) ∈ Token.entries r.2 := by
  have hsome : (ofText k).accepts (Pattern.ofNamed r) =
      ((Pattern.ofNamed r).metadata.get? k).isSome := by
    rw [ofText_key hk.no_equals hk.no_mark hk.ne_deprecated]
    simp [accepts, Condition.holds]
  rw [hsome, Pattern.get?_ofNamed r hk.not_isReserved, Option.isSome_map, List.getLast?_isSome]
  simp [List.filter_eq_nil_iff]

/-- A key that has a place of its own never has a value among the others. -/
theorem accepts_reserved {k : Text} (hk : Metadata.isReserved k = true) (v : Text)
    (r : Text × List Token) : (ofText (k ++ '=' :: v)).accepts (Pattern.ofNamed r) = false := by
  have hkey : '=' ∉ k ∧ k.head? ≠ some '!' ∧ k.trim = k := by
    rw [Metadata.isReserved, Bool.or_eq_true, beq_iff_eq, beq_iff_eq] at hk
    rcases hk with rfl | rfl <;> decide
  obtain ⟨hequals, hmark, htrim⟩ := hkey
  rw [Bool.eq_false_iff, Ne, accepts_equals hequals hmark htrim, Pattern.get?_ofNamed_reserved r hk]
  exact (Option.some_ne_none v.trim).symm

/-- Which patterns are left depends on which filters there are, and not on their order. -/
theorem apply_congr {filters others : List Filter} (h : ∀ f, f ∈ others ↔ f ∈ filters)
    (patterns : List Pattern) : apply others patterns = apply filters patterns := by
  refine List.filter_congr fun p _ => ?_
  rw [Bool.eq_iff_iff, List.all_eq_true, List.all_eq_true]
  exact forall_congr' fun f => imp_congr_left (h f)

/-- **Filters mean what the tags say.** The patterns that are left of a source text are those of the
    records that satisfy all expressions, in order, whatever the order of the expressions and however
    often each is given. A key with a value asks what the last `@meta` tag with the key says, a key alone
    whether there is such a tag. The word `deprecated` asks for a `@deprecated` tag or a `@meta` tag
    with that key, and an exclamation mark turns an expression around. The two keys that have a place of
    their own never have a value. -/
theorem apply_patterns (source : Text) (expressions : List Text) :
    Source.patterns source = (Source.records source).map Pattern.ofNamed ∧
    apply (expressions.map ofText) (Source.patterns source) =
      ((Source.records source).filter fun r =>
        expressions.all fun e => (ofText e).accepts (Pattern.ofNamed r)).map Pattern.ofNamed ∧
    (∀ others : List Text, (∀ e, e ∈ others ↔ e ∈ expressions) →
      apply (others.map ofText) (Source.patterns source) =
        apply (expressions.map ofText) (Source.patterns source)) ∧
    ∀ r ∈ Source.records source,
      (∀ k v : Text, IsKey k → v.trim = v →
        ((ofText (k ++ '=' :: v)).accepts (Pattern.ofNamed r) = true ↔
          ((Token.entries r.2).filter fun e => e.1 = k).getLast? = some (k, v))) ∧
      (∀ k, IsKey k → ((ofText k).accepts (Pattern.ofNamed r) = true ↔
        ∃ v, (k, v) ∈ Token.entries r.2)) ∧
      ((ofText "deprecated".toList).accepts (Pattern.ofNamed r) = true ↔
        (∃ payload, .tag .deprecated payload ∈ r.2) ∨
          ∃ v, ("deprecated".toList, v) ∈ Token.entries r.2) ∧
      (∀ e : Text, e.head? ≠ some '!' → ((ofText ('!' :: e)).accepts (Pattern.ofNamed r) = true ↔
        ¬ (ofText e).accepts (Pattern.ofNamed r) = true)) ∧
      (ofText "todos".toList).accepts (Pattern.ofNamed r) = false ∧
      ∀ v, (ofText ("todos".toList ++ '=' :: v)).accepts (Pattern.ofNamed r) = false ∧
        (ofText ("deprecated".toList ++ '=' :: v)).accepts (Pattern.ofNamed r) = false := by
  refine ⟨Source.patterns_eq_records source, ?_, fun others hothers => ?_, fun r _ => ⟨fun k v hk hv =>
    accepts_equals_ofNamed hk hv r, fun k hk => accepts_key_ofNamed hk r, ?_, fun e he => ?_, ?_,
    fun v => ⟨accepts_reserved rfl v r, accepts_reserved rfl v r⟩⟩⟩
  · rw [Source.patterns_eq_records, apply, List.filter_map]
    simp only [List.all_map, Function.comp_def]
  · refine apply_congr (fun f => ?_) _
    simp only [List.mem_map, hothers]
  · rw [ofText_of_head? (by decide), Condition.ofText, if_pos rfl, ← Pattern.isDeprecated_ofNamed]
    simp [accepts, Condition.holds]
  · rw [accepts_negated he, Bool.not_eq_true', Bool.not_eq_true]
  · rw [ofText_key (by decide) (by decide) (by decide), accepts, Condition.holds,
      Pattern.get?_ofNamed_reserved r rfl]
    rfl

/-- A comment that gives a key twice, and a key that has a place of its own. -/
def tagged : Text :=
  "/* @pattern Card\n@meta status draft\n@meta status - a=b\n@meta deprecated Use Tile */".toList

/-- The tokens of its record. -/
def taggedTokens : List Token :=
  [.tag .metadata "status draft\n".toList, .tag .metadata "status - a=b\n".toList,
   .tag .metadata "deprecated Use Tile \n".toList]

/-- Its pattern is kept for the second value, and left out for its being deprecated. -/
theorem apply_patterns_tagged :
    apply (["!todos".toList, "status=a=b".toList, "!todos".toList].map ofText)
      (Source.patterns tagged) = Source.patterns tagged ∧
    (ofText "status=draft".toList).accepts (Pattern.ofNamed ("Card\n".toList, taggedTokens)) =
      false ∧
    (ofText "!deprecated".toList).accepts (Pattern.ofNamed ("Card\n".toList, taggedTokens)) =
      false := by
  have hrecords : Source.records tagged = [("Card\n".toList, taggedTokens)] := by decide +kernel
  have hkey : IsKey "status".toList := by decide +kernel
  have hordered : ∀ e : Text, e ∈ ["!todos".toList, "status=a=b".toList, "!todos".toList] ↔
      e ∈ ["status=a=b".toList, "!todos".toList] := by
    intro e
    simp only [List.mem_cons, List.not_mem_nil, or_false]
    exact ⟨fun h => h.elim .inr id, fun h => h.elim (fun he => .inr (.inl he)) .inl⟩
  obtain ⟨hpatterns, hkept, hothers, hmeaning⟩ :=
    apply_patterns tagged ["status=a=b".toList, "!todos".toList]
  obtain ⟨hequals, -, hdeprecated, hnegated, htodos, -⟩ :=
    hmeaning ("Card\n".toList, taggedTokens) (by rw [hrecords]; exact List.mem_cons_self)
  have hvalue := (hequals _ _ hkey (show Text.trim "a=b".toList = "a=b".toList by decide)).2
    (by decide +kernel)
  have hdraft := (hequals _ _ hkey (show Text.trim "draft".toList = "draft".toList by decide)).not.2
    (by decide +kernel)
  have hopen := (hnegated "todos".toList (by decide)).2 (by rw [htodos]; exact Bool.false_ne_true)
  refine ⟨?_, Bool.eq_false_iff.2 hdraft, Bool.eq_false_iff.2 fun h => ?_⟩
  · rw [hothers _ hordered, hkept, hpatterns, hrecords]
    have hall : ["status=a=b".toList, "!todos".toList].all (fun e =>
        (ofText e).accepts (Pattern.ofNamed ("Card\n".toList, taggedTokens))) = true := by
      rw [List.all_cons, List.all_cons, List.all_nil, Bool.and_true, Bool.and_eq_true]
      exact ⟨hvalue, hopen⟩
    rw [List.filter_cons, if_pos hall]
    rfl
  · refine (hnegated "deprecated".toList (by decide)).1 h (hdeprecated.2 (.inr ?_))
    exact ⟨"Use Tile".toList, by decide +kernel⟩

end Filter

end PatternBook
