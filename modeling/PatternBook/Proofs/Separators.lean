import Mathlib.Data.List.Forall2
import PatternBook.Proofs.Tidy

/-!
# The separators of a metadata entry

White space separates the key of an entry from its value, and so does a dash between white space. This
file says how far the two are the same:

* `Payload.entry?_of_word` -- an entry is its first word and what is made of the rest, whatever white
  space stands around the two;
* `Payload.entryValue_eq_self_iff` -- the rest is the value as it stands, unless it would be taken for
  a separator itself: this is so of a lone dash, and of a dash before a space;
* `Token.Alike`, `Pattern.ofTokens_alike` -- tokens that do the same to every record can stand for one
  another;
* `Payload.entry?_separators` -- so values outside that exception can be written with either separator,
  and the record says the same.
-/

namespace PatternBook

open Payload

/-! ## 1. Keys and values -/

namespace Payload

/-- What follows a key is its value, unless it is a dash or starts with a dash and a space. -/
theorem entryValue_eq_self_iff {rest : Text} :
    entryValue rest = rest ↔ rest ≠ ['-'] ∧ ¬ ['-', ' '] <+: rest := by
  unfold entryValue
  split
  · rename_i value hvalue
    obtain rfl := Text.dropStart?_eq_some_iff.1 hvalue
    refine ⟨fun h => ?_, fun h => absurd (List.prefix_append _ _) h.2⟩
    -- the dash and the space are gone
    have hlength := congrArg List.length h
    have hle := Text.length_trimStart_le value
    simp only [List.length_append, List.length_cons, List.length_nil] at hlength
    omega
  · rename_i hnone
    have hprefix := Text.dropStart?_eq_none_iff.1 hnone
    by_cases hdash : rest = ['-']
    · simp [hdash]
    · simp [hdash, hprefix]

/-- The entry of a payload is its first word, and the value that the rest gives. -/
theorem entry?_of_word {before key rest : Text} (hbefore : before.isAllBlank = true)
    (hkey : key.IsWord) (hrest : ∀ c ∈ rest.head?, Text.isBlank c = true) :
    entry? (before ++ key ++ rest) = some (key, entryValue rest.trim) := by
  have hend : ∀ c ∈ rest.trimEnd.head?, Text.isBlank c = true := fun c hc =>
    hrest c (Text.mem_head?_of_trimEnd hc)
  rw [entry?_of_trim (Text.trim_append_of_isWord hbefore hkey rest) hkey hend, Text.trim_trimEnd]

/-- Only a payload of white space has no entry. -/
theorem entry?_eq_none_iff {payload : Text} : entry? payload = none ↔ payload.isAllBlank = true := by
  rw [← Text.trim_eq_nil_iff, ← List.isEmpty_iff]
  unfold entry?
  dsimp only
  split <;> simp_all

end Payload

/-! ## 2. Tokens that do the same -/

/-- Two tokens do the same: neither opens a record, or both open one with the same payload; outside of
    records both have the same event; and within a record both do the same to it. -/
structure Token.Alike (t u : Token) : Prop where
  record : t.record? = u.record?
  outside : t.outsideEvent? = u.outsideEvent?
  step : ∀ d : Draft, d.step t = d.step u

theorem Token.Alike.refl (t : Token) : t.Alike t := ⟨rfl, rfl, fun _ => rfl⟩

/-- Metadata tags with the same entry do the same. -/
theorem Token.alike_metadata {payload payload' : Text} (h : entry? payload = entry? payload') :
    (Token.tag .metadata payload).Alike (.tag .metadata payload') where
  record := rfl
  outside := rfl
  step d := by
    simp only [Draft.step, Draft.writeTag, h]

theorem Draft.steps_alike {ts us : List Token} (h : List.Forall₂ Token.Alike ts us) (d : Draft) :
    d.steps ts = d.steps us := by
  induction h generalizing d with
  | nil => rfl
  | cons htu _ ih => rw [steps, steps, htu.step, ih]

/-- Lists whose elements are related one by one, headings to equal headings, have related groups. -/
theorem forall₂_groupAt {α β : Type} {heading? : α → Option β} {R : α → α → Prop}
    (hR : ∀ a b, R a b → heading? a = heading? b) {l m : List α} (h : List.Forall₂ R l m) :
    List.Forall₂ R (groupAt heading? l).1 (groupAt heading? m).1 ∧
      List.Forall₂ (fun g k => g.1 = k.1 ∧ List.Forall₂ R g.2 k.2)
        (groupAt heading? l).2 (groupAt heading? m).2 := by
  induction h with
  | nil => exact ⟨.nil, .nil⟩
  | @cons a b l m hab _ ih =>
    have hb := hR a b hab
    cases ha : heading? a with
    | none =>
      rw [ha] at hb
      rw [groupAt_cons_plain l ha, groupAt_cons_plain m hb.symm]
      exact ⟨.cons hab ih.1, ih.2⟩
    | some heading =>
      rw [ha] at hb
      rw [groupAt_cons_heading l ha, groupAt_cons_heading m hb.symm]
      exact ⟨.nil, .cons ⟨rfl, ih.1⟩ ih.2⟩

namespace Pattern

theorem filterMap_outsideEvent?_alike {ts us : List Token} (h : List.Forall₂ Token.Alike ts us) :
    ts.filterMap Token.outsideEvent? = us.filterMap Token.outsideEvent? := by
  induction h with
  | nil => rfl
  | cons htu _ ih => rw [List.filterMap_cons, List.filterMap_cons, htu.outside, ih]

theorem map_ofRecord_alike {records records' : List (Text × List Token)}
    (h : List.Forall₂ (fun r r' => r.1 = r'.1 ∧ List.Forall₂ Token.Alike r.2 r'.2) records records') :
    records.map ofRecord = records'.map ofRecord := by
  induction h with
  | nil => rfl
  | @cons r r' _ _ hr _ ih =>
    obtain ⟨payload, owned⟩ := r
    obtain ⟨payload', owned'⟩ := r'
    obtain ⟨rfl, howned⟩ := hr
    rw [List.map_cons, List.map_cons, ih, ofRecord, ofRecord, filterMap_outsideEvent?_alike howned,
      Draft.steps_alike howned]

/-- Tokens that do the same one by one have the same patterns and the same events. -/
theorem ofTokens_alike {ts us : List Token} (h : List.Forall₂ Token.Alike ts us) :
    ofTokens ts = ofTokens us := by
  obtain ⟨hlead, hrecords⟩ := forall₂_groupAt (fun _ _ ht => ht.record) h
  simp only [ofTokens, map_ofRecord_alike hrecords, filterMap_outsideEvent?_alike hlead]

end Pattern

/-! ## 3. The two separators -/

/-- **The two separators of an entry.** Only a blank payload has no entry, and any other has a word as
    its key and a trimmed value. A key and a trimmed value with a dash between them are read as they
    are, whatever white space stands around the three. Without the dash they are so exactly if the value
    is neither a dash nor starts with a dash and a space; and then a `@meta` tag with either separator
    makes the same of all tokens among which it stands. -/
theorem Payload.entry?_separators :
    (∀ payload : Text, entry? payload = none ↔ payload.isAllBlank = true) ∧
    (∀ payload key value, entry? payload = some (key, value) → key.IsWord ∧ value.trim = value) ∧
    ∀ before key gap gap' value after : Text, before.isAllBlank = true → key.IsWord →
      gap ≠ [] → gap.isAllBlank = true → gap'.isAllBlank = true → value.trim = value →
      after.isAllBlank = true →
      let dashed := before ++ key ++ gap ++ ['-', ' '] ++ gap' ++ value ++ after
      let spaced := before ++ key ++ gap ++ value ++ after
      entry? dashed = some (key, value) ∧
      ( entry? spaced = some (key, value) ↔ value ≠ ['-'] ∧ ¬ ['-', ' '] <+: value) ∧
      (value ≠ ['-'] → ¬ ['-', ' '] <+: value → ∀ front rest,
        Pattern.ofTokens (front ++ .tag .metadata spaced :: rest) =
          Pattern.ofTokens (front ++ .tag .metadata dashed :: rest)) := by
  refine ⟨fun _ => entry?_eq_none_iff, fun payload key value h => ?_,
    fun before key gap gap' value after hbefore hkey hne hgap hgap' hvalue hafter => ?_⟩
  · obtain ⟨hk, hv, -⟩ := entry?_tidy h
    exact ⟨hk, hv⟩
  · intro dashed spaced
    -- the white space behind the key is trimmed away with that behind the value
    have hentry : ∀ rest : Text, entry? (before ++ key ++ (gap ++ (rest ++ after))) =
        some (key, entryValue rest.trim) := by
      intro rest
      have hblank : ∀ c ∈ (gap ++ (rest ++ after)).head?, Text.isBlank c = true := by
        rw [List.head?_append_of_ne_nil _ hne]
        exact fun c hc => List.all_eq_true.1 hgap c (List.mem_of_mem_head? hc)
      rw [entry?_of_word hbefore hkey hblank, Text.trim_append_of_blank hgap,
        Text.trim_append_blank hafter]
    have hdashed : entry? dashed = some (key, value) := by
      have hsplit : dashed = before ++ key ++ (gap ++ ((['-', ' '] ++ gap' ++ value) ++ after)) := by
        simp [dashed]
      rw [hsplit, hentry, entryValue_dash hgap' hvalue]
    have hspaced : entry? spaced = some (key, entryValue value) := by
      have hsplit : spaced = before ++ key ++ (gap ++ (value ++ after)) := by simp [spaced]
      rw [hsplit, hentry, hvalue]
    refine ⟨hdashed, ?_, fun hdash hprefix front rest => ?_⟩
    · rw [hspaced, ← entryValue_eq_self_iff]
      simp
    · have hself := entryValue_eq_self_iff.2 ⟨hdash, hprefix⟩
      have hsame : entry? spaced = entry? dashed := by rw [hspaced, hself, hdashed]
      have hall : ∀ ts : List Token, List.Forall₂ Token.Alike ts ts := fun ts =>
        List.forall₂_same.2 fun t _ => Token.Alike.refl t
      exact Pattern.ofTokens_alike
        (List.rel_append (hall front) (.cons (Token.alike_metadata hsame) (hall rest)))

/-- White space of several kinds around an entry whose value holds dashes itself. -/
theorem Payload.entry?_separators_wide :
    entry? " version\t\u3000- \n--1.0 - beta\n".toList = some ("version".toList, "--1.0 - beta".toList) ∧
    entry? " version\t\u3000--1.0 - beta\n".toList = some ("version".toList, "--1.0 - beta".toList) ∧
    entry? " version\t\u3000- beta\n".toList ≠ some ("version".toList, "- beta".toList) := by
  obtain ⟨-, -, hboth⟩ := entry?_separators
  obtain ⟨hdashed, hspaced, -⟩ := hboth " ".toList "version".toList "\t\u3000".toList "\n".toList
    "--1.0 - beta".toList "\n".toList (by decide) (by decide) (by decide) (by decide) (by decide)
    (by decide) (by decide)
  obtain ⟨-, hexception, -⟩ := hboth " ".toList "version".toList "\t\u3000".toList "\n".toList
    "- beta".toList "\n".toList (by decide) (by decide) (by decide) (by decide) (by decide)
    (by decide) (by decide)
  have hdash : " version\t\u3000- \n--1.0 - beta\n".toList = " ".toList ++ "version".toList ++
      "\t\u3000".toList ++ ['-', ' '] ++ "\n".toList ++ "--1.0 - beta".toList ++ "\n".toList := by
    decide +kernel
  have hspace : " version\t\u3000--1.0 - beta\n".toList = " ".toList ++ "version".toList ++
      "\t\u3000".toList ++ "--1.0 - beta".toList ++ "\n".toList := by decide +kernel
  have hvalue : " version\t\u3000- beta\n".toList = " ".toList ++ "version".toList ++
      "\t\u3000".toList ++ "- beta".toList ++ "\n".toList := by decide +kernel
  rw [hdash, hspace, hvalue]
  exact ⟨hdashed, hspaced.2 (by decide), fun h => (hexception.1 h).2 (by decide)⟩

end PatternBook
