import Mathlib.Data.List.Nodup
import Mathlib.Data.List.Perm.Subperm
import Mathlib.Data.Nat.Find
import Std.Data.TreeMap.Lemmas
import PatternBook.Document.Anchor

/-!
# The rule for anchors

The anchor of a heading is the first of `base`, `base-1`, `base-2`, ... that has not been given out
before, `base` being its slug. This file states the rule on the list of the anchors given out so far
and shows that `Anchors`, which remembers numbers instead, follows it:

* `firstUnused` -- the rule for one heading, and `ruleAnchors` -- for headings in turn;
* `nodup_ruleAnchors` -- under the rule no anchor is given out twice;
* `Anchors.Tracks` -- what the remembered numbers have to do with the anchors given out: exactly the
  taken anchors are keys, and all numbers up to a remembered one are taken;
* `tracks_claim` -- handing out one anchor follows the rule and keeps that relation, since the search
  starts behind numbers that are taken and goes on long enough to find a free one;
* `tracks_claimAll` -- so the anchors of headings in turn are those of the rule;
* `Anchors.claimAll_fresh` -- hence each anchor is the first one that is free, none is handed out
  twice, and the search always ends.
-/

namespace PatternBook

open Anchors (numbered)

/-! ## 1. Numbers -/

/-- Different numbers make different anchors. -/
theorem numbered_injective (base : Text) : Function.Injective (numbered base) := by
  intro m n h
  cases m with
  | zero =>
    cases n with
    | zero => rfl
    | succ n =>
      have hlen := congrArg List.length h
      simp only [numbered, List.length_append, List.length_singleton] at hlen
      omega
  | succ m =>
    cases n with
    | zero =>
      have hlen := congrArg List.length h
      simp only [numbered, List.length_append, List.length_singleton] at hlen
      omega
    | succ n =>
      have hdigits : Text.decimal (m + 1) = Text.decimal (n + 1) := List.append_cancel_left h
      have hvalue := congrArg (fun ds => Nat.ofDigitChars 10 ds 0) hdigits
      simpa only [Text.decimal, Nat.ofDigitChars_ten_toDigits] using hvalue

/-- Of more anchors than a list has elements one is not in the list. -/
theorem exists_unused_from (taken : List Text) (base : Text) (start : Nat) :
    ∃ n, start ≤ n ∧ n ≤ start + taken.length ∧ numbered base n ∉ taken := by
  by_contra hall
  push Not at hall
  have hsub : (List.range' start (taken.length + 1)).map (numbered base) ⊆ taken := by
    intro a ha
    obtain ⟨n, hn, rfl⟩ := List.mem_map.1 ha
    obtain ⟨hlow, hhigh⟩ := List.mem_range'_1.1 hn
    exact hall n hlow (by omega)
  have hnodup := List.Nodup.map (numbered_injective base) (List.nodup_range' (s := start)
    (n := taken.length + 1))
  have hlen := hnodup.length_le_of_subset hsub
  simp only [List.length_map, List.length_range'] at hlen
  omega

theorem exists_unused (taken : List Text) (base : Text) : ∃ n, numbered base n ∉ taken := by
  obtain ⟨n, -, -, hn⟩ := exists_unused_from taken base 0
  exact ⟨n, hn⟩

/-! ## 2. The rule -/

/-- The first of `base`, `base-1`, `base-2`, ... that is not taken. -/
def firstUnused (taken : List Text) (base : Text) : Text :=
  numbered base (Nat.find (exists_unused taken base))

/-- The anchors of headings in turn, when the given ones are taken. -/
def ruleAnchors (taken : List Text) : List Text → List Text
  | [] => []
  | heading :: rest =>
    let anchor := firstUnused taken (slug heading)
    anchor :: ruleAnchors (anchor :: taken) rest

theorem firstUnused_notMem (taken : List Text) (base : Text) : firstUnused taken base ∉ taken :=
  Nat.find_spec (exists_unused taken base)

/-- A number whose anchor is free, below which all anchors are taken, is the one of the rule. -/
theorem firstUnused_eq {taken : List Text} {base : Text} {n : Nat} (hfree : numbered base n ∉ taken)
    (htaken : ∀ m < n, numbered base m ∈ taken) : firstUnused taken base = numbered base n := by
  have hn : Nat.find (exists_unused taken base) = n :=
    (Nat.find_eq_iff _).2 ⟨hfree, fun m hm => not_not_intro (htaken m hm)⟩
  rw [firstUnused, hn]

theorem length_ruleAnchors (taken headings : List Text) :
    (ruleAnchors taken headings).length = headings.length := by
  induction headings generalizing taken with
  | nil => rfl
  | cons heading rest ih => rw [ruleAnchors, List.length_cons, ih, List.length_cons]

/-- The anchors given out for the first headings are taken for the others. -/
theorem ruleAnchors_append (taken hs ks : List Text) :
    ruleAnchors taken (hs ++ ks) =
      ruleAnchors taken hs ++ ruleAnchors ((ruleAnchors taken hs).reverse ++ taken) ks := by
  induction hs generalizing taken with
  | nil => rfl
  | cons heading rest ih => simp [ruleAnchors, ih]

/-- **The rule gives no anchor out twice**, and none that is taken. -/
theorem nodup_ruleAnchors (taken headings : List Text) :
    (ruleAnchors taken headings).Nodup ∧ ∀ a ∈ ruleAnchors taken headings, a ∉ taken := by
  induction headings generalizing taken with
  | nil => exact ⟨List.nodup_nil, nofun⟩
  | cons heading rest ih =>
    obtain ⟨hnodup, hfree⟩ := ih (firstUnused taken (slug heading) :: taken)
    refine ⟨List.nodup_cons.2 ⟨fun hm => hfree _ hm List.mem_cons_self, hnodup⟩, fun a ha => ?_⟩
    rcases List.mem_cons.1 ha with rfl | ha
    · exact firstUnused_notMem taken _
    · exact fun hm => hfree a ha (List.mem_cons_of_mem _ hm)

/-! ## 3. Anchors that are remembered by numbers -/

namespace Anchors

/-- The remembered numbers fit the anchors given out: these are the keys, and of each key all numbers
    up to the remembered one have been given out. -/
structure Tracks (used : Anchors) (taken : List Text) : Prop where
  isTaken_iff : ∀ a, used.isTaken a = true ↔ a ∈ taken
  tried : ∀ base n, used.counts[base]? = some n → ∀ m ≤ n, numbered base m ∈ taken

/-- At the beginning nothing is given out. -/
theorem tracks_empty : Tracks {} [] where
  isTaken_iff := by simp [isTaken]
  tried := by simp

/-- The search stops at the first free number, if there is one among its tries. -/
theorem firstFree_spec {used : Anchors} {base : Text} {tries start n : Nat} (hstart : start ≤ n)
    (hn : n < start + tries) (hfree : used.isTaken (numbered base n) = false) :
    used.isTaken (numbered base (used.firstFree base tries start)) = false ∧
      ∀ m, start ≤ m → m < used.firstFree base tries start →
        used.isTaken (numbered base m) = true := by
  induction tries generalizing start with
  | zero => omega
  | succ tries ih =>
    unfold firstFree
    split
    · rename_i htaken
      have hne : start ≠ n := by
        rintro rfl
        rw [hfree] at htaken
        cases htaken
      obtain ⟨hfound, hbelow⟩ := ih (show start + 1 ≤ n by omega) (by omega)
      refine ⟨hfound, fun m hlow hhigh => ?_⟩
      by_cases hm : m = start
      · rw [hm]
        exact htaken
      · exact hbelow m (by omega) hhigh
    · rename_i htaken
      refine ⟨Bool.eq_false_iff.2 htaken, fun m hlow hhigh => ?_⟩
      omega

/-- There are enough tries: one more than there are taken anchors. -/
theorem exists_free (used : Anchors) (base : Text) : ∃ n, used.start base ≤ n ∧
    n < used.start base + (used.counts.size + 1) ∧ used.isTaken (numbered base n) = false := by
  obtain ⟨n, hlow, hhigh, hn⟩ := exists_unused_from used.counts.keys base (used.start base)
  refine ⟨n, hlow, ?_, Bool.eq_false_iff.2 fun htaken => hn ?_⟩
  · rw [Std.TreeMap.length_keys] at hhigh
    omega
  · exact Std.TreeMap.mem_keys.2 (Std.TreeMap.contains_iff_mem.1 htaken)

section Claim

variable {used : Anchors} {taken : List Text} (h : used.Tracks taken)
include h

/-- Numbers below the start of the search are taken. -/
theorem Tracks.of_lt_start {base : Text} {m : Nat} (hm : m < used.start base) :
    numbered base m ∈ taken := by
  unfold start at hm
  split at hm
  · omega
  · rename_i n hn
    exact h.tried base n hn m (by omega)

/-- The number that is found is the first one whose anchor is not taken. -/
theorem Tracks.next_spec (base : Text) : numbered base (used.next base) ∉ taken ∧
    ∀ m < used.next base, numbered base m ∈ taken := by
  obtain ⟨n, hlow, hhigh, hfree⟩ := used.exists_free base
  obtain ⟨hfound, hbelow⟩ := firstFree_spec hlow hhigh hfree
  refine ⟨fun hm => ?_, fun m hm => ?_⟩
  · have htaken := (h.isTaken_iff _).2 hm
    rw [next] at htaken
    rw [hfound] at htaken
    cases htaken
  · by_cases hs : m < used.start base
    · exact h.of_lt_start hs
    · exact (h.isTaken_iff _).1 (hbelow m (by omega) hm)

/-- **Handing out an anchor follows the rule**, and the anchor is remembered. -/
theorem tracks_claim (heading : Text) :
    (used.claim heading).1 = firstUnused taken (slug heading) ∧
      (used.claim heading).2.Tracks (firstUnused taken (slug heading) :: taken) := by
  obtain ⟨hfree, hbelow⟩ := h.next_spec (slug heading)
  rw [firstUnused_eq hfree hbelow]
  refine ⟨rfl, ?_, ?_⟩
  · -- the slug is a new key only if it is the anchor itself
    have hslug : slug heading = numbered (slug heading) (used.next (slug heading)) ∨
        slug heading ∈ taken := by
      cases hn : used.next (slug heading) with
      | zero => exact .inl rfl
      | succ n => exact .inr (hbelow 0 (by omega))
    intro a
    have ha := h.isTaken_iff a
    simp only [isTaken] at ha
    simp only [isTaken, claim, Std.TreeMap.contains_insert, Bool.or_eq_true, beq_iff_eq,
      Std.LawfulEqCmp.compare_eq_iff_eq, ha, List.mem_cons]
    grind
  · intro base n hn m hm
    simp only [claim, Std.TreeMap.getElem?_insert, Std.LawfulEqCmp.compare_eq_iff_eq] at hn
    split at hn
    · rename_i hanchor
      obtain rfl : m = 0 := by
        have hzero := Option.some.inj hn
        omega
      rw [hanchor]
      exact List.mem_cons_self
    · split at hn
      · rename_i hbase
        subst hbase
        obtain rfl := Option.some.inj hn
        rcases Nat.lt_or_eq_of_le hm with hlt | rfl
        · exact List.mem_cons_of_mem _ (hbelow m hlt)
        · exact List.mem_cons_self
      · exact List.mem_cons_of_mem _ (h.tried base n hn m hm)

end Claim

/-- **The anchors of headings in turn are those of the rule.** -/
theorem tracks_claimAll {used : Anchors} {taken : List Text} (h : used.Tracks taken)
    (headings : List Text) : (used.claimAll headings).1 = ruleAnchors taken headings ∧
      (used.claimAll headings).2.Tracks ((ruleAnchors taken headings).reverse ++ taken) := by
  induction headings generalizing used taken with
  | nil => exact ⟨rfl, h⟩
  | cons heading rest ih =>
    obtain ⟨hanchor, hclaimed⟩ := tracks_claim h heading
    obtain ⟨hanchors, hall⟩ := ih hclaimed
    refine ⟨?_, ?_⟩
    · rw [claimAll, ruleAnchors, ← hanchors, ← hanchor]
    · rw [ruleAnchors, List.reverse_cons, List.append_assoc, List.singleton_append]
      exact hall

/-! ## 4. What is handed out -/

/-- The characters of anchors: letters, digits, hyphens and underscores. -/
def IsAnchorChar (c : Char) : Prop := Text.isAlphanumeric c = true ∨ c = '-' ∨ c = '_'

instance (c : Char) : Decidable (IsAnchorChar c) := inferInstanceAs (Decidable (_ ∨ _))

theorem isAnchorChar_of_isDigit {c : Char} (h : c.isDigit = true) : IsAnchorChar c := by
  have hlast := (Char.isDigit_iff_toNat.1 h).2
  rw [show '9'.toNat = 57 from rfl] at hlast
  left
  rw [Text.isAlphanumeric, if_pos (by omega), Char.isAlphanum, h, Bool.or_true]

theorem isAnchorChar_of_mem_slug {heading : Text} {c : Char} (h : c ∈ slug heading) :
    IsAnchorChar c := by
  obtain ⟨d, hd, rfl⟩ := List.mem_map.1 h
  have hkept := (List.mem_filter.1 hd).2
  simp only [Bool.or_eq_true, beq_iff_eq] at hkept
  split
  · exact .inr (.inl rfl)
  · rename_i hspace
    obtain ((halnum | hd) | hd) | hd := hkept
    · exact .inl halnum
    · exact absurd hd hspace
    · exact .inr (.inl hd)
    · exact .inr (.inr hd)

theorem isAnchorChar_of_mem_numbered {heading : Text} {n : Nat} {c : Char}
    (h : c ∈ numbered (slug heading) n) : IsAnchorChar c := by
  cases n with
  | zero => exact isAnchorChar_of_mem_slug h
  | succ n =>
    rw [numbered, List.mem_append, List.mem_append, List.mem_singleton] at h
    obtain (h | rfl) | h := h
    · exact isAnchorChar_of_mem_slug h
    · exact .inr (.inl rfl)
    · exact isAnchorChar_of_isDigit (Nat.isDigit_of_mem_toDigits (by decide) (by decide) h)

/-- The search never goes back. -/
theorem le_firstFree (used : Anchors) (base : Text) (tries start : Nat) :
    start ≤ used.firstFree base tries start := by
  induction tries generalizing start with
  | zero => exact Nat.le_refl _
  | succ tries ih =>
    unfold firstFree
    split
    · have hlater := ih (start + 1)
      omega
    · exact Nat.le_refl _

/-- More tries than there are taken anchors are as good as any number of them: the search ends at the
    same number, whose anchor is free. -/
theorem firstFree_eq_next (used : Anchors) (base : Text) {tries : Nat}
    (h : used.counts.size < tries) : used.firstFree base tries (used.start base) = used.next base ∧
      used.isTaken (numbered base (used.next base)) = false := by
  obtain ⟨n, hlow, hhigh, hfree⟩ := used.exists_free base
  have htries : n < used.start base + tries := by omega
  obtain ⟨hfound, hbelow⟩ := firstFree_spec hlow htries hfree
  obtain ⟨hnext, hbelow'⟩ := firstFree_spec hlow hhigh hfree
  refine ⟨?_, hnext⟩
  -- the smaller one of two numbers would be free and passed over
  rcases Nat.lt_trichotomy (used.firstFree base tries (used.start base)) (used.next base)
    with hlt | heq | hgt
  · have htaken := hbelow' _ (le_firstFree used base tries _) hlt
    rw [hfound] at htaken
    cases htaken
  · exact heq
  · have htaken := hbelow _ (le_firstFree used base (used.counts.size + 1) _) hgt
    rw [hnext] at htaken
    cases htaken

end Anchors

/-- A list is split at each of its positions. -/
theorem exists_split_of_getElem? {α : Type} {l : List α} {i : Nat} {a : α} (h : l[i]? = some a) :
    ∃ front rest, l = front ++ a :: rest ∧ i = front.length := by
  obtain ⟨hi, rfl⟩ := List.getElem?_eq_some_iff.1 h
  refine ⟨l.take i, l.drop (i + 1), ?_, ?_⟩
  · rw [← List.drop_eq_getElem_cons hi, List.take_append_drop]
  · rw [List.length_take, Nat.min_eq_left (Nat.le_of_lt hi)]

/-- A heading behind others gets the first number that is free when their anchors are taken. -/
theorem ruleAnchors_getElem?_length (taken hs ks : List Text) (heading : Text) :
    (ruleAnchors taken (hs ++ heading :: ks))[hs.length]? =
      some (firstUnused ((ruleAnchors taken hs).reverse ++ taken) (slug heading)) := by
  have hlen := length_ruleAnchors taken hs
  rw [ruleAnchors_append, List.getElem?_append_right (by omega), hlen, Nat.sub_self]
  rfl

/-- What the rule says of each heading: its anchor is numbered with the first number that is free when
    the anchors before it are taken. -/
theorem ruleAnchors_getElem? (taken : List Text) {headings : List Text} {i : Nat} {heading : Text}
    (h : headings[i]? = some heading) : ∃ n,
      (ruleAnchors taken headings)[i]? = some (numbered (slug heading) n) ∧
      numbered (slug heading) n ∉ (ruleAnchors taken headings).take i ++ taken ∧
      ∀ m < n, numbered (slug heading) m ∈ (ruleAnchors taken headings).take i ++ taken := by
  obtain ⟨hs, ks, rfl, rfl⟩ := exists_split_of_getElem? h
  have hmem : ∀ a, a ∈ (ruleAnchors taken hs).reverse ++ taken ↔
      a ∈ (ruleAnchors taken (hs ++ heading :: ks)).take hs.length ++ taken := by
    intro a
    rw [ruleAnchors_append, List.take_left' (length_ruleAnchors taken hs), List.mem_append,
      List.mem_append, List.mem_reverse]
  have hfind := exists_unused ((ruleAnchors taken hs).reverse ++ taken) (slug heading)
  refine ⟨Nat.find hfind, ruleAnchors_getElem?_length taken hs ks heading,
    fun hm => Nat.find_spec hfind ((hmem _).2 hm), fun m hm => ?_⟩
  exact (hmem _).1 (not_not.1 (Nat.find_min hfind hm))

theorem isAnchorChar_of_mem_ruleAnchors {taken headings : List Text} {anchor : Text}
    (ha : anchor ∈ ruleAnchors taken headings) {c : Char} (hc : c ∈ anchor) :
    Anchors.IsAnchorChar c := by
  obtain ⟨i, hi, rfl⟩ := List.mem_iff_getElem.1 ha
  rw [length_ruleAnchors] at hi
  obtain ⟨n, hn, -⟩ := ruleAnchors_getElem? taken (List.getElem?_eq_getElem hi)
  rw [(List.getElem_eq_iff _).2 hn] at hc
  exact Anchors.isAnchorChar_of_mem_numbered hc

/-- **Anchors are the first ones that are free, and none is handed out twice.** For headings in turn,
    each anchor is the slug of its heading with the first number for which it has not been handed
    out before. All of them are different and consist of letters, digits, hyphens and underscores.
    And the search for the next one ends: with any number of tries above that of the anchors that
    are remembered it finds the same free one. -/
theorem Anchors.claimAll_fresh (headings : List Text) : ∃ (anchors : List Text) (used : Anchors),
    Anchors.claimAll {} headings = (anchors, used) ∧
    anchors.length = headings.length ∧
    (∀ i heading, headings[i]? = some heading → ∃ n,
      anchors[i]? = some (numbered (slug heading) n) ∧
      numbered (slug heading) n ∉ anchors.take i ∧
      ∀ m < n, numbered (slug heading) m ∈ anchors.take i) ∧
    anchors.Nodup ∧
    (∀ anchor ∈ anchors, ∀ c ∈ anchor, IsAnchorChar c) ∧
    ∀ heading, used.isTaken (used.claim heading).1 = false ∧
      ∀ tries, used.counts.size < tries →
        used.firstFree (slug heading) tries (used.start (slug heading)) =
          used.next (slug heading) := by
  obtain ⟨hrule, -⟩ := Anchors.tracks_claimAll Anchors.tracks_empty headings
  refine ⟨_, _, Prod.ext hrule rfl, length_ruleAnchors [] headings, fun i heading hi => ?_,
    (nodup_ruleAnchors [] headings).1, fun _ ha _ => isAnchorChar_of_mem_ruleAnchors ha,
    fun heading => ⟨?_, fun tries htries => ?_⟩⟩
  · simpa only [List.append_nil] using ruleAnchors_getElem? [] hi
  · exact (Anchors.firstFree_eq_next _ _ (Nat.lt_succ_self _)).2
  · exact (Anchors.firstFree_eq_next _ _ htries).1

example : (Anchors.claimAll {} (["Button", "Button", "button", "Button 1"].map String.toList)).1 =
    ["button", "button-1", "button-2", "button-1-1"].map String.toList := by decide +kernel

end PatternBook
