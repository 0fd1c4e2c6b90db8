import Mathlib.Data.List.Infix
import PatternBook.Text.Basic

/-!
# Marks in a text

`cut?` cuts a text at the first place of a mark. This file says what "first" means, in terms of the
library's relation `mark <:+: t` (the mark stands somewhere in the text):

* `cut?_eq_none_iff` -- there is no cut exactly when the mark stands nowhere;
* `cut?_eq_some_iff` -- a cut is a decomposition `before ++ mark ++ rest` in which the mark does not
  even begin earlier;
* `pair_infix_append_iff` -- a mark of two characters stands in a joined text on one of the two
  sides or across the joint; with two different characters the mark cannot overlap itself, so the
  condition on a cut is only that the part before it is free of the mark (`cut?_pair_iff`);
* `notMem_of_mem_splitOn` -- the parts between separators are free of the separator.
-/

namespace PatternBook.Text

/-! ## 1. The first place of a mark -/

theorem dropStart?_eq_none_iff {t front : Text} : t.dropStart? front = none ↔ ¬ front <+: t := by
  constructor
  · rintro h ⟨rest, hrest⟩
    rw [dropStart?_eq_some_iff.2 hrest.symm] at h
    cases h
  · intro h
    cases hd : t.dropStart? front with
    | none => rfl
    | some rest => exact absurd ⟨rest, (dropStart?_eq_some_iff.1 hd).symm⟩ h

/-- There is no cut exactly when the mark stands nowhere in the text. -/
theorem cut?_eq_none_iff {t mark : Text} (hm : mark ≠ []) :
    t.cut? mark = none ↔ ¬ mark <:+: t := by
  induction t with
  | nil => simp [cut?, hm]
  | cons c t ih =>
    unfold cut?
    rw [List.infix_cons_iff]
    split
    · rename_i rest hrest
      have hp : mark <+: c :: t := ⟨rest, (dropStart?_eq_some_iff.1 hrest).symm⟩
      simp [hp]
    · rename_i hnone
      have hp : ¬ mark <+: c :: t := dropStart?_eq_none_iff.1 hnone
      simp only [Option.map_eq_none_iff, ih, hp, false_or]

/-- The part before a mark at the front of a text is empty, if the mark does not begin earlier. -/
theorem eq_nil_of_mark_at_front {t mark before rest : Text} (hp : mark <+: t)
    (ht : t = before ++ mark ++ rest) (h : ¬ mark <:+: before ++ mark.dropLast) : before = [] := by
  refine Classical.byContradiction fun hb => h ?_
  have hlen : mark.length ≤ (before ++ mark.dropLast).length := by
    have h₁ := List.length_pos_iff.2 hb
    simp only [List.length_append, List.length_dropLast]
    omega
  have hq : before ++ mark.dropLast <+: t := by
    rw [ht, List.append_assoc]
    exact (List.prefix_append_right_inj before).2
      ((List.dropLast_prefix mark).trans (List.prefix_append mark rest))
  exact (List.prefix_of_prefix_length_le hp hq hlen).isInfix

/-- **A cut is made at the first place of the mark**: the mark stands there, and it does not begin
    at any earlier place, be it one that overlaps the mark. -/
theorem cut?_eq_some_iff {t mark before rest : Text} (hm : mark ≠ []) :
    t.cut? mark = some (before, rest) ↔
      t = before ++ mark ++ rest ∧ ¬ mark <:+: before ++ mark.dropLast := by
  induction t generalizing before with
  | nil => simp [cut?, hm]
  | cons c t ih =>
    unfold cut?
    split
    · rename_i r hr
      have ht := dropStart?_eq_some_iff.1 hr
      have hp : mark <+: c :: t := ⟨r, ht.symm⟩
      constructor
      · intro h
        obtain ⟨rfl, rfl⟩ : [] = before ∧ r = rest := by simpa using h
        refine ⟨by simpa using ht, fun hi => ?_⟩
        have h₁ := hi.length_le
        have h₂ := List.length_pos_iff.2 hm
        simp only [List.nil_append, List.length_dropLast] at h₁
        omega
      · rintro ⟨heq, h⟩
        have hb := eq_nil_of_mark_at_front hp heq h
        subst hb
        rw [ht] at heq
        simp only [List.nil_append, List.append_cancel_left_eq] at heq
        rw [heq]
    · rename_i hnone
      have hp : ¬ mark <+: c :: t := dropStart?_eq_none_iff.1 hnone
      rw [Option.map_eq_some_iff]
      constructor
      · rintro ⟨⟨b, r⟩, hb, hbr⟩
        obtain ⟨rfl, rfl⟩ : c :: b = before ∧ r = rest := by simpa using hbr
        obtain ⟨rfl, hfree⟩ := ih.1 hb
        refine ⟨rfl, ?_⟩
        rw [List.cons_append, List.infix_cons_iff]
        rintro (hq | hq)
        · refine hp (hq.trans ?_)
          rw [← List.cons_append, ← List.cons_append, ← List.cons_append, List.append_assoc]
          exact (List.prefix_append_right_inj (c :: b)).2
            ((List.dropLast_prefix mark).trans (List.prefix_append mark r))
        · exact hfree hq
      · rintro ⟨heq, h⟩
        cases before with
        | nil => exact absurd ⟨rest, heq.symm⟩ hp
        | cons d b =>
          obtain ⟨rfl, rfl⟩ : c = d ∧ t = b ++ mark ++ rest := by simpa using heq
          refine ⟨(b, rest), ih.2 ⟨rfl, fun hq => h ?_⟩, rfl⟩
          exact List.infix_cons hq

/-! ## 2. Marks of one and of two characters -/

/-- A pair of characters stands in a joined text in the first part, in the second part, or across
    the joint. -/
theorem pair_infix_append_iff {a b : Char} {s t : Text} :
    [a, b] <:+: s ++ t ↔
      [a, b] <:+: s ∨ [a, b] <:+: t ∨ (s.getLast? = some a ∧ t.head? = some b) := by
  induction s with
  | nil => simp
  | cons c s ih =>
    rw [List.cons_append, List.infix_cons_iff, List.infix_cons_iff, ih]
    cases s with
    | nil =>
      cases t with
      | nil => simp
      | cons e t => grind
    | cons d s =>
      simp only [List.cons_append, List.cons_prefix_cons, List.nil_prefix, and_true,
        List.getLast?_cons_cons]
      grind

/-- A cut at a mark of two different characters: the part before it is free of the mark. -/
theorem cut?_pair_iff {a b : Char} (hab : a ≠ b) {t before rest : Text} :
    t.cut? [a, b] = some (before, rest) ↔ t = before ++ [a, b] ++ rest ∧ ¬ [a, b] <:+: before := by
  rw [cut?_eq_some_iff (List.cons_ne_nil a [b])]
  have h₁ : ¬ [a, b] <:+: [a] := fun h => by
    have := h.length_le
    simp at this
  have h₂ : ([a].head? = some b) ↔ False := by simp [hab]
  rw [show [a, b].dropLast = [a] from rfl, pair_infix_append_iff, h₂]
  simp [h₁]

/-- A cut at a mark of one character: the part before it is free of the character. -/
theorem cut?_single_iff {c : Char} {t before rest : Text} :
    t.cut? [c] = some (before, rest) ↔ t = before ++ c :: rest ∧ c ∉ before := by
  rw [cut?_eq_some_iff (List.cons_ne_nil c []), show [c].dropLast = [] from rfl, List.append_nil,
    List.singleton_infix_iff]
  simp

theorem cut?_single_eq_none_iff {c : Char} {t : Text} : t.cut? [c] = none ↔ c ∉ t := by
  rw [cut?_eq_none_iff (List.cons_ne_nil c []), List.singleton_infix_iff]

/-! ## 3. Separators -/

/-- A part between separators holds no separator. -/
theorem notMem_of_mem_splitOn {sep : Char} {t part : Text} (h : part ∈ t.splitOn sep) :
    sep ∉ part := by
  induction t generalizing part with
  | nil =>
    rw [List.splitOn_nil, List.mem_singleton] at h
    rw [h]
    exact List.not_mem_nil
  | cons c t ih =>
    rw [List.splitOn_cons_eq_if_modifyHead] at h
    split at h
    · rcases List.mem_cons.1 h with h | h
      · rw [h]
        exact List.not_mem_nil
      · exact ih h
    · rename_i hc
      -- the character joins the first part of the rest
      cases hs : t.splitOn sep with
      | nil => exact absurd hs (List.splitOn_ne_nil _ _)
      | cons m ms =>
        rw [hs] at h ih
        rcases List.mem_cons.1 h with h | h
        · rw [h]
          intro hn
          rcases List.mem_cons.1 hn with hn | hn
          · exact hc (beq_iff_eq.2 hn.symm)
          · exact ih List.mem_cons_self hn
        · exact ih (List.mem_cons_of_mem m h)

end PatternBook.Text
