import Mathlib.Data.List.TakeWhile
import PatternBook.Text.Basic

/-!
# White space at the ends of a text

What the three trims leave: a text equals its own trim exactly when it is empty or neither its first
nor its last character is blank (`trim_eq_self_iff`). White space set behind a text disappears in the
trim, so a trimmed text is read back from a line that ends with a newline (`trim_append_newline`).
A trim cuts a piece out of the text (`trim_infix`), and the piece is trimmed (`trim_trim`). White space
set around a text does not change what the trim leaves (`trim_append_of_blank`, `trim_append_blank`).

The readers of lines and payloads cut a text behind its longest front part in a class of characters.
`takeWhile_dropWhile_eq_iff` says what such a cut is without the reader.
-/

namespace PatternBook.Text

theorem mem_dropWhile_of_not {α : Type} {p : α → Bool} {a : α} {l : List α} (ha : a ∈ l)
    (hp : p a = false) : a ∈ l.dropWhile p := by
  rw [← List.takeWhile_append_dropWhile (p := p) (l := l)] at ha
  rcases List.mem_append.1 ha with h | h
  · rw [List.mem_takeWhile_imp h] at hp
    cases hp
  · exact h

/-- **A text is cut behind its longest front part in a class of characters** exactly where the front part
    lies in the class and what follows does not start in it. -/
theorem takeWhile_dropWhile_eq_iff {p : Char → Bool} {t front rest : Text} :
    (t.takeWhile p = front ∧ t.dropWhile p = rest) ↔
      t = front ++ rest ∧ (∀ c ∈ front, p c = true) ∧ ∀ c ∈ rest.head?, p c = false := by
  constructor
  · rintro ⟨rfl, rfl⟩
    refine ⟨List.takeWhile_append_dropWhile.symm, fun c hc => List.mem_takeWhile_imp hc,
      fun c hc => ?_⟩
    have h := List.head?_dropWhile_not p t
    rw [Option.mem_def.1 hc] at h
    exact h
  · rintro ⟨rfl, hfront, hrest⟩
    rw [List.takeWhile_append_of_pos hfront, List.dropWhile_append_of_pos hfront]
    cases rest with
    | nil => simp
    | cons c rest => simp [hrest c rfl]

/-- A character that is not blank survives a trim. -/
theorem mem_trim_of_not_blank {c : Char} {t : Text} (hc : c ∈ t) (hb : isBlank c = false) :
    c ∈ t.trim := by
  unfold trim trimEnd trimStart
  rw [List.mem_reverse]
  exact mem_dropWhile_of_not (List.mem_reverse.2 (mem_dropWhile_of_not hc hb)) hb

theorem not_isAllBlank_of_mem {c : Char} {t : Text} (hc : c ∈ t) (hb : isBlank c = false) :
    isAllBlank t = false := by
  rw [isAllBlank, List.all_eq_false]
  exact ⟨c, hc, by rw [hb]; decide⟩

/-! ## 1. The ends of a text -/

/-- Nothing is taken from the front of a text that starts with no blank. -/
theorem trimStart_of_head? {t : Text} (h : ∀ c ∈ t.head?, isBlank c = false) : t.trimStart = t := by
  cases t with
  | nil => rfl
  | cons c t => exact List.dropWhile_cons_of_neg (by rw [h c rfl]; decide)

/-- Nothing is taken from the end of a text that ends with no blank. -/
theorem trimEnd_of_getLast? {t : Text} (h : ∀ c ∈ t.getLast?, isBlank c = false) :
    t.trimEnd = t := by
  have hr : trimStart t.reverse = t.reverse :=
    trimStart_of_head? fun c hc => h c (by rwa [List.head?_reverse] at hc)
  rw [trimEnd, show t.reverse.dropWhile isBlank = trimStart t.reverse from rfl, hr,
    List.reverse_reverse]

/-- White space at the end of a text does not change its trim at that end. -/
theorem trimEnd_append_blank {t s : Text} (h : ∀ c ∈ s, isBlank c = true) :
    (t ++ s).trimEnd = t.trimEnd := by
  unfold trimEnd
  rw [List.reverse_append, List.dropWhile_append_of_pos fun c hc => h c (List.mem_reverse.1 hc)]

theorem length_trimStart_le (t : Text) : t.trimStart.length ≤ t.length :=
  (List.dropWhile_suffix isBlank).length_le

theorem length_trimEnd_le (t : Text) : t.trimEnd.length ≤ t.length := by
  have h := length_trimStart_le t.reverse
  rw [List.length_reverse] at h
  rw [trimEnd, List.length_reverse]
  exact h

/-- **A text is trimmed exactly when no blank stands at its ends.** -/
theorem trim_eq_self_iff {t : Text} : t.trim = t ↔
    (∀ c ∈ t.head?, isBlank c = false) ∧ ∀ c ∈ t.getLast?, isBlank c = false := by
  constructor
  · intro h
    have hhead : ∀ c ∈ t.head?, isBlank c = false := by
      intro c hc
      cases t with
      | nil => cases hc
      | cons d t =>
        obtain rfl : d = c := by simpa using hc
        refine Bool.eq_false_iff.2 fun hb => ?_
        -- the blank at the front is dropped, and the trim is shorter than the text
        have hs : trimStart (d :: t) = trimStart t := List.dropWhile_cons_of_pos hb
        have h₁ := length_trimEnd_le (trimStart t)
        have h₂ := length_trimStart_le t
        have h₃ := congrArg List.length h
        rw [trim, hs, List.length_cons] at h₃
        omega
    refine ⟨hhead, fun c hc => Bool.eq_false_iff.2 fun hb => ?_⟩
    obtain ⟨t', rfl⟩ := List.getLast?_eq_some_iff.1 hc
    rw [trim, trimStart_of_head? hhead, trimEnd_append_blank (by simpa using hb)] at h
    have h₁ := length_trimEnd_le t'
    have h₂ := congrArg List.length h
    rw [List.length_append, List.length_singleton] at h₂
    omega
  · rintro ⟨hhead, hlast⟩
    rw [trim, trimStart_of_head? hhead, trimEnd_of_getLast? hlast]

/-- A newline behind a trimmed text is all that a trim takes away. -/
theorem trim_append_newline {t : Text} (h : t.trim = t) : (t ++ ['\n']).trim = t := by
  cases t with
  | nil => rfl
  | cons c t =>
    obtain ⟨hhead, hlast⟩ := trim_eq_self_iff.1 h
    have hs : trimStart (c :: t ++ ['\n']) = c :: t ++ ['\n'] :=
      trimStart_of_head? (by simpa using hhead)
    rw [trim, hs, trimEnd_append_blank (by simp [isBlank]), trimEnd_of_getLast? hlast]

/-! ## 2. What a trim leaves -/

theorem trimStart_suffix (t : Text) : t.trimStart <:+ t := List.dropWhile_suffix isBlank

theorem trimEnd_prefix (t : Text) : t.trimEnd <+: t := by
  rw [trimEnd, ← List.reverse_suffix, List.reverse_reverse]
  exact List.dropWhile_suffix isBlank

/-- A trim cuts a piece out of the text. -/
theorem trim_infix (t : Text) : t.trim <:+: t :=
  (Text.trimEnd_prefix t.trimStart).isInfix.trans (trimStart_suffix t).isInfix

/-- Behind the leading white space stands no blank. -/
theorem head?_trimStart (t : Text) : ∀ c ∈ t.trimStart.head?, isBlank c = false :=
  (takeWhile_dropWhile_eq_iff.1 ⟨rfl, rfl⟩).2.2

/-- Before the trailing white space stands no blank. -/
theorem getLast?_trimEnd (t : Text) : ∀ c ∈ t.trimEnd.getLast?, isBlank c = false := by
  intro c hc
  refine head?_trimStart t.reverse c ?_
  rwa [trimEnd, List.getLast?_reverse] at hc

/-- A text starts as its trim at the end does. -/
theorem mem_head?_of_trimEnd {c : Char} {t : Text} (hc : c ∈ t.trimEnd.head?) : c ∈ t.head? := by
  obtain ⟨rest, hrest⟩ := trimEnd_prefix t
  rw [← hrest, List.head?_append, Option.mem_def.1 hc]
  rfl

/-- **What a trim leaves is trimmed.** -/
theorem trim_trim (t : Text) : t.trim.trim = t.trim :=
  trim_eq_self_iff.2
    ⟨fun c hc => head?_trimStart t c (mem_head?_of_trimEnd hc), getLast?_trimEnd t.trimStart⟩

/-- A trim at the end cuts a text before the white space it ends with. -/
theorem trimEnd_eq_iff {t front : Text} : t.trimEnd = front ↔
    (∀ c ∈ front.getLast?, isBlank c = false) ∧
      ∃ gap : Text, t = front ++ gap ∧ ∀ c ∈ gap, isBlank c = true := by
  constructor
  · rintro rfl
    refine ⟨getLast?_trimEnd t, (t.reverse.takeWhile isBlank).reverse, ?_, fun c hc => ?_⟩
    · rw [trimEnd, ← List.reverse_append, List.takeWhile_append_dropWhile, List.reverse_reverse]
    · exact List.mem_takeWhile_imp (List.mem_reverse.1 hc)
  · rintro ⟨hlast, gap, rfl, hgap⟩
    rw [trimEnd_append_blank hgap, trimEnd_of_getLast? hlast]

/-! ## 3. White space around a text -/

theorem trimStart_append_of_blank {l : Text} (h : l.isAllBlank = true) (t : Text) :
    (l ++ t).trimStart = t.trimStart :=
  List.dropWhile_append_of_pos fun c hc => List.all_eq_true.1 h c hc

theorem trimStart_append_of_not_blank {l : Text} (h : l.isAllBlank = false) (t : Text) :
    (l ++ t).trimStart = l.trimStart ++ t := by
  have hne : (l.dropWhile isBlank).isEmpty = false := by
    rw [List.isEmpty_eq_false_iff, ne_eq, List.dropWhile_eq_nil_iff]
    simpa [isAllBlank] using h
  rw [trimStart, List.dropWhile_append, hne]
  rfl

/-- White space in front of a text is trimmed away. -/
theorem trim_append_of_blank {s : Text} (h : s.isAllBlank = true) (t : Text) :
    (s ++ t).trim = t.trim := by
  rw [trim, trimStart_append_of_blank h]
  rfl

theorem trimEnd_eq_nil {t : Text} (h : ∀ c ∈ t, isBlank c = true) : t.trimEnd = [] := by
  rw [trimEnd, List.reverse_eq_nil_iff, List.dropWhile_eq_nil_iff]
  exact fun c hc => h c (List.mem_reverse.1 hc)

/-- Nothing is left exactly of a text that is white space throughout. -/
theorem trim_eq_nil_iff {t : Text} : t.trim = [] ↔ t.isAllBlank = true := by
  refine ⟨fun h => ?_, fun h => ?_⟩
  · refine List.all_eq_true.2 fun c hc => ?_
    cases hb : isBlank c with
    | true => rfl
    | false =>
      have hmem := mem_trim_of_not_blank hc hb
      rw [h] at hmem
      cases hmem
  · refine trimEnd_eq_nil fun c hc => ?_
    exact List.all_eq_true.1 h c ((trimStart_suffix t).subset hc)

/-- White space behind a text is trimmed away. -/
theorem trim_append_blank {s : Text} (h : s.isAllBlank = true) (t : Text) :
    (t ++ s).trim = t.trim := by
  cases ht : t.isAllBlank with
  | true =>
    rw [trim_append_of_blank ht, trim_eq_nil_iff.2 h, trim_eq_nil_iff.2 ht]
  | false =>
    rw [trim, trimStart_append_of_not_blank ht, trimEnd_append_blank (List.all_eq_true.1 h)]
    rfl

/-- A trim at the end makes no difference to a trim at both ends. -/
theorem trim_trimEnd (t : Text) : t.trimEnd.trim = t.trim := by
  obtain ⟨-, gap, ht, hgap⟩ := trimEnd_eq_iff.1 (rfl : t.trimEnd = t.trimEnd)
  rw [← trim_append_blank (List.all_eq_true.2 hgap) t.trimEnd, ← ht]

/-- A trim at the end of a joined text leaves a first part that does not end with a blank. -/
theorem trimEnd_append_of_getLast? {t : Text} (h : ∀ c ∈ t.getLast?, isBlank c = false) (s : Text) :
    (t ++ s).trimEnd = t ++ s.trimEnd := by
  rw [trimEnd, List.reverse_append, List.dropWhile_append, trimEnd]
  have ht : t.reverse.dropWhile isBlank = t.reverse := by
    rw [← List.reverse_inj, List.reverse_reverse]
    exact trimEnd_of_getLast? h
  by_cases hs : s.reverse.dropWhile isBlank = []
  · simp [hs, ht]
  · simp [hs]

end PatternBook.Text
