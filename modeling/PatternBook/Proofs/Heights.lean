import Mathlib.Data.Nat.Digits.Defs
import PatternBook.Proofs.Payloads

/-!
# Heights

A height is the number that its payload starts with, if it takes no more than 32 bits. There may be
any number of digits, leading zeros among them, so it is their value that decides and not their count:

* `Text.placeValue`, `Text.ofDigitChars_eq_placeValue` -- digits that are read one by one from the left
  have the value that their places give them;
* `Text.LongestDigits`, `Payload.height?_eq_some_iff` -- a height is the value of the digits that the
  payload starts with, if there are any and the value is small enough;
* `Height.push?`, `Height.ofDigits?` -- the same number kept in 32 bits, where each product and each
  sum is checked. A number never becomes smaller when digits are set behind it
  (`Text.le_ofDigitChars`), so what fails on the way would have been too large at the end
  (`Height.toNat_foldlM_push?`);
* `Payload.height?_leading_number` -- so no height is a number cut off or wrapped around.
-/

namespace PatternBook

/-! ## 1. Digits and their value -/

namespace Text

/-- The number that a character stands for as a decimal digit. -/
def digitValue (c : Char) : Nat := c.toNat - '0'.toNat

/-- The value of decimal digits by their places: the last one counts ones, the one before it tens. -/
def placeValue (digits : Text) : Nat := Nat.ofDigits 10 (digits.map digitValue).reverse

/-- Reading digits behind a number moves the number by their places and adds their value. -/
theorem ofDigitChars_eq_placeValue (digits : Text) (n : Nat) :
    Nat.ofDigitChars 10 digits n = n * 10 ^ digits.length + digits.placeValue := by
  induction digits generalizing n with
  | nil => simp [placeValue]
  | cons c digits ih =>
    rw [Nat.ofDigitChars_cons, ih, placeValue, placeValue, List.map_cons, Nat.ofDigits_reverse_cons,
      List.length_map, List.length_cons, digitValue]
    ring

theorem ofDigitChars_zero (digits : Text) : Nat.ofDigitChars 10 digits 0 = digits.placeValue := by
  rw [ofDigitChars_eq_placeValue, Nat.zero_mul, Nat.zero_add]

/-- A number does not become smaller when digits are set behind it. -/
theorem le_ofDigitChars (digits : Text) (n : Nat) : n ≤ Nat.ofDigitChars 10 digits n := by
  have hpow : 0 < 10 ^ digits.length := Nat.pow_pos (by decide)
  rw [ofDigitChars_eq_placeValue]
  exact Nat.le_add_right_of_le (Nat.le_mul_of_pos_right n hpow)

/-- Leading zeros add nothing to a number. -/
theorem placeValue_zeros_decimal (k n : Nat) :
    placeValue (List.replicate k '0' ++ decimal n) = n := by
  rw [← ofDigitChars_zero, Nat.ofDigitChars_append, Nat.ofDigitChars_replicate_zero, Nat.mul_zero,
    decimal, Nat.ofDigitChars_ten_toDigits]

/-- The longest front part of a text that is made of ASCII digits. -/
structure LongestDigits (digits t : Text) : Prop where
  front : digits <+: t
  isDigit : ∀ c ∈ digits, c.isDigit = true
  longest : ∀ other, other <+: t → (∀ c ∈ other, c.isDigit = true) → other.length ≤ digits.length

theorem longestDigits_iff {digits t : Text} :
    LongestDigits digits t ↔ t.takeWhile Char.isDigit = digits := by
  have hlongest : LongestDigits (t.takeWhile Char.isDigit) t :=
    { front := List.takeWhile_prefix _
      isDigit := fun c hc => List.mem_takeWhile_imp hc
      longest := by
        rintro other ⟨rest, rfl⟩ hother
        rw [List.takeWhile_append_of_pos hother, List.length_append]
        exact Nat.le_add_right _ _ }
  constructor
  · intro h
    have hle := h.longest _ hlongest.front hlongest.isDigit
    exact (List.prefix_of_prefix_length_le hlongest.front h.front hle).eq_of_length_le
      (hlongest.longest digits h.front h.isDigit)
  · rintro rfl
    exact hlongest

end Text

/-! ## 2. Heights of payloads -/

namespace Payload

/-- A height is the value of the digits that its payload starts with. -/
theorem height?_of_longestDigits {payload digits : Text}
    (h : Text.LongestDigits digits payload.trim) (hne : digits ≠ []) :
    height? payload = if digits.placeValue < 2 ^ 32 then some digits.placeValue else none := by
  have hcut := Text.takeWhile_dropWhile_eq_iff.1 ⟨Text.longestDigits_iff.1 h, rfl⟩
  rw [height?_of_trim hcut.1 hne hcut.2.1 hcut.2.2, Text.ofDigitChars_zero]
  rfl

/-- A payload has a height exactly if it starts with a digit and the number of its first digits fits. -/
theorem height?_eq_some_iff {payload : Text} {n : Nat} : height? payload = some n ↔
    (∃ c ∈ payload.trim.head?, c.isDigit = true) ∧
    (∃ digits, Text.LongestDigits digits payload.trim ∧ digits.placeValue = n) ∧ n < 2 ^ 32 := by
  have hlongest : Text.LongestDigits _ payload.trim := Text.longestDigits_iff.2 rfl
  have hhead : (∃ c ∈ payload.trim.head?, c.isDigit = true) ↔
      payload.trim.takeWhile Char.isDigit ≠ [] := by
    rw [ne_eq, List.takeWhile_eq_nil_iff]
    cases payload.trim <;> simp
  rw [hhead]
  constructor
  · intro h
    have hne : payload.trim.takeWhile Char.isDigit ≠ [] := by
      intro hnil
      simp [height?, hnil] at h
    rw [height?_of_longestDigits hlongest hne, Option.ite_none_right_eq_some] at h
    obtain ⟨hlt, hn⟩ := h
    obtain rfl := Option.some.inj hn
    exact ⟨hne, ⟨_, hlongest, rfl⟩, hlt⟩
  · rintro ⟨hne, ⟨digits, hdigits, rfl⟩, hlt⟩
    rw [Text.longestDigits_iff.1 hdigits] at hne
    rw [height?_of_longestDigits hdigits hne, if_pos hlt]

/-- A number is read behind zeros and before anything but a digit, and white space around all of it does
    not matter. It is a height if it takes no more than 32 bits. -/
theorem height?_zeros_decimal {before rest after : Text} (k n : Nat)
    (hbefore : before.isAllBlank = true) (hrest : ∀ c ∈ rest.head?, c.isDigit = false)
    (hafter : after.isAllBlank = true) :
    height? (before ++ List.replicate k '0' ++ Text.decimal n ++ rest ++ after) =
      if n < 2 ^ 32 then some n else none := by
  have hdigit : ∀ c ∈ List.replicate k '0' ++ Text.decimal n, c.isDigit = true := by
    intro c hc
    rcases List.mem_append.1 hc with hc | hc
    · rw [(List.mem_replicate.1 hc).2]
      rfl
    · exact decimal_isDigit hc
  have hne : List.replicate k '0' ++ Text.decimal n ≠ [] :=
    List.append_ne_nil_of_right_ne_nil _ Nat.toDigits_ne_nil
  have htrim : Text.trim (before ++ List.replicate k '0' ++ Text.decimal n ++ rest ++ after) =
      (List.replicate k '0' ++ Text.decimal n) ++ rest.trimEnd := by
    rw [Text.trim_append_blank hafter, List.append_assoc before,
      Text.trim_append_of_isWord hbefore (isWord_of_isDigit hne hdigit)]
  rw [height?_of_trim htrim hne hdigit fun c hc => hrest c (Text.mem_head?_of_trimEnd hc),
    Text.ofDigitChars_zero, Text.placeValue_zeros_decimal]
  rfl

end Payload

/-! ## 3. Numbers of 32 bits -/

namespace Height

/-- The product, unless it takes more than 32 bits. -/
def times? (a b : UInt32) : Option UInt32 := if a.toNat * b.toNat < 2 ^ 32 then some (a * b) else none

/-- The sum, unless it takes more than 32 bits. -/
def plus? (a b : UInt32) : Option UInt32 := if a.toNat + b.toNat < 2 ^ 32 then some (a + b) else none

/-- The number with one more digit behind it. -/
def push? (n : UInt32) (c : Char) : Option UInt32 :=
  (times? n 10).bind fun moved => plus? moved (UInt32.ofNat (Text.digitValue c))

/-- The number of the digits, read one by one for as long as it fits. -/
def ofDigits? (digits : Text) : Option UInt32 := digits.foldlM push? 0

/-- One more digit takes a number to ten times the number and the digit, as far as this fits. -/
theorem toNat_push? {c : Char} (hc : c.isDigit = true) (n : UInt32) : (push? n c).map UInt32.toNat =
    if 10 * n.toNat + Text.digitValue c < 2 ^ 32 then some (10 * n.toNat + Text.digitValue c)
    else none := by
  have hdigit : Text.digitValue c < 10 := by
    rw [Char.isDigit_iff_toNat] at hc
    have hnine : '9'.toNat = '0'.toNat + 9 := rfl
    rw [Text.digitValue]
    omega
  have hvalue : (UInt32.ofNat (Text.digitValue c)).toNat = Text.digitValue c :=
    UInt32.toNat_ofNat_of_lt' (Nat.lt_trans hdigit (by decide))
  by_cases hmoved : n.toNat * (10 : UInt32).toNat < 2 ^ 32
  · have hten : (n * 10).toNat = 10 * n.toNat := by
      rw [UInt32.toNat_mul, Nat.mod_eq_of_lt hmoved, Nat.mul_comm]
      rfl
    rw [push?, times?, if_pos hmoved, Option.bind_some, plus?, hten, hvalue]
    split
    · rename_i hsum
      rw [Option.map_some, UInt32.toNat_add, hten, hvalue, Nat.mod_eq_of_lt hsum]
    · rfl
  · -- a product that is too large does not become smaller by the digit
    have hten : n.toNat * (10 : UInt32).toNat = 10 * n.toNat := Nat.mul_comm _ _
    rw [push?, times?, if_neg hmoved, if_neg (by omega)]
    rfl

/-- **A number of 32 bits takes up digits exactly as long as it fits**, and it fits on the way if it fits
    at the end. -/
theorem toNat_foldlM_push? {digits : Text} (hd : ∀ c ∈ digits, c.isDigit = true) (n : UInt32) :
    (digits.foldlM push? n).map UInt32.toNat =
      if Nat.ofDigitChars 10 digits n.toNat < 2 ^ 32 then some (Nat.ofDigitChars 10 digits n.toNat)
      else none := by
  induction digits generalizing n with
  | nil => exact (if_pos n.toNat_lt).symm
  | cons c digits ih =>
    obtain ⟨hc, hd⟩ := List.forall_mem_cons.1 hd
    have hpush := toNat_push? hc n
    rw [List.foldlM_cons, Nat.ofDigitChars_cons, ← Text.digitValue]
    cases hnext : push? n c with
    | none =>
      rw [hnext, Option.map_none, eq_comm, ite_eq_right_iff] at hpush
      have hlarge : ¬ 10 * n.toNat + Text.digitValue c < 2 ^ 32 := fun h => nomatch hpush h
      have hgrows := Text.le_ofDigitChars digits (10 * n.toNat + Text.digitValue c)
      rw [if_neg fun h => hlarge (Nat.lt_of_le_of_lt hgrows h)]
      rfl
    | some m =>
      rw [hnext, Option.map_some, eq_comm, Option.ite_none_right_eq_some] at hpush
      rw [Option.some.inj hpush.2]
      exact ih hd m

/-- Digits kept in 32 bits have their value if it fits, and no value otherwise. -/
theorem toNat_ofDigits? {digits : Text} (hd : ∀ c ∈ digits, c.isDigit = true) :
    (ofDigits? digits).map UInt32.toNat =
      if digits.placeValue < 2 ^ 32 then some digits.placeValue else none := by
  rw [← Text.ofDigitChars_zero]
  exact toNat_foldlM_push? hd 0

end Height

/-! ## 4. The number at the front of a payload -/

/-- **A height is the number that its payload starts with.** It is there exactly if the trimmed payload
    starts with a digit and the value of all digits it starts with takes no more than 32 bits. So a number
    that is written behind zeros and before anything but a digit is read as it is, or not at all if it is
    too large, whatever white space stands around; and keeping the number in 32 bits while its digits are
    read, with a check of each product and each sum, gives the same height. -/
theorem Payload.height?_leading_number :
    (∀ payload n, height? payload = some n ↔
      (∃ c ∈ payload.trim.head?, c.isDigit = true) ∧
      (∃ digits, Text.LongestDigits digits payload.trim ∧ digits.placeValue = n) ∧ n < 2 ^ 32) ∧
    (∀ before rest after : Text, before.isAllBlank = true → (∀ c ∈ rest.head?, c.isDigit = false) →
      after.isAllBlank = true → ∀ k n,
        height? (before ++ List.replicate k '0' ++ Text.decimal n ++ rest ++ after) =
          if n < 2 ^ 32 then some n else none) ∧
    ∀ payload digits, Text.LongestDigits digits payload.trim → digits ≠ [] →
      height? payload = (Height.ofDigits? digits).map UInt32.toNat := by
  refine ⟨fun _ _ => height?_eq_some_iff, fun _ _ _ hbefore hrest hafter k n =>
    height?_zeros_decimal k n hbefore hrest hafter, fun payload digits h hne => ?_⟩
  rw [height?_of_longestDigits h hne, Height.toNat_ofDigits? h.isDigit]

/-- The largest number of 32 bits behind zeros, and the number after it. -/
theorem Payload.height?_leading_number_largest :
    height? " \u3000\n0004294967295px\t".toList = some 4294967295 ∧
    height? " \u3000\n0004294967296px\t".toList = none ∧
    height? " \u3000\n0004294967295px\t".toList =
      (Height.ofDigits? "0004294967295".toList).map UInt32.toNat := by
  obtain ⟨-, hread, hkept⟩ := height?_leading_number
  have hnumber := hread " \u3000\n".toList ('p' :: "x".toList) "\t".toList (by decide) (by simp)
    (by decide) 3
  have hfits : " \u3000\n0004294967295px\t".toList = " \u3000\n".toList ++ List.replicate 3 '0' ++
      Text.decimal 4294967295 ++ ('p' :: "x".toList) ++ "\t".toList := by decide +kernel
  have hlarge : " \u3000\n0004294967296px\t".toList = " \u3000\n".toList ++ List.replicate 3 '0' ++
      Text.decimal 4294967296 ++ ('p' :: "x".toList) ++ "\t".toList := by decide +kernel
  refine ⟨?_, ?_, hkept _ _ (Text.longestDigits_iff.2 (by decide +kernel)) (by decide)⟩
  · rw [hfits, hnumber]
    exact if_pos (by decide)
  · rw [hlarge, hnumber]
    exact if_neg (by decide)

end PatternBook
