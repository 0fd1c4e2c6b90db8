import Mathlib.Tactic.ByContra
import Mathlib.Tactic.SplitIfs
import PatternBook.Text.Basic

/-!
# Texts in the order of their bytes

Texts are compared character by character, and stored they are bytes. Both orders are the same
(`bytes_lt_bytes_iff`), since of two characters the larger one has the larger bytes, whatever
follows.
-/

namespace PatternBook.Text

/-- The bytes of a text that is stored as UTF-8. -/
def bytes (t : Text) : List UInt8 := t.flatMap String.utf8EncodeChar

/-- Numbers compare by their higher digits first. -/
theorem div_lt_or_mod_lt {v w : Nat} (h : v < w) :
    v / 64 < w / 64 ∨ v / 64 = w / 64 ∧ v % 64 < w % 64 := by
  omega

/-- The larger character has the larger bytes: the first byte grows with the number of bytes, and
    the bytes of one number hold the digits of the character, the highest first. -/
theorem utf8EncodeChar_append_lt {c d : Char} (h : c < d) (x y : List UInt8) :
    String.utf8EncodeChar c ++ x < String.utf8EncodeChar d ++ y := by
  have hlt : c.val.toNat < d.val.toNat := h
  have hmax : d.val.toNat < 0x110000 := by
    rcases d.valid with hd | ⟨-, hd⟩
    · exact Nat.lt_trans hd (by decide)
    · exact hd
  unfold String.utf8EncodeChar
  generalize c.val.toNat = v at hlt
  generalize d.val.toNat = w at hlt hmax
  -- no byte overflows
  have hnext : ∀ n, (n % 64 + 128) % 2 ^ 8 = n % 64 + 128 := by omega
  have htwo : ∀ n, (n % 32 + 192) % 2 ^ 8 = n % 32 + 192 := by omega
  have hthree : ∀ n, (n % 16 + 224) % 2 ^ 8 = n % 16 + 224 := by omega
  have hfour : ∀ n, n < 0x110000 → (n / 262144 % 8 + 240) % 2 ^ 8 = n / 262144 + 240 := by omega
  have hdigits : v / 262144 < w / 262144 ∨ v / 262144 = w / 262144 ∧
      (v / 4096 % 64 < w / 4096 % 64 ∨ v / 4096 % 64 = w / 4096 % 64 ∧
        (v / 64 % 64 < w / 64 % 64 ∨ v / 64 % 64 = w / 64 % 64 ∧ v % 64 < w % 64)) := by
    have hsplit : ∀ n, n / 4096 = n / 64 / 64 ∧ n / 262144 = n / 64 / 64 / 64 := by omega
    rw [(hsplit v).1, (hsplit v).2, (hsplit w).1, (hsplit w).2]
    rcases div_lt_or_mod_lt hlt with h₁ | ⟨he₁, h₁⟩
    · rcases div_lt_or_mod_lt h₁ with h₂ | ⟨he₂, h₂⟩
      · rcases div_lt_or_mod_lt h₂ with h₃ | ⟨he₃, h₃⟩
        · exact .inl h₃
        · exact .inr ⟨he₃, .inl h₃⟩
      · rw [he₂]
        exact .inr ⟨rfl, .inr ⟨rfl, .inl h₂⟩⟩
    · rw [he₁]
      exact .inr ⟨rfl, .inr ⟨rfl, .inr ⟨rfl, h₁⟩⟩⟩
  dsimp only
  split_ifs <;>
    simp only [List.cons_append, List.nil_append, List.cons_lt_cons_iff, UInt8.lt_iff_toNat_lt,
      ← UInt8.toNat_inj, UInt8.toNat_ofNat', hnext, htwo, hthree,
      hfour v (Nat.lt_trans hlt hmax), hfour w hmax] <;> omega

theorem bytes_cons (c : Char) (t : Text) : bytes (c :: t) = String.utf8EncodeChar c ++ bytes t :=
  List.flatMap_cons

theorem bytes_lt_bytes {t u : Text} (h : t < u) : bytes t < bytes u := by
  induction h with
  | @nil d u =>
    rw [bytes_cons]
    obtain ⟨b, bs, hb⟩ := List.exists_cons_of_ne_nil (String.utf8EncodeChar_ne_nil (c := d))
    rw [hb]
    exact List.Lex.nil
  | @cons c t u _ ih =>
    rw [bytes_cons, bytes_cons]
    induction String.utf8EncodeChar c with
    | nil => exact ih
    | cons b bs hbs => exact List.Lex.cons hbs
  | rel hlt =>
    rw [bytes_cons, bytes_cons]
    exact utf8EncodeChar_append_lt hlt _ _

/-- **The order of texts is that of their bytes.** -/
theorem bytes_lt_bytes_iff {t u : Text} : bytes t < bytes u ↔ t < u := by
  refine ⟨fun h => ?_, bytes_lt_bytes⟩
  by_contra hnot
  rcases Decidable.eq_or_ne t u with rfl | hne
  · exact List.lt_irrefl _ h
  · have hlt : u < t := by
      by_contra hnot'
      exact hne (Std.Trichotomous.trichotomous t u hnot hnot')
    exact List.lt_irrefl _ (List.lt_trans h (bytes_lt_bytes hlt))

end PatternBook.Text
