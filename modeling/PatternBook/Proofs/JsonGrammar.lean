import PatternBook.Document.Json
import PatternBook.Proofs.Payloads

/-!
# The grammar of JSON

Which texts spell a JSON value, said without the renderer: white space may stand between any two
lexemes, a string may use every escape of the format, and no comma stands before a closing mark.
Numbers are natural, as in `Json`, and the two halves of a surrogate pair are not read.

* `next?` -- the lexeme at the front of a text, a whole string among them (`unquote?`);
* `Spells t p r` -- the text `t` starts with a spelling of the phrase `p`, and `r` follows it;
* `Spells.unique` -- a text starts with a spelling of no more than one value, and what follows it is
  determined too;
* `KeysDistinct` -- no object of a value has two members with one key;
* `spells_render` -- what is rendered spells its value, whatever text follows that cannot lengthen a
  number.
-/

namespace PatternBook.Json

/-! ## 1. Strings -/

/-- The character that a letter stands for behind a backslash. -/
def shortEscape? : Char → Option Char
  | '"' => some '"'
  | '\\' => some '\\'
  | '/' => some '/'
  | 'b' => some '\x08'
  | 'f' => some '\x0c'
  | 'n' => some '\n'
  | 'r' => some '\r'
  | 't' => some '\t'
  | _ => none

/-- The value of a hexadecimal digit. -/
def hexDigit? (c : Char) : Option Nat :=
  if c.isDigit then some (c.toNat - 48)
  else if 'a' ≤ c ∧ c ≤ 'f' then some (c.toNat - 87)
  else if 'A' ≤ c ∧ c ≤ 'F' then some (c.toNat - 55)
  else none

/-- The character with the number that hexadecimal digits write. -/
def hexChar? (digits : Text) : Option Char := do
  let values ← digits.mapM hexDigit?
  let n := values.foldl (fun n d => 16 * n + d) 0
  if n.isValidChar then some (Char.ofNat n) else none

/-- The text of a string whose opening quote has been read, and what follows its closing quote. -/
def unquote? : Text → Option (Text × Text)
  | [] => none
  | '"' :: rest => some ([], rest)
  | '\\' :: 'u' :: a :: b :: c :: d :: rest => do
    let x ← hexChar? [a, b, c, d]
    let (t, r) ← unquote? rest
    some (x :: t, r)
  | '\\' :: e :: rest => do
    let x ← shortEscape? e
    let (t, r) ← unquote? rest
    some (x :: t, r)
  | c :: rest =>
    if c = '\\' ∨ c.toNat < 32 then none
    else (unquote? rest).map fun (t, r) => (c :: t, r)

theorem hexDigit?_digitChar : ∀ d < 16, hexDigit? (Nat.digitChar d) = some d := by
  decide

/-- A control character is read back from the two digits of its number. -/
theorem hexChar?_control {c : Char} (h : c.toNat < 32) :
    hexChar? ['0', '0', Nat.digitChar (c.toNat / 16), Nat.digitChar (c.toNat % 16)] = some c := by
  have hhigh := hexDigit?_digitChar (c.toNat / 16) (by omega)
  have hlow := hexDigit?_digitChar (c.toNat % 16) (by omega)
  have hzero : hexDigit? '0' = some 0 := rfl
  have hn : 16 * (c.toNat / 16) + c.toNat % 16 = c.toNat := Nat.div_add_mod _ 16
  have hvalid : c.toNat.isValidChar := c.valid
  simp [hexChar?, hhigh, hlow, hzero, hn, hvalid]

theorem unquote?_short {e c : Char} (h : shortEscape? e = some c) (t : Text) :
    unquote? ('\\' :: e :: t) = (unquote? t).map fun (s, r) => (c :: s, r) := by
  have hu : e ≠ 'u' := by
    rintro rfl
    cases h
  rw [unquote?, h]
  · cases unquote? t <;> rfl
  · rintro a b c d rest rfl
    exact absurd rfl hu

theorem unquote?_plain {c : Char} (hq : c ≠ '"') (hb : c ≠ '\\') (hc : 32 ≤ c.toNat) (t : Text) :
    unquote? (c :: t) = (unquote? t).map fun (s, r) => (c :: s, r) := by
  rw [unquote?]
  · exact if_neg (not_or.2 ⟨hb, Nat.not_lt.2 hc⟩)
  · exact hq
  · rintro a b d e rest rfl
    exact absurd rfl hb
  · rintro e rest rfl
    exact absurd rfl hb

/-- **One character of a string is read back**, escaped or not. -/
theorem unquote?_escapeChar (c : Char) (t : Text) :
    unquote? (escapeChar c ++ t) = (unquote? t).map fun (s, r) => (c :: s, r) := by
  unfold escapeChar
  split_ifs with hquote hback h₃ h₄ h₅ h₆ h₇ hcontrol
  · subst hquote
    exact unquote?_short rfl t
  · subst hback
    exact unquote?_short rfl t
  · subst h₃
    exact unquote?_short rfl t
  · subst h₄
    exact unquote?_short rfl t
  · subst h₅
    exact unquote?_short rfl t
  · subst h₆
    exact unquote?_short rfl t
  · subst h₇
    exact unquote?_short rfl t
  · show unquote? ('\\' :: 'u' :: '0' :: '0' :: Nat.digitChar (c.toNat / 16) ::
      Nat.digitChar (c.toNat % 16) :: t) = _
    rw [unquote?, hexChar?_control hcontrol]
    cases unquote? t <;> rfl
  · exact unquote?_plain hquote hback (by omega) t

/-- **A string is read back** from between its quotes. -/
theorem unquote?_escaped (s rest : Text) :
    unquote? (s.flatMap escapeChar ++ '"' :: rest) = some (s, rest) := by
  induction s with
  | nil => rfl
  | cons c s ih =>
    rw [List.flatMap_cons, List.append_assoc, unquote?_escapeChar, ih]
    rfl

/-! ## 2. Lexemes -/

/-- The white space of the format. -/
def isSpace (c : Char) : Bool := c == ' ' || c == '\n' || c == '\r' || c == '\t'

/-- The characters that structure a document. -/
def marks : List Char := ['[', ']', '\x7b', '\x7d', ',', ':']

/-- A lexeme: a whole value without parts, or a mark. -/
inductive Lexeme where
  | scalar (v : Json)
  | mark (c : Char)

/-- The words of the format and their values. -/
def words : List (Text × Json) :=
  [("null".toList, null), ("true".toList, bool true), ("false".toList, bool false)]

/-- The word at the front of a text. -/
def nextWord? (t : Text) : Option (Json × Text) :=
  words.findSome? fun (word, v) => (t.dropStart? word).map fun rest => (v, rest)

/-- The number at the front of a text: all its leading digits, none of which may be a zero that
    stands before others. -/
def nextNumber? (t : Text) : Option (Json × Text) :=
  let digits := t.takeWhile Char.isDigit
  if digits = [] ∨ digits.head? = some '0' ∧ digits ≠ ['0'] then none
  else some (number (Nat.ofDigitChars 10 digits 0), t.dropWhile Char.isDigit)

/-- The lexeme at the front of a text, behind white space, and what follows it. -/
def next? (t : Text) : Option (Lexeme × Text) :=
  match t.dropWhile isSpace with
  | [] => none
  | c :: rest =>
    if c ∈ marks then some (.mark c, rest)
    else if c = '"' then (unquote? rest).map fun (s, r) => (.scalar (text s), r)
    else if c.isDigit then (nextNumber? (c :: rest)).map fun (v, r) => (.scalar v, r)
    else (nextWord? (c :: rest)).map fun (v, r) => (.scalar v, r)

/-- White space before a lexeme does not matter. -/
theorem next?_space {c : Char} (h : isSpace c = true) (t : Text) : next? (c :: t) = next? t := by
  unfold next?
  rw [List.dropWhile_cons_of_pos h]

theorem next?_newline (depth : Nat) (t : Text) : next? (newline depth ++ t) = next? t := by
  have hspaces : ∀ n, next? (List.replicate n ' ' ++ t) = next? t := by
    intro n
    induction n with
    | zero => rfl
    | succ n ih => exact (next?_space rfl _).trans ih
  exact (next?_space rfl _).trans (hspaces (2 * depth))

/-- A mark is neither white space nor a digit. -/
theorem plain_of_mark {c : Char} (h : c ∈ marks) :
    isSpace c = false ∧ c.isDigit = false := by
  simp only [marks, List.mem_cons, List.not_mem_nil, or_false] at h
  rcases h with rfl | rfl | rfl | rfl | rfl | rfl <;> exact ⟨rfl, rfl⟩

theorem next?_mark {c : Char} (h : c ∈ marks) (t : Text) : next? (c :: t) = some (.mark c, t) := by
  rw [next?, List.dropWhile_cons_of_neg (by rw [(plain_of_mark h).1]; decide)]
  exact if_pos h

theorem next?_word {word : Text} {v : Json} (h : (word, v) ∈ words) (rest : Text) :
    next? (word ++ rest) = some (.scalar v, rest) := by
  simp only [words, List.mem_cons, Prod.mk.injEq, List.not_mem_nil, or_false] at h
  rcases h with ⟨rfl, rfl⟩ | ⟨rfl, rfl⟩ | ⟨rfl, rfl⟩ <;>
    simp [next?, isSpace, marks, nextWord?, words, Text.dropStart?]

/-- **A string is the next lexeme of its text.** -/
theorem next?_string (s rest : Text) :
    next? (string s ++ rest) = some (.scalar (text s), rest) := by
  have htext : string s ++ rest = '"' :: (s.flatMap escapeChar ++ '"' :: rest) := by
    simp [string]
  have hread := unquote?_escaped s rest
  rw [htext, next?]
  show (unquote? _).map _ = _
  rw [hread]
  rfl

/-- No digit stands at the front of the text. -/
def NoDigit (t : Text) : Prop := ∀ c ∈ t.head?, c.isDigit = false

/-- The digits of a number start with a zero only if the number is zero. -/
theorem head?_decimal {n : Nat} (h : n ≠ 0) : (Text.decimal n).head? ≠ some '0' := by
  have hdigit : ∀ d < 10, d ≠ 0 → Nat.digitChar d ≠ '0' := by decide
  unfold Text.decimal
  induction n using Nat.strongRecOn with
  | ind n ih =>
    rcases Nat.lt_or_ge n 10 with hn | hn
    · rw [Nat.toDigits_of_lt_base hn]
      exact fun h0 => hdigit n hn h (Option.some.inj h0)
    · rw [Nat.toDigits_of_base_le (by decide) hn, List.head?_append_of_ne_nil _ Nat.toDigits_ne_nil]
      exact ih (n / 10) (Nat.div_lt_self (by omega) (by decide)) (by omega)

/-- All digits of a number are read, up to what is no digit. -/
theorem nextNumber?_decimal (n : Nat) {rest : Text} (h : NoDigit rest) :
    nextNumber? (Text.decimal n ++ rest) = some (number n, rest) := by
  have hdigit : ∀ c ∈ Text.decimal n, c.isDigit = true := fun c hc => Payload.decimal_isDigit hc
  have hrest : rest.takeWhile Char.isDigit = [] ∧ rest.dropWhile Char.isDigit = rest := by
    cases rest with
    | nil => exact ⟨rfl, rfl⟩
    | cons c rest =>
      have hc : ¬ c.isDigit = true := by
        rw [h c rfl]
        decide
      exact ⟨List.takeWhile_cons_of_neg hc, List.dropWhile_cons_of_neg hc⟩
  have hvalue : Nat.ofDigitChars 10 (Text.decimal n) 0 = n := Nat.ofDigitChars_ten_toDigits
  have hzeros : ¬ (Text.decimal n = [] ∨
      (Text.decimal n).head? = some '0' ∧ Text.decimal n ≠ ['0']) := by
    rintro (hnil | ⟨hhead, hne⟩)
    · exact Nat.toDigits_ne_nil hnil
    · by_cases hn : n = 0
      · exact hne (hn ▸ Nat.toDigits_zero 10)
      · exact head?_decimal hn hhead
  simp only [nextNumber?]
  rw [List.takeWhile_append_of_pos hdigit, List.dropWhile_append_of_pos hdigit, hrest.1, hrest.2,
    List.append_nil, hvalue, if_neg hzeros]

/-- A digit starts no other lexeme. -/
theorem plain_of_isDigit {c : Char} (h : c.isDigit = true) :
    isSpace c = false ∧ c ∉ marks ∧ c ≠ '"' := by
  refine ⟨Bool.eq_false_iff.2 fun hs => ?_, fun hm => ?_, ?_⟩
  · simp only [isSpace, Bool.or_eq_true, beq_iff_eq] at hs
    rcases hs with ((rfl | rfl) | rfl) | rfl <;> cases h
  · rw [(plain_of_mark hm).2] at h
    cases h
  · rintro rfl
    cases h

/-- **A number is the next lexeme of its digits**, if no further digit follows. -/
theorem next?_decimal (n : Nat) {rest : Text} (h : NoDigit rest) :
    next? (Text.decimal n ++ rest) = some (.scalar (number n), rest) := by
  have hread := nextNumber?_decimal n h
  cases hd : Text.decimal n with
  | nil => exact absurd hd Nat.toDigits_ne_nil
  | cons c ds =>
    have hc : c.isDigit = true := Payload.decimal_isDigit (hd ▸ List.mem_cons_self)
    obtain ⟨hspace, hmark, hquote⟩ := plain_of_isDigit hc
    rw [hd, List.cons_append] at hread
    rw [next?, List.cons_append, List.dropWhile_cons_of_neg (by rw [hspace]; decide)]
    simp only [if_neg hmark, if_neg hquote, hc, if_true, hread]
    rfl

/-! ## 3. Values -/

/-- What a text can spell: a value, or what stands behind the opening mark of an array or object
    that is not empty. -/
inductive Phrase where
  | value (v : Json)
  | elements (vs : List Json)
  | members (ms : List (Text × Json))

/-- Two phrases of one kind. -/
def Phrase.SameKind : Phrase → Phrase → Prop
  | .value _, .value _ => True
  | .elements _, .elements _ => True
  | .members _, .members _ => True
  | _, _ => False

/-- **`Spells t p r`: the text `t` starts with a spelling of `p`, and `r` follows it.** The last
    element or member takes the closing mark with it, so no comma can stand before that. -/
inductive Spells : Text → Phrase → Text → Prop
  | scalar {t r : Text} {v : Json} (h : next? t = some (.scalar v, r)) : Spells t (.value v) r
  | emptyArray {t u r : Text} (hopen : next? t = some (.mark '[', u))
      (hclose : next? u = some (.mark ']', r)) : Spells t (.value (array [])) r
  | array {t u r : Text} {vs : List Json} (hopen : next? t = some (.mark '[', u))
      (hs : Spells u (.elements vs) r) : Spells t (.value (array vs)) r
  | emptyObject {t u r : Text} (hopen : next? t = some (.mark '\x7b', u))
      (hclose : next? u = some (.mark '\x7d', r)) : Spells t (.value (object [])) r
  | object {t u r : Text} {ms : List (Text × Json)} (hopen : next? t = some (.mark '\x7b', u))
      (hs : Spells u (.members ms) r) : Spells t (.value (object ms)) r
  | lastElement {t u r : Text} {v : Json} (hv : Spells t (.value v) u)
      (hclose : next? u = some (.mark ']', r)) : Spells t (.elements [v]) r
  | element {t u w r : Text} {v : Json} {vs : List Json} (hv : Spells t (.value v) u)
      (hcomma : next? u = some (.mark ',', w)) (hs : Spells w (.elements vs) r) :
      Spells t (.elements (v :: vs)) r
  | lastMember {t k u w r : Text} {key : Text} {v : Json}
      (hkey : next? t = some (.scalar (text key), k)) (hcolon : next? k = some (.mark ':', u))
      (hv : Spells u (.value v) w) (hclose : next? w = some (.mark '\x7d', r)) :
      Spells t (.members [(key, v)]) r
  | member {t k u w x r : Text} {key : Text} {v : Json} {ms : List (Text × Json)}
      (hkey : next? t = some (.scalar (text key), k)) (hcolon : next? k = some (.mark ':', u))
      (hv : Spells u (.value v) w) (hcomma : next? w = some (.mark ',', x))
      (hs : Spells x (.members ms) r) : Spells t (.members ((key, v) :: ms)) r

/-- No object of the value, at any depth, has two members with one key. -/
inductive KeysDistinct : Json → Prop
  | null : KeysDistinct null
  | bool (b : Bool) : KeysDistinct (bool b)
  | number (n : Nat) : KeysDistinct (number n)
  | text (t : Text) : KeysDistinct (text t)
  | array {vs : List Json} (hvs : ∀ v ∈ vs, KeysDistinct v) : KeysDistinct (array vs)
  | object {ms : List (Text × Json)} (hkeys : (ms.map (·.1)).Nodup)
      (hms : ∀ m ∈ ms, KeysDistinct m.2) : KeysDistinct (object ms)

attribute [simp] KeysDistinct.null KeysDistinct.bool KeysDistinct.number KeysDistinct.text

@[simp] theorem keysDistinct_array {vs : List Json} :
    (array vs).KeysDistinct ↔ ∀ v ∈ vs, v.KeysDistinct :=
  ⟨fun | .array hvs => hvs, .array⟩

@[simp] theorem keysDistinct_object {ms : List (Text × Json)} :
    (object ms).KeysDistinct ↔ (ms.map (·.1)).Nodup ∧ ∀ m ∈ ms, m.2.KeysDistinct :=
  ⟨fun | .object hkeys hms => ⟨hkeys, hms⟩, fun h => .object h.1 h.2⟩

namespace Spells

/-- No phrase starts with a closing mark. -/
theorem next?_ne {t r u : Text} {p : Phrase} {c : Char} (h : Spells t p r)
    (hc : c = ']' ∨ c = '\x7d') : next? t ≠ some (.mark c, u) := by
  intro hn
  induction h generalizing u with
  | lastElement _ _ ih => exact ih hn
  | element _ _ _ ih => exact ih hn
  | _ => grind

/-- **A text starts with a spelling of no more than one phrase of a kind**, and what follows it is
    determined too. -/
theorem unique {t r s : Text} {p q : Phrase} (hp : Spells t p r) (hq : Spells t q s)
    (hpq : p.SameKind q) : p = q ∧ r = s := by
  induction hp generalizing q s with
  -- the first lexeme settles which rule spells a value, but for the one behind an opening mark
  | scalar h => cases hq <;> grind [Phrase.SameKind]
  | emptyArray hopen hclose => cases hq <;> grind [Phrase.SameKind, next?_ne]
  | array hopen hs ih => cases hq <;> grind [Phrase.SameKind, next?_ne]
  | emptyObject hopen hclose => cases hq <;> grind [Phrase.SameKind, next?_ne]
  | object hopen hs ih => cases hq <;> grind [Phrase.SameKind, next?_ne]
  -- behind an element or member the same text is left, and its mark tells whether another follows
  | lastElement hv hclose ih =>
    cases hq with
    | lastElement hv' hclose' =>
      obtain ⟨heq, rfl⟩ := ih hv' trivial
      grind
    | element hv' hcomma' _ =>
      obtain ⟨-, rfl⟩ := ih hv' trivial
      grind
    | _ => exact hpq.elim
  | element hv hcomma hs ihv ihs =>
    cases hq with
    | lastElement hv' hclose' =>
      obtain ⟨-, rfl⟩ := ihv hv' trivial
      grind
    | element hv' hcomma' hs' =>
      obtain ⟨heq, rfl⟩ := ihv hv' trivial
      grind [Phrase.SameKind]
    | _ => exact hpq.elim
  | lastMember hkey hcolon hv hclose ih =>
    cases hq with
    | lastMember hkey' hcolon' hv' hclose' => grind [Phrase.SameKind]
    | member hkey' hcolon' hv' hcomma' _ => grind [Phrase.SameKind]
    | _ => exact hpq.elim
  | member hkey hcolon hv hcomma hs ihv ihs =>
    cases hq with
    | lastMember hkey' hcolon' hv' hclose' => grind [Phrase.SameKind]
    | member hkey' hcolon' hv' hcomma' hs' => grind [Phrase.SameKind]
    | _ => exact hpq.elim

/-- Only the first lexeme of a text is looked at, so white space before it does not matter. -/
theorem of_next? {t u r : Text} {p : Phrase} (h : Spells t p r) (hn : next? u = next? t) :
    Spells u p r := by
  induction h generalizing u with
  | scalar h => exact .scalar (hn.trans h)
  | emptyArray hopen hclose => exact .emptyArray (hn.trans hopen) hclose
  | array hopen hs _ => exact .array (hn.trans hopen) hs
  | emptyObject hopen hclose => exact .emptyObject (hn.trans hopen) hclose
  | object hopen hs _ => exact .object (hn.trans hopen) hs
  | lastElement _ hclose ih => exact .lastElement (ih hn) hclose
  | element _ hcomma hs ih _ => exact .element (ih hn) hcomma hs
  | lastMember hkey hcolon hv hclose _ => exact .lastMember (hn.trans hkey) hcolon hv hclose
  | member hkey hcolon hv hcomma hs _ _ => exact .member (hn.trans hkey) hcolon hv hcomma hs

end Spells

/-! ## 4. Rendering -/

/-- What `enclose` writes behind the opening mark of an array or object, and a rest. -/
def inside (depth : Nat) (right : Char) (items : List Text) (rest : Text) : Text :=
  newline (depth + 1) ++ List.intercalate ([','] ++ newline (depth + 1)) items ++
    (newline depth ++ right :: rest)

theorem enclose_append (depth : Nat) (left right : Char) (item : Text) (items : List Text)
    (rest : Text) :
    enclose depth left right (item :: items) ++ rest =
      left :: inside depth right (item :: items) rest := by
  simp [enclose, inside]

theorem inside_last (depth : Nat) (right : Char) (item : Text) (rest : Text) :
    inside depth right [item] rest =
      newline (depth + 1) ++ (item ++ (newline depth ++ right :: rest)) := by
  simp [inside]

theorem inside_cons_cons (depth : Nat) (right : Char) (item next : Text) (items : List Text)
    (rest : Text) :
    inside depth right (item :: next :: items) rest =
      newline (depth + 1) ++ (item ++ ',' :: inside depth right (next :: items) rest) := by
  simp [inside, List.intercalate_cons_cons]

theorem noDigit_newline (depth : Nat) (t : Text) : NoDigit (newline depth ++ t) := by
  intro c hc
  obtain rfl := Option.some.inj hc
  rfl

theorem noDigit_cons {c : Char} (h : c.isDigit = false) (t : Text) : NoDigit (c :: t) := by
  intro d hd
  obtain rfl := Option.some.inj hd
  exact h

/-- The key of a member is read, and its colon and value are left. -/
theorem next?_member (depth : Nat) (key value rest : Text) :
    next? (newline depth ++ (string key ++ ": ".toList ++ value ++ rest)) =
      some (.scalar (text key), ':' :: ' ' :: (value ++ rest)) := by
  have htext : string key ++ ": ".toList ++ value ++ rest =
      string key ++ ':' :: ' ' :: (value ++ rest) := by
    simp
  rw [next?_newline, htext, next?_string]

mutual

/-- **What is rendered spells its value**, whatever follows it that is no digit. -/
theorem spells_render (depth : Nat) (v : Json) {rest : Text} (h : NoDigit rest) :
    Spells (render depth v ++ rest) (.value v) rest := by
  match v with
  | .null | .bool true | .bool false =>
    rw [render]
    exact .scalar (next?_word (by simp [words]) rest)
  | .number n => exact .scalar (next?_decimal n h)
  | .text s => exact .scalar (next?_string s rest)
  | .array [] => exact .emptyArray (next?_mark (by decide) _) (next?_mark (by decide) rest)
  | .array (v :: vs) =>
    rw [render, renderElements, enclose_append, ← renderElements]
    exact .array (next?_mark (by decide) _)
      (spells_elements depth (v :: vs) (List.cons_ne_nil v vs))
  | .object [] => exact .emptyObject (next?_mark (by decide) _) (next?_mark (by decide) rest)
  | .object ((key, v) :: ms) =>
    rw [render, renderMembers, enclose_append, ← renderMembers]
    exact .object (next?_mark (by decide) _)
      (spells_members depth ((key, v) :: ms) (List.cons_ne_nil _ ms))

/-- The elements of an array are spelled up to its closing mark. -/
theorem spells_elements (depth : Nat) (vs : List Json) {rest : Text} (hne : vs ≠ []) :
    Spells (inside depth ']' (renderElements (depth + 1) vs) rest) (.elements vs) rest := by
  match vs with
  | [v] =>
    rw [renderElements, renderElements, inside_last]
    refine .lastElement (.of_next? (spells_render (depth + 1) v (noDigit_newline depth _))
      (next?_newline _ _)) ?_
    rw [next?_newline, next?_mark (by decide)]
  | v :: w :: vs =>
    rw [renderElements, renderElements, inside_cons_cons, ← renderElements]
    exact .element (.of_next? (spells_render (depth + 1) v (noDigit_cons rfl _))
      (next?_newline _ _)) (next?_mark (by decide) _)
      (spells_elements depth (w :: vs) (List.cons_ne_nil w vs))

/-- The members of an object are spelled up to its closing mark. -/
theorem spells_members (depth : Nat) (ms : List (Text × Json)) {rest : Text} (hne : ms ≠ []) :
    Spells (inside depth '\x7d' (renderMembers (depth + 1) ms) rest) (.members ms) rest := by
  match ms with
  | [(key, v)] =>
    rw [renderMembers, renderMembers, inside_last]
    refine .lastMember (next?_member _ key _ _) (next?_mark (by decide) _)
      (.of_next? (spells_render (depth + 1) v (noDigit_newline depth _)) (next?_space rfl _)) ?_
    rw [next?_newline, next?_mark (by decide)]
  | (key, v) :: m :: ms =>
    rw [renderMembers, renderMembers, inside_cons_cons, ← renderMembers]
    exact .member (next?_member _ key _ _) (next?_mark (by decide) _)
      (.of_next? (spells_render (depth + 1) v (noDigit_cons rfl _)) (next?_space rfl _))
      (next?_mark (by decide) _) (spells_members depth (m :: ms) (List.cons_ne_nil m ms))

end

end PatternBook.Json
