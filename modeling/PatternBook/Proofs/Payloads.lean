import PatternBook.Proofs.Written

/-!
# Payloads read back

What a field writes behind its tag is a phrase, and the reader of the field's tag gives back what
was written: `ofLine?_line` for the tag line itself, `firstLine_append_newline`,
`entry?_entryText`, `parameter_text` and `height?_decimal` for the payloads. The newline at the end
of each payload is the end of its tag line. All lines of a field can stand in a comment
(`Field.isLine_lines`).
-/

namespace PatternBook

open Comments (closing)

/-! ## 1. Phrases and words -/

namespace Text

/-- Characters that are not blank at both ends make a phrase of a text without newlines. -/
theorem isPhrase_of_ends {t : Text} (hn : '\n' ∉ t) (hh : ∀ c ∈ t.head?, isBlank c = false)
    (hl : ∀ c ∈ t.getLast?, isBlank c = false) : t.IsPhrase :=
  ⟨trim_eq_self_iff.2 ⟨hh, hl⟩, hn⟩

theorem IsPhrase.head?_not_blank {t : Text} (h : t.IsPhrase) : ∀ c ∈ t.head?, isBlank c = false :=
  (trim_eq_self_iff.1 h.trimmed).1

theorem IsPhrase.getLast?_not_blank {t : Text} (h : t.IsPhrase) :
    ∀ c ∈ t.getLast?, isBlank c = false :=
  (trim_eq_self_iff.1 h.trimmed).2

/-- A phrase does not end with a carriage return. -/
theorem IsPhrase.no_return {t : Text} (h : t.IsPhrase) : t.getLast? ≠ some '\r' := fun hr =>
  absurd (h.getLast?_not_blank _ hr) (by decide)

theorem IsWord.no_newline {t : Text} (h : t.IsWord) : '\n' ∉ t := fun hn =>
  absurd (h.no_blank _ hn) (by decide)

theorem IsWord.isPhrase {t : Text} (h : t.IsWord) : t.IsPhrase :=
  isPhrase_of_ends h.no_newline (fun c hc => h.no_blank c (List.mem_of_mem_head? hc))
    fun c hc => h.no_blank c (List.mem_of_getLast? hc)

/-- A text without blanks ends at the first blank behind it. -/
theorem takeWhile_append_of_no_blank {t rest : Text} (ht : ∀ c ∈ t, isBlank c = false)
    (hr : ∀ c ∈ rest.head?, isBlank c = true) :
    (t ++ rest).takeWhile (fun c => !isBlank c) = t ∧
      (t ++ rest).dropWhile (fun c => !isBlank c) = rest := by
  refine takeWhile_dropWhile_eq_iff.2 ⟨rfl, fun c hc => ?_, fun c hc => ?_⟩
  · rw [ht c hc]
    rfl
  · rw [hr c hc]
    rfl

/-- A trim leaves a word and what follows it, and takes white space from the end of what follows. -/
theorem trim_append_of_isWord {before t : Text} (hbefore : before.isAllBlank = true) (ht : t.IsWord)
    (rest : Text) : trim (before ++ t ++ rest) = t ++ rest.trimEnd := by
  have hhead : ∀ c ∈ (t ++ rest).head?, isBlank c = false := by
    rw [List.head?_append_of_ne_nil _ ht.ne_nil]
    exact ht.isPhrase.head?_not_blank
  rw [List.append_assoc, trim_append_of_blank hbefore, trim, trimStart_of_head? hhead,
    trimEnd_append_of_getLast? ht.isPhrase.getLast?_not_blank]

end Text

/-! ## 2. Tag lines -/

namespace Tag

/-- A tag line is read as its tag and what follows the tag. -/
theorem ofLine?_line (tag : Tag) {rest : Text} (h : ∀ c ∈ rest.head?, Text.isBlank c = false) :
    ofLine? (line tag rest) = some (tag, rest) := by
  refine ofLine?_eq_some_iff.2 ⟨[], if rest.isEmpty then [] else ' ' :: rest, ⟨rfl, by simp, ?_⟩, ?_⟩
  · cases rest <;> simp [Text.isBlank]
  · cases rest with
    | nil => rfl
    | cons c rest => exact (Text.trimStart_of_head? h).symm

/-- A tag line opens no region. -/
theorem opening?_line (tag : Tag) (rest : Text) : Fence.opening? (line tag rest) = none := rfl

/-- A tag line is not framing. -/
theorem isFraming_line (tag : Tag) (rest : Text) : Body.isFraming (line tag rest) = false := by
  rw [Body.isFraming, List.all_eq_false]
  exact ⟨'@', Text.mem_trim_of_not_blank List.mem_cons_self (by decide), by decide⟩

/-- A phrase behind a tag can stand in a comment. -/
theorem isLine_line (tag : Tag) {rest : Text} (h : rest.IsPhrase) (hc : ¬ closing <:+: rest) :
    Body.IsLine (line tag rest) := by
  have hname : ¬ closing <:+: '@' :: tag.name := by cases tag <;> decide
  have hend : ('@' :: tag.name).getLast? ≠ some '\r' := by cases tag <;> decide
  have hline : '\n' ∉ '@' :: tag.name := by cases tag <;> decide
  unfold line
  cases rest with
  | nil => exact ⟨by simpa using hline, by simpa using hend, by simpa using hname⟩
  | cons c rest =>
    refine ⟨?_, ?_, ?_⟩
    · rw [List.mem_append]
      rintro (hn | hn)
      · exact hline hn
      · exact h.no_newline (by simpa using hn)
    · rw [List.getLast?_append_of_ne_nil _ (by simp)]
      simpa using h.no_return
    · have hsp : ¬ closing <:+: [' '] ++ c :: rest := Body.not_closing_append_of_star (by decide) hc
      exact Body.not_closing_append hname hsp (by simp)

end Tag

/-! ## 3. Phrases, entries and heights -/

namespace Payload

/-- A phrase is read back from the line it stands on. -/
theorem firstLine_append_newline {t : Text} (h : t.IsPhrase) : firstLine (t ++ ['\n']) = t := by
  have hn : ∀ c ∈ t, (c != '\n') = true := by
    intro c hc
    rw [bne_iff_ne]
    intro hcn
    exact h.no_newline (hcn ▸ hc)
  rw [firstLine, List.takeWhile_append_of_pos hn]
  have hnil : ['\n'].takeWhile (fun c => c != '\n') = [] := rfl
  rw [hnil, List.append_nil, h.trimmed]

theorem isPhrase_entryText {key value : Text} (hk : key.IsWord) (hv : value.IsPhrase) :
    (Metadata.entryText key value).IsPhrase := by
  unfold Metadata.entryText
  cases value with
  | nil => exact hk.isPhrase
  | cons c value =>
    refine Text.isPhrase_of_ends ?_ ?_ ?_
    · intro hn
      rcases List.mem_append.1 hn with hn | hn
      · rcases List.mem_append.1 hn with hn | hn
        · exact hk.no_newline hn
        · exact absurd hn (by decide)
      · exact hv.no_newline hn
    · intro d hd
      refine hk.isPhrase.head?_not_blank d ?_
      cases key with
      | nil => exact absurd rfl hk.ne_nil
      | cons e key => exact hd
    · intro d hd
      refine hv.getLast?_not_blank d ?_
      simpa using hd

/-- The key of an entry is the word it starts with. -/
theorem entry?_of_trim {payload key rest : Text} (hp : payload.trim = key ++ rest) (hk : key.IsWord)
    (hr : ∀ c ∈ rest.head?, Text.isBlank c = true) :
    entry? payload = some (key, entryValue (Text.trim rest)) := by
  obtain ⟨htake, hdrop⟩ := Text.takeWhile_append_of_no_blank hk.no_blank hr
  have hne : (key ++ rest).isEmpty = false := by
    cases key with
    | nil => exact absurd rfl hk.ne_nil
    | cons c key => rfl
  unfold entry?
  simp only [hp, htake, hdrop, hne, Bool.false_eq_true, if_false]

/-- A value behind a dash is given back, whatever white space stands between the two. -/
theorem entryValue_dash {gap value : Text} (hgap : gap.isAllBlank = true) (hv : value.trim = value) :
    entryValue (Text.trim (['-', ' '] ++ gap ++ value)) = value := by
  cases value with
  | nil =>
    have hblank : Text.isAllBlank (' ' :: gap) = true := hgap
    have htrim : Text.trim (['-', ' '] ++ gap ++ []) = ['-'] := by
      rw [List.append_nil]
      exact Text.trim_append_blank hblank ['-']
    rw [htrim]
    rfl
  | cons c value =>
    obtain ⟨hhead, hlast⟩ := Text.trim_eq_self_iff.1 hv
    have htrim : Text.trim (['-', ' '] ++ gap ++ c :: value) = ['-', ' '] ++ (gap ++ c :: value) := by
      rw [List.append_assoc]
      refine Text.trim_eq_self_iff.2 ⟨by simp [Text.isBlank], ?_⟩
      rw [← List.append_assoc, List.getLast?_append_of_ne_nil _ (List.cons_ne_nil c value)]
      exact hlast
    rw [htrim, entryValue, Text.dropStart?_eq_some_iff.2 rfl]
    exact (Text.trimStart_append_of_blank hgap _).trans (Text.trimStart_of_head? hhead)

/-- **A metadata entry is read back.** -/
theorem entry?_entryText {key value : Text} (hk : key.IsWord) (hv : value.IsPhrase) :
    entry? (Metadata.entryText key value ++ ['\n']) = some (key, value) := by
  have htrim := Text.trim_append_newline (isPhrase_entryText hk hv).trimmed
  cases value with
  | nil =>
    have hkey : Metadata.entryText key [] = key ++ [] := (List.append_nil key).symm
    rw [hkey] at htrim ⊢
    rw [entry?_of_trim htrim hk (by simp)]
    rfl
  | cons c value =>
    have htext : Metadata.entryText key (c :: value) = key ++ ([' ', '-', ' '] ++ c :: value) :=
      List.append_assoc _ _ _
    rw [htext] at htrim ⊢
    have hvalue : Text.trim ([' ', '-', ' '] ++ c :: value) =
        Text.trim (['-', ' '] ++ [] ++ c :: value) := rfl
    rw [entry?_of_trim htrim hk (by simp [Text.isBlank]), hvalue, entryValue_dash rfl hv.trimmed]

theorem decimal_isDigit {n : Nat} {c : Char} (hc : c ∈ Text.decimal n) : c.isDigit = true :=
  Nat.isDigit_of_mem_toDigits (by decide) (by decide) hc

/-- Digits make a word. -/
theorem isWord_of_isDigit {digits : Text} (hne : digits ≠ []) (hd : ∀ c ∈ digits, c.isDigit = true) :
    digits.IsWord where
  ne_nil := hne
  no_blank := by
    intro c hc
    have hd := hd c hc
    rw [Char.isDigit_iff_toNat, show '0'.toNat = 48 from rfl, show '9'.toNat = 57 from rfl] at hd
    simp only [Text.isBlank, Bool.or_eq_false_iff, decide_eq_false_iff_not, beq_eq_false_iff_ne]
    omega

theorem isWord_decimal (n : Nat) : (Text.decimal n).IsWord :=
  isWord_of_isDigit Nat.toDigits_ne_nil fun _ => decimal_isDigit

/-- The height of a payload is made of the digits it starts with, if their number is small enough. -/
theorem height?_of_trim {payload digits rest : Text} (hp : payload.trim = digits ++ rest)
    (hne : digits ≠ []) (hd : ∀ c ∈ digits, c.isDigit = true)
    (hr : ∀ c ∈ rest.head?, c.isDigit = false) : height? payload =
      if Nat.ofDigitChars 10 digits 0 < heightLimit then some (Nat.ofDigitChars 10 digits 0)
      else none := by
  obtain ⟨htake, -⟩ := Text.takeWhile_dropWhile_eq_iff.2 ⟨hp, hd, hr⟩
  rw [height?, htake]
  simp [hne]

/-- **A height is read back.** -/
theorem height?_decimal {n : Nat} (h : n < 0x100000000) :
    height? (Text.decimal n ++ ['\n']) = some n := by
  have hword := isWord_decimal n
  have htrim : Text.trim (Text.decimal n ++ ['\n']) = Text.decimal n ++ [] := by
    rw [Text.trim_append_newline hword.isPhrase.trimmed, List.append_nil]
  rw [height?_of_trim htrim hword.ne_nil (fun _ => decimal_isDigit) (by simp), Text.decimal,
    Nat.ofDigitChars_ten_toDigits]
  exact if_pos h

end Payload

/-! ## 4. Parameters -/

namespace Parameter

variable {q : Parameter}

theorem head?_descriptionText (q : Parameter) :
    ∀ c ∈ q.descriptionText.head?, Text.isBlank c = true := by
  unfold descriptionText
  cases q.description with
  | nil => simp
  | cons c t => simp [Text.isBlank]

/-- The description of a parameter is read back. -/
theorem parameterDescription_descriptionText (h : q.description.IsPhrase) :
    Payload.parameterDescription q.descriptionText = q.description := by
  unfold descriptionText
  cases hd : q.description with
  | nil => rfl
  | cons c t =>
    have hcut : Text.cut? ([' ', '-', ' '] ++ c :: t) [' ', '-', ' '] = some ([], c :: t) := by
      refine (Text.cut?_eq_some_iff (List.cons_ne_nil _ _)).2 ⟨rfl, ?_⟩
      show ¬ [' ', '-', ' '] <:+: [' ', '-']
      decide
    rw [hd] at h
    show Payload.parameterDescription ([' ', '-', ' '] ++ c :: t) = c :: t
    rw [Payload.parameterDescription, hcut]
    exact h.trimmed

/-- The name of a parameter, written, stands between characters that are not blank. -/
theorem isPhrase_nameText (h : q.WellFormed) : q.nameText ≠ [] ∧ q.nameText.IsPhrase := by
  unfold nameText
  rcases h.name with ⟨hr, -, hw, -⟩ | ⟨hr, -, -, -, -⟩
  · rw [hr, if_pos rfl]
    exact ⟨hw.ne_nil, hw.isPhrase⟩
  · rw [hr, if_neg (by decide)]
    refine ⟨List.cons_ne_nil _ _, Text.isPhrase_of_ends ?_ ?_ ?_⟩
    · intro hn
      rcases List.mem_append.1 hn with hn | hn
      · rcases List.mem_append.1 hn with hn | hn
        · exact h.name_line (by simpa using hn)
        · cases hv : q.defaultValue with
          | none => simp [hv] at hn
          | some v => exact h.default_line v hv (by simpa [hv] using hn)
      · exact absurd hn (by decide)
    · simp [Text.isBlank]
    · rw [List.getLast?_concat]
      simp [Text.isBlank]

/-- A parameter is written as a phrase. -/
theorem isPhrase_text (h : q.WellFormed) : q.text.IsPhrase := by
  obtain ⟨hne, hname⟩ := isPhrase_nameText h
  unfold text
  refine Text.isPhrase_of_ends ?_ ?_ ?_
  · intro hn
    simp only [List.cons_append, List.mem_append, List.mem_cons] at hn
    rcases hn with hn | ((hn | hn) | hn) | hn
    · exact absurd hn (by decide)
    · exact h.type_line hn
    · exact absurd hn (by decide)
    · exact hname.no_newline hn
    · unfold descriptionText at hn
      split at hn
      · cases hn
      · rcases List.mem_append.1 hn with hn | hn
        · exact absurd hn (by decide)
        · exact h.description.no_newline hn
  · simp [Text.isBlank]
  · intro c hc
    unfold descriptionText at hc
    cases hd : q.description with
    | nil =>
      rw [hd, List.isEmpty_nil, if_pos rfl, List.append_nil,
        List.getLast?_append_of_ne_nil _ hne] at hc
      exact hname.getLast?_not_blank c hc
    | cons d t =>
      refine h.description.getLast?_not_blank c ?_
      rw [hd] at hc ⊢
      rw [List.isEmpty_cons, if_neg (by decide), ← List.append_assoc,
        List.getLast?_append_of_ne_nil _ (List.cons_ne_nil d t)] at hc
      exact hc

/-- The type of a parameter is read back, and leaves what follows it. -/
theorem typeGroup_text (h : q.WellFormed) :
    Payload.typeGroup q.text = (q.type, q.nameText ++ q.descriptionText) := by
  obtain ⟨hne, hname⟩ := isPhrase_nameText h
  have htext : q.text =
      '\x7b' :: (q.type ++ '\x7d' :: ' ' :: (q.nameText ++ q.descriptionText)) := by
    simp [text]
  have hcut : Text.cut? (q.type ++ '\x7d' :: ' ' :: (q.nameText ++ q.descriptionText)) ['\x7d'] =
      some (q.type, ' ' :: (q.nameText ++ q.descriptionText)) :=
    Text.cut?_single_iff.2 ⟨rfl, h.type_open⟩
  have hstart : Text.trimStart (' ' :: (q.nameText ++ q.descriptionText)) =
      q.nameText ++ q.descriptionText := by
    show Text.trimStart (q.nameText ++ q.descriptionText) = q.nameText ++ q.descriptionText
    refine Text.trimStart_of_head? ?_
    rw [List.head?_append_of_ne_nil _ hne]
    exact hname.head?_not_blank
  rw [htext, Payload.typeGroup, hcut]
  simp only [hstart]

/-- The brackets of an optional parameter hold its name and its default value. -/
theorem bracketGroup?_nameText (h : q.WellFormed) (hr : q.required = false) :
    Payload.bracketGroup? (q.nameText ++ q.descriptionText) =
      some (q.name ++ (q.defaultValue.map ('=' :: ·)).getD [], q.descriptionText) := by
  have htext : q.nameText ++ q.descriptionText =
      '[' :: ((q.name ++ (q.defaultValue.map ('=' :: ·)).getD []) ++ ']' :: q.descriptionText) := by
    simp [nameText, hr]
  rcases h.name with ⟨hr', -⟩ | ⟨-, -, hb, -, hvb⟩
  · exact absurd (hr.symm.trans hr') (by decide)
  · have hin : ']' ∉ q.name ++ (q.defaultValue.map ('=' :: ·)).getD [] := by
      intro hm
      rcases List.mem_append.1 hm with hm | hm
      · exact hb hm
      · cases hv : q.defaultValue with
        | none => simp [hv] at hm
        | some v => exact hvb v hv (by simpa [hv] using hm)
    rw [htext]
    exact Text.cut?_single_iff.2 ⟨rfl, hin⟩

/-- **A parameter is read back.** -/
theorem parameter_text (h : q.WellFormed) : Payload.parameter (q.text ++ ['\n']) = q := by
  have htrim := Text.trim_append_newline (isPhrase_text h).trimmed
  have hdesc := parameterDescription_descriptionText h.description
  rw [Payload.parameter, htrim, typeGroup_text h]
  rcases h.name with ⟨hr, hdef, hw, hbr⟩ | ⟨hr, hname, -, heq, -⟩
  · have hnt : q.nameText = q.name := by rw [nameText, hr, if_pos rfl]
    have hgroup : Payload.bracketGroup? (q.name ++ q.descriptionText) = none := by
      cases hn : q.name with
      | nil => exact absurd hn hw.ne_nil
      | cons c t =>
        rw [hn] at hbr
        unfold Payload.bracketGroup?
        split
        · rename_i after hafter
          exact absurd (by rw [(List.cons.inj hafter).1]; rfl) hbr
        · rfl
    obtain ⟨htake, hdrop⟩ := Text.takeWhile_append_of_no_blank hw.no_blank q.head?_descriptionText
    rw [hnt]
    simp only [hgroup, htake, hdrop, hdesc]
    rw [← hr, ← hdef]
  · simp only [bracketGroup?_nameText h hr]
    cases hv : q.defaultValue with
    | none =>
      have hcut : Text.cut? q.name ['='] = none := Text.cut?_single_eq_none_iff.2 heq
      simp only [Option.map_none, Option.getD_none, List.append_nil, hcut, hname, hdesc]
      rw [← hr, ← hv]
    | some v =>
      have hcut : Text.cut? (q.name ++ '=' :: v) ['='] = some (q.name, v) :=
        Text.cut?_single_iff.2 ⟨rfl, heq⟩
      simp only [Option.map_some, Option.getD_some, hcut, hname, hdesc]
      rw [← hr, ← hv]

end Parameter

/-! ## 5. Lines of a comment -/

theorem not_closing_entryText {key value : Text} (hk : ¬ closing <:+: key)
    (hv : ¬ closing <:+: value) : ¬ closing <:+: Metadata.entryText key value := by
  unfold Metadata.entryText
  split
  · exact hk
  · rw [List.append_assoc]
    exact Body.not_closing_append hk (Body.not_closing_append_of_star (by decide) hv) (by simp)

theorem not_closing_decimal (n : Nat) : ¬ closing <:+: Text.decimal n := by
  refine Body.not_closing_of_star fun h => ?_
  exact absurd (Payload.decimal_isDigit h) (by decide)

namespace Parameter

theorem not_closing_nameText {q : Parameter} (hname : ¬ closing <:+: q.name)
    (hdefault : ∀ v ∈ q.defaultValue, ¬ closing <:+: v) : ¬ closing <:+: q.nameText := by
  unfold nameText
  split
  · exact hname
  · cases hv : q.defaultValue with
    | none =>
      show ¬ closing <:+: ['['] ++ q.name ++ [] ++ [']']
      rw [List.append_nil, List.append_assoc]
      exact Body.not_closing_append_of_star (by decide)
        (Body.not_closing_append hname (by decide) (by decide))
    | some v =>
      show ¬ closing <:+: ['['] ++ q.name ++ (['='] ++ v) ++ [']']
      simp only [List.append_assoc]
      refine Body.not_closing_append_of_star (by decide) (Body.not_closing_append hname ?_ (by simp))
      exact Body.not_closing_append_of_star (by decide)
        (Body.not_closing_append (hdefault v hv) (by decide) (by decide))

theorem not_closing_descriptionText {q : Parameter} (h : ¬ closing <:+: q.description) :
    ¬ closing <:+: q.descriptionText ∧ q.descriptionText.head? ≠ some '/' := by
  unfold descriptionText
  split
  · exact ⟨by decide, by decide⟩
  · exact ⟨Body.not_closing_append_of_star (by decide) h, by simp⟩

/-- The brackets, braces and dashes of a written parameter make no closing mark. -/
theorem not_closing_text {q : Parameter}
    (h : ∀ t ∈ (Field.parameter q).texts, ¬ closing <:+: t) : ¬ closing <:+: q.text := by
  have htype : ¬ closing <:+: q.type := h _ (by simp [Field.texts])
  have hname : ¬ closing <:+: q.nameText :=
    not_closing_nameText (h q.name (by simp [Field.texts]))
      fun v hv => h v (by simp [Field.texts, Option.mem_def.1 hv])
  obtain ⟨hdesc, hslash⟩ := not_closing_descriptionText (h q.description (by simp [Field.texts]))
  have hrest := Body.not_closing_append hname hdesc hslash
  show ¬ closing <:+: ['\x7b'] ++ q.type ++ ['\x7d', ' '] ++ q.nameText ++ q.descriptionText
  simp only [List.append_assoc]
  refine Body.not_closing_append_of_star (by decide) (Body.not_closing_append htype ?_ (by simp))
  exact Body.not_closing_append_of_star (by decide) hrest

end Parameter

/-- The lines of a code block can stand in a comment. -/
theorem CodeBlock.isLine_lines {b : CodeBlock} (h : b.WellFormed)
    (hc : ∀ t ∈ b.lang.toList ++ [b.code], ¬ closing <:+: t) : ∀ l ∈ b.lines, Body.IsLine l := by
  have hticks : Body.IsLine Fence.ticks := by decide
  intro l hl
  rcases List.mem_append.1 hl with hl | hl
  · rcases List.mem_cons.1 hl with hl | hl
    · rw [hl]
      cases hs : b.lang with
      | none => exact hticks
      | some s =>
        obtain ⟨hw, -⟩ := h.lang s hs
        have hcs : ¬ closing <:+: s := hc s (by simp [hs])
        exact ⟨by simpa [Fence.ticks] using hw.no_newline,
          by
            show (Fence.ticks ++ s).getLast? ≠ some '\r'
            rw [List.getLast?_append_of_ne_nil _ hw.ne_nil]
            exact hw.isPhrase.no_return,
          Body.not_closing_append_of_star (by decide) hcs⟩
    · exact ⟨Text.newline_notMem_of_mem_splitLines hl, (h.inner l hl).2,
        fun hm => hc b.code (by simp) (hm.trans (Text.infix_of_mem_splitLines hl))⟩
  · rw [List.mem_singleton.1 hl]
    exact hticks

/-- **The lines of a field can stand in a comment.** -/
theorem Field.isLine_lines {f : Field} (h : f.WellFormed) (hc : ∀ t ∈ f.texts, ¬ closing <:+: t) :
    ∀ l ∈ f.lines, Body.IsLine l := by
  have hphrase : ∀ {tag : Tag} {rest l : Text}, rest.IsPhrase → ¬ closing <:+: rest →
      l ∈ [Tag.line tag rest] → Body.IsLine l := by
    intro tag rest l hr hrc hl
    rw [List.mem_singleton.1 hl]
    exact Tag.isLine_line tag hr hrc
  intro l hl
  cases f with
  | title t => exact hphrase h (hc t List.mem_cons_self) hl
  | todo t => exact hphrase h (hc t List.mem_cons_self) hl
  | deprecated t => exact hphrase h (hc t List.mem_cons_self) hl
  | entry key value =>
    obtain ⟨hk, -, -, hv⟩ := h
    exact hphrase (Payload.isPhrase_entryText hk hv)
      (not_closing_entryText (hc key (by simp [texts])) (hc value (by simp [texts]))) hl
  | parameter q => exact hphrase (Parameter.isPhrase_text h) (Parameter.not_closing_text hc) hl
  | description ls =>
    rcases List.mem_cons.1 hl with hl | hl
    · rw [hl]
      exact Tag.isLine_line .description ⟨rfl, List.not_mem_nil⟩ (by decide)
    · exact ⟨(h.lines l hl).1, (h.lines l hl).2, hc l hl⟩
  | newExample e =>
    rcases List.mem_append.1 hl with hl | hl
    · rcases List.mem_cons.1 hl with hl | hl
      · rw [hl]
        exact Tag.isLine_line .newExample h.description (hc _ List.mem_cons_self)
      · obtain ⟨n, -, rfl⟩ := List.mem_map.1 hl
        exact Tag.isLine_line .exampleHeight (Payload.isWord_decimal n).isPhrase
          (not_closing_decimal n)
    · obtain ⟨b, hb, hlb⟩ := List.mem_flatMap.1 hl
      refine CodeBlock.isLine_lines (h.codeBlocks b hb) (fun t ht => hc t ?_) l hlb
      exact List.mem_cons_of_mem _ (List.mem_flatMap.2 ⟨b, hb, ht⟩)

end PatternBook
