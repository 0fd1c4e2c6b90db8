import PatternBook.Proofs.LineKinds
import PatternBook.Proofs.Lines
import PatternBook.Proofs.WhiteSpace

/-!
# Written patterns

The tag format as a writer. A pattern is a name and a sequence of *fields*, each of which is written
as lines of its own behind a tag:

* `Field.lines` -- the lines of a field, and `Pattern.write` -- what the field says of a pattern;
* `Pattern.fields` -- the fields of a pattern in the order in which they are usually written. The
  description stands before the title: it may end with blank lines and dashes, which at the end of
  a comment would be taken for framing;
* `Pattern.WellFormed` -- what a pattern must meet to be carried by the format;
* `Pattern.IsWriting` -- the sequences of fields that say all of a pattern, in whatever order.
-/

namespace PatternBook

open Comments (closing)

/-! ## 1. Fields and their lines -/

/-- One thing that a comment says of a pattern. -/
inductive Field where
  | title (t : Text)
  | description (ls : List Text)
  | entry (key value : Text)
  | parameter (q : Parameter)
  | todo (t : Text)
  | deprecated (t : Text)
  | newExample (e : Example)
  deriving DecidableEq

/-- A tag line. -/
def Tag.line (tag : Tag) (rest : Text) : Text :=
  '@' :: tag.name ++ if rest.isEmpty then [] else ' ' :: rest

/-- A metadata entry behind its tag: the key, and the value after a dash. -/
def Metadata.entryText (key value : Text) : Text :=
  if value.isEmpty then key else key ++ [' ', '-', ' '] ++ value

/-- The name of a parameter, in brackets with its default value if it is optional. -/
def Parameter.nameText (q : Parameter) : Text :=
  if q.required then q.name
  else '[' :: q.name ++ (q.defaultValue.map ('=' :: ·)).getD [] ++ [']']

/-- The description of a parameter after a dash. -/
def Parameter.descriptionText (q : Parameter) : Text :=
  if q.description.isEmpty then [] else [' ', '-', ' '] ++ q.description

/-- A parameter behind its tag. -/
def Parameter.text (q : Parameter) : Text :=
  '\x7b' :: q.type ++ ['\x7d', ' '] ++ q.nameText ++ q.descriptionText

/-- A code block between its fences. -/
def CodeBlock.lines (b : CodeBlock) : List Text :=
  (Fence.ticks ++ b.lang.getD []) :: Text.splitLines b.code ++ [Fence.ticks]

/-- An example with its height and its code. -/
def Example.lines (e : Example) : List Text :=
  Tag.line .newExample e.description ::
    e.height.toList.map (fun n => Tag.line .exampleHeight (Text.decimal n)) ++
    e.codeBlocks.flatMap CodeBlock.lines

/-- The lines of a field. -/
def Field.lines : Field → List Text
  | title t => [Tag.line .title t]
  | description ls => Tag.line .description [] :: ls
  | entry key value => [Tag.line .metadata (Metadata.entryText key value)]
  | parameter q => [Tag.line .parameter q.text]
  | todo t => [Tag.line .todo t]
  | deprecated t => [Tag.line .deprecated t]
  | newExample e => e.lines

/-! ## 2. Fields of a pattern -/

/-- The pattern with one more thing said of it. A second title or a second reason replaces the first,
    and so does a second description or a second value of a key; all else is collected. -/
def Pattern.write (p : Pattern) : Field → Pattern
  | .title t => { p with title := t }
  | .description ls => { p with description := '\n' :: Text.endLines ls }
  | .entry key value =>
    { p with metadata := { p.metadata with entries := p.metadata.entries.insert key value } }
  | .parameter q => { p with parameters := p.parameters ++ [q] }
  | .todo t => { p with metadata := { p.metadata with todos := p.metadata.todos ++ [t] } }
  | .deprecated t => { p with metadata := { p.metadata with deprecated := some t } }
  | .newExample e => { p with examples := p.examples ++ [e] }

/-- The pattern of which the fields are said, and nothing else. -/
def Pattern.ofFields (name : Text) (fs : List Field) : Pattern := fs.foldl write { name }

/-- The lines of a description, which starts with the end of its tag line. -/
def descriptionLines (description : Text) : List Text :=
  (Text.splitLines description).tail.dropLast

/-- The fields of a pattern. -/
def Pattern.fields (p : Pattern) : List Field :=
  (if p.description.isEmpty then [] else [.description (descriptionLines p.description)]) ++
    .title p.title ::
    p.metadata.entries.toList.map (fun e => .entry e.1 e.2) ++
    p.parameters.map .parameter ++
    p.metadata.todos.map .todo ++
    p.metadata.deprecated.toList.map .deprecated ++
    p.examples.map .newExample

/-- The lines of a pattern with the given fields. -/
def Field.allLines (name : Text) (fs : List Field) : List Text :=
  Tag.line .pattern name :: fs.flatMap lines

/-- The comment with a star before each of the lines. -/
def Comments.starred (ls : List Text) : Text :=
  ofLines (['*'] :: ls.map ([' ', '*', ' '] ++ ·) ++ [[' ']])

/-- The comment with nothing before the lines. -/
def Comments.unstarred (ls : List Text) : Text := ofLines ([] :: ls ++ [[]])

/-! ## 3. What the format carries -/

/-- A text of one line without white space at its ends. -/
structure Text.IsPhrase (t : Text) : Prop where
  trimmed : t.trim = t
  no_newline : '\n' ∉ t

instance (t : Text) : Decidable t.IsPhrase :=
  decidable_of_iff (t.trim = t ∧ '\n' ∉ t)
    ⟨fun ⟨h₁, h₂⟩ => ⟨h₁, h₂⟩, fun h => ⟨h.trimmed, h.no_newline⟩⟩

/-- A text without white space that is not empty. -/
structure Text.IsWord (t : Text) : Prop where
  ne_nil : t ≠ []
  no_blank : ∀ c ∈ t, Text.isBlank c = false

instance (t : Text) : Decidable t.IsWord :=
  decidable_of_iff (t ≠ [] ∧ t.any Text.isBlank = false)
    ⟨fun ⟨h₁, h₂⟩ => ⟨h₁, fun c hc => Bool.eq_false_iff.2 (List.any_eq_false.1 h₂ c hc)⟩, fun h =>
      ⟨h.ne_nil, List.any_eq_false.2 fun c hc => Bool.eq_false_iff.1 (h.no_blank c hc)⟩⟩

/-- A parameter that the format carries: a bare name is a word, and a name in brackets ends where the
    bracket or the default value does. -/
structure Parameter.WellFormed (q : Parameter) : Prop where
  name_line : '\n' ∉ q.name
  type_line : '\n' ∉ q.type
  default_line : ∀ v ∈ q.defaultValue, '\n' ∉ v
  description : q.description.IsPhrase
  type_open : '\x7d' ∉ q.type
  name :
    (q.required = true ∧ q.defaultValue = none ∧ q.name.IsWord ∧ q.name.head? ≠ some '[') ∨
    (q.required = false ∧ q.name.trim = q.name ∧ ']' ∉ q.name ∧ '=' ∉ q.name ∧
      ∀ v ∈ q.defaultValue, ']' ∉ v)

instance (q : Parameter) : Decidable q.WellFormed :=
  decidable_of_iff ('\n' ∉ q.name ∧ '\n' ∉ q.type ∧ (∀ v ∈ q.defaultValue, '\n' ∉ v) ∧
      q.description.IsPhrase ∧ '\x7d' ∉ q.type ∧
      ((q.required = true ∧ q.defaultValue = none ∧ q.name.IsWord ∧ q.name.head? ≠ some '[') ∨
      (q.required = false ∧ q.name.trim = q.name ∧ ']' ∉ q.name ∧ '=' ∉ q.name ∧
        ∀ v ∈ q.defaultValue, ']' ∉ v)))
    ⟨fun ⟨h₁, h₂, h₃, h₄, h₅, h₆⟩ => ⟨h₁, h₂, h₃, h₄, h₅, h₆⟩, fun h =>
      ⟨h.name_line, h.type_line, h.default_line, h.description, h.type_open, h.name⟩⟩

/-- A code block that the format carries. -/
structure CodeBlock.WellFormed (b : CodeBlock) : Prop where
  trimmed : b.code.trim = b.code
  inner : ∀ l ∈ Text.splitLines b.code, Fence.isClosing l = false ∧ l.getLast? ≠ some '\r'
  lang : ∀ s ∈ b.lang, s.IsWord ∧ '\x60' ∉ s

instance (b : CodeBlock) : Decidable b.WellFormed :=
  decidable_of_iff (b.code.trim = b.code ∧
      (∀ l ∈ Text.splitLines b.code, Fence.isClosing l = false ∧ l.getLast? ≠ some '\r') ∧
      ∀ s ∈ b.lang, s.IsWord ∧ '\x60' ∉ s)
    ⟨fun ⟨h₁, h₂, h₃⟩ => ⟨h₁, h₂, h₃⟩, fun h => ⟨h.trimmed, h.inner, h.lang⟩⟩

/-- An example that the format carries: its height takes no more than 32 bits. -/
structure Example.WellFormed (e : Example) : Prop where
  description : e.description.IsPhrase
  height : ∀ n ∈ e.height, n < 0x100000000
  codeBlocks : ∀ b ∈ e.codeBlocks, b.WellFormed

instance (e : Example) : Decidable e.WellFormed :=
  decidable_of_iff (e.description.IsPhrase ∧ (∀ n ∈ e.height, n < 0x100000000) ∧
      ∀ b ∈ e.codeBlocks, b.WellFormed)
    ⟨fun ⟨h₁, h₂, h₃⟩ => ⟨h₁, h₂, h₃⟩, fun h => ⟨h.description, h.height, h.codeBlocks⟩⟩

/-- The lines of a description that the format carries: no line is a tag line outside the
    description's own regions, and no region is left open. -/
structure IsDescription (ls : List Text) : Prop where
  lines : ∀ l ∈ ls, '\n' ∉ l ∧ l.getLast? ≠ some '\r'
  no_tag : ∀ s ∈ segments ls, s.tag? = none
  closed : ∀ s ∈ segments ls, s.isUnclosed = false

instance (ls : List Text) : Decidable (IsDescription ls) :=
  decidable_of_iff ((∀ l ∈ ls, '\n' ∉ l ∧ l.getLast? ≠ some '\r') ∧
      (∀ s ∈ segments ls, s.tag? = none) ∧ ∀ s ∈ segments ls, s.isUnclosed = false)
    ⟨fun ⟨h₁, h₂, h₃⟩ => ⟨h₁, h₂, h₃⟩, fun h => ⟨h.lines, h.no_tag, h.closed⟩⟩

/-- A field that the format carries. Two keys of the metadata have tags of their own. -/
def Field.WellFormed : Field → Prop
  | title t | todo t | deprecated t => t.IsPhrase
  | description ls => IsDescription ls
  | entry key value =>
    key.IsWord ∧ key ≠ "todos".toList ∧ key ≠ "deprecated".toList ∧ value.IsPhrase
  | parameter q => q.WellFormed
  | newExample e => e.WellFormed

instance : DecidablePred Field.WellFormed
  | .title t | .todo t | .deprecated t => inferInstanceAs (Decidable t.IsPhrase)
  | .description ls => inferInstanceAs (Decidable (IsDescription ls))
  | .entry key value => inferInstanceAs (Decidable (key.IsWord ∧ key ≠ "todos".toList ∧
      key ≠ "deprecated".toList ∧ value.IsPhrase))
  | .parameter q => inferInstanceAs (Decidable q.WellFormed)
  | .newExample e => inferInstanceAs (Decidable e.WellFormed)

/-- The texts of a field. -/
def Field.texts : Field → List Text
  | title t | todo t | deprecated t => [t]
  | description ls => ls
  | entry key value => [key, value]
  | parameter q => [q.name, q.type] ++ q.defaultValue.toList ++ [q.description]
  | newExample e => e.description :: e.codeBlocks.flatMap fun b => b.lang.toList ++ [b.code]

/-- **A pattern that the format carries.** -/
structure Pattern.WellFormed (p : Pattern) : Prop where
  name_ne_nil : p.name ≠ []
  name : p.name.IsPhrase
  description :
    p.description = [] ∨ p.description = '\n' :: Text.endLines (descriptionLines p.description)
  fields : ∀ f ∈ p.fields, f.WellFormed
  no_closing : ∀ t ∈ p.name :: p.fields.flatMap Field.texts, ¬ closing <:+: t

instance (p : Pattern) : Decidable p.WellFormed :=
  decidable_of_iff (p.name ≠ [] ∧ p.name.IsPhrase ∧ (p.description = [] ∨
      p.description = '\n' :: Text.endLines (descriptionLines p.description)) ∧
      (∀ f ∈ p.fields, f.WellFormed) ∧
      ∀ t ∈ p.name :: p.fields.flatMap Field.texts, ¬ closing <:+: t)
    ⟨fun ⟨h₁, h₂, h₃, h₄, h₅⟩ => ⟨h₁, h₂, h₃, h₄, h₅⟩, fun h =>
      ⟨h.name_ne_nil, h.name, h.description, h.fields, h.no_closing⟩⟩

/-- The last of the lines would not be taken for framing. -/
def Body.EndsInText (ls : List Text) : Prop := ∃ l ∈ ls.getLast?, isFraming l = false

/-- **The fields say all of the pattern**, in any order that gives the pattern, and the last line they
    are written in is not taken for framing. -/
structure Pattern.IsWriting (p : Pattern) (fs : List Field) : Prop where
  subset : ∀ f ∈ fs, f ∈ p.fields
  ofFields : ofFields p.name fs = p
  last : Body.EndsInText (Field.allLines p.name fs)

end PatternBook
