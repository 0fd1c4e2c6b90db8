import PatternBook.Comment.Payload
import PatternBook.Comment.Token

/-!
# Records

The tokens of a body become patterns. A `@pattern` tag opens a record, which owns the tokens up to
the next one; a record without a name, and what stands before the first record, are dropped.

Within a record each tag writes its own field. Code goes to the last example as long as the last
tag is `@example` or `@exampleHeight`, and a height counts only directly after its `@example`;
`Focus` is all that has to be remembered for both rules.
-/

namespace PatternBook

/-- Where the reader stands with respect to the last example: right behind its tag, among its
    code, or at a tag that has nothing to do with examples. -/
inductive Focus where
  | opened
  | inside
  | elsewhere
  deriving DecidableEq

/-- A pattern while its record is read. -/
structure Draft where
  pattern : Pattern
  focus : Focus := .elsewhere
  deriving DecidableEq

/-- The list with its last element changed, and nothing if there is no element. -/
def changeLast? {α : Type} (f : α → α) (l : List α) : Option (List α) :=
  l.getLast?.map fun a => l.dropLast ++ [f a]

namespace Draft

/-! ## 1. One token -/

/-- Writes a metadata entry. Two keys have a place of their own. -/
def addEntry (m : Metadata) (key value : Text) : Metadata :=
  if key = "todos".toList then { m with todos := m.todos ++ [value] }
  else if key = "deprecated".toList then { m with deprecated := some value }
  else { m with entries := m.entries.insert key value }

/-- Where a tag leaves the reader. -/
def focusAfter : Tag → Focus
  | .newExample => .opened
  | .exampleHeight => .inside
  | _ => .elsewhere

/-- Writes the field of a tag. -/
def writeTag (d : Draft) (tag : Tag) (payload : Text) : Logged Pattern :=
  let p := d.pattern
  match tag with
  | .pattern => ⟨p, []⟩
  | .title => ⟨{ p with title := Payload.firstLine payload }, []⟩
  | .description => ⟨{ p with description := payload }, []⟩
  | .metadata =>
    match Payload.entry? payload with
    | some (key, value) => ⟨{ p with metadata := addEntry p.metadata key value }, []⟩
    | none => ⟨p, [.emptyMetadata p.name]⟩
  | .parameter => ⟨{ p with parameters := p.parameters ++ [Payload.parameter payload] }, []⟩
  | .todo =>
    ⟨{ p with metadata := { p.metadata with todos := p.metadata.todos ++ [payload.trim] } }, []⟩
  | .deprecated =>
    ⟨{ p with metadata := { p.metadata with deprecated := some payload.trim } }, []⟩
  | .newExample =>
    ⟨{ p with examples := p.examples ++ [{ description := Payload.firstLine payload }] }, []⟩
  | .exampleHeight =>
    let setHeight (e : Example) : Example := { e with height := Payload.height? payload }
    match d.focus, changeLast? setHeight p.examples with
    | .opened, some examples => ⟨{ p with examples }, []⟩
    | _, _ => ⟨p, [.strayHeight p.name]⟩

/-- Gives code to the last example, or drops it. -/
def writeCode (d : Draft) (block : CodeBlock) : Logged Pattern :=
  let p := d.pattern
  let addBlock (e : Example) : Example := { e with codeBlocks := e.codeBlocks ++ [block] }
  match d.focus, changeLast? addBlock p.examples with
  | .elsewhere, _ | _, none => ⟨p, [.strayCode p.name block.lang]⟩
  | _, some examples => ⟨{ p with examples }, []⟩

/-- Reads one token. -/
def step (d : Draft) : Token → Logged Draft
  | .tag tag payload =>
    let r := d.writeTag tag payload
    ⟨⟨r.value, focusAfter tag⟩, r.events⟩
  | .code block =>
    let r := d.writeCode block
    ⟨⟨r.value, if d.focus = .elsewhere then .elsewhere else .inside⟩, r.events⟩

/-- Reads tokens in turn. -/
def steps (d : Draft) : List Token → Logged Draft
  | [] => ⟨d, []⟩
  | t :: ts =>
    let first := d.step t
    let later := first.value.steps ts
    ⟨later.value, first.events ++ later.events⟩

end Draft

/-! ## 2. Records -/

/-- The payload of a token that opens a record. -/
def Token.record? : Token → Option Text
  | .tag .pattern payload => some payload
  | _ => none

/-- The event of a token that stands in no record: a tag is reported, code is not. -/
def Token.outsideEvent? : Token → Option Event
  | .tag t _ => some (.tagBeforePattern t)
  | .code _ => none

namespace Pattern

/-- The event at the end of a pattern's record. -/
def completeEvent (p : Pattern) : Event :=
  .patternComplete p.name p.parameters.length p.examples.length

/-- The pattern of a record: the payload of its `@pattern` tag and the tokens it owns. -/
def ofRecord : Text × List Token → Logged (List Pattern)
  | (payload, tokens) =>
    let name := Payload.firstLine payload
    if name.isEmpty then ⟨[], .namelessPattern :: tokens.filterMap Token.outsideEvent?⟩
    else
      let r := Draft.steps { pattern := { name } } tokens
      ⟨[r.value.pattern], r.events ++ [r.value.pattern.completeEvent]⟩

/-- The patterns of the tokens of one body. -/
def ofTokens (tokens : List Token) : Logged (List Pattern) :=
  let (lead, records) := groupAt Token.record? tokens
  let found := Logged.join (records.map ofRecord)
  ⟨found.value, lead.filterMap Token.outsideEvent? ++ found.events⟩

end Pattern

end PatternBook
