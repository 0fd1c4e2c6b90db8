import PatternBook.Document.Anchor
import PatternBook.Pattern

/-!
# Markdown documents

A document is an index and a section for each pattern. A section is a list of pieces, which are
headings and paragraphs of lines; the index links to the first heading of each section by the
anchor that the heading gets at its place among all headings of the document.
-/

namespace PatternBook.Markdown

/-! ## 1. Pieces -/

/-- A piece of a section: a heading of the given depth, or lines. -/
inductive Piece where
  | heading (depth : Nat) (text : Text)
  | lines (ls : List Text)
  deriving DecidableEq

/-- The lines of a piece. An empty line follows a heading. -/
def Piece.toLines : Piece → List Text
  | heading depth text => [List.replicate depth '#' ++ [' '] ++ text, []]
  | lines ls => ls

/-- The text of a piece that is a heading. -/
def Piece.heading? : Piece → Option Text
  | heading _ text => some text
  | lines _ => none

/-- The texts of the headings among the pieces. -/
def headings (pieces : List Piece) : List Text := pieces.filterMap Piece.heading?

/-- Text between backticks. -/
def codeSpan (t : Text) : Text := ['\x60'] ++ t ++ ['\x60']

/-- An item of a list. -/
def item (t : Text) : Text := "* ".toList ++ t

/-! ## 2. Sections -/

/-- One line and an empty line after it. -/
def paragraph (t : Text) : Piece := .lines [t, []]

/-- The title of a pattern, if it has one. -/
def titlePieces (title : Text) : List Piece :=
  if title.isEmpty then [] else [paragraph (['_'] ++ title ++ ['_'])]

/-- A metadata entry as a badge. -/
def badge : Text × Text → Text
  | (key, value) => codeSpan (if value.isEmpty then key else key ++ ": ".toList ++ value)

/-- The badges of the metadata entries, if there are any. -/
def badgePieces (entries : List (Text × Text)) : List Piece :=
  if entries.isEmpty then []
  else [paragraph ("> ".toList ++ List.intercalate [' '] (entries.map badge))]

/-- The reason why a pattern is deprecated, if it is. -/
def deprecatedPieces : Option Text → List Piece
  | none => []
  | some reason => [paragraph ("**Deprecated:** ".toList ++ reason)]

/-- A text without the newlines at its ends. -/
def trimNewlines (t : Text) : Text :=
  (((t.dropWhile (· == '\n')).reverse).dropWhile (· == '\n')).reverse

/-- The description as it is written, if there is one. -/
def descriptionPieces (description : Text) : List Piece :=
  let text := trimNewlines description
  if text.isEmpty then [] else [paragraph text]

/-- What is said about a parameter in parentheses. -/
def parameterDetails (p : Parameter) : List Text :=
  (if p.type.isEmpty then [] else [p.type])
    ++ (if p.required then [] else ["optional".toList])
    ++ (p.defaultValue.toList.map fun value => "default: ".toList ++ codeSpan value)

/-- The line of a parameter. -/
def parameterLine (p : Parameter) : Text :=
  let details := parameterDetails p
  "**".toList ++ p.name ++ "**".toList
    ++ (if details.isEmpty then []
        else " (".toList ++ List.intercalate ", ".toList details ++ [')'])
    ++ (if p.description.isEmpty then [] else ": ".toList ++ p.description)

/-- The parameters, if there are any. -/
def parameterPieces (parameters : List Parameter) : List Piece :=
  if parameters.isEmpty then []
  else
    [.heading 4 "Parameters".toList, .lines (parameters.map (item ∘ parameterLine) ++ [[]])]

/-- The lines of a code block between fences. -/
def blockLines (b : CodeBlock) : List Text :=
  ["\x60\x60\x60".toList ++ b.lang.getD [], b.code, "\x60\x60\x60".toList, []]

/-- One example. -/
def examplePieces (e : Example) : List Piece :=
  (if e.description.isEmpty then [] else [.heading 5 e.description])
    ++ (e.height.toList.map fun h =>
      paragraph ("_Preview height: ".toList ++ Text.decimal h ++ "px_".toList))
    ++ e.codeBlocks.map fun b => .lines (blockLines b)

/-- The examples, if there are any. -/
def examplesPieces (examples : List Example) : List Piece :=
  if examples.isEmpty then []
  else .heading 4 "Examples".toList :: examples.flatMap examplePieces

/-- The open tasks, if there are any. -/
def todoPieces (todos : List Text) : List Piece :=
  if todos.isEmpty then [] else [.heading 4 "Todo".toList, .lines (todos.map item ++ [[]])]

/-- The section of a pattern. -/
def sectionPieces (p : Pattern) : List Piece :=
  .heading 3 p.name :: (titlePieces p.title ++ badgePieces p.metadata.entries.toList
    ++ deprecatedPieces p.metadata.deprecated ++ descriptionPieces p.description
    ++ parameterPieces p.parameters ++ examplesPieces p.examples ++ todoPieces p.metadata.todos)

/-- The text of a section. -/
def sectionText (pieces : List Piece) : Text := Text.joinLines (pieces.flatMap Piece.toLines)

/-! ## 3. Documents -/

/-- The heading of the index. -/
def indexHeading : Text := "Index".toList

/-- The anchor of the first heading of each section, when the headings of the document are handed
    out in order. -/
def sectionAnchors (used : Anchors) : List (List Piece) → List Text
  | [] => []
  | pieces :: rest =>
    let (anchors, used) := used.claimAll (headings pieces)
    anchors.take 1 ++ sectionAnchors used rest

/-- The lines of the index. -/
def indexLines (patterns : List Pattern) : List Text :=
  let used := (Anchors.claim {} indexHeading).2
  let anchors := sectionAnchors used (patterns.map sectionPieces)
  List.zipWith (fun p anchor => indexItem p.name anchor) patterns anchors

/-- The document of a list of patterns, which is empty without patterns. -/
def render (patterns : List Pattern) : Text :=
  if patterns.isEmpty then []
  else
    Text.endLines ((Piece.heading 2 indexHeading).toLines ++ indexLines patterns ++ [[]]
      ++ patterns.map fun p => sectionText (sectionPieces p))

end PatternBook.Markdown
