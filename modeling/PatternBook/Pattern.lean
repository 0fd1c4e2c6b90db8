import PatternBook.SortedMap
import PatternBook.Text.Basic

/-!
# Patterns

The records the library collects: a *pattern* is one documented piece of an interface, with its
parameters, its examples and its metadata.
-/

namespace PatternBook

/-- A piece of code shown in an example, with the language it is marked with, if any. -/
structure CodeBlock where
  lang : Option Text
  code : Text
  deriving DecidableEq

/-- An example: its description, the height its preview asks for in pixels, and its code. -/
structure Example where
  description : Text
  height : Option Nat := none
  codeBlocks : List CodeBlock := []
  deriving DecidableEq

/-- A parameter of a pattern. Only an optional parameter has a default value. -/
structure Parameter where
  name : Text
  type : Text
  required : Bool
  defaultValue : Option Text
  description : Text
  deriving DecidableEq

/-- What is said about a pattern beside its text: entries by key, the open tasks, and the reason
    why the pattern is deprecated, if it is. -/
structure Metadata where
  entries : SortedMap Text Text := .empty
  todos : List Text := []
  deprecated : Option Text := none
  deriving DecidableEq

/-- One documented pattern. -/
structure Pattern where
  name : Text
  title : Text := []
  description : Text := []
  metadata : Metadata := {}
  parameters : List Parameter := []
  examples : List Example := []
  deriving DecidableEq

/-- The entry with the given key. -/
def Metadata.get? (m : Metadata) (key : Text) : Option Text := m.entries.get? key

/-- Whether the pattern is marked as deprecated, with or without a reason. -/
def Metadata.isDeprecated (m : Metadata) : Bool := m.deprecated.isSome

end PatternBook
