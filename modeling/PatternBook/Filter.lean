import PatternBook.Pattern

/-!
# Filters

An expression that a pattern satisfies or not: the word `deprecated`, a metadata key with a value,
or a key alone; an exclamation mark in front turns it around.
-/

namespace PatternBook

/-- What a filter asks of a pattern. -/
inductive Condition where
  | deprecated
  | equals (key value : Text)
  | present (key : Text)
  deriving DecidableEq

/-- A condition that a pattern has to meet, or has not to meet. -/
structure Filter where
  negated : Bool
  condition : Condition
  deriving DecidableEq

/-- The condition of an expression without an exclamation mark in front. -/
def Condition.ofText (expression : Text) : Condition :=
  if expression = "deprecated".toList then deprecated
  else
    match expression.cut? ['='] with
    | some (key, value) => equals key.trim value.trim
    | none => present expression

/-- Whether a pattern meets a condition. -/
def Condition.holds : Condition → Pattern → Bool
  | deprecated, p => p.metadata.isDeprecated
  | equals key value, p => p.metadata.get? key == some value
  | present key, p => (p.metadata.get? key).isSome

namespace Filter

/-- The filter of an expression. -/
def ofText : Text → Filter
  | '!' :: expression => ⟨true, .ofText expression⟩
  | expression => ⟨false, .ofText expression⟩

/-- Whether a pattern satisfies a filter. -/
def accepts (f : Filter) (p : Pattern) : Bool := f.condition.holds p != f.negated

/-- The patterns that satisfy all filters. -/
def apply (filters : List Filter) (patterns : List Pattern) : List Pattern :=
  patterns.filter fun p => filters.all fun f => f.accepts p

end Filter

end PatternBook
