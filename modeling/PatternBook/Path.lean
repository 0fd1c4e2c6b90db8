import PatternBook.Text.Basic

/-!
# Paths

A path is kept as it is spelled and read by its components. Repeated separators and the current
directory in the middle of a path are no components, so paths with different spellings can have the
same components; the order of paths is the order of their components.
-/

namespace PatternBook

/-- A path, as it is spelled. -/
structure Path where
  spelling : Text
  deriving DecidableEq

/-- A component of a path. -/
inductive Component where
  | root
  | current
  | parent
  | name (t : Text)
  deriving DecidableEq

namespace Component

/-- The component of a part between separators. -/
def ofPart (part : Text) : Component :=
  if part = ['.'] then current else if part = ['.', '.'] then parent else name part

/-- How a component is spelled. The root is the empty part before the first separator. -/
def part : Component → Text
  | root => []
  | current => ['.']
  | parent => ['.', '.']
  | name t => t

/-- A component as numbers that compare as components do: first by kind, then by name. -/
def key : Component → List Nat
  | root => [0]
  | current => [1]
  | parent => [2]
  | name t => 3 :: t.map Char.toNat

end Component

namespace Path

/-! ## 1. Components -/

/-- Whether a path starts at the root. -/
def isAbsolute (p : Path) : Bool := p.spelling.head? == some '/'

/-- The parts between the separators of a path. -/
def parts (p : Path) : List Text := p.spelling.splitOn '/'

/-- The components of the parts that do not come first. -/
def innerComponents (parts : List Text) : List Component :=
  ((parts.filter (· != [])).map Component.ofPart).filter (· != .current)

/-- The components of a path. The current directory is one only at the start. -/
def components (p : Path) : List Component :=
  match p.parts with
  | [] => []
  | first :: rest =>
    if p.isAbsolute then .root :: innerComponents rest
    else if first = ['.'] then .current :: innerComponents rest
    else innerComponents (first :: rest)

/-- The path of a list of components. -/
def ofComponents : List Component → Path
  | [.root] => ⟨['/']⟩
  | cs => ⟨List.intercalate ['/'] (cs.map Component.part)⟩

/-- Numbers that compare as paths do. -/
abbrev Key := List (List Nat)

instance : DecidableLT Key := fun a b => List.decidableLT a b

instance : Trans (fun a b : Key => a < b) (fun a b : Key => a < b) (fun a b : Key => a < b) :=
  ⟨fun h k => List.lt_trans h k⟩

instance : Std.Irrefl fun a b : Key => a < b := ⟨fun a => List.lt_irrefl a⟩

instance : Std.Trichotomous fun a b : Key => a < b :=
  ⟨fun _ _ h k => List.le_antisymm (List.not_lt.1 k) (List.not_lt.1 h)⟩

/-- A path as numbers that compare as paths do. -/
def key (p : Path) : Key := p.components.map Component.key

/-! ## 2. Parts of a path -/

/-- The name a path ends with, unless it ends with a directory that has no name. -/
def fileName? (p : Path) : Option Text :=
  match p.components.getLast? with
  | some (.name t) => some t
  | _ => none

/-- A file name cut at its last dot. A dot at the front is part of the stem. -/
def splitName (name : Text) : Text × Option Text :=
  match name.reverse.dropWhile (· != '.') with
  | [] | ['.'] => (name, none)
  | _ :: stem => (stem.reverse, some (name.reverse.takeWhile (· != '.')).reverse)

/-- The file name without its extension. -/
def stem? (p : Path) : Option Text := p.fileName?.map fun name => (splitName name).1

/-- What follows the last dot of the file name. -/
def extension? (p : Path) : Option Text := p.fileName?.bind fun name => (splitName name).2

/-! ## 3. Related paths -/

/-- The path of something within a directory. A path from the root stands for itself. -/
def join (p : Path) (inner : Text) : Path :=
  if inner.head? == some '/' then ⟨inner⟩
  else if p.spelling.isEmpty || p.spelling.getLast? == some '/' then ⟨p.spelling ++ inner⟩
  else ⟨p.spelling ++ ['/'] ++ inner⟩

/-- The paths above a path, nearest first, from the components of the path in reverse. -/
def above : List Component → List Path
  | [] | [.root] => []
  | _ :: cs => ofComponents cs.reverse :: above cs

/-- A path and the paths above it, nearest first. -/
def ancestors (p : Path) : List Path := p :: above p.components.reverse

end Path

end PatternBook
