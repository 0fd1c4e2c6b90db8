import PatternBook.Files
import PatternBook.Glob.Pattern

/-!
# The paths of a glob

Starting from the root or the current directory, each piece of a glob takes a path one step
further. A piece without wildcards is looked up; for any other the names in the directory are
matched. The walk needs no more steps than the glob has pieces and a path has characters, since
each step uses up a piece or makes the path longer.

Who only wants the paths that match a text asks for them as `GlobView.paths`.
-/

namespace PatternBook

namespace Glob

variable {r : Type → Type} [Monad r] [FileView r]

/-- The results of a list in order, one after the other. -/
def gather {α : Type} (f : α → r (List Path)) : List α → r (List Path)
  | [] => pure []
  | a :: rest => do
    let first ← f a
    let later ← gather f rest
    return first ++ later

/-- A path that all pieces have been used for. -/
def arrive (requireDir : Bool) (path : Path) : r (List Path) := do
  if requireDir then
    if ← FileView.isDir path then return [path] else return []
  else return [path]

/-- Whether a path is the current directory. -/
def isCurrent (path : Path) : Bool := path.components == [.current]

/-- The path of a name in the directory a walk has reached. -/
def child (path : Path) (name : Text) : Path := if isCurrent path then ⟨name⟩ else path.join name

/-- Whether a name is one of the two that every directory has. -/
def isSpecial (name : Text) : Bool := name == ['.'] || name == ['.', '.']

/-! The parts of one step take the walk through the pieces that are left as an argument. -/

section

variable (walk : List (List Token) → Path → r (List Path)) (requireDir : Bool)

/-- Goes on from a path to the pieces that are left. -/
def proceed (rest : List (List Token)) (path : Path) : r (List Path) :=
  if rest.isEmpty then arrive requireDir path else walk rest path

/-- Matches a child against the next piece. -/
def matchChild (pieces : List (List Token)) (path : Path) (name : Text) : r (List Path) :=
  match pieces with
  | [] => pure []
  | piece :: rest =>
    if isMatch piece name then proceed walk requireDir rest (child path name) else pure []

/-- Takes a child of a directory. A piece for any number of directories also lets the walk go
    deeper with the same pieces, and at the end of a glob it stands for the directories only. -/
def visit (piece : List Token) (rest : List (List Token)) (path : Path) (name : Text) :
    r (List Path) := do
  if isRecursive piece then
    let after := rest.dropWhile isRecursive
    let isDir ← FileView.isDir (child path name)
    let here ←
      if after.isEmpty then pure (if isDir then [child path name] else [])
      else matchChild walk requireDir after path name
    let deeper ← if isDir then walk (piece :: after) (child path name) else pure []
    return here ++ deeper
  else matchChild walk requireDir (piece :: rest) path name

/-- The special names that a piece matches, which it does only if it starts with a dot. -/
def specials (piece : List Token) : List Text :=
  if piece.head? = some (.literal '.') then [['.', '.'], ['.']].filter (isMatch piece) else []

/-- One step of a walk. -/
def stepFrom (piece : List Token) (rest : List (List Token)) (path : Path) : r (List Path) := do
  match literal? piece with
  | some name =>
    let next := child path name
    let isThere ← if isSpecial name then FileView.isDir path else FileView.leads next
    if isThere then proceed walk requireDir rest next else return []
  | none =>
    if ← FileView.isDir path then
      match ← FileView.children path with
      | .error _ => return []
      | .ok names =>
        let dots ← gather (fun name => proceed walk requireDir rest (path.join name))
          (specials piece)
        let found ← gather (visit walk requireDir piece rest path) names
        return dots ++ found
    else return []

end

/-- The paths that the pieces lead to from a path, within the given number of steps. -/
def walk (requireDir : Bool) : Nat → List (List Token) → Path → r (List Path)
  | 0, _, _ => pure []
  | _ + 1, [], _ => pure []
  | steps + 1, piece :: rest, path => stepFrom (walk requireDir steps) requireDir piece rest path

/-- No path is longer than this. -/
def maxSteps : Nat := 4096

/-- The paths that match a glob. -/
def expand (g : Glob) : r (List Path) :=
  walk g.requireDir (g.pieces.length + maxSteps) g.pieces
    ⟨if g.isAbsolute then ['/'] else ['.']⟩

end Glob

/-- Looking for the paths that match a text, which has to be a glob. -/
class GlobView (r : Type → Type) where
  /-- The paths that match, or why the text is no glob. -/
  paths : Text → r (Except Glob.GlobError (List Path))

instance {r : Type → Type} [Monad r] [FileView r] : GlobView r where
  paths text := do
    match Glob.ofText text with
    | .error error => return .error error
    | .ok glob => return .ok (← glob.expand)

theorem GlobView.paths_eq {r : Type → Type} [Monad r] [FileView r] (text : Text) :
    (GlobView.paths text : r _) =
      match Glob.ofText text with
      | .error error => pure (.error error)
      | .ok glob => do return .ok (← glob.expand) := rfl

end PatternBook
