import PatternBook.FileError
import PatternBook.Path

/-!
# Files

What the program asks of the files around it, without saying where they are: looking (`FileView`)
and changing (`FileEdit`). The two are apart, so that a computation that only looks cannot change
anything.
-/

namespace PatternBook

/-! ## 1. Looking and changing -/

/-- What a path leads to. -/
inductive NodeKind where
  | file
  | directory
  | other
  deriving DecidableEq

/-- Looking at files. -/
class FileView (r : Type → Type) where
  /-- What the path leads to, if it leads anywhere. -/
  kind? : Path → r (Option NodeKind)
  /-- The names in a directory, in increasing order. -/
  children : Path → r (Except FileError (List Text))
  /-- The text of a file. -/
  read : Path → r (Except FileError Text)

/-- Changing files. -/
class FileEdit (m : Type → Type) where
  /-- Makes a directory in a directory that is there. -/
  makeDir : Path → m (Except FileError Unit)
  /-- Writes a file, which need not be there. -/
  write : Path → Text → m (Except FileError Unit)

namespace FileView

variable {r : Type → Type} [Functor r] [FileView r]

/-- Whether the path leads to a file. -/
def isFile (p : Path) : r Bool := (· == some .file) <$> kind? p

/-- Whether the path leads to a directory. -/
def isDir (p : Path) : r Bool := (· == some .directory) <$> kind? p

/-- Whether the path leads anywhere. -/
def leads (p : Path) : r Bool := Option.isSome <$> kind? p

end FileView

/-! ## 2. Directories with the directories above them -/

section

variable (r : Type → Type) {m : Type → Type} [Monad r] [FileView r] [Monad m] [FileEdit m]
  [MonadLiftT r m]

/-- Makes the first directory of the list; if the one it belongs in is missing, that one is made
    first, from the rest of the list. A directory that is there is fine. -/
def makeDirs : List Path → m (Except FileError Unit)
  | [] => pure (.ok ())
  | p :: above => do
    if p.components.isEmpty then return .ok ()
    match ← FileEdit.makeDir p with
    | .ok () => return .ok ()
    | .error .notFound =>
      match ← makeDirs above with
      | .error e => return .error e
      | .ok () =>
        match ← FileEdit.makeDir p with
        | .ok () => return .ok ()
        | .error e => if ← (FileView.isDir p : r Bool) then return .ok () else return .error e
    | .error e => if ← (FileView.isDir p : r Bool) then return .ok () else return .error e

/-- Makes a directory and all that is missing above it. -/
def makeDirAll (p : Path) : m (Except FileError Unit) := makeDirs r p.ancestors

end

end PatternBook
