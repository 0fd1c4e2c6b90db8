import PatternBook.Files
import PatternBook.Tree

/-!
# File systems

A file system as a value: a tree of directories and files without links, the directory from which
relative paths start, and the places that may not be read or written.

* `follow` walks a path part by part and says where it leads;
* looking is a function of the file system (`Viewing`), changing takes it to another one
  (`Editing`), and these are the `FileView` and `FileEdit` of a file system;
* `changedFiles` and `newDirectories` compare two file systems.
-/

namespace PatternBook

/-- What is read from content that has to be text. -/
def Content.read : Content → Except FileError Text
  | text t => .ok t
  | binary _ => .error .notUtf8

/-- What kind of node stands there. -/
def Node.kind : Node → NodeKind
  | directory => .directory
  | file _ => .file

/-- What may be refused at a place: reading a file or a directory there, or putting one there. -/
inductive Access where
  | reading
  | writing
  deriving DecidableEq

/-- A file system: the tree from its root, the place of the working directory, and why an access to
    a place is refused, if it is. -/
structure FileSystem where
  root : Tree
  workingDir : Place
  refusal? : Access → Place → Option FileError := fun _ _ => none

namespace FileSystem

/-! ## 1. Places -/

/-- What stands at a place. -/
def nodeAt (fs : FileSystem) (place : Place) : Option Node := fs.root.nodeAt place

/-- The file system with a node at a place. -/
def setNode (fs : FileSystem) (place : Place) (node : Node) : FileSystem :=
  { fs with root := fs.root.set place (.ofNode node) }

/-- Setting a node under a directory, where no directory is, changes nothing but its place. -/
theorem nodeAt_setNode {fs : FileSystem} {place : Place} (hne : place ≠ [])
    (hparent : fs.nodeAt place.dropLast = some .directory)
    (hfree : fs.nodeAt place ≠ some .directory) (node : Node) (q : Place) :
    (fs.setNode place node).nodeAt q = if q = place then some node else fs.nodeAt q :=
  Tree.nodeAt_set hne hparent hfree node q

/-- The longest name of a directory entry, in bytes. -/
def maxName : Nat := 255

/-- The longest path, in bytes. -/
def maxPath : Nat := 4095

/-- The place that one part of a path leads to. -/
def stepTo (place : Place) (part : Text) : Place :=
  if part = [] ∨ part = ['.'] then place
  else if part = ['.', '.'] then place.dropLast
  else place ++ [part]

/-- Where the parts of a path lead from a place. Each part needs a directory to start from, and the
    place at the end may be free. -/
def follow (fs : FileSystem) : Place → List Text → Except FileError Place
  | place, [] => .ok place
  | place, part :: parts =>
    match fs.nodeAt place with
    | none => .error .notFound
    | some (.file _) => .error .notDirectory
    | some .directory =>
      if maxName < part.utf8Length then .error .nameTooLong
      else fs.follow (stepTo place part) parts

/-- The place where a path starts. -/
def startOf (fs : FileSystem) (p : Path) : Place := if p.isAbsolute then [] else fs.workingDir

/-- Where a path with the given parts leads. -/
def resolveParts (fs : FileSystem) (p : Path) (parts : List Text) : Except FileError Place :=
  if p.spelling.isEmpty then .error .notFound
  else if maxPath < p.spelling.utf8Length then .error .nameTooLong
  else fs.follow (fs.startOf p) parts

/-- Where a path leads. -/
def resolve (fs : FileSystem) (p : Path) : Except FileError Place := fs.resolveParts p p.parts

/-- What a path leads to. -/
def find (fs : FileSystem) (p : Path) : Except FileError Node :=
  match fs.resolve p with
  | .error e => .error e
  | .ok place =>
    match fs.nodeAt place with
    | none => .error .notFound
    | some node => .ok node

/-! ## 2. Looking -/

/-- What kind of node a path leads to, if it leads anywhere. -/
def kind? (fs : FileSystem) (p : Path) : Option NodeKind := (fs.find p).toOption.map Node.kind

/-- The names in a directory. -/
def children (fs : FileSystem) (p : Path) : Except FileError (List Text) :=
  match fs.resolve p with
  | .error e => .error e
  | .ok place =>
    match fs.root.get? place with
    | none => .error .notFound
    | some (.file _) => .error .notDirectory
    | some (.directory entries) =>
      match fs.refusal? .reading place with
      | some e => .error e
      | none => .ok (entries.map (·.1))

/-- The text of a file. -/
def read (fs : FileSystem) (p : Path) : Except FileError Text :=
  match fs.resolve p with
  | .error e => .error e
  | .ok place =>
    match fs.nodeAt place with
    | none => .error .notFound
    | some .directory => .error .isDirectory
    | some (.file content) =>
      match fs.refusal? .reading place with
      | some e => .error e
      | none => content.read

/-! ## 3. Changing -/

/-- Makes a directory. Separators at the end of the path do not matter. -/
def makeDir (fs : FileSystem) (p : Path) : Except FileError Unit × FileSystem :=
  let parts := (p.parts.reverse.dropWhile (· == [])).reverse
  match fs.resolveParts p parts with
  | .error e => (.error e, fs)
  | .ok place =>
    let hasName := parts.getLast?.any fun last => last != ['.'] && last != ['.', '.']
    if hasName && (fs.nodeAt place).isNone then
      match fs.refusal? .writing place with
      | some e => (.error e, fs)
      | none => (.ok (), fs.setNode place .directory)
    else (.error .alreadyExists, fs)

/-- Writes a file. -/
def write (fs : FileSystem) (p : Path) (t : Text) : Except FileError Unit × FileSystem :=
  match fs.resolve p with
  | .error e => (.error e, fs)
  | .ok place =>
    match fs.nodeAt place with
    | some .directory => (.error .isDirectory, fs)
    | _ =>
      match fs.refusal? .writing place with
      | some e => (.error e, fs)
      | none => (.ok (), fs.setNode place (.file (.text t)))

/-! ## 4. Computations on a file system -/

/-- A computation that looks at a file system. -/
abbrev Viewing := ReaderM FileSystem

/-- A computation that changes a file system. -/
abbrev Editing := StateM FileSystem

instance : FileView Viewing where
  kind? p := fun fs => fs.kind? p
  children p := fun fs => fs.children p
  read p := fun fs => fs.read p

instance : FileEdit Editing where
  makeDir p := fun fs => fs.makeDir p
  write p t := fun fs => fs.write p t

instance : MonadLift Viewing Editing where
  monadLift x := fun fs => (x fs, fs)

/-! ## 5. Building and comparing -/

/-- The places on the way from a place along the parts of a path, both ends included. -/
def placesAlong (place : Place) : List Text → List Place
  | [] => [place]
  | part :: parts => place :: placesAlong (stepTo place part) parts

/-- The file system with a directory at each of the places where there is nothing. -/
def addDirectories (fs : FileSystem) (places : List Place) : FileSystem :=
  places.foldl
    (fun fs place => if (fs.nodeAt place).isNone then fs.setNode place .directory else fs) fs

/-- The file system with all directories on the way of a path. -/
def addDirectory (fs : FileSystem) (p : Path) : FileSystem :=
  fs.addDirectories (placesAlong (fs.startOf p) p.parts)

/-- The file system with a file at the end of a path and all directories on the way there. -/
def addFile (fs : FileSystem) (p : Path) (content : Content) : FileSystem :=
  let way := placesAlong (fs.startOf p) p.parts
  match way.getLast? with
  | none => fs
  | some place => (fs.addDirectories way.dropLast).setNode place (.file content)

/-- A file system that has nothing but the working directory. -/
def ofWorkingDir (place : Place) : FileSystem :=
  addDirectories { root := .directory [], workingDir := place } (placesAlong [] place)

/-- The files of the second file system that the first one does not have with the same content. -/
def changedFiles (before after : FileSystem) : List (Place × Content) :=
  after.root.nodes.filterMap fun (place, node) =>
    match node with
    | .directory => none
    | .file content =>
      if before.nodeAt place = some (.file content) then none else some (place, content)

/-- The directories of the second file system that the first one does not have. -/
def newDirectories (before after : FileSystem) : List Place :=
  after.root.nodes.filterMap fun (place, node) =>
    if node = .directory ∧ before.nodeAt place ≠ some .directory then some place else none

end FileSystem

end PatternBook
