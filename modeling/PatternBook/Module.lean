import PatternBook.Event
import PatternBook.Path
import PatternBook.Pattern

/-!
# Modules

Files whose names differ only in their extension document one module. `Module.merge` collects the
patterns of the files of each module: the modules in the order of their names, the files of a
module in the order in which they are given. A pattern that two files of a module document under
one name is kept twice and reported.
-/

namespace PatternBook

/-- The patterns that one file documents. -/
structure SourceFile where
  path : Text
  patterns : List Pattern

/-- The patterns of one module. -/
structure Module where
  name : Text
  patterns : List Pattern

namespace Module

/-- The name of the module that a file belongs to: its file name without the extension, or the path
    itself if it has no file name. -/
def nameOf (path : Text) : Text := (Path.stem? ⟨path⟩).getD path

/-- The files of each module, by the name of the module. -/
def filesByName (files : List SourceFile) : SortedMap Text (List SourceFile) :=
  files.foldl (fun groups f => groups.alter (nameOf f.path) fun fs => fs.getD [] ++ [f]) .empty

/-- Each name that the files of a module document, with the path of its file. -/
def occurrences (files : List SourceFile) : List (Text × Text) :=
  files.flatMap fun f => f.patterns.map fun p => (p.name, f.path)

/-- Reports the names that a file documents although another file did so first. The map holds the
    file that documented each name first. -/
def duplicates (module : Text) : SortedMap Text Text → List (Text × Text) → List Event
  | _, [] => []
  | firsts, (name, path) :: rest =>
    match firsts.get? name with
    | none => duplicates module (firsts.insert name path) rest
    | some first =>
      if first = path then duplicates module firsts rest
      else .duplicatePattern module name first path :: duplicates module firsts rest

/-- The module of a name and the files that belong to it. -/
def ofFiles : Text × List SourceFile → Logged (List Module)
  | (name, files) =>
    ⟨[⟨name, files.flatMap (·.patterns)⟩], duplicates name .empty (occurrences files)⟩

/-- The modules of a list of files. -/
def merge (files : List SourceFile) : Logged (List Module) :=
  Logged.join ((filesByName files).toList.map ofFiles)

end Module

end PatternBook
