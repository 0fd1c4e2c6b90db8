import PatternBook.Command.Arguments
import PatternBook.Command.Report
import PatternBook.Files
import PatternBook.Filter
import PatternBook.Glob.Walk
import PatternBook.Module
import PatternBook.SortedMap
import PatternBook.Source

/-!
# Runs

A run reads sources and renders the patterns that pass the filters. Without files it reads the
standard input and prints one document. With files it expands each argument, reads the files in
the order of their paths, and writes one document for each module that has patterns left. All
reading comes before the first document is written.

Looking at files is a computation in `r` and changing them one in `m`, so that the same program
runs on a disk and on a file system that is a value. So is looking for the paths that match a glob
(`GlobView`): a run takes these as they come.
-/

namespace PatternBook

namespace Command

/-! ## 1. The files of the arguments -/

section

variable {r : Type → Type} [Monad r] [FileView r]

/-- The files of a directory that are sources. -/
def sourcesIn (directory : Path) : List Text → r (List Path)
  | [] => pure []
  | name :: names => do
    let path := directory.join name
    let isFile ← FileView.isFile path
    let later ← sourcesIn directory names
    return if isFile && Source.isSupported path then path :: later else later

/-- The paths that lead to files. -/
def filesOf : List Path → r (List Path)
  | [] => pure []
  | path :: paths => do
    let isFile ← FileView.isFile path
    let later ← filesOf paths
    return if isFile then path :: later else later

/-- The files of one argument: a file is itself, a directory its sources, and anything else a
    glob. -/
def expandArgument [GlobView r] (argument : Text) : r (Except Failure (Logged (List Path))) := do
  let path : Path := ⟨argument⟩
  match ← FileView.kind? path with
  | some .file => return .ok ⟨[path], []⟩
  | some .directory =>
    match ← FileView.children path with
    | .error error => return .error (.sourceDirectory path error)
    | .ok names => return .ok ⟨← sourcesIn path names, []⟩
  | _ =>
    match ← GlobView.paths argument with
    | .error error => return .error (.invalidGlob argument error)
    | .ok found =>
      let files ← filesOf found
      return .ok ⟨files, if files.isEmpty then [.nothingMatched argument] else []⟩

/-- The files of the arguments in turn. The first failure ends the expansion. -/
def expandArguments [GlobView r] : List Text → r (Logged (Except Failure (List Path)))
  | [] => pure ⟨.ok [], []⟩
  | argument :: rest => do
    match ← expandArgument argument with
    | .error failure => return ⟨.error failure, []⟩
    | .ok found =>
      let later ← expandArguments rest
      return ⟨later.value.map (found.value ++ ·), found.events ++ later.events⟩

/-- The paths by their keys. Of several spellings of the same components the first stays. -/
def byKey (paths : List Path) : SortedMap Path.Key Path :=
  paths.foldl (fun found p => found.alter p.key fun q => q.getD p) .empty

/-- The paths in order, each once. -/
def arrange (paths : List Path) : List Path := (byKey paths).toList.map (·.2)

/-! ## 2. Reading the files -/

/-- The patterns of a file, unless it has to be left out. -/
def readSource (path : Path) : r (Logged (List SourceFile)) := do
  match ← FileView.read path with
  | .error error => return ⟨[], [.fileSkipped path.spelling (.unreadable error)]⟩
  | .ok content =>
    match Source.readAt path content with
    | .error reason => return ⟨[], [.fileSkipped path.spelling reason]⟩
    | .ok found =>
      return ⟨[⟨path.spelling, found.value⟩],
        found.events ++ [.fileParsed path.spelling found.value.length]⟩

/-- The patterns of the files, in order. -/
def readSources : List Path → r (Logged (List SourceFile))
  | [] => pure ⟨[], []⟩
  | path :: paths => do
    let first ← readSource path
    let later ← readSources paths
    return ⟨first.value ++ later.value, first.events ++ later.events⟩

/-- The modules of the files that the arguments stand for. -/
def readModules [GlobView r] (arguments : List Text) :
    r (Logged (Except Failure (List Module))) := do
  let expanded ← expandArguments arguments
  match expanded.value with
  | .error failure => return ⟨.error failure, expanded.events⟩
  | .ok paths =>
    let sources ← readSources (arrange paths)
    let merged := Module.merge sources.value
    return ⟨.ok merged.value, expanded.events ++ sources.events ++ merged.events⟩

end

/-! ## 3. Documents -/

/-- The documents of the modules: for each module that has patterns left, its path and its text. -/
def documents (directory : Path) (format : Format) (filters : List Filter)
    (modules : List Module) : List (Path × Text) :=
  modules.filterMap fun m =>
    let patterns := Filter.apply filters m.patterns
    if patterns.isEmpty then none
    else some (directory.join (m.name ++ ['.'] ++ format.extension), format.render patterns)

/-- Writes documents in turn, up to the first that cannot be written. -/
def writeDocuments {m : Type → Type} [Monad m] [FileEdit m] :
    List (Path × Text) → m (Except Failure Unit)
  | [] => pure (.ok ())
  | (path, text) :: rest => do
    match ← FileEdit.write path text with
    | .error error => return .error (.unwritable path error)
    | .ok () => writeDocuments rest

/-! ## 4. Runs -/

/-- A run on the standard input. -/
def runInput (request : Request) (input : Except FileError Text) : Report :=
  match input with
  | .error error => ⟨[], .error (.unreadableInput error)⟩
  | .ok source =>
    let found := Source.read source
    match Format.ofName? request.format with
    | none => ⟨found.events, .error (.unknownFormat request.format)⟩
    | some format =>
      let filters := request.filters.map Filter.ofText
      ⟨found.events, .ok (format.render (Filter.apply filters found.value))⟩

/-- A run on files. -/
def runFiles (r : Type → Type) {m : Type → Type} [Monad r] [FileView r] [GlobView r] [Monad m]
    [FileEdit m] [MonadLiftT r m] (request : Request) : m Report := do
  match request.output, Format.ofName? request.format with
  | none, _ => return ⟨[], .error .missingOutput⟩
  | some _, none => return ⟨[], .error (.unknownFormat request.format)⟩
  | some directory, some format =>
    match ← makeDirAll r directory with
    | .error error => return ⟨[], .error (.outputDirectory directory error)⟩
    | .ok () =>
      let read ← (readModules request.files : r _)
      match read.value with
      | .error failure => return ⟨read.events, .error failure⟩
      | .ok modules =>
        let filters := request.filters.map Filter.ofText
        let written ← writeDocuments (documents directory format filters modules)
        return ⟨read.events, written.map fun () => []⟩

/-- A run of the program. -/
def run (r : Type → Type) {m : Type → Type} [Monad r] [FileView r] [GlobView r] [Monad m]
    [FileEdit m] [MonadLiftT r m] (request : Request) (input : m (Except FileError Text)) :
    m Report := do
  if request.files.isEmpty then return runInput request (← input) else runFiles r request

end Command

end PatternBook
