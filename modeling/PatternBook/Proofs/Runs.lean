import PatternBook.Proofs.Documents
import PatternBook.Proofs.Spellings

/-!
# What a run does to the files

A run on files goes through stages, each of which can end it: the request is checked, the directory
for the documents is made, the arguments are expanded, the sources are read, and the documents are
written. `outcome_eq` says so with the events left out, and `FilesRun` lists what the file system is
in each case (`filesRun_outcome`), so nothing else needs to open the definition of a run.

`runOn_documents` is what this comes to for a run that succeeds: it writes for each module of which
something is left its document, and it touches no other file. What is said of runs is said for any
paths that may match a glob (`GlobView`), those that the program finds among them.
-/

namespace PatternBook

namespace Command

open FileSystem

/-! ## 1. The stages of a run -/

/-- What making the directory for the documents gives. -/
def outputMade (fs : FileSystem) (directory : Path) : Except FileError Unit × FileSystem :=
  (makeDirAll Viewing directory : Editing _) fs

/-- The file system with the directory for the documents, in which the sources are read. -/
def withOutput (fs : FileSystem) (directory : Path) : FileSystem := (outputMade fs directory).2

/-- Making the directory for the documents leaves the files as they are. -/
theorem file_withOutput_iff {fs : FileSystem} {directory : Path} {place : Place}
    {content : Content} :
    (withOutput fs directory).nodeAt place = some (.file content) ↔
      fs.nodeAt place = some (.file content) :=
  (addsDirectories_makeDirs _ _).file_iff

/-- It changes the tree only. -/
theorem exists_root_withOutput (fs : FileSystem) (directory : Path) :
    ∃ root, withOutput fs directory = { fs with root } :=
  exists_root_makeDirs _ fs

/-- A path leads where it led before. -/
theorem resolve_withOutput {fs : FileSystem} {directory p : Path} {place : Place}
    (h : fs.resolve p = .ok place) : (withOutput fs directory).resolve p = .ok place := by
  obtain ⟨root, hroot⟩ := exists_root_withOutput fs directory
  exact resolve_mono (fun _ => (addsDirectories_makeDirs _ fs).directory) (by rw [hroot]) h

section

variable {fs : FileSystem} {request : Request} {input : Content} [GlobView Viewing]

/-- The documents of the sources that the arguments of a request stand for. -/
def documentsOf (fs : FileSystem) (request : Request) (directory : Path) (format : Format) :
    List (Path × Text) :=
  documents directory format (request.filters.map Filter.ofText)
    (Module.merge ((sourcesOf fs request.files).map sourceFile)).value

/-- Without files a run reads its input and leaves the file system alone. -/
theorem runOn_input (h : request.files = []) :
    runOn fs request input = (runInput request input.read, fs) := by
  show (run Viewing request (pure input.read) : Editing Report) fs = _
  rw [run, if_pos (by rw [h]; rfl)]
  rfl

theorem runOn_files (h : request.files ≠ []) :
    runOn fs request input = (runFiles Viewing request : Editing Report) fs := by
  show (run Viewing request (pure input.read) : Editing Report) fs = _
  rw [run, if_neg (by simpa using h)]

/-- What a run ends in and the file system it leaves behind, without the events. -/
def outcome (fs : FileSystem) (request : Request) (input : Content) :
    Except Failure Text × FileSystem :=
  ((runOn fs request input).1.result, (runOn fs request input).2)

/-- What a run on files ends in once the directory for the documents is there. -/
def filesOutcome (made : FileSystem) (request : Request) (directory : Path) (format : Format) :
    Except Failure Text × FileSystem :=
  match expansions made request.files with
  | .error failure => (.error failure, made)
  | .ok _ =>
    let written := (writeDocuments (documentsOf made request directory format) : Editing _) made
    (written.1.map fun () => [], written.2)

/-- **The stages of a run**, as a function of the file system. -/
theorem outcome_eq (fs : FileSystem) (request : Request) (input : Content) :
    outcome fs request input =
      if request.files = [] then ((runInput request input.read).result, fs)
      else
        match request.output, Format.ofName? request.format with
        | none, _ => (.error .missingOutput, fs)
        | some _, none => (.error (.unknownFormat request.format), fs)
        | some directory, some format =>
          match outputMade fs directory with
          | (.error e, made) => (.error (.outputDirectory directory e), made)
          | (.ok (), made) => filesOutcome made request directory format := by
  unfold outcome
  split
  · rename_i hfiles
    rw [runOn_input hfiles]
  · rename_i hfiles
    rw [runOn_files hfiles, runFiles]
    cases request.output with
    | none => rfl
    | some directory =>
      cases Format.ofName? request.format with
      | none => rfl
      | some format =>
        dsimp only
        rw [editing_bind]
        unfold outputMade
        obtain ⟨r, made⟩ := (makeDirAll Viewing directory : Editing _) fs
        cases r with
        | error e => rfl
        | ok u =>
          dsimp only
          rw [editing_bind, editing_lift, filesOutcome]
          have hread := @readModules_value made _ request.files
          cases hpaths : expansions made request.files with
          | error failure =>
            rw [hpaths] at hread
            rw [hread]
            rfl
          | ok paths =>
            rw [hpaths] at hread
            rw [hread]
            rfl

/-- All that a run on files can end in, and the file system it leaves behind. -/
inductive FilesRun (fs : FileSystem) (request : Request) : Except Failure Text → FileSystem → Prop
  | missingOutput (houtput : request.output = none) :
      FilesRun fs request (.error .missingOutput) fs
  | unknownFormat (hformat : Format.ofName? request.format = none) :
      FilesRun fs request (.error (.unknownFormat request.format)) fs
  | outputDirectory {directory : Path} {e : FileError} (houtput : request.output = some directory)
      (hmade : (outputMade fs directory).1 = .error e) :
      FilesRun fs request (.error (.outputDirectory directory e)) (withOutput fs directory)
  | arguments {directory : Path} {failure : Failure} (houtput : request.output = some directory)
      (hpaths : expansions (withOutput fs directory) request.files = .error failure) :
      FilesRun fs request (.error failure) (withOutput fs directory)
  | unwritable {directory : Path} {format : Format} {paths : List Path}
      {written rest : List (Path × Text)} {p : Path} {t : Text} {e : FileError} {after : FileSystem}
      (houtput : request.output = some directory)
      (hformat : Format.ofName? request.format = some format)
      (hpaths : expansions (withOutput fs directory) request.files = .ok paths)
      (hdocs : documentsOf (withOutput fs directory) request directory format =
        written ++ (p, t) :: rest)
      (hwrote : Wrote (withOutput fs directory) written after) :
      FilesRun fs request (.error (.unwritable p e)) after
  | success {directory : Path} {format : Format} {paths : List Path} {after : FileSystem}
      (houtput : request.output = some directory)
      (hformat : Format.ofName? request.format = some format)
      (hpaths : expansions (withOutput fs directory) request.files = .ok paths)
      (hwrote : Wrote (withOutput fs directory)
        (documentsOf (withOutput fs directory) request directory format) after) :
      FilesRun fs request (.ok []) after

/-- **A run on files ends in one of these ways.** -/
theorem filesRun_outcome (h : request.files ≠ []) :
    FilesRun fs request (outcome fs request input).1 (outcome fs request input).2 := by
  rw [outcome_eq, if_neg h]
  cases houtput : request.output with
  | none => exact .missingOutput houtput
  | some directory =>
    cases hformat : Format.ofName? request.format with
    | none => exact .unknownFormat hformat
    | some format =>
      dsimp only
      cases hmade : outputMade fs directory with
      | mk r made =>
        obtain rfl : withOutput fs directory = made := congrArg Prod.snd hmade
        cases r with
        | error e => exact .outputDirectory houtput (congrArg Prod.fst hmade)
        | ok u =>
          dsimp only
          rw [filesOutcome]
          cases hpaths : expansions (withOutput fs directory) request.files with
          | error failure => exact .arguments houtput hpaths
          | ok paths =>
            obtain ⟨after, hdocs, hwrote⟩ | ⟨written, p, t, rest, e, after, hsplit, hdocs, hwrote⟩ :=
              writeDocuments_cases
                (documentsOf (withOutput fs directory) request directory format)
                (withOutput fs directory)
            · dsimp only
              rw [hdocs]
              exact .success houtput hformat hpaths hwrote
            · dsimp only
              rw [hdocs]
              exact .unwritable houtput hformat hpaths hsplit hwrote

/-! ## 2. Runs that succeed -/

/-- The documents of a run, one for each module of which something is left, in the order of the
    names. -/
theorem documentsOf_eq (made : FileSystem) (request : Request) (directory : Path) (format : Format) :
    ∃ names : List Text, names.Pairwise (· < ·) ∧
      (∀ m, m ∈ names ↔
        patternsLeft (request.filters.map Filter.ofText) (sourcesOf made request.files) m ≠ []) ∧
      documentsOf made request directory format = names.map fun m =>
        (documentPath directory format m, format.render
          (patternsLeft (request.filters.map Filter.ofText) (sourcesOf made request.files) m)) :=
  documents_eq (fun _ => isSupported_of_mem_sourcesOf) directory format _

/-- A run on files that succeeds has written all documents and prints nothing. -/
theorem wrote_of_exitCode {directory : Path} {format : Format} (hfiles : request.files ≠ [])
    (houtput : request.output = some directory)
    (hformat : Format.ofName? request.format = some format)
    (hexit : (runOn fs request input).1.exitCode = 0) :
    (∃ paths, expansions (withOutput fs directory) request.files = .ok paths) ∧
      Wrote (withOutput fs directory)
        (documentsOf (withOutput fs directory) request directory format)
        (runOn fs request input).2 ∧
      (runOn fs request input).1.output = [] := by
  have hrun := @filesRun_outcome fs request input _ hfiles
  unfold outcome at hrun
  unfold Report.exitCode at hexit
  unfold Report.output
  generalize (runOn fs request input).1.result = result at hrun hexit ⊢
  generalize (runOn fs request input).2 = after at hrun ⊢
  cases hrun with
  | success houtput' hformat' hpaths hwrote =>
    cases houtput.symm.trans houtput'
    cases hformat.symm.trans hformat'
    exact ⟨⟨_, hpaths⟩, hwrote, rfl⟩
  | missingOutput => cases hexit
  | unknownFormat => cases hexit
  | outputDirectory => cases hexit
  | arguments => cases hexit
  | unwritable => cases hexit

/-- What a run on the standard input prints. -/
theorem result_runOn_text {format : Format} (hfiles : request.files = [])
    (hformat : Format.ofName? request.format = some format) (t : Text) :
    (runOn fs request (.text t)).1.result =
      .ok (format.render (Filter.apply (request.filters.map Filter.ofText) (Source.patterns t))) := by
  rw [runOn_input hfiles]
  dsimp only [Content.read, runInput]
  rw [hformat]
  rfl

/-- **A run on files that succeeds writes the documents it should, and nothing else.** The sources
    are the paths that the arguments stand for, as far as they have the extension of a source and
    can be read, in order and each once; `left m` is what the filters leave of the patterns of the
    sources with the stem `m`.

    In turn, behind these: each module of which something is left has its document; every file that
    is none of these documents is as it was, in particular every file with the extension of a
    source; different modules have different files; nothing is printed; and the document of a single
    source is what the standard input would have been answered with.

    File systems are trees of directories and files without links, and any paths may match a glob. -/
theorem runOn_documents {directory : Path} {format : Format} (hfiles : request.files ≠ [])
    (houtput : request.output = some directory)
    (hformat : Format.ofName? request.format = some format)
    (hexit : (runOn fs request input).1.exitCode = 0) :
    let made := withOutput fs directory
    let filters := request.filters.map Filter.ofText
    let sources := sourcesOf made request.files
    let left := patternsLeft filters sources
    let after := (runOn fs request input).2
    (∃ paths, expansions made request.files = .ok paths ∧
      (sources.Pairwise fun s u => s.1.key < u.1.key) ∧
      ∀ k t, (∃ s ∈ sources, s.1.key = k ∧ s.2 = t) ↔
        ∃ p ∈ paths, p.key = k ∧ Source.isSupported p = true ∧ made.read p = .ok t) ∧
    (∀ m, left m ≠ [] → after.find (documentPath directory format m) =
      .ok (.file (.text (format.render (left m))))) ∧
    (∀ place, (∀ m, left m ≠ [] → after.resolve (documentPath directory format m) ≠ .ok place) →
      ∀ content, after.nodeAt place = some (.file content) ↔
        fs.nodeAt place = some (.file content)) ∧
    (∀ place name, Source.isSupported ⟨name⟩ = true → ∀ content,
      after.nodeAt (place ++ [name]) = some (.file content) ↔
        fs.nodeAt (place ++ [name]) = some (.file content)) ∧
    (∀ m n, left m ≠ [] → left n ≠ [] → m ≠ n →
      after.resolve (documentPath directory format m) ≠
        after.resolve (documentPath directory format n)) ∧
    (runOn fs request input).1.output = [] ∧
    ∀ p t m, sources = [(p, t)] → p.stem? = some m →
      Filter.apply filters (Source.patterns t) ≠ [] → ∀ elsewhere, ∃ document,
        (runOn elsewhere { request with files := [] } (.text t)).1.result = .ok document ∧
        after.find (documentPath directory format m) = .ok (.file (.text document)) := by
  intro made filters sources left after
  obtain ⟨⟨paths, hpaths⟩, hwrote, hprinted⟩ := wrote_of_exitCode hfiles houtput hformat hexit
  obtain ⟨names, hsorted, hmem, hdocs⟩ := documentsOf_eq made request directory format
  rw [hdocs] at hwrote
  have hslash : ∀ m ∈ names, '/' ∉ m := fun m hm => (stem_of_patternsLeft ((hmem m).1 hm)).2
  have hfound : ∀ m, left m ≠ [] → after.find (documentPath directory format m) =
      .ok (.file (.text (format.render (left m)))) := fun m hm =>
    find_document hwrote hsorted hslash ((hmem m).2 hm)
  have hkept : ∀ place,
      (∀ m, left m ≠ [] → after.resolve (documentPath directory format m) ≠ .ok place) →
      ∀ content, after.nodeAt place = some (.file content) ↔
        fs.nodeAt place = some (.file content) := by
    intro place hplace content
    rw [nodeAt_of_not_document hwrote fun m hm => hplace m ((hmem m).1 hm)]
    exact file_withOutput_iff
  refine ⟨⟨paths, hpaths, sorted_sourcesOf hpaths, fun k t => mem_sourcesOf_iff hpaths⟩, hfound,
    hkept, ?_, ?_, hprinted, ?_⟩
  · intro place name hsupported
    refine hkept _ fun m hm hplace => ?_
    rw [not_isSupported_of_resolve hwrote hslash ((hmem m).2 hm) hplace] at hsupported
    cases hsupported
  · exact fun m n hm hn => resolve_document_ne hwrote hslash ((hmem m).2 hm) ((hmem n).2 hn)
  · intro p t m hsources hstem hleft elsewhere
    have hsingle : left m = Filter.apply filters (Source.patterns t) := by
      show patternsLeft filters sources m = _
      rw [hsources, patternsLeft_singleton hstem]
    refine ⟨_, @result_runOn_text elsewhere { request with files := [] } _ format rfl hformat t, ?_⟩
    rw [hfound m (by rwa [hsingle]), hsingle]

end

/-- A small project: two sources of one module in different directories, and notes. -/
def project : FileSystem where
  root := .directory [
    ("lib".toList, .directory [
      ("card.js".toList, .file (.text "/** @pattern Card */".toList))]),
    ("src".toList, .directory [
      ("card.css".toList, .file (.text "/* @pattern Tile */".toList)),
      ("notes.txt".toList, .file (.text "/* @pattern Notes */".toList))])]
  workingDir := []

/-- A directory and a file of the project make one document, in the order of their paths. -/
theorem runOn_documents_project :
    let request : Request :=
      { files := ["src".toList, "lib/card.js".toList]
        output := some ⟨"out".toList⟩
        filters := ["!deprecated".toList] }
    let left := patternsLeft (request.filters.map Filter.ofText)
      (sourcesOf (withOutput project ⟨"out".toList⟩) request.files) "card".toList
    (runOn project request (.text [])).1.exitCode = 0 ∧
      left.map (·.name) = ["Card".toList, "Tile".toList] ∧
      (runOn project request (.text [])).2.find ⟨"out/card.md".toList⟩ =
        .ok (.file (.text (Format.markdown.render left))) := by
  intro request left
  have hexit : (runOn project request (.text [])).1.exitCode = 0 := by decide +kernel
  have hleft : left.map (·.name) = ["Card".toList, "Tile".toList] := by decide +kernel
  have hne : left ≠ [] := by
    intro hnone
    rw [hnone] at hleft
    cases hleft
  have hdocuments := @runOn_documents project request (.text []) _ ⟨"out".toList⟩ .markdown
    (List.cons_ne_nil _ _) rfl (by decide +kernel) hexit
  exact ⟨hexit, hleft, hdocuments.2.1 "card".toList hne⟩

end Command

end PatternBook
