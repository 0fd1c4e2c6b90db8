import Mathlib.Data.List.Sort
import PatternBook.Command.Simulation
import PatternBook.Proofs.FileChanges
import PatternBook.Proofs.Modules

/-!
# The sources of a run

What a run on files reads, said without the order in which it looks for it.

* `expansion`, `expansions` -- the paths of one argument and of several; arguments are expanded one
  by one (`mem_of_expansions`), and each to paths that lead to files (`isFile_of_expansion`);
* `Unexpandable` -- the arguments that have no paths (`unexpandable_iff`), of which a file is none;
* `arrange` is what sorting the paths and dropping repetitions gives: the keys increase
  (`sorted_arrange`), and of the paths with one key the first is kept (`mem_arrange_iff`);
* `sourcesOf` -- the sources among these paths with their texts, which are all that is read
  (`readModules_value`);
* `patternsLeft` -- what is left of a module once its sources are filtered; it alone decides which
  documents there are (`documents_eq`).

What matches a glob may be anything here: a run keeps the paths that lead to files, whichever paths
it is given.
-/

namespace PatternBook

namespace Command

open FileSystem

/-! ## 1. The paths of the arguments -/

section

variable {fs : FileSystem}

theorem sourcesIn_eq (directory : Path) (names : List Text) :
    (sourcesIn directory names : Viewing _) fs =
      (names.map directory.join).filter fun p =>
        fs.kind? p == some .file && Source.isSupported p := by
  induction names with
  | nil => rfl
  | cons name names ih =>
    rw [sourcesIn, viewing_bind, viewing_bind, viewing_isFile, viewing_pure, ih, List.map_cons,
      List.filter_cons]

theorem filesOf_eq (paths : List Path) :
    (filesOf paths : Viewing _) fs = paths.filter fun p => fs.kind? p == some .file := by
  induction paths with
  | nil => rfl
  | cons path paths ih =>
    rw [filesOf, viewing_bind, viewing_bind, viewing_isFile, viewing_pure, ih, List.filter_cons]

variable [GlobView Viewing]

/-- The paths of an argument. -/
def expansion (fs : FileSystem) (argument : Text) : Except Failure (List Path) :=
  Except.map Logged.value ((expandArgument argument : Viewing _) fs)

/-- The paths of arguments. -/
def expansions (fs : FileSystem) (arguments : List Text) : Except Failure (List Path) :=
  ((expandArguments arguments : Viewing _) fs).value

/-- A file is itself, a directory its sources, and anything else the files that match a glob. -/
theorem expansion_eq (argument : Text) :
    expansion fs argument =
      match fs.kind? ⟨argument⟩ with
      | some .file => .ok [⟨argument⟩]
      | some .directory =>
        match fs.children ⟨argument⟩ with
        | .error error => .error (.sourceDirectory ⟨argument⟩ error)
        | .ok names => .ok ((sourcesIn ⟨argument⟩ names : Viewing _) fs)
      | _ =>
        match (GlobView.paths argument : Viewing _) fs with
        | .error error => .error (.invalidGlob argument error)
        | .ok found => .ok ((filesOf found : Viewing _) fs) := by
  rw [expansion, expandArgument, viewing_bind, viewing_kind?]
  cases fs.kind? ⟨argument⟩ with
  | none =>
    dsimp only
    rw [viewing_bind]
    cases (GlobView.paths argument : Viewing _) fs <;> rfl
  | some kind =>
    cases kind with
    | file => rfl
    | directory =>
      dsimp only
      rw [viewing_bind, viewing_children]
      cases fs.children ⟨argument⟩ <;> rfl
    | other =>
      dsimp only
      rw [viewing_bind]
      cases (GlobView.paths argument : Viewing _) fs <;> rfl

/-- An argument stands for files only. -/
theorem isFile_of_expansion {argument : Text} {paths : List Path}
    (h : expansion fs argument = .ok paths) {p : Path} (hp : p ∈ paths) :
    fs.kind? p = some .file := by
  rw [expansion_eq] at h
  split at h
  · rename_i hkind
    cases h
    rw [List.mem_singleton.1 hp]
    exact hkind
  · split at h
    · cases h
    · cases h
      rw [sourcesIn_eq] at hp
      exact beq_iff_eq.1 (Bool.and_eq_true_iff.1 (List.mem_filter.1 hp).2).1
  · split at h
    · cases h
    · cases h
      rw [filesOf_eq] at hp
      exact beq_iff_eq.1 (List.mem_filter.1 hp).2

/-- A file stands for itself. -/
theorem expansion_of_file {argument : Text} (h : fs.kind? ⟨argument⟩ = some .file) :
    expansion fs argument = .ok [⟨argument⟩] := by
  rw [expansion_eq, h]

/-- An argument has no paths: it leads to a directory that cannot be listed, or it leads neither to a
    file nor to a directory and is no glob. -/
def Unexpandable (fs : FileSystem) (argument : Text) : Prop :=
  fs.kind? ⟨argument⟩ = some .directory ∧ (∃ e, fs.children ⟨argument⟩ = .error e) ∨
    fs.kind? ⟨argument⟩ ≠ some .file ∧ fs.kind? ⟨argument⟩ ≠ some .directory ∧
      ∃ e, (GlobView.paths argument : Viewing _) fs = .error e

theorem unexpandable_iff {argument : Text} :
    Unexpandable fs argument ↔ ¬ ∃ paths, expansion fs argument = .ok paths := by
  rw [expansion_eq, Unexpandable]
  split
  · rename_i hkind
    simp [hkind]
  · rename_i hkind
    cases fs.children ⟨argument⟩ <;> simp [hkind]
  · rename_i hfile hdirectory
    have hother : fs.kind? ⟨argument⟩ ≠ some .file ∧ fs.kind? ⟨argument⟩ ≠ some .directory :=
      ⟨hfile, hdirectory⟩
    cases (GlobView.paths argument : Viewing _) fs <;> simp [hother]

theorem expansions_nil : expansions fs [] = .ok [] := rfl

theorem expansions_cons (argument : Text) (rest : List Text) :
    expansions fs (argument :: rest) =
      match expansion fs argument with
      | .error failure => .error failure
      | .ok found => (expansions fs rest).map (found ++ ·) := by
  rw [expansions, expandArguments, viewing_bind, expansion]
  cases (expandArgument argument : Viewing _) fs <;> rfl

/-- No document is what keeps arguments from being expanded. -/
theorem ne_unwritable_of_expansions {arguments : List Text} {failure : Failure}
    (h : expansions fs arguments = .error failure) (p : Path) (e : FileError) :
    failure ≠ .unwritable p e := by
  rintro rfl
  induction arguments with
  | nil => cases h
  | cons argument rest ih =>
    rw [expansions_cons] at h
    cases hfirst : expansion fs argument with
    | error failure =>
      rw [hfirst] at h
      obtain rfl : failure = .unwritable p e := Except.error.inj h
      rw [expansion_eq] at hfirst
      split at hfirst
      · cases hfirst
      · split at hfirst <;> cases hfirst
      · split at hfirst <;> cases hfirst
    | ok found =>
      rw [hfirst] at h
      cases hrest : expansions fs rest with
      | error failure =>
        rw [hrest] at h
        exact ih (hrest.trans (congrArg _ (Except.error.inj h)))
      | ok later =>
        rw [hrest] at h
        cases h

/-- Arguments can be expanded exactly if each of them can. -/
theorem exists_expansions_iff {arguments : List Text} :
    (∃ paths, expansions fs arguments = .ok paths) ↔
      ∀ a ∈ arguments, ∃ paths, expansion fs a = .ok paths := by
  induction arguments with
  | nil => exact ⟨fun _ _ ha => absurd ha List.not_mem_nil, fun _ => ⟨[], expansions_nil⟩⟩
  | cons argument rest ih =>
    rw [expansions_cons, List.forall_mem_cons, ← ih]
    cases expansion fs argument with
    | error failure => simp
    | ok found => cases expansions fs rest <;> simp [Except.map]

/-- The paths of arguments are those of the single ones. -/
theorem mem_of_expansions {arguments : List Text} {paths : List Path}
    (h : expansions fs arguments = .ok paths) (p : Path) :
    p ∈ paths ↔ ∃ a ∈ arguments, ∃ found, expansion fs a = .ok found ∧ p ∈ found := by
  induction arguments generalizing paths with
  | nil =>
    have hpaths : [] = paths := Except.ok.inj h
    simp [← hpaths]
  | cons argument rest ih =>
    rw [expansions_cons] at h
    cases hfirst : expansion fs argument with
    | error failure =>
      rw [hfirst] at h
      cases h
    | ok found =>
      rw [hfirst] at h
      cases hrest : expansions fs rest with
      | error failure =>
        rw [hrest] at h
        cases h
      | ok later =>
        rw [hrest] at h
        have hpaths : found ++ later = paths := Except.ok.inj h
        rw [← hpaths, List.mem_append, ih hrest, List.exists_mem_cons_iff, hfirst]
        simp only [Except.ok.injEq, exists_eq_left']

/-- Arguments stand for files only. -/
theorem isFile_of_mem_expansions {arguments : List Text} {paths : List Path}
    (h : expansions fs arguments = .ok paths) {p : Path} (hp : p ∈ paths) :
    fs.kind? p = some .file := by
  obtain ⟨a, -, found, hfound, hmem⟩ := (mem_of_expansions h p).1 hp
  exact isFile_of_expansion hfound hmem

end

/-! ## 2. Order and repetitions -/

/-- The map holds the first path of each key. -/
theorem get?_foldl_alter_key (paths : List Path) (found : SortedMap Path.Key Path) (k : Path.Key) :
    (paths.foldl (fun found p => found.alter p.key fun q => q.getD p) found).get? k =
      (found.get? k).or (paths.find? fun p => p.key = k) := by
  induction paths generalizing found with
  | nil => simp
  | cons p paths ih =>
    rw [List.foldl_cons, ih, SortedMap.get?_alter, List.find?_cons]
    by_cases hk : k = p.key
    · subst hk
      cases found.get? p.key <;> simp
    · simp [hk, Ne.symm hk]

theorem get?_byKey (paths : List Path) (k : Path.Key) :
    (byKey paths).get? k = paths.find? fun p => p.key = k :=
  get?_foldl_alter_key paths .empty k

/-- The key of an entry is that of its path. -/
theorem mem_toList_byKey {paths : List Path} {e : Path.Key × Path} (h : e ∈ (byKey paths).toList) :
    paths.find? (fun p => p.key = e.1) = some e.2 ∧ e.2.key = e.1 := by
  have hget : (byKey paths).get? e.1 = some e.2 := SortedMap.get?_eq_some_iff.2 h
  rw [get?_byKey] at hget
  exact ⟨hget, by simpa using List.find?_some hget⟩

/-- Of the paths with one key the first is kept. -/
theorem mem_arrange_iff {paths : List Path} {p : Path} :
    p ∈ arrange paths ↔ paths.find? (fun q => q.key = p.key) = some p := by
  constructor
  · intro h
    obtain ⟨e, he, rfl⟩ := List.mem_map.1 h
    obtain ⟨hfind, hkey⟩ := mem_toList_byKey he
    rw [hkey]
    exact hfind
  · intro h
    rw [← get?_byKey, SortedMap.get?_eq_some_iff] at h
    exact List.mem_map.2 ⟨_, h, rfl⟩

/-- The kept paths increase. -/
theorem sorted_arrange (paths : List Path) :
    (arrange paths).Pairwise fun p q => p.key < q.key := by
  refine List.pairwise_map.2 ((byKey paths).sorted.imp_of_mem ?_)
  intro e d he hd hlt
  rw [(mem_toList_byKey he).2, (mem_toList_byKey hd).2]
  exact hlt

theorem mem_of_mem_arrange {paths : List Path} {p : Path} (h : p ∈ arrange paths) : p ∈ paths :=
  List.mem_of_find?_eq_some (mem_arrange_iff.1 h)

/-! ## 3. What is read -/

/-- A path and its text, if it is that of a source and can be read. -/
def sourceAt? (fs : FileSystem) (p : Path) : Option (Path × Text) :=
  if Source.isSupported p then (fs.read p).toOption.map fun t => (p, t) else none

/-- The patterns of a source, by its path. -/
def sourceFile (s : Path × Text) : SourceFile := ⟨s.1.spelling, Source.patterns s.2⟩

section

variable {fs : FileSystem}

theorem isSupported_of_sourceAt? {p : Path} {s : Path × Text} (h : sourceAt? fs p = some s) :
    s.1 = p ∧ Source.isSupported p = true ∧ fs.read p = .ok s.2 := by
  unfold sourceAt? at h
  split at h
  · rename_i hsupported
    cases hread : fs.read p with
    | error e =>
      rw [hread] at h
      cases h
    | ok t =>
      rw [hread] at h
      cases h
      exact ⟨rfl, hsupported, rfl⟩
  · cases h

theorem readSource_value (p : Path) :
    ((readSource p : Viewing _) fs).value = ((sourceAt? fs p).map sourceFile).toList := by
  rw [readSource, viewing_bind, viewing_read]
  unfold sourceAt?
  cases fs.read p with
  | error e => split <;> rfl
  | ok t =>
    dsimp only [Source.readAt]
    split <;> rfl

theorem readSources_value (paths : List Path) :
    ((readSources paths : Viewing _) fs).value =
      (paths.filterMap (sourceAt? fs)).map sourceFile := by
  induction paths with
  | nil => rfl
  | cons p paths ih =>
    rw [readSources, viewing_bind, viewing_bind, viewing_pure]
    dsimp only
    rw [ih, readSource_value, List.filterMap_cons]
    cases sourceAt? fs p <;> rfl

variable [GlobView Viewing]

/-- The sources that arguments stand for, in the order of their paths, each with its text. -/
def sourcesOf (fs : FileSystem) (arguments : List Text) : List (Path × Text) :=
  match expansions fs arguments with
  | .error _ => []
  | .ok paths => (arrange paths).filterMap (sourceAt? fs)

theorem isSupported_of_mem_sourcesOf {arguments : List Text} {s : Path × Text}
    (h : s ∈ sourcesOf fs arguments) : Source.isSupported s.1 = true := by
  unfold sourcesOf at h
  split at h
  · cases h
  · obtain ⟨p, -, hp⟩ := List.mem_filterMap.1 h
    obtain ⟨rfl, hsupported, -⟩ := isSupported_of_sourceAt? hp
    exact hsupported

/-- The modules of arguments are those of their sources. -/
theorem readModules_value (arguments : List Text) :
    ((readModules arguments : Viewing _) fs).value =
      (expansions fs arguments).map fun _ =>
        (Module.merge ((sourcesOf fs arguments).map sourceFile)).value := by
  rw [readModules, viewing_bind]
  unfold sourcesOf
  cases h : expansions fs arguments with
  | error failure =>
    rw [expansions] at h
    rw [h]
    rfl
  | ok paths =>
    rw [expansions] at h
    rw [h]
    dsimp only
    rw [viewing_bind, viewing_pure]
    dsimp only
    rw [readSources_value]
    rfl

end

/-! ## 4. The documents -/

/-- What is left of a module: the patterns of its sources that satisfy the filters. -/
def patternsLeft (filters : List Filter) (sources : List (Path × Text)) (name : Text) :
    List Pattern :=
  Filter.apply filters
    ((sources.filter fun s => s.1.stem? = some name).flatMap fun s => Source.patterns s.2)

/-- The path of the document of a module. -/
def documentPath (directory : Path) (format : Format) (name : Text) : Path :=
  directory.join (name ++ ['.'] ++ format.extension)

/-- A path with an extension has a stem. -/
theorem nameOf_of_isSupported {p : Path} (h : Source.isSupported p = true) {name : Text} :
    Module.nameOf p.spelling = name ↔ p.stem? = some name := by
  have hstem : ∃ stem, p.stem? = some stem := by
    unfold Source.isSupported Path.extension? at h
    cases hname : p.fileName? with
    | none =>
      rw [hname] at h
      cases h
    | some t => exact ⟨_, congrArg (Option.map _) hname⟩
  obtain ⟨stem, hstem⟩ := hstem
  have hname : Module.nameOf p.spelling = stem := by
    unfold Module.nameOf
    rw [show Path.stem? ⟨p.spelling⟩ = some stem from hstem]
    rfl
  rw [hname, hstem, Option.some.injEq]

theorem patternsLeft_eq {sources : List (Path × Text)}
    (h : ∀ s ∈ sources, Source.isSupported s.1 = true) (filters : List Filter) (name : Text) :
    patternsLeft filters sources name =
      Filter.apply filters (Module.patternsOf (sources.map sourceFile) name) := by
  unfold patternsLeft Module.patternsOf Module.filesOf
  rw [List.filter_map, List.flatMap_map]
  congr 1
  have hfilter : sources.filter (fun s => s.1.stem? = some name) =
      sources.filter ((fun f => decide (Module.nameOf f.path = name)) ∘ sourceFile) := by
    refine List.filter_congr fun s hs => ?_
    exact decide_eq_decide.2 (nameOf_of_isSupported (h s hs)).symm
  rw [hfilter]
  rfl

/-- **The documents of sources**: one for each module of which something is left, in the order of
    the names. -/
theorem documents_eq {sources : List (Path × Text)}
    (h : ∀ s ∈ sources, Source.isSupported s.1 = true) (directory : Path) (format : Format)
    (filters : List Filter) : ∃ names : List Text,
    names.Pairwise (· < ·) ∧ (∀ m, m ∈ names ↔ patternsLeft filters sources m ≠ []) ∧
    documents directory format filters (Module.merge (sources.map sourceFile)).value =
      names.map fun m =>
        (documentPath directory format m, format.render (patternsLeft filters sources m)) := by
  have hleft : ∀ m, patternsLeft filters sources m =
      Filter.apply filters (Module.patternsOf (sources.map sourceFile) m) :=
    patternsLeft_eq h filters
  generalize sources.map sourceFile = files at hleft ⊢
  refine ⟨(Module.filesByName files).keys.filter fun m => patternsLeft filters sources m ≠ [],
    (SortedMap.keys_sorted _).filter _, fun m => ?_, ?_⟩
  · rw [List.mem_filter, Module.mem_keys_filesByName, decide_eq_true_eq]
    refine ⟨fun hm => hm.2, fun hm => ⟨?_, hm⟩⟩
    -- something is left, so the module has a file
    rw [hleft] at hm
    obtain ⟨p, hp⟩ := List.exists_mem_of_ne_nil _ hm
    obtain ⟨f, hf, -⟩ := List.mem_flatMap.1 (List.mem_filter.1 hp).1
    exact ⟨f, Module.mem_filesOf.1 hf⟩
  · rw [Module.merge_value, documents, List.filterMap_map, ← List.filterMap_eq_map,
      List.filterMap_filter]
    refine List.filterMap_congr fun m _ => ?_
    simp only [Function.comp_apply, ← hleft, List.isEmpty_iff, documentPath]
    by_cases hm : patternsLeft filters sources m = [] <;> simp [hm]

/-- What is left of each module decides the documents. -/
theorem documents_congr {sources sources' : List (Path × Text)}
    (h : ∀ s ∈ sources, Source.isSupported s.1 = true)
    (h' : ∀ s ∈ sources', Source.isSupported s.1 = true) {filters : List Filter}
    (hleft : ∀ m, patternsLeft filters sources m = patternsLeft filters sources' m)
    (directory : Path) (format : Format) :
    documents directory format filters (Module.merge (sources.map sourceFile)).value =
      documents directory format filters (Module.merge (sources'.map sourceFile)).value := by
  obtain ⟨names, hsorted, hmem, hdocs⟩ := documents_eq h directory format filters
  obtain ⟨names', hsorted', hmem', hdocs'⟩ := documents_eq h' directory format filters
  have hnames : names = names' :=
    hsorted.eq_of_mem_iff hsorted' fun m => by rw [hmem, hmem', hleft]
  rw [hdocs, hdocs', hnames]
  exact List.map_congr_left fun m _ => by rw [hleft]

end Command

end PatternBook
