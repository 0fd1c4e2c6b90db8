import PatternBook.Proofs.Runs

/-!
# The order of the arguments

What a run on files does depends on its arguments as a set (`runOn_arguments`). Their order decides
which spelling of a path is kept and which failure ends the expansion, and neither shows in the
files or in the exit code.

* `Idle`, `SameButIdle` -- arguments that bring in no source, and lists of arguments that differ in
  such arguments at most;
* these can all be expanded or none (`SameButIdle.exists_expansions`), and what can be read through
  their paths is the same set (`SameButIdle.readable`), so the documents are the same
  (`SameButIdle.documentsOf_eq`);
* `sameEnd_outcome` -- so the runs end alike.
-/

namespace PatternBook

namespace Command

open FileSystem

/-- Two runs end with the same file system and the same text, or both of them fail. -/
def SameEnd (run run' : Except Failure Text × FileSystem) : Prop :=
  run.1.toOption = run'.1.toOption ∧ run.2 = run'.2

theorem SameEnd.refl (run : Except Failure Text × FileSystem) : SameEnd run run := ⟨rfl, rfl⟩

theorem exitCode_eq (r : Report) : r.exitCode = if r.result.toOption.isSome then 0 else 1 := by
  unfold Report.exitCode
  cases r.result <;> rfl

theorem output_eq (r : Report) : r.output = r.result.toOption.getD [] := by
  unfold Report.output
  cases r.result <;> rfl

/-- The exit code and what is printed do not tell one failure from another. -/
theorem report_congr {r r' : Report} (h : r.result.toOption = r'.result.toOption) :
    r.exitCode = r'.exitCode ∧ r.output = r'.output := by
  rw [exitCode_eq, exitCode_eq, output_eq, output_eq, h]
  exact ⟨rfl, rfl⟩

section

variable {fs : FileSystem} {files files' : List Text} {request : Request} {input : Content}
  [GlobView Viewing]

/-- An argument can be expanded, but not to a source that can be read. -/
def Idle (fs : FileSystem) (argument : Text) : Prop :=
  ∃ found, expansion fs argument = .ok found ∧ ∀ p ∈ found, sourceAt? fs p = none

/-- Two lists of arguments are the same set but for idle arguments. -/
structure SameButIdle (fs : FileSystem) (files files' : List Text) : Prop where
  left : ∀ a ∈ files, a ∈ files' ∨ Idle fs a
  right : ∀ a ∈ files', a ∈ files ∨ Idle fs a

theorem SameButIdle.of_mem_iff (h : ∀ a, a ∈ files ↔ a ∈ files') : SameButIdle fs files files' :=
  ⟨fun a ha => .inl ((h a).1 ha), fun a ha => .inl ((h a).2 ha)⟩

namespace SameButIdle

theorem symm (h : SameButIdle fs files files') : SameButIdle fs files' files := ⟨h.right, h.left⟩

/-- If the arguments of one list can be expanded, those of the other one can. -/
theorem exists_expansions (h : SameButIdle fs files files')
    (hpaths : ∃ paths, expansions fs files = .ok paths) :
    ∃ paths, expansions fs files' = .ok paths := by
  rw [exists_expansions_iff] at hpaths ⊢
  intro a ha
  rcases h.right a ha with hmem | ⟨found, hfound, -⟩
  · exact hpaths a hmem
  · exact ⟨found, hfound⟩

/-- What can be read through the paths of one list can be read through those of the other one. -/
theorem readable (h : SameButIdle fs files files') {paths paths' : List Path}
    (hpaths : expansions fs files = .ok paths) (hpaths' : expansions fs files' = .ok paths')
    {k : Path.Key} {t : Text}
    (hread : ∃ p ∈ paths, p.key = k ∧ Source.isSupported p = true ∧ fs.read p = .ok t) :
    ∃ p ∈ paths', p.key = k ∧ Source.isSupported p = true ∧ fs.read p = .ok t := by
  obtain ⟨p, hp, hk, hsupported, hread⟩ := hread
  obtain ⟨a, ha, found, hfound, hmem⟩ := (mem_of_expansions hpaths p).1 hp
  rcases h.left a ha with ha' | ⟨found', hfound', hnone⟩
  · exact ⟨p, (mem_of_expansions hpaths' p).2 ⟨a, ha', found, hfound, hmem⟩, hk, hsupported, hread⟩
  · -- what can be read is a source, and an idle argument brings in none
    obtain rfl : found = found' := Except.ok.inj (hfound.symm.trans hfound')
    have hsource := hnone p hmem
    rw [sourceAt?, if_pos hsupported, hread] at hsource
    cases hsource

/-- The documents are the same. -/
theorem documentsOf_eq (h : SameButIdle fs files files') {paths paths' : List Path}
    (hpaths : expansions fs files = .ok paths) (hpaths' : expansions fs files' = .ok paths')
    (request : Request) (directory : Path) (format : Format) :
    documentsOf fs { request with files } directory format =
      documentsOf fs { request with files := files' } directory format :=
  documents_congr (fun _ => isSupported_of_mem_sourcesOf) (fun _ => isSupported_of_mem_sourcesOf)
    (patternsLeft_of_keyed (keyed_sourcesOf_congr hpaths hpaths' fun _ _ =>
      ⟨h.readable hpaths hpaths', h.symm.readable hpaths' hpaths⟩) _) directory format

/-- Once the directory for the documents is there, a run ends with the same files, and it fails for
    both lists or for none. -/
theorem filesOutcome_congr (h : SameButIdle fs files files') (request : Request)
    (directory : Path) (format : Format) :
    SameEnd (filesOutcome fs { request with files } directory format)
      (filesOutcome fs { request with files := files' } directory format) := by
  unfold filesOutcome
  dsimp only
  cases hpaths : expansions fs files with
  | error failure =>
    cases hpaths' : expansions fs files' with
    | error failure' => exact ⟨rfl, rfl⟩
    | ok paths' =>
      obtain ⟨paths, hsome⟩ := h.symm.exists_expansions ⟨paths', hpaths'⟩
      cases hpaths.symm.trans hsome
  | ok paths =>
    obtain ⟨paths', hpaths'⟩ := h.exists_expansions ⟨paths, hpaths⟩
    rw [hpaths']
    dsimp only
    rw [h.documentsOf_eq hpaths hpaths']
    exact .refl _

end SameButIdle

/-- **Runs on arguments that differ in idle ones at most end alike.** -/
theorem sameEnd_outcome (hfiles : files ≠ []) (hfiles' : files' ≠ [])
    (h : ∀ directory, SameButIdle (withOutput fs directory) files files') :
    SameEnd (outcome fs { request with files } input)
      (outcome fs { request with files := files' } input) := by
  rw [outcome_eq, outcome_eq]
  dsimp only
  rw [if_neg hfiles, if_neg hfiles']
  split
  · exact .refl _
  · exact .refl _
  · rename_i directory format _ _
    have hsame := (h directory).filesOutcome_congr request directory format
    unfold withOutput at hsame
    split
    · exact .refl _
    · rename_i made hmade
      rw [hmade] at hsame
      exact hsame

/-- **The order and the repetition of the arguments do not matter**: runs on the same set of
    arguments end with the same exit code, print the same, and leave the same file system behind.
    File systems are trees of directories and files without links, and any paths may match a glob. -/
theorem runOn_arguments (fs : FileSystem) (request : Request) (input : Content)
    {files files' : List Text} (h : ∀ a, a ∈ files ↔ a ∈ files') :
    let run := runOn fs { request with files } input
    let run' := runOn fs { request with files := files' } input
    run.1.exitCode = run'.1.exitCode ∧ run.1.output = run'.1.output ∧ run.2 = run'.2 := by
  have hend : SameEnd (outcome fs { request with files } input)
      (outcome fs { request with files := files' } input) := by
    by_cases hnone : files = []
    · have hnone' : files' = [] := List.eq_nil_iff_forall_not_mem.2 fun a ha => by
        rw [← h, hnone] at ha
        cases ha
      rw [hnone, hnone']
      exact .refl _
    · obtain ⟨a, ha⟩ := List.exists_mem_of_ne_nil _ hnone
      exact sameEnd_outcome hnone (List.ne_nil_of_mem ((h a).1 ha)) fun _ => .of_mem_iff h
  exact ⟨(report_congr hend.1).1, (report_congr hend.1).2, hend.2⟩

end

/-- A file that its directory brings in as well, spelled with two separators, and its directory
    before or behind it and twice. -/
theorem runOn_arguments_spellings :
    let files := ["src".toList, "src//card.css".toList, "lib/card.js".toList]
    let files' := ["lib/card.js".toList, "src//card.css".toList, "src".toList, "src".toList]
    let request : Request := { output := some ⟨"out".toList⟩ }
    (∀ a, a ∈ files ↔ a ∈ files') ∧
      (runOn project { request with files } (.text [])).2 =
        (runOn project { request with files := files' } (.text [])).2 := by
  intro files files' request
  have h : ∀ a, a ∈ files ↔ a ∈ files' := by
    intro a
    simp only [files, files', List.mem_cons, List.not_mem_nil, or_false]
    tauto
  exact ⟨h, (runOn_arguments project request (.text []) h).2.2⟩

end Command

end PatternBook
