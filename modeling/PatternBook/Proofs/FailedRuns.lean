import PatternBook.Proofs.ByteOrder
import PatternBook.Proofs.SkippedInputs

/-!
# Runs that fail

Where a run fails decides what it has done before (`runOn_failures`). What is wrong with the request
or with the standard input shows before the first change; the directory for the documents is made
before the arguments are expanded; and the documents are written in the order of the modules, up to
the first that cannot be written.

* `outcome_of_invalid`, `file_of_failure`, `wrote_of_unwritable` -- what has been done where a run
  fails;
* `Reason`, `exitCode_eq_one_iff` -- all reasons for which a run fails. What a file holds, or whether
  it can be read, is none of them;
* `outcome_of_skipped` -- what a run does of which every argument is skipped.
-/

namespace PatternBook

namespace Command

open FileSystem

/-! ## 1. Reports and documents -/

/-- Without files a run fails if its input is no text or the format is not known. -/
theorem runInput_error_iff (request : Request) (input : Content) :
    (∃ failure, (runInput request input.read).result = .error failure) ↔
      Format.ofName? request.format = none ∨ ∃ bytes, input = .binary bytes := by
  cases input with
  | binary bytes => exact ⟨fun _ => .inr ⟨bytes, rfl⟩, fun _ => ⟨_, rfl⟩⟩
  | text t =>
    cases hformat : Format.ofName? request.format <;> simp [Content.read, runInput, hformat]

theorem exitCode_eq_one_iff_error (r : Report) :
    r.exitCode = 1 ↔ ∃ failure, r.result = .error failure := by
  rw [exitCode_eq]
  cases r.result <;> simp [Except.toOption]

/-- The modules before the one that a list of documents is cut at. -/
theorem exists_before {α : Type} {names : List Text} (hsorted : names.Pairwise (· < ·)) {f : Text → α}
    {written rest : List α} {d : α} (h : names.map f = written ++ d :: rest) :
    ∃ (before : List Text) (m : Text), written = before.map f ∧ d = f m ∧ m ∈ names ∧
      before.Pairwise (· < ·) ∧ ∀ n, n ∈ before ↔ n ∈ names ∧ n < m := by
  obtain ⟨before, tail, rfl, rfl, htail⟩ := List.map_eq_append_iff.1 h
  obtain ⟨m, later, rfl, rfl, -⟩ := List.map_eq_cons_iff.1 htail
  obtain ⟨hbefore, htail, hcross⟩ := List.pairwise_append.1 hsorted
  refine ⟨before, m, rfl, rfl, by simp, hbefore, fun n => ⟨fun hn => ⟨by simp [hn], ?_⟩, ?_⟩⟩
  · exact hcross n hn m List.mem_cons_self
  · rintro ⟨hn, hlt⟩
    rcases List.mem_append.1 hn with hn | hn
    · exact hn
    · rcases List.mem_cons.1 hn with rfl | hn
      · exact absurd hlt (List.lt_irrefl n)
      · have hgt := (List.pairwise_cons.1 htail).1 n hn
        exact absurd (List.lt_trans hlt hgt) (List.lt_irrefl n)

/-- The documents of the modules before the one that a run fails at are there, and every other file
    is as it was, those of the modules behind it among them. -/
theorem files_of_wrote {made after : FileSystem} {directory : Path} {format : Format}
    {before : List Text} {text : Text → Text}
    (h : Wrote made (before.map fun n => (documentPath directory format n, text n)) after)
    (hsorted : before.Pairwise (· < ·)) (hslash : ∀ n ∈ before, '/' ∉ n) :
    (∀ n ∈ before, after.find (documentPath directory format n) = .ok (.file (.text (text n)))) ∧
      (∀ place, (∀ n ∈ before, after.resolve (documentPath directory format n) ≠ .ok place) →
        after.nodeAt place = made.nodeAt place) ∧
      ∀ n, '/' ∉ n → n ∉ before → ∀ place,
        after.resolve (documentPath directory format n) = .ok place →
          after.nodeAt place = made.nodeAt place := by
  have hother : ∀ place,
      (∀ n ∈ before, after.resolve (documentPath directory format n) ≠ .ok place) →
        after.nodeAt place = made.nodeAt place := fun place => nodeAt_of_not_document h
  refine ⟨fun n => find_document h hsorted hslash, hother, fun n hn hnot place hplace => ?_⟩
  refine hother place fun k hk hsame => hnot ?_
  -- a document of a module before at that place would be the same document
  have hplaces : after.placeOf (documentPath directory format n) =
      after.placeOf (documentPath directory format k) :=
    (eq_placeOf_of_resolve hplace).symm.trans (eq_placeOf_of_resolve hsame)
  rw [placeOf_documentPath_inj directory format after hn (hslash k hk) hplaces]
  exact hk

section

variable {fs : FileSystem} {request : Request} {input : Content} [GlobView Viewing]

/-! ## 2. Before the first change -/

/-- What is wrong with the request or with the standard input is found before anything is done. -/
theorem outcome_of_invalid
    (h : request.files ≠ [] ∧ request.output = none ∨ Format.ofName? request.format = none ∨
      request.files = [] ∧ ∃ bytes, input = .binary bytes) :
    ∃ failure, outcome fs request input = (.error failure, fs) := by
  rw [outcome_eq]
  split
  · rename_i hfiles
    unfold runInput
    cases hread : input.read with
    | error e => exact ⟨.unreadableInput e, rfl⟩
    | ok t =>
      rcases h with ⟨hsome, -⟩ | hformat | ⟨-, bytes, rfl⟩
      · exact absurd hfiles hsome
      · exact ⟨.unknownFormat request.format, by dsimp only; rw [hformat]⟩
      · cases hread
  · rename_i hfiles
    split
    · exact ⟨.missingOutput, rfl⟩
    · exact ⟨.unknownFormat request.format, rfl⟩
    · rename_i houtput hformat
      rcases h with ⟨-, hnone⟩ | hnone | ⟨hempty, -⟩
      · rw [houtput] at hnone
        cases hnone
      · rw [hformat] at hnone
        cases hnone
      · exact absurd hempty hfiles

/-! ## 3. Before the first document -/

/-- A run that fails otherwise than at a document has at most made directories. -/
theorem file_of_failure {failure : Failure} (h : (outcome fs request input).1 = .error failure)
    (hdocument : ∀ p e, failure ≠ .unwritable p e) {place : Place} {content : Content} :
    (outcome fs request input).2.nodeAt place = some (.file content) ↔
      fs.nodeAt place = some (.file content) := by
  by_cases hfiles : request.files = []
  · rw [outcome_eq, if_pos hfiles]
  · have hrun := @filesRun_outcome fs request input _ hfiles
    rw [h] at hrun
    generalize (outcome fs request input).2 = after at hrun ⊢
    cases hrun with
    | missingOutput => exact Iff.rfl
    | unknownFormat => exact Iff.rfl
    | outputDirectory => exact file_withOutput_iff
    | arguments => exact file_withOutput_iff
    | unwritable => exact absurd rfl (hdocument _ _)

/-! ## 4. Among the documents -/

/-- A run that fails at a document has written those of the modules before and no other. -/
theorem wrote_of_unwritable {p : Path} {e : FileError}
    (h : (outcome fs request input).1 = .error (.unwritable p e)) :
    ∃ directory format, request.output = some directory ∧
      Format.ofName? request.format = some format ∧
      let left := patternsLeft (request.filters.map Filter.ofText)
        (sourcesOf (withOutput fs directory) request.files)
      ∃ (before : List Text) (m : Text), left m ≠ [] ∧ p = documentPath directory format m ∧
        before.Pairwise (· < ·) ∧
        (∀ n, n ∈ before ↔ left n ≠ [] ∧ n < m) ∧
        Wrote (withOutput fs directory)
          (before.map fun n => (documentPath directory format n, format.render (left n)))
          (outcome fs request input).2 := by
  have hfiles : request.files ≠ [] := by
    intro hfiles
    rw [outcome_eq, if_pos hfiles] at h
    unfold runInput at h
    split at h
    · cases h
    · dsimp only at h
      split at h <;> cases h
  have hrun := @filesRun_outcome fs request input _ hfiles
  rw [h] at hrun
  generalize (outcome fs request input).2 = after at hrun ⊢
  cases hrun with
  | @arguments directory _ houtput hpaths =>
    exact absurd rfl (ne_unwritable_of_expansions hpaths p e)
  | @unwritable directory format _ written rest _ t _ _ houtput hformat hpaths hdocs hwrote =>
    obtain ⟨names, hsorted, hmem, hnames⟩ :=
      documentsOf_eq (withOutput fs directory) request directory format
    obtain ⟨before, m, rfl, hm, hmnames, hbefore, hmembefore⟩ :=
      exists_before hsorted (hnames.symm.trans hdocs)
    refine ⟨directory, format, houtput, hformat, before, m, (hmem m).1 hmnames,
      congrArg Prod.fst hm, hbefore, fun n => ?_, hwrote⟩
    rw [hmembefore, hmem]

/-! ## 5. When a run fails -/

/-- All reasons for which a run fails. -/
inductive Reason (fs : FileSystem) (request : Request) (input : Content) : Prop where
  /-- The format is not known. -/
  | format (h : Format.ofName? request.format = none)
  /-- The standard input is read and is no text. -/
  | input {bytes : List UInt8} (hfiles : request.files = []) (h : input = .binary bytes)
  /-- Files are given, but no directory for the documents. -/
  | output (hfiles : request.files ≠ []) (h : request.output = none)
  /-- That directory cannot be made. -/
  | directory {directory : Path} {e : FileError} (hfiles : request.files ≠ [])
      (houtput : request.output = some directory) (h : (outputMade fs directory).1 = .error e)
  /-- An argument has no paths. -/
  | argument {directory : Path} {a : Text} (houtput : request.output = some directory)
      (ha : a ∈ request.files) (h : Unexpandable (withOutput fs directory) a)
  /-- The document of a module of which something is left cannot be written. -/
  | document {directory : Path} {format : Format} {m : Text} {e : FileError}
      (houtput : request.output = some directory)
      (hformat : Format.ofName? request.format = some format)
      (hleft : patternsLeft (request.filters.map Filter.ofText)
        (sourcesOf (withOutput fs directory) request.files) m ≠ [])
      (h : ((withOutput fs directory).write (documentPath directory format m)
        (format.render (patternsLeft (request.filters.map Filter.ofText)
          (sourcesOf (withOutput fs directory) request.files) m))).1 = .error e)

/-- Once the directory for the documents is there, a run fails at an argument without paths or at a
    document that cannot be written. -/
theorem filesOutcome_error_iff (made : FileSystem) (request : Request) (directory : Path)
    (format : Format) :
    let left := patternsLeft (request.filters.map Filter.ofText) (sourcesOf made request.files)
    (∃ failure, (filesOutcome made request directory format).1 = .error failure) ↔
      (∃ a ∈ request.files, Unexpandable made a) ∨
      ∃ m, left m ≠ [] ∧ ∃ e,
        (made.write (documentPath directory format m) (format.render (left m))).1 = .error e := by
  intro left
  have hall := @exists_expansions_iff made _ request.files
  unfold filesOutcome
  cases hpaths : expansions made request.files with
  | error failure =>
    refine ⟨fun _ => .inl ?_, fun _ => ⟨failure, rfl⟩⟩
    by_contra hnone
    obtain ⟨paths, hsome⟩ := hall.2 fun a ha => by
      by_contra hamiss
      exact hnone ⟨a, ha, unexpandable_iff.2 hamiss⟩
    cases hpaths.symm.trans hsome
  | ok paths =>
    have hnone : ¬ ∃ a ∈ request.files, Unexpandable made a := fun ⟨a, ha, hamiss⟩ =>
      unexpandable_iff.1 hamiss (hall.1 ⟨paths, hpaths⟩ a ha)
    obtain ⟨names, -, hmem, hdocs⟩ := documentsOf_eq made request directory format
    have hwrite := writeDocuments_ok_iff (documentsOf made request directory format) made
    have herror : ∀ x : Except FileError Unit, (∃ e, x = .error e) ↔ x ≠ .ok () := by
      intro x
      cases x <;> simp
    simp only [hnone, false_or, herror, left, ← hmem]
    generalize (writeDocuments (documentsOf made request directory format) : Editing _) made =
      written at hwrite ⊢
    have hfailed : (∃ failure, written.1.map (fun () => ([] : Text)) = .error failure) ↔
        written.1 ≠ .ok () := by
      cases written.1 <;> simp [Except.map]
    rw [hfailed, ne_eq, hwrite, hdocs, List.forall_mem_map]
    simp

theorem reason_iff_of_input (hfiles : request.files = []) : Reason fs request input ↔
    Format.ofName? request.format = none ∨ ∃ bytes, input = .binary bytes := by
  constructor
  · intro h
    cases h with
    | format h => exact .inl h
    | input _ h => exact .inr ⟨_, h⟩
    | output hsome _ => exact absurd hfiles hsome
    | directory hsome _ _ => exact absurd hfiles hsome
    | argument _ ha _ =>
      rw [hfiles] at ha
      cases ha
    | document _ _ hleft _ =>
      rw [hfiles] at hleft
      exact absurd rfl hleft
  · rintro (h | ⟨bytes, h⟩)
    · exact .format h
    · exact .input hfiles h

theorem reason_iff_of_files {directory : Path} {format : Format} (hfiles : request.files ≠ [])
    (houtput : request.output = some directory)
    (hformat : Format.ofName? request.format = some format) :
    let left := patternsLeft (request.filters.map Filter.ofText)
      (sourcesOf (withOutput fs directory) request.files)
    Reason fs request input ↔ (∃ e, (outputMade fs directory).1 = .error e) ∨
      (∃ a ∈ request.files, Unexpandable (withOutput fs directory) a) ∨
      ∃ m, left m ≠ [] ∧ ∃ e, ((withOutput fs directory).write (documentPath directory format m)
        (format.render (left m))).1 = .error e := by
  intro left
  constructor
  · intro h
    cases h with
    | format h => cases hformat.symm.trans h
    | input hnone _ => exact absurd hnone hfiles
    | output _ h => cases houtput.symm.trans h
    | directory _ hsome h =>
      obtain rfl := Option.some.inj (houtput.symm.trans hsome)
      exact .inl ⟨_, h⟩
    | argument hsome ha h =>
      obtain rfl := Option.some.inj (houtput.symm.trans hsome)
      exact .inr (.inl ⟨_, ha, h⟩)
    | document hsome hknown hleft h =>
      obtain rfl := Option.some.inj (houtput.symm.trans hsome)
      obtain rfl := Option.some.inj (hformat.symm.trans hknown)
      exact .inr (.inr ⟨_, hleft, _, h⟩)
  · rintro (⟨e, h⟩ | ⟨a, ha, h⟩ | ⟨m, hleft, e, h⟩)
    · exact .directory hfiles houtput h
    · exact .argument houtput ha h
    · exact .document houtput hformat hleft h

/-- **A run fails for one of these reasons, and for none else.** -/
theorem exitCode_eq_one_iff : (runOn fs request input).1.exitCode = 1 ↔ Reason fs request input := by
  have houtcome : (runOn fs request input).1.result = (outcome fs request input).1 := rfl
  rw [exitCode_eq_one_iff_error, houtcome, outcome_eq]
  by_cases hfiles : request.files = []
  · rw [if_pos hfiles, runInput_error_iff, reason_iff_of_input hfiles]
  · rw [if_neg hfiles]
    cases houtput : request.output with
    | none => exact ⟨fun _ => .output hfiles houtput, fun _ => ⟨_, rfl⟩⟩
    | some directory =>
      cases hformat : Format.ofName? request.format with
      | none => exact ⟨fun _ => .format hformat, fun _ => ⟨_, rfl⟩⟩
      | some format =>
        refine Iff.trans ?_ (reason_iff_of_files hfiles houtput hformat).symm
        dsimp only
        cases hmade : outputMade fs directory with
        | mk r made =>
          obtain rfl : withOutput fs directory = made := congrArg Prod.snd hmade
          cases r with
          | error e => exact ⟨fun _ => .inl ⟨e, rfl⟩, fun _ => ⟨_, rfl⟩⟩
          | ok u => simpa using filesOutcome_error_iff (withOutput fs directory) request directory format

/-! ## 6. Arguments that are skipped -/

/-- A run ends as it does without skipped arguments, if any arguments remain. -/
theorem sameEnd_of_skipped {files : List Text} (hfiles : files ≠ [])
    (hsub : files ⊆ request.files) (h : ∀ a ∈ request.files, a ∉ files → IsSkipped fs a) :
    SameEnd (outcome fs request input) (outcome fs { request with files } input) := by
  have hne : request.files ≠ [] := List.ne_nil_of_mem (hsub (List.head_mem hfiles))
  refine @sameEnd_outcome fs request.files files request input _ hne hfiles fun directory =>
    ⟨fun a ha => ?_, fun a ha => .inl (hsub ha)⟩
  by_cases hmem : a ∈ files
  · exact .inl hmem
  · exact .inr ((h a ha hmem).idle directory)

/-- Of skipped arguments there is nothing to do but to make the directory for the documents. -/
theorem outcome_of_skipped {directory : Path} {format : Format} (hfiles : request.files ≠ [])
    (houtput : request.output = some directory)
    (hformat : Format.ofName? request.format = some format)
    (h : ∀ a ∈ request.files, IsSkipped fs a) :
    (outcome fs request input).1.toOption =
        (outputMade fs directory).1.toOption.map (fun () => []) ∧
      (outcome fs request input).2 = withOutput fs directory := by
  rw [outcome_eq, if_neg hfiles, houtput, hformat]
  dsimp only
  cases hmade : outputMade fs directory with
  | mk r made =>
    obtain rfl : withOutput fs directory = made := congrArg Prod.snd hmade
    cases r with
    | error e => exact ⟨rfl, rfl⟩
    | ok u =>
      have hsame : SameButIdle (withOutput fs directory) request.files [] :=
        ⟨fun a ha => .inr ((h a ha).idle directory), fun a ha => absurd ha List.not_mem_nil⟩
      exact hsame.filesOutcome_congr request directory format

/-! ## 7. All failures -/

/-- **Runs that fail leave the file system as they should.** File systems are trees of directories and
    files without links, and any paths may match a glob, as long as that does not depend on what a
    file holds.

    A run without a directory for its documents, with an unknown format or with a standard input
    that is no text prints nothing and changes nothing. A run that fails otherwise, but not at a
    document, changes no file. A run that fails at the document of a module has written the
    documents of the modules before it in the order of their bytes and no other file, in particular
    no document of a module behind it.

    And an input that is skipped makes no run fail. It is none of the reasons for which runs fail. A
    run ends, and writes, as if the input had no pattern; the input itself it overwrites in both
    cases or in none. Arguments that are skipped inputs can be left away, unless no argument remains;
    then the directory for the documents is all that a run makes, and it fails only if it cannot. -/
theorem runOn_failures [LawfulGlobView] (fs : FileSystem) (request : Request) (input : Content) :
    let run := runOn fs request input
    let after := run.2
    (request.files ≠ [] ∧ request.output = none ∨ Format.ofName? request.format = none ∨
        request.files = [] ∧ (∃ bytes, input = .binary bytes) →
      run.1.exitCode = 1 ∧ run.1.output = [] ∧ after = fs) ∧
    (∀ failure, run.1.result = .error failure → (∀ p e, failure ≠ .unwritable p e) →
      ∀ place content, after.nodeAt place = some (.file content) ↔
        fs.nodeAt place = some (.file content)) ∧
    (∀ p e, run.1.result = .error (.unwritable p e) →
      ∃ directory format, request.output = some directory ∧
        Format.ofName? request.format = some format ∧
        let left := patternsLeft (request.filters.map Filter.ofText)
          (sourcesOf (withOutput fs directory) request.files)
        ∃ m : Text, left m ≠ [] ∧ p = documentPath directory format m ∧
          (∀ n : Text, left n ≠ [] → n.bytes < m.bytes →
            after.find (documentPath directory format n) =
              .ok (.file (.text (format.render (left n))))) ∧
          (∀ place, (∀ n : Text, left n ≠ [] → n.bytes < m.bytes →
              after.resolve (documentPath directory format n) ≠ .ok place) →
            ∀ content, after.nodeAt place = some (.file content) ↔
              fs.nodeAt place = some (.file content)) ∧
          ∀ n : Text, left n ≠ [] → m.bytes < n.bytes →
            ∀ place, after.resolve (documentPath directory format n) = .ok place →
              ∀ content, after.nodeAt place = some (.file content) ↔
                fs.nodeAt place = some (.file content)) ∧
    (run.1.exitCode = 1 ↔ Reason fs request input) ∧
    (∀ d name content t, fs.nodeAt (d ++ [name]) = some (.file content) → Skipped fs d name →
      Source.patterns t = [] →
      let fs' := fs.withText (d ++ [name]) t
      let run' := runOn fs' request input
      run.1.exitCode = run'.1.exitCode ∧ ∀ place, after.nodeAt place = run'.2.nodeAt place ∨
        place = d ++ [name] ∧ after.nodeAt place = fs.nodeAt place ∧
          run'.2.nodeAt place = fs'.nodeAt place) ∧
    (∀ files, files ≠ [] → files ⊆ request.files →
      (∀ a ∈ request.files, a ∉ files → IsSkipped fs a) →
      let run' := runOn fs { request with files } input
      run.1.exitCode = run'.1.exitCode ∧ run.1.output = run'.1.output ∧ after = run'.2) ∧
    ∀ directory format, request.output = some directory →
      Format.ofName? request.format = some format → request.files ≠ [] →
      (∀ a ∈ request.files, IsSkipped fs a) →
      (run.1.exitCode = 0 ↔ (outputMade fs directory).1 = .ok ()) ∧ run.1.output = [] ∧
        after = withOutput fs directory := by
  intro run after
  refine ⟨fun h => ?_, fun failure h hdocument place content => file_of_failure h hdocument,
    fun p e h => ?_, exitCode_eq_one_iff, fun d name content t hfile hskipped hnone => ?_,
    fun files hne hsub hskipped => ?_, fun directory format houtput hformat hfiles hskipped => ?_⟩
  · obtain ⟨failure, hend⟩ := @outcome_of_invalid fs request input _ h
    have hresult : run.1.result = .error failure := congrArg Prod.fst hend
    refine ⟨?_, ?_, congrArg Prod.snd hend⟩
    · rw [Report.exitCode, hresult]
    · rw [Report.output, hresult]
  · obtain ⟨directory, format, houtput, hformat, before, m, hm, hp, hsorted, hbefore, hwrote⟩ :=
      wrote_of_unwritable h
    obtain ⟨hfound, hother, hbehind⟩ := files_of_wrote hwrote hsorted fun n hn =>
      (stem_of_patternsLeft ((hbefore n).1 hn).1).2
    have hsame : ∀ place, after.nodeAt place = (withOutput fs directory).nodeAt place →
        ∀ content, after.nodeAt place = some (.file content) ↔
          fs.nodeAt place = some (.file content) := by
      intro place hplace content
      rw [hplace]
      exact file_withOutput_iff
    refine ⟨directory, format, houtput, hformat, m, hm, hp, fun n hn hlt => ?_,
      fun place hplace => hsame place (hother place fun n hn => ?_),
      fun n hn hlt place hplace => hsame place ?_⟩
    · exact hfound n ((hbefore n).2 ⟨hn, Text.bytes_lt_bytes_iff.1 hlt⟩)
    · obtain ⟨hleft, hlt⟩ := (hbefore n).1 hn
      exact hplace n hleft (Text.bytes_lt_bytes_iff.2 hlt)
    · refine hbehind n (stem_of_patternsLeft hn).2 (fun hmem => ?_) place hplace
      exact List.lt_irrefl _ (List.lt_trans ((hbefore n).1 hmem).2 (Text.bytes_lt_bytes_iff.1 hlt))
  · intro fs' run'
    obtain ⟨hresult, hkept⟩ := outcome_withText hfile hskipped hnone request input
    have hexit : run'.1.result = run.1.result := hresult
    refine ⟨by rw [Report.exitCode, Report.exitCode, hexit], fun place => ?_⟩
    by_cases hplace : place = d ++ [name]
    · subst hplace
      rcases hkept.file with hsame | ⟨hold, hold'⟩
      · exact .inl hsame.symm
      · exact .inr ⟨rfl, hold, hold'⟩
    · exact .inl (hkept.equal.nodeAt place hplace).symm
  · have hend := @sameEnd_of_skipped fs request input _ files hne hsub hskipped
    exact ⟨(report_congr hend.1).1, (report_congr hend.1).2, hend.2⟩
  · obtain ⟨hresult, hafter⟩ := @outcome_of_skipped fs request input _ directory format hfiles
      houtput hformat hskipped
    have hreport : run.1.result.toOption =
        (outputMade fs directory).1.toOption.map (fun () => []) := hresult
    refine ⟨?_, ?_, hafter⟩
    · rw [exitCode_eq, hreport]
      cases (outputMade fs directory).1 <;> simp [Except.toOption]
    · rw [output_eq, hreport]
      cases (outputMade fs directory).1 <;> rfl

end

/-- A project in which a directory stands where the second of three documents belongs, with a source
    that may not be read and with notes, which are no source. -/
def blocked : FileSystem where
  root := .directory [
    ("out".toList, .directory [("b.md".toList, .directory [])]),
    ("src".toList, .directory [
      ("a.css".toList, .file (.text "/* @pattern A */".toList)),
      ("b.css".toList, .file (.text "/* @pattern B */".toList)),
      ("c.css".toList, .file (.text "/* @pattern C */".toList)),
      ("locked.css".toList, .file (.text "/* @pattern Locked */".toList)),
      ("notes.txt".toList, .file (.text "/* @pattern Notes */".toList))])]
  workingDir := []
  refusal? := fun access place =>
    if access = .reading ∧ place = ["src".toList, "locked.css".toList] then some .denied else none

/-- The first document is written, the second one cannot be, and neither the locked source nor the
    notes are the reason: without the notes the run does the same, and a run on the notes alone
    succeeds and makes a directory. -/
theorem runOn_failures_blocked :
    let request : Request :=
      { files := ["src".toList, "src/notes.txt".toList], output := some ⟨"out".toList⟩ }
    let notes : Request := { files := ["src/notes.txt".toList], output := some ⟨"new".toList⟩ }
    let left := patternsLeft [] (sourcesOf (withOutput blocked ⟨"out".toList⟩) request.files)
    (runOn blocked request (.text [])).1.result =
        .error (.unwritable ⟨"out/b.md".toList⟩ .isDirectory) ∧
      (runOn blocked request (.text [])).2.find ⟨"out/a.md".toList⟩ =
        .ok (.file (.text (Format.markdown.render (left "a".toList)))) ∧
      (runOn blocked request (.text [])).1.exitCode =
        (runOn (blocked.withText (["src".toList] ++ ["locked.css".toList]) []) request
          (.text [])).1.exitCode ∧
      (runOn blocked request (.text [])).2 =
        (runOn blocked { request with files := ["src".toList] } (.text [])).2 ∧
      (runOn blocked notes (.text [])).1.exitCode = 0 ∧
      (runOn blocked notes (.text [])).2 = withOutput blocked ⟨"new".toList⟩ := by
  intro request notes left
  have hresult : (runOn blocked request (.text [])).1.result =
      .error (.unwritable ⟨"out/b.md".toList⟩ .isDirectory) := by decide +kernel
  obtain ⟨-, -, hwritten, -, hlocked, hfewer, -⟩ := runOn_failures blocked request (.text [])
  obtain ⟨-, -, -, -, -, -, halone⟩ := runOn_failures blocked notes (.text [])
  obtain ⟨directory, format, houtput, hformat, m, hm, hp, hfound, -⟩ := hwritten _ _ hresult
  obtain rfl : ⟨"out".toList⟩ = directory := Option.some.inj houtput
  have hmarkdown : Format.ofName? request.format = some .markdown := by decide +kernel
  obtain rfl : .markdown = format := Option.some.inj (hmarkdown.symm.trans hformat)
  -- the document that cannot be written is that of the module `b`
  have hb : m = "b".toList := by
    refine placeOf_documentPath_inj ⟨"out".toList⟩ .markdown blocked (stem_of_patternsLeft hm).2
      (by decide +kernel) ?_
    rw [← hp]
    decide +kernel
  subst hb
  have hskipped : IsSkipped blocked "src/notes.txt".toList :=
    ⟨["src".toList], "notes.txt".toList, .text "/* @pattern Notes */".toList, by decide +kernel,
      by decide +kernel, .unsupported (by decide +kernel)⟩
  have hnotes : ∀ a ∈ notes.files, IsSkipped blocked a := by
    intro a ha
    rw [List.mem_singleton.1 ha]
    exact hskipped
  obtain ⟨hexit, -, hafter⟩ := halone ⟨"new".toList⟩ .markdown rfl hmarkdown (List.cons_ne_nil _ _)
    hnotes
  refine ⟨hresult, hfound "a".toList (by decide +kernel) (by decide +kernel), ?_, ?_, ?_, hafter⟩
  · exact (hlocked ["src".toList] "locked.css".toList (.text "/* @pattern Locked */".toList) []
      (by decide +kernel) (.unreadable (e := .denied) (by decide +kernel)) (by decide +kernel)).1
  · refine (hfewer ["src".toList] (List.cons_ne_nil _ _) (by simp [request]) fun a ha hout => ?_).2.2
    rcases List.mem_cons.1 ha with rfl | ha
    · exact absurd List.mem_cons_self hout
    · rw [List.mem_singleton.1 ha]
      exact hskipped
  · exact hexit.2 (by decide +kernel)

end Command

end PatternBook
