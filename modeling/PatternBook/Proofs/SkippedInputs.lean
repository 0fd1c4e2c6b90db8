import PatternBook.Proofs.ArgumentOrder
import PatternBook.Proofs.FilesApart

/-!
# Inputs that are skipped

An input that cannot be read, is no text or has no extension of a source is left out, and a run goes
on as if the file were there without a pattern (`outcome_withText`).

* Until the sources are read a run does not look into files. Neither do globs, which is all that is
  asked of them here (`LawfulGlobView`). So the arguments stand for the same paths whatever a file
  holds (`expansions_congr`);
* such an input gives no module anything (`Skipped.givenBy_congr`), so the documents are the same
  (`Skipped.documentsOf_congr`);
* the same documents are written to the same places;
* an argument that is such an input brings in no source (`IsSkipped.idle`), so it can be left away.
-/

namespace PatternBook

open FileSystem

variable {place : Place}

/-! ## 1. Paths do not depend on what a file holds -/

namespace Glob

theorem overlooks_gather {α : Type} {f : α → Viewing (List Path)} (hf : ∀ a, Overlooks place (f a))
    (l : List α) : Overlooks place (gather f l) := by
  induction l with
  | nil => exact .pure _
  | cons a l ih => exact (hf a).bind fun _ => ih.bind fun _ => .pure _

theorem overlooks_arrive (requireDir : Bool) (path : Path) :
    Overlooks place (arrive requireDir path : Viewing _) := by
  unfold arrive
  split
  · refine (Overlooks.isDir path).bind fun isDir => ?_
    split <;> exact .pure _
  · exact .pure _

section

variable {walk : List (List Token) → Path → Viewing (List Path)}
  (hwalk : ∀ pieces path, Overlooks place (walk pieces path)) (requireDir : Bool)

include hwalk

theorem overlooks_proceed (rest : List (List Token)) (path : Path) :
    Overlooks place (proceed walk requireDir rest path) := by
  unfold proceed
  split
  · exact overlooks_arrive requireDir path
  · exact hwalk rest path

theorem overlooks_matchChild (pieces : List (List Token)) (path : Path) (name : Text) :
    Overlooks place (matchChild walk requireDir pieces path name) := by
  unfold matchChild
  split
  · exact .pure _
  · split
    · exact overlooks_proceed hwalk requireDir _ _
    · exact .pure _

theorem overlooks_visit (piece : List Token) (rest : List (List Token)) (path : Path) (name : Text) :
    Overlooks place (visit walk requireDir piece rest path name) := by
  unfold visit
  split
  · refine (Overlooks.isDir _).bind fun isDir => ?_
    have hdeeper : ∀ here : List Path, Overlooks place (do
        let deeper ← if isDir then walk (piece :: rest.dropWhile isRecursive) (child path name)
          else pure []
        return here ++ deeper : Viewing _) := by
      intro here
      cases isDir
      · exact (Overlooks.pure _).bind fun _ => .pure _
      · exact (hwalk _ _).bind fun _ => .pure _
    dsimp only
    split
    · exact (Overlooks.pure _).bind hdeeper
    · exact (overlooks_matchChild hwalk requireDir _ _ _).bind hdeeper
  · exact overlooks_matchChild hwalk requireDir _ _ _

theorem overlooks_stepFrom (piece : List Token) (rest : List (List Token)) (path : Path) :
    Overlooks place (stepFrom walk requireDir piece rest path) := by
  unfold stepFrom
  split
  · rename_i name _
    have hgo : ∀ isThere : Bool, Overlooks place
        (if isThere then proceed walk requireDir rest (child path name) else return [] :
          Viewing (List Path)) := by
      intro isThere
      cases isThere
      · exact .pure _
      · exact overlooks_proceed hwalk requireDir _ _
    dsimp only
    split
    · exact (Overlooks.isDir path).bind hgo
    · exact (Overlooks.leads _).bind hgo
  · refine (Overlooks.isDir path).bind fun isDir => ?_
    split
    · refine (Overlooks.children path).bind fun names => ?_
      split
      · exact .pure _
      · exact (overlooks_gather (fun _ => overlooks_proceed hwalk requireDir _ _) _).bind fun _ =>
          (overlooks_gather (overlooks_visit hwalk requireDir piece rest path) _).bind fun _ =>
            .pure _
    · exact .pure _

end

theorem overlooks_walk (requireDir : Bool) (steps : Nat) (pieces : List (List Token)) (path : Path) :
    Overlooks place (walk requireDir steps pieces path : Viewing _) := by
  induction steps generalizing pieces path with
  | zero => exact .pure _
  | succ steps ih =>
    cases pieces with
    | nil => exact .pure _
    | cons piece rest => exact overlooks_stepFrom ih requireDir piece rest path

end Glob

/-- Which paths match a glob does not depend on what a file holds. -/
class LawfulGlobView [GlobView Viewing] : Prop where
  overlooks (place : Place) (text : Text) : Overlooks place (GlobView.paths text : Viewing _)

instance : LawfulGlobView where
  overlooks place text := by
    rw [GlobView.paths_eq]
    split
    · exact .pure _
    · exact (Glob.overlooks_walk _ _ _ _).bind fun _ => .pure _

namespace Command

theorem overlooks_sourcesIn (directory : Path) (names : List Text) :
    Overlooks place (sourcesIn directory names : Viewing _) := by
  induction names with
  | nil => exact .pure _
  | cons name names ih => exact (Overlooks.isFile _).bind fun _ => ih.bind fun _ => .pure _

theorem overlooks_filesOf (paths : List Path) : Overlooks place (filesOf paths : Viewing _) := by
  induction paths with
  | nil => exact .pure _
  | cons path paths ih => exact (Overlooks.isFile _).bind fun _ => ih.bind fun _ => .pure _

section

variable [GlobView Viewing] [LawfulGlobView]

theorem overlooks_expandArgument (argument : Text) :
    Overlooks place (expandArgument argument : Viewing _) := by
  unfold expandArgument
  refine (Overlooks.kind? _).bind fun kind => ?_
  split
  · exact .pure _
  · refine (Overlooks.children _).bind fun names => ?_
    split
    · exact .pure _
    · exact (overlooks_sourcesIn _ _).bind fun _ => .pure _
  · refine (LawfulGlobView.overlooks place argument).bind fun found => ?_
    split
    · exact .pure _
    · exact (overlooks_filesOf _).bind fun _ => .pure _

theorem overlooks_expandArguments (arguments : List Text) :
    Overlooks place (expandArguments arguments : Viewing _) := by
  induction arguments with
  | nil => exact .pure _
  | cons argument rest ih =>
    refine (overlooks_expandArgument argument).bind fun found => ?_
    split
    · exact .pure _
    · exact ih.bind fun _ => .pure _

/-- The arguments stand for the same paths whatever a file holds. -/
theorem expansions_congr {fs fs' : FileSystem} (h : EqualBut place fs fs') (arguments : List Text) :
    expansions fs' arguments = expansions fs arguments := by
  unfold expansions
  rw [overlooks_expandArguments arguments h]

end

/-! ## 2. What a skipped input gives -/

/-- Why the file of a name in a directory is left out. -/
inductive Skipped (fs : FileSystem) (d : Place) (name : Text) : Prop where
  /-- It may not be read. -/
  | unreadable {e : FileError} (h : fs.refusal? .reading (d ++ [name]) = some e)
  /-- It holds bytes that are no text. -/
  | notText {bytes : List UInt8} (h : fs.nodeAt (d ++ [name]) = some (.file (.binary bytes)))
  /-- It has no extension of a source. -/
  | unsupported (h : Source.isSupported ⟨name⟩ = false)

section

variable {fs fs' : FileSystem} {d : Place} {name t : Text} {content : Content} {p : Path}

/-- A path to a file is that of a source if the name of the file is. -/
theorem isSupported_of_resolve (hplace : fs.resolve p = .ok (d ++ [name]))
    (hfile : fs.nodeAt (d ++ [name]) = some (.file content)) :
    Source.isSupported p = Source.isSupported ⟨name⟩ := by
  obtain ⟨d', name', -, hsame, hname⟩ := name_of_resolve hplace (by rw [hfile]; nofun)
  obtain rfl : name = name' := by simpa using List.append_inj_right' hsame rfl
  obtain ⟨hisName, hslash⟩ := Path.isName_of_fileName? hname
  exact Source.isSupported_of_fileName? (hname.trans (Path.fileName?_of_isName hisName hslash).symm)

theorem read_of_resolve (hplace : fs.resolve p = .ok place)
    (hfile : fs.nodeAt place = some (.file content)) :
    fs.read p = match fs.refusal? .reading place with
      | some e => .error e
      | none => content.read := by
  unfold FileSystem.read
  cases hrefusal : fs.refusal? .reading place <;> simp only [hplace, hfile, hrefusal]

/-- A skipped input is no source. -/
theorem Skipped.sourceAt? (h : Skipped fs d name) (hplace : fs.resolve p = .ok (d ++ [name]))
    (hfile : fs.nodeAt (d ++ [name]) = some (.file content)) : sourceAt? fs p = none := by
  unfold Command.sourceAt?
  rw [read_of_resolve hplace hfile]
  cases h with
  | unreadable h =>
    rw [h]
    split <;> rfl
  | notText h =>
    obtain rfl : Content.binary _ = content := by simpa using h.symm.trans hfile
    cases fs.refusal? .reading (d ++ [name]) <;> split <;> rfl
  | unsupported h =>
    rw [isSupported_of_resolve hplace hfile, h]
    rfl

/-- The patterns that the file of a path adds to a module. -/
def givenBy (fs : FileSystem) (name : Text) (p : Path) : List Pattern :=
  match sourceAt? fs p with
  | some s => if s.1.stem? = some name then Source.patterns s.2 else []
  | none => []

/-- What is left of a module comes from the paths one by one. -/
theorem patternsLeft_sourcesOf [GlobView Viewing] {arguments : List Text}
    {paths : List Path} (h : expansions fs arguments = .ok paths) (filters : List Filter)
    (name : Text) : patternsLeft filters (sourcesOf fs arguments) name =
      Filter.apply filters ((arrange paths).flatMap (givenBy fs name)) := by
  rw [sourcesOf_eq h, patternsLeft]
  congr 1
  induction arrange paths with
  | nil => rfl
  | cons p rest ih =>
    rw [List.filterMap_cons, List.flatMap_cons, givenBy]
    cases sourceAt? fs p with
    | none => exact ih
    | some s =>
      dsimp only
      rw [List.filter_cons, ← ih]
      by_cases hs : s.1.stem? = some name <;> simp [hs]

/-- **A skipped input gives a module as little as a source without patterns.** -/
theorem Skipped.givenBy_congr (h : Skipped fs d name) (hequal : EqualBut (d ++ [name]) fs fs')
    (hfile' : fs'.nodeAt (d ++ [name]) = some (.file (.text t))) (hnone : Source.patterns t = [])
    (m : Text) (p : Path) : givenBy fs' m p = givenBy fs m p := by
  by_cases hplace : fs.resolve p = .ok (d ++ [name])
  · obtain ⟨content, hfile⟩ := hequal.file
    have hplace' : fs'.resolve p = .ok (d ++ [name]) := (hequal.resolve_eq p).trans hplace
    rw [givenBy, givenBy, h.sourceAt? hplace hfile]
    split
    · rename_i s hs
      obtain ⟨-, -, hread⟩ := isSupported_of_sourceAt? hs
      rw [read_of_resolve hplace' hfile'] at hread
      split at hread
      · cases hread
      · obtain rfl : t = s.2 := Except.ok.inj hread
        rw [hnone]
        split <;> rfl
    · rfl
  · unfold givenBy Command.sourceAt?
    rw [hequal.read_eq hplace]

/-- Making the directory for the documents leaves an input as it is. -/
theorem Skipped.withOutput (h : Skipped fs d name) (directory : Path) :
    Skipped (withOutput fs directory) d name := by
  cases h with
  | @unreadable e h =>
    obtain ⟨root, hroot⟩ := exists_root_withOutput fs directory
    exact .unreadable (by rw [hroot]; exact h)
  | notText h => exact .notText (file_withOutput_iff.2 h)
  | unsupported h => exact .unsupported h

/-! ## 3. Runs with a skipped input -/

theorem preserves_writeDocuments (docs : List (Path × Text)) :
    Preserves place (writeDocuments docs : Editing _) := by
  induction docs with
  | nil => exact .pure _
  | cons doc docs ih =>
    refine (Preserves.write doc.1 doc.2).bind fun written => ?_
    split
    · exact .pure _
    · exact ih

section

variable [GlobView Viewing] [LawfulGlobView]

/-- The documents are the same with a skipped input and with one that has no pattern. -/
theorem Skipped.documentsOf_congr (h : Skipped fs d name) (hequal : EqualBut (d ++ [name]) fs fs')
    (hfile' : fs'.nodeAt (d ++ [name]) = some (.file (.text t))) (hnone : Source.patterns t = [])
    {request : Request} {paths : List Path} (hpaths : expansions fs request.files = .ok paths)
    (directory : Path) (format : Format) :
    documentsOf fs' request directory format = documentsOf fs request directory format := by
  refine documents_congr (fun _ => isSupported_of_mem_sourcesOf)
    (fun _ => isSupported_of_mem_sourcesOf) (fun m => ?_) directory format
  have hpaths' : expansions fs' request.files = .ok paths :=
    (expansions_congr hequal request.files).trans hpaths
  rw [patternsLeft_sourcesOf hpaths, patternsLeft_sourcesOf hpaths']
  congr 1
  exact List.flatMap_congr fun p _ => h.givenBy_congr hequal hfile' hnone m p

/-- Once the directory for the documents is there, a run goes on alike with a skipped input and with
    one that has no pattern. -/
theorem Skipped.filesOutcome_congr (h : Skipped fs d name) (hequal : EqualBut (d ++ [name]) fs fs')
    (hfile' : fs'.nodeAt (d ++ [name]) = some (.file (.text t))) (hnone : Source.patterns t = [])
    (request : Request) (directory : Path) (format : Format) :
    (filesOutcome fs' request directory format).1 = (filesOutcome fs request directory format).1 ∧
      Kept (d ++ [name]) fs fs' (filesOutcome fs request directory format).2
        (filesOutcome fs' request directory format).2 := by
  unfold filesOutcome
  rw [expansions_congr hequal]
  split
  · exact ⟨rfl, .refl hequal⟩
  · rename_i hpaths
    dsimp only
    rw [h.documentsOf_congr hequal hfile' hnone hpaths]
    obtain ⟨hanswer, hkept⟩ :=
      preserves_writeDocuments (documentsOf fs request directory format) hequal
    exact ⟨by rw [hanswer], hkept⟩

/-- **A run with a skipped input ends as if the input had no pattern.** -/
theorem outcome_withText (hfile : fs.nodeAt (d ++ [name]) = some (.file content))
    (h : Skipped fs d name) (hnone : Source.patterns t = []) (request : Request) (input : Content) :
    (outcome (fs.withText (d ++ [name]) t) request input).1 = (outcome fs request input).1 ∧
      Kept (d ++ [name]) fs (fs.withText (d ++ [name]) t) (outcome fs request input).2
        (outcome (fs.withText (d ++ [name]) t) request input).2 := by
  have hequal := equalBut_withText hfile t
  have htext : (fs.withText (d ++ [name]) t).nodeAt (d ++ [name]) = some (.file (.text t)) :=
    (Tree.nodeAt_refill hfile (.text t) (d ++ [name])).trans (if_pos rfl)
  rw [outcome_eq, outcome_eq]
  split
  · exact ⟨rfl, .refl hequal⟩
  · split
    · exact ⟨rfl, .refl hequal⟩
    · exact ⟨rfl, .refl hequal⟩
    · rename_i directory format _ _
      have hskipped := h.withOutput directory
      have htext' := (@file_withOutput_iff _ directory _ _).2 htext
      obtain ⟨hanswer, hkept⟩ : (outputMade (fs.withText (d ++ [name]) t) directory).1 =
          (outputMade fs directory).1 ∧ Kept (d ++ [name]) fs (fs.withText (d ++ [name]) t)
            (withOutput fs directory) (withOutput (fs.withText (d ++ [name]) t) directory) :=
        Preserves.makeDirs directory.ancestors hequal
      unfold withOutput at hskipped htext' hkept
      generalize outputMade fs directory = made at *
      generalize outputMade (fs.withText (d ++ [name]) t) directory = made' at *
      obtain ⟨r, made⟩ := made
      obtain ⟨r', made'⟩ := made'
      obtain rfl : r' = r := hanswer
      cases r' with
      | error e => exact ⟨rfl, hkept⟩
      | ok u =>
        obtain ⟨hresult, hkept'⟩ :=
          hskipped.filesOutcome_congr hkept.equal htext' hnone request directory format
        exact ⟨hresult, hkept.trans hkept'⟩

end

/-! ## 4. Runs without a skipped input -/

/-- An argument is a file that is left out. -/
def IsSkipped (fs : FileSystem) (argument : Text) : Prop :=
  ∃ d name content, fs.resolve ⟨argument⟩ = .ok (d ++ [name]) ∧
    fs.nodeAt (d ++ [name]) = some (.file content) ∧ Skipped fs d name

variable [GlobView Viewing]

/-- An argument that is a skipped input brings in no source. -/
theorem IsSkipped.idle {argument : Text} (h : IsSkipped fs argument) (directory : Path) :
    Idle (Command.withOutput fs directory) argument := by
  obtain ⟨d, name, content, hplace, hfile, hskipped⟩ := h
  have hplace' := @resolve_withOutput _ directory _ _ hplace
  have hfile' := (@file_withOutput_iff _ directory _ _).2 hfile
  refine ⟨[⟨argument⟩], expansion_of_file (isFile_iff.2 ⟨_, _, hplace', hfile'⟩), fun p hp => ?_⟩
  rw [List.mem_singleton.1 hp]
  exact (hskipped.withOutput directory).sourceAt? hplace' hfile'

end

end Command

end PatternBook
