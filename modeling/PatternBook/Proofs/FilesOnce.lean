import Mathlib.Data.List.Pairwise
import PatternBook.Proofs.Events
import PatternBook.Proofs.GlobWalks
import PatternBook.Proofs.Merging
import PatternBook.Proofs.Runs

/-!
# Files that are listed once

Several arguments may stand for one file. Repeated paths are dropped, but paths are compared by their
components, and not by the places that they lead to; so a file is listed once only if all the paths that
lead to it have the same components.

* `hasLead_of_expansion` -- the paths of an argument begin as the argument says (`start`), if it only
  goes down from there (`goesDown`);
* `listedOnce_iff_components` -- when each file is listed once (`ListedOnce`);
* `resolve_ne_of_duplicate` -- then no file is reported as two files of one module;
* `listedOnce_iff` -- for arguments that only go down this is so exactly if arguments that stand for the
  same file begin alike. A file and a directory may begin with the current directory, or not, and then
  do not begin alike (`not_listedOnce`); a glob drops it.
-/

namespace PatternBook

open FileSystem

/-! ## 1. How the paths of an argument begin -/

/-- Only directories and files stand in a tree. -/
theorem FileSystem.kind?_ne_other (fs : FileSystem) (p : Path) : fs.kind? p ≠ some .other := by
  intro h
  obtain ⟨node, -, hnode⟩ := Option.map_eq_some_iff.1 h
  cases node <;> cases hnode

/-- The current directory is no file. -/
theorem FileSystem.components_ne_of_file {fs : FileSystem} {p : Path} (h : fs.kind? p = some .file) :
    p.components ≠ [.current] := by
  intro hcurrent
  obtain ⟨place, content, hplace, hfile⟩ := isFile_iff.1 h
  obtain ⟨_, name, -, -, hname⟩ := name_of_resolve hplace (by rw [hfile]; nofun)
  rw [Path.fileName?, hcurrent] at hname
  cases hname

namespace Command

/-- How the paths begin that an argument stands for: as it begins itself, but a glob drops the current
    directory in front of names. -/
def start (fs : FileSystem) (argument : Text) : List Component :=
  match fs.kind? ⟨argument⟩ with
  | some .file | some .directory => Path.lead ⟨argument⟩
  | _ => if Path.isAbsolute ⟨argument⟩ then [.root] else []

/-- Whether an argument only goes down from where it begins: as a path it has no `..` behind a name, and
    as a glob no piece that stands for `..`. -/
def goesDown (fs : FileSystem) (argument : Text) : Bool :=
  match fs.kind? ⟨argument⟩ with
  | some .file | some .directory => decide (Path.IsStraight ⟨argument⟩)
  | _ =>
    match Glob.ofText argument with
    | .error _ => true
    | .ok glob => glob.pieces.all fun piece => !(Glob.specials piece).contains ['.', '.']

/-- The files of a glob begin with the root or with names. -/
theorem hasLead_of_expand {fs : FileSystem} (hfs : fs.root.wellNamed = true) {argument : Text}
    {glob : Glob} (hglob : Glob.ofText argument = .ok glob)
    (hdown : (glob.pieces.all fun piece => !(Glob.specials piece).contains ['.', '.']) = true)
    {p : Path} (hp : p ∈ (show List Path from (glob.expand : Viewing _) fs))
    (hfile : fs.kind? p = some .file) :
    p.HasLead (if Path.isAbsolute ⟨argument⟩ then [.root] else []) := by
  have hpieces : ∀ piece ∈ glob.pieces, Glob.Descends piece := fun piece hpiece =>
    ⟨by simpa using List.all_eq_true.1 hdown piece hpiece, fun _ hliteral =>
      Glob.separator_notMem_of_literal? hglob hpiece hliteral⟩
  rw [← (Glob.of_ofText hglob).1]
  rcases Glob.reached_expand hfs hpieces p hp with ⟨-, hcurrent⟩ | ⟨hlead, -⟩
  · exact absurd hcurrent (components_ne_of_file hfile)
  · exact hlead

/-- **The paths of an argument begin as the argument says.** -/
theorem hasLead_of_expansion {fs : FileSystem} (hfs : fs.root.wellNamed = true) {argument : Text}
    (hdown : goesDown fs argument = true) {found : List Path}
    (h : expansion fs argument = .ok found) {p : Path} (hp : p ∈ found) :
    p.HasLead (start fs argument) := by
  have hfile := isFile_of_expansion h hp
  rw [expansion_eq] at h
  unfold start goesDown at *
  cases hkind : fs.kind? ⟨argument⟩ with
  | some kind =>
    rw [hkind] at h hdown
    cases kind with
    | file =>
      cases h
      obtain rfl := List.mem_singleton.1 hp
      exact (of_decide_eq_true hdown).hasLead
    | directory =>
      dsimp only at h
      split at h
      · cases h
      · rename_i names hnames
        cases h
        rw [sourcesIn_eq] at hp
        obtain ⟨name, hmem, rfl⟩ := List.mem_map.1 (List.mem_filter.1 hp).1
        exact (of_decide_eq_true hdown).hasLead.join (isName_of_children hfs hnames hmem)
    | other => exact absurd hkind (kind?_ne_other fs _)
  | none =>
    rw [hkind] at h hdown
    dsimp only at h hdown
    rw [GlobView.paths_eq] at h
    cases hglob : Glob.ofText argument with
    | error error =>
      rw [hglob] at h
      cases h
    | ok glob =>
      rw [hglob] at h hdown
      cases h
      rw [filesOf_eq] at hp
      exact hasLead_of_expand hfs hglob hdown (List.mem_filter.1 hp).1 hfile

/-! ## 2. Files and their spellings -/

/-- Each file that the paths lead to is listed once. -/
def ListedOnce (fs : FileSystem) (paths : List Path) : Prop :=
  ∀ p ∈ paths, ((arrange paths).map fs.resolve).count (fs.resolve p) = 1

instance (fs : FileSystem) (paths : List Path) : Decidable (ListedOnce fs paths) :=
  inferInstanceAs (Decidable (∀ _ ∈ _, _))

section

variable {fs : FileSystem} {paths : List Path} (hfile : ∀ p ∈ paths, fs.kind? p = some .file)
include hfile

/-- Each path is listed in one of its spellings, which leads to the same file. -/
theorem exists_listed {p : Path} (hp : p ∈ paths) :
    ∃ q ∈ arrange paths, q.key = p.key ∧ fs.resolve q = fs.resolve p := by
  obtain ⟨q, hq, hkey⟩ := exists_mem_arrange_iff.2 ⟨p, hp, rfl⟩
  exact ⟨q, hq, hkey, resolve_of_key (hfile q (mem_of_mem_arrange hq)) (hfile p hp) hkey⟩

theorem listedOnce_iff_nodup : ListedOnce fs paths ↔ ((arrange paths).map fs.resolve).Nodup := by
  rw [List.nodup_iff_count_eq_one]
  constructor
  · intro h place hplace
    obtain ⟨p, hp, rfl⟩ := List.mem_map.1 hplace
    exact h p (mem_of_mem_arrange hp)
  · intro h p hp
    obtain ⟨q, hq, -, hplace⟩ := exists_listed hfile hp
    exact h _ (hplace ▸ List.mem_map_of_mem hq)

/-- A file is listed once for each list of components that the paths to it have. -/
theorem listedOnce_iff_components : ListedOnce fs paths ↔
    ∀ p ∈ paths, ∀ q ∈ paths, fs.resolve p = fs.resolve q → p.components = q.components := by
  rw [listedOnce_iff_nodup hfile]
  constructor
  · intro h p hp q hq hplace
    obtain ⟨p', hp', hkey, hplace'⟩ := exists_listed hfile hp
    obtain ⟨q', hq', hkey', hplace''⟩ := exists_listed hfile hq
    have hsame : p' = q' :=
      List.inj_on_of_nodup_map h hp' hq' (hplace'.trans (hplace.trans hplace''.symm))
    exact Path.components_of_key (by rw [← hkey, ← hkey', hsame])
  · intro h
    refine List.pairwise_map.2 ((sorted_arrange paths).imp_of_mem fun {p q} hp hq hlt hplace => ?_)
    have hkey : p.key = q.key := by
      rw [Path.key, Path.key, h p (mem_of_mem_arrange hp) q (mem_of_mem_arrange hq) hplace]
    rw [hkey] at hlt
    exact List.lt_irrefl _ hlt

end

/-- Two arguments stand for one file. -/
def ShareFile (fs : FileSystem) (a b : Text) : Prop :=
  ∃ found found' p q, expansion fs a = .ok found ∧ p ∈ found ∧
    expansion fs b = .ok found' ∧ q ∈ found' ∧ fs.resolve p = fs.resolve q

section

variable {fs : FileSystem} {arguments : List Text} {paths : List Path}
  (h : expansions fs arguments = .ok paths)
include h

/-- For arguments that only go down each file is listed once exactly if the arguments that stand for it
    begin alike. -/
theorem listedOnce_iff_start (hfs : fs.root.wellNamed = true)
    (hdown : ∀ a ∈ arguments, goesDown fs a = true) : ListedOnce fs paths ↔
      ∀ a ∈ arguments, ∀ b ∈ arguments, ShareFile fs a b → start fs a = start fs b := by
  have hkeys : ∀ {a b p q found found'}, a ∈ arguments → b ∈ arguments →
      expansion fs a = .ok found → p ∈ found → expansion fs b = .ok found' → q ∈ found' →
      fs.resolve p = fs.resolve q → (p.components = q.components ↔ start fs a = start fs b) := by
    intro a b p q found found' ha hb hfound hp hfound' hq hplace
    have hlead := hasLead_of_expansion hfs (hdown a ha) hfound hp
    have hlead' := hasLead_of_expansion hfs (hdown b hb) hfound' hq
    have hplaces : fs.placeOf p = fs.placeOf q := by
      obtain ⟨place, -, hresolved, -⟩ := isFile_iff.1 (isFile_of_expansion hfound hp)
      rw [← eq_placeOf_of_resolve hresolved, ← eq_placeOf_of_resolve (hplace ▸ hresolved)]
    exact hlead.components_eq_iff hlead' hplaces
  rw [listedOnce_iff_components fun p hp => isFile_of_mem_expansions h hp]
  constructor
  · rintro hcomponents a ha b hb ⟨found, found', p, q, hfound, hp, hfound', hq, hplace⟩
    refine (hkeys ha hb hfound hp hfound' hq hplace).1 (hcomponents p ?_ q ?_ hplace)
    · exact (mem_of_expansions h p).2 ⟨a, ha, found, hfound, hp⟩
    · exact (mem_of_expansions h q).2 ⟨b, hb, found', hfound', hq⟩
  · intro hstart p hp q hq hplace
    obtain ⟨a, ha, found, hfound, hp⟩ := (mem_of_expansions h p).1 hp
    obtain ⟨b, hb, found', hfound', hq⟩ := (mem_of_expansions h q).1 hq
    exact (hkeys ha hb hfound hp hfound' hq hplace).2
      (hstart a ha b hb ⟨found, found', p, q, hfound, hp, hfound', hq, hplace⟩)

end

/-! ## 3. What is read and reported -/

section

variable {fs : FileSystem} {arguments : List Text} {paths : List Path}

theorem isDuplicate_of_mem_readSource {p : Path} {e : Event}
    (h : e ∈ ((readSource p : Viewing _) fs).events) : e.isDuplicate = false := by
  rw [readSource, viewing_bind, viewing_read] at h
  cases hread : fs.read p with
  | error error =>
    rw [hread] at h
    rw [List.mem_singleton.1 h]
    rfl
  | ok t =>
    rw [hread] at h
    by_cases hsupported : Source.isSupported p
    · simp only [Source.readAt, if_pos hsupported] at h
      rcases List.mem_append.1 h with hsource | hparsed
      · exact Source.isDuplicate_of_mem_read hsource
      · rw [List.mem_singleton.1 hparsed]
        rfl
    · simp only [Source.readAt, if_neg hsupported] at h
      rw [List.mem_singleton.1 h]
      rfl

theorem isDuplicate_of_mem_readSources {e : Event}
    (h : e ∈ ((readSources paths : Viewing _) fs).events) : e.isDuplicate = false := by
  induction paths with
  | nil => cases h
  | cons p paths ih =>
    rcases List.mem_append.1 h with hfirst | hlater
    · exact isDuplicate_of_mem_readSource hfirst
    · exact ih hlater

theorem isDuplicate_of_mem_expandArgument {argument : Text} {found : Logged (List Path)} {e : Event}
    (hfound : (expandArgument argument : Viewing _) fs = .ok found) (h : e ∈ found.events) :
    e.isDuplicate = false := by
  rw [expandArgument, viewing_bind, viewing_kind?] at hfound
  cases hkind : fs.kind? ⟨argument⟩ with
  | some kind =>
    rw [hkind] at hfound
    cases kind with
    | file =>
      cases hfound
      cases h
    | directory =>
      dsimp only at hfound
      rw [viewing_bind, viewing_children] at hfound
      cases hchildren : fs.children ⟨argument⟩ with
      | error error =>
        rw [hchildren] at hfound
        cases hfound
      | ok names =>
        rw [hchildren] at hfound
        cases hfound
        cases h
    | other => exact absurd hkind (kind?_ne_other fs _)
  | none =>
    rw [hkind] at hfound
    dsimp only at hfound
    rw [viewing_bind] at hfound
    cases hpaths : (GlobView.paths argument : Viewing _) fs with
    | error error =>
      rw [hpaths] at hfound
      cases hfound
    | ok paths =>
      rw [hpaths] at hfound
      cases hfound
      dsimp only at h
      split at h
      · rw [List.mem_singleton.1 h]
        rfl
      · cases h

theorem isDuplicate_of_mem_expandArguments {e : Event}
    (h : e ∈ ((expandArguments arguments : Viewing _) fs).events) : e.isDuplicate = false := by
  induction arguments with
  | nil => cases h
  | cons argument rest ih =>
    rw [expandArguments, viewing_bind] at h
    cases hfound : (expandArgument argument : Viewing _) fs with
    | error failure =>
      rw [hfound] at h
      cases h
    | ok found =>
      rw [hfound] at h
      rcases List.mem_append.1 h with hfirst | hlater
      · exact isDuplicate_of_mem_expandArgument hfound hfirst
      · exact ih hlater

/-- All that is reported of a pattern in two files is reported where the files are merged. -/
theorem mem_merge_of_duplicate {module pattern first again : Text}
    (h : .duplicatePattern module pattern first again ∈
      ((readModules arguments : Viewing _) fs).events) :
    .duplicatePattern module pattern first again ∈
      (Module.merge ((sourcesOf fs arguments).map sourceFile)).events := by
  rw [readModules, viewing_bind] at h
  cases hpaths : expansions fs arguments with
  | error failure =>
    rw [expansions] at hpaths
    rw [hpaths] at h
    exact absurd (isDuplicate_of_mem_expandArguments h) (by simp [Event.isDuplicate])
  | ok paths =>
    rw [sourcesOf_eq hpaths, ← readSources_value]
    rw [expansions] at hpaths
    rw [hpaths] at h
    rcases List.mem_append.1 h with h | hmerged
    · rcases List.mem_append.1 h with hexpanded | hread
      · exact absurd (isDuplicate_of_mem_expandArguments hexpanded) (by simp [Event.isDuplicate])
      · exact absurd (isDuplicate_of_mem_readSources hread) (by simp [Event.isDuplicate])
    · exact hmerged

variable (h : expansions fs arguments = .ok paths) (honce : ListedOnce fs paths)
include h honce

/-- Where each file is listed once, the sources are different files. -/
theorem pairwise_sourcesOf :
    (sourcesOf fs arguments).Pairwise fun s u => fs.resolve s.1 ≠ fs.resolve u.1 := by
  have hfile : ∀ p ∈ paths, fs.kind? p = some .file := fun p hp => isFile_of_mem_expansions h hp
  have hnodup := List.pairwise_map.1 ((listedOnce_iff_nodup hfile).1 honce)
  rw [sourcesOf_eq h, List.pairwise_filterMap]
  refine hnodup.imp fun {p q} hne s hs u hu => ?_
  rw [(isSupported_of_sourceAt? hs).1, (isSupported_of_sourceAt? hu).1]
  exact hne

/-- Where each file is listed once, a pattern in two files is in two different files. -/
theorem resolve_ne_of_duplicate {module pattern first again : Text}
    (hevent : .duplicatePattern module pattern first again ∈
      ((readModules arguments : Viewing _) fs).events) :
    fs.resolve ⟨first⟩ ≠ fs.resolve ⟨again⟩ := by
  obtain ⟨hne, ⟨f, hf, rfl⟩, g, hg, rfl⟩ := Module.files_of_duplicate (mem_merge_of_duplicate hevent)
  obtain ⟨s, hs, rfl⟩ := List.mem_map.1 hf
  obtain ⟨u, hu, rfl⟩ := List.mem_map.1 hg
  have hapart : s ≠ u := by
    rintro rfl
    exact hne rfl
  have : Std.Symm fun s u : Path × Text => fs.resolve s.1 ≠ fs.resolve u.1 :=
    ⟨fun _ _ hsu => hsu.symm⟩
  exact (pairwise_sourcesOf h honce).forall hs hu hapart

end

/-- A module has the patterns of its sources, one source after the other. -/
theorem patterns_of_readModules {fs : FileSystem} {arguments : List Text} {paths : List Path}
    (h : expansions fs arguments = .ok paths) : ∃ modules,
    ((readModules arguments : Viewing _) fs).value = .ok modules ∧ ∀ m ∈ modules, m.patterns =
      ((sourcesOf fs arguments).filter fun s => s.1.stem? = some m.name).flatMap fun s =>
        Source.patterns s.2 := by
  refine ⟨(Module.merge ((sourcesOf fs arguments).map sourceFile)).value, ?_, fun m hm => ?_⟩
  · rw [readModules_value, h]
    rfl
  · rw [Module.merge_value] at hm
    obtain ⟨name, -, rfl⟩ := List.mem_map.1 hm
    have hall : ∀ l : List Pattern, Filter.apply [] l = l := fun l => by simp [Filter.apply]
    have hleft := patternsLeft_eq (fun _ => @isSupported_of_mem_sourcesOf fs _ arguments _) [] name
    rw [patternsLeft, hall, hall] at hleft
    exact hleft.symm

/-! ## 4. Files that are listed once -/

/-- **When each file is documented once.** Each file that the arguments stand for is listed once exactly
    if the paths that lead to it have the same components. For arguments that only go down from where
    they begin this means that those which stand for the same file begin alike: all at the root, all at
    the current directory, or all with a name. A glob begins with a name also where it is spelled with
    the current directory in front. And where each file is listed once, the patterns of a module are
    those of different files, and no file is reported as two. -/
theorem listedOnce_iff {fs : FileSystem} {arguments : List Text} {paths : List Path}
    (h : expansions fs arguments = .ok paths) :
    (ListedOnce fs paths ↔ ∀ p ∈ paths, ∀ q ∈ paths, fs.resolve p = fs.resolve q →
      p.components = q.components) ∧
    (fs.root.wellNamed = true → (∀ a ∈ arguments, goesDown fs a = true) →
      (ListedOnce fs paths ↔ ∀ a ∈ arguments, ∀ b ∈ arguments, ShareFile fs a b →
        start fs a = start fs b)) ∧
    (ListedOnce fs paths →
      (sourcesOf fs arguments).Pairwise (fun s u => fs.resolve s.1 ≠ fs.resolve u.1) ∧
      (∃ modules, ((readModules arguments : Viewing _) fs).value = .ok modules ∧
        ∀ m ∈ modules, m.patterns =
          ((sourcesOf fs arguments).filter fun s => s.1.stem? = some m.name).flatMap fun s =>
            Source.patterns s.2) ∧
      ∀ module pattern first again, .duplicatePattern module pattern first again ∈
        ((readModules arguments : Viewing _) fs).events → fs.resolve ⟨first⟩ ≠ fs.resolve ⟨again⟩) :=
  ⟨listedOnce_iff_components fun _ hp => isFile_of_mem_expansions h hp, listedOnce_iff_start h,
    fun honce => ⟨pairwise_sourcesOf h honce, patterns_of_readModules h, fun _ _ _ _ hevent =>
      resolve_ne_of_duplicate h honce hevent⟩⟩

/-- The same file as a path, through its directory and through globs, with and without the current
    directory in front of the glob. -/
theorem listedOnce_iff_project :
    let arguments := ["src/card.css".toList, "src".toList, "src//*.css".toList,
      "./**/card.*".toList]
    ∃ paths, expansions project arguments = .ok paths ∧ paths.length = 5 ∧
      (∀ a ∈ arguments, start project a = []) ∧ ListedOnce project paths := by
  intro arguments
  have hpaths : expansions project arguments = .ok [⟨"src/card.css".toList⟩, ⟨"src/card.css".toList⟩,
      ⟨"src/card.css".toList⟩, ⟨"lib/card.js".toList⟩, ⟨"src/card.css".toList⟩] := by decide +kernel
  have hstart : ∀ a ∈ arguments, start project a = [] := by decide +kernel
  refine ⟨_, hpaths, rfl, hstart, ?_⟩
  exact ((listedOnce_iff hpaths).2.1 (by decide +kernel) (by decide +kernel)).2
    fun a ha b hb _ => (hstart a ha).trans (hstart b hb).symm

/-- One file with one pattern. -/
def lone : FileSystem where
  root := .directory [("a.css".toList, .file (.text "/* @pattern A */".toList))]
  workingDir := []

/-- The file is listed twice where one argument spells the current directory and another one does not,
    and its pattern is reported to be in two files. -/
theorem not_listedOnce : ∃ paths,
    expansions lone ["./a.css".toList, "a.css".toList] = .ok paths ∧ ¬ ListedOnce lone paths ∧
      lone.resolve ⟨"./a.css".toList⟩ = lone.resolve ⟨"a.css".toList⟩ ∧
      .duplicatePattern "a".toList "A".toList "./a.css".toList "a.css".toList ∈
        ((readModules ["./a.css".toList, "a.css".toList] : Viewing _) lone).events :=
  ⟨[⟨"./a.css".toList⟩, ⟨"a.css".toList⟩], by decide +kernel, by decide +kernel, by decide +kernel,
    by decide +kernel⟩

end Command

end PatternBook
