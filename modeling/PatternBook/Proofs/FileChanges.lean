import PatternBook.Proofs.FilePlaces

/-!
# What changing files changes

Making a directory and writing a file change one place at most, and they do not change it where they
fail. A computation on files is read here as a function of the file system, step by step
(`editing_bind`, `viewing_bind`).

* `makeDir_cases`, `write_cases` -- all that one change can do;
* `AddsDirectories` -- directories are all that is new; so it is when a directory is made with all
  that is missing above it (`addsDirectories_makeDirs`), whether or not that succeeds;
* `Wrote` -- one file system comes from another one by writing files in turn, all of which
  succeeded. What was written stands there (`Wrote.nodeAt_of_mem`), under the path it was written to
  (`Wrote.resolve`), and nothing else has changed (`Wrote.nodeAt_of_ne`).
-/

namespace PatternBook

namespace FileSystem

/-! ## 1. Computations as functions -/

section

variable {α β : Type} (fs : FileSystem)

theorem editing_bind (x : Editing α) (f : α → Editing β) : (x >>= f) fs = f (x fs).1 (x fs).2 := rfl

theorem editing_lift (x : Viewing α) : (liftM x : Editing α) fs = (x fs, fs) := rfl

theorem viewing_bind (x : Viewing α) (f : α → Viewing β) : (x >>= f) fs = f (x fs) fs := rfl

theorem viewing_pure (a : α) : (pure a : Viewing α) fs = a := rfl

theorem editing_makeDir (p : Path) : (FileEdit.makeDir p : Editing _) fs = fs.makeDir p := rfl

theorem editing_write (p : Path) (t : Text) : (FileEdit.write p t : Editing _) fs = fs.write p t :=
  rfl

theorem viewing_kind? (p : Path) : (FileView.kind? p : Viewing _) fs = fs.kind? p := rfl

theorem viewing_children (p : Path) : (FileView.children p : Viewing _) fs = fs.children p := rfl

theorem viewing_read (p : Path) : (FileView.read p : Viewing _) fs = fs.read p := rfl

theorem viewing_isDir (p : Path) :
    (FileView.isDir p : Viewing _) fs = (fs.kind? p == some .directory) := rfl

theorem viewing_isFile (p : Path) :
    (FileView.isFile p : Viewing _) fs = (fs.kind? p == some .file) := rfl

theorem viewing_leads (p : Path) : (FileView.leads p : Viewing _) fs = (fs.kind? p).isSome := rfl

end

/-! ## 2. One change -/

variable {fs fs' fs'' : FileSystem}

/-- A node that is put under a directory, at a name where no directory is, changes nothing else. -/
theorem nodeAt_setNode_name {d : Place} {name : Text} (hdir : fs.nodeAt d = some .directory)
    (hfree : fs.nodeAt (d ++ [name]) ≠ some .directory) (node : Node) (q : Place) :
    (fs.setNode (d ++ [name]) node).nodeAt q =
      if q = d ++ [name] then some node else fs.nodeAt q :=
  nodeAt_setNode (by simp) (by rwa [List.dropLast_concat]) hfree node q

/-- A directory is made at a free name in a directory. -/
theorem name_of_makeDir {p : Path} {parts : List Text} {place : Place} {named : Text → Bool}
    (hplace : fs.resolveParts p parts = .ok place)
    (hmake : (parts.getLast?.any named && (fs.nodeAt place).isNone) = true) :
    ∃ d name, place = d ++ [name] ∧ fs.nodeAt d = some .directory ∧ fs.nodeAt place = none := by
  obtain ⟨hname, hfree⟩ := Bool.and_eq_true_iff.1 hmake
  have hnone : fs.nodeAt place = none := Option.isNone_iff_eq_none.1 hfree
  have hne : parts ≠ [] := by
    rintro rfl
    cases hname
  obtain hdir | ⟨init, d, name, -, -, hdir, rfl⟩ := follow_cases hne (follow_of_resolveParts hplace)
  · rw [hnone] at hdir
    cases hdir
  · exact ⟨d, name, rfl, hdir, hnone⟩

/-- Making a directory fails and changes nothing, or makes it at a free name in a directory. -/
theorem makeDir_cases (fs : FileSystem) (p : Path) :
    (∃ e, fs.makeDir p = (.error e, fs)) ∨
    ∃ d name, fs.makeDir p = (.ok (), fs.setNode (d ++ [name]) .directory) ∧
      fs.nodeAt d = some .directory ∧ fs.nodeAt (d ++ [name]) = none := by
  unfold makeDir
  dsimp only
  split
  · exact .inl ⟨_, rfl⟩
  · rename_i place hplace
    split
    · rename_i hmake
      split
      · exact .inl ⟨_, rfl⟩
      · obtain ⟨d, name, rfl, hdir, hfree⟩ := name_of_makeDir hplace hmake
        exact .inr ⟨d, name, rfl, hdir, hfree⟩
    · exact .inl ⟨_, rfl⟩

/-- Where no directory is, only a refusal keeps a file from being written. -/
theorem write_eq_of_resolve {p : Path} {place : Place} (h : fs.resolve p = .ok place)
    (hfree : fs.nodeAt place ≠ some .directory) (t : Text) :
    fs.write p t =
      match fs.refusal? .writing place with
      | some e => (.error e, fs)
      | none => (.ok (), fs.setNode place (.file (.text t))) := by
  unfold write
  rw [h]
  dsimp only
  split
  · exact absurd ‹_› hfree
  · rfl

/-- Writing a file fails and changes nothing, or puts the file where its path leads, at a name in a
    directory. -/
theorem write_cases (fs : FileSystem) (p : Path) (t : Text) :
    (∃ e, fs.write p t = (.error e, fs)) ∨
    ∃ d name, fs.write p t = (.ok (), fs.setNode (d ++ [name]) (.file (.text t))) ∧
      fs.resolve p = .ok (d ++ [name]) ∧ fs.nodeAt d = some .directory ∧
      fs.nodeAt (d ++ [name]) ≠ some .directory := by
  cases hplace : fs.resolve p with
  | error e => exact .inl ⟨e, by rw [write, hplace]⟩
  | ok place =>
    by_cases hfree : fs.nodeAt place = some .directory
    · exact .inl ⟨.isDirectory, by rw [write, hplace]; dsimp only; rw [hfree]⟩
    · rw [write_eq_of_resolve hplace hfree]
      cases fs.refusal? .writing place with
      | some e => exact .inl ⟨e, rfl⟩
      | none =>
        obtain ⟨d, name, hdir, rfl, -⟩ := name_of_resolve hplace hfree
        exact .inr ⟨d, name, rfl, rfl, hdir, hfree⟩

/-! ## 3. New directories -/

/-- Directories are all that the second file system has and the first one has not, and nothing is
    missing. -/
def AddsDirectories (fs fs' : FileSystem) : Prop :=
  ∀ place, fs'.nodeAt place = fs.nodeAt place ∨
    fs.nodeAt place = none ∧ fs'.nodeAt place = some .directory

theorem AddsDirectories.refl (fs : FileSystem) : AddsDirectories fs fs := fun _ => .inl rfl

theorem AddsDirectories.trans (h : AddsDirectories fs fs') (k : AddsDirectories fs' fs'') :
    AddsDirectories fs fs'' := by
  intro place
  rcases k place with hk | ⟨hk, hdir⟩
  · rw [hk]
    exact h place
  · rcases h place with hh | ⟨hh, hdir'⟩
    · exact .inr ⟨hh ▸ hk, hdir⟩
    · rw [hdir'] at hk
      cases hk

/-- Where only directories are new, the files are the same. -/
theorem AddsDirectories.file_iff (h : AddsDirectories fs fs') {place : Place} {content : Content} :
    fs'.nodeAt place = some (.file content) ↔ fs.nodeAt place = some (.file content) := by
  rcases h place with hh | ⟨hh, hdir⟩
  · rw [hh]
  · rw [hh, hdir]
    simp

/-- Directories stay directories. -/
theorem AddsDirectories.directory (h : AddsDirectories fs fs') {place : Place}
    (hdir : fs.nodeAt place = some .directory) : fs'.nodeAt place = some .directory := by
  rcases h place with hh | ⟨-, hdir'⟩
  · rw [hh, hdir]
  · exact hdir'

theorem addsDirectories_makeDir (fs : FileSystem) (p : Path) :
    AddsDirectories fs (fs.makeDir p).2 := by
  obtain ⟨e, he⟩ | ⟨d, name, hmade, hdir, hfree⟩ := makeDir_cases fs p
  · rw [he]
    exact .refl fs
  · rw [hmade]
    intro place
    rw [nodeAt_setNode_name hdir (by rw [hfree]; simp)]
    split
    · rename_i hplace
      exact .inr ⟨hplace ▸ hfree, rfl⟩
    · exact .inl rfl

/-! ## 4. Directories with the directories above them -/

/-- How a list of directories is made, as a function of the file system. -/
theorem makeDirs_cons (p : Path) (above : List Path) (fs : FileSystem) :
    (makeDirs Viewing (p :: above) : Editing _) fs =
      if p.components.isEmpty then (.ok (), fs)
      else
        match fs.makeDir p with
        | (.ok (), fs₁) => (.ok (), fs₁)
        | (.error .notFound, fs₁) =>
          match (makeDirs Viewing above : Editing _) fs₁ with
          | (.error e, fs₂) => (.error e, fs₂)
          | (.ok (), fs₂) =>
            match fs₂.makeDir p with
            | (.ok (), fs₃) => (.ok (), fs₃)
            | (.error e, fs₃) =>
              if fs₃.kind? p == some .directory then (.ok (), fs₃) else (.error e, fs₃)
        | (.error e, fs₁) =>
          if fs₁.kind? p == some .directory then (.ok (), fs₁) else (.error e, fs₁) := by
  -- a failure counts only if there is no directory afterwards
  have hforgive : ∀ (e : FileError) (fs : FileSystem),
      ((do if ← (FileView.isDir p : Viewing Bool) then return .ok () else return .error e :
        Editing (Except FileError Unit))) fs =
        if fs.kind? p == some .directory then (.ok (), fs) else (.error e, fs) := by
    intro e fs
    rw [editing_bind, editing_lift, viewing_isDir]
    cases fs.kind? p == some .directory <;> rfl
  rw [makeDirs]
  split
  · rfl
  · rw [editing_bind, editing_makeDir]
    obtain ⟨r, fs₁⟩ := fs.makeDir p
    rcases r with e | u
    · cases e
      case notFound =>
        simp only [editing_bind]
        obtain ⟨r₂, fs₂⟩ := (makeDirs Viewing above : Editing _) fs₁
        rcases r₂ with e | u
        · rfl
        · simp only [editing_bind, editing_makeDir]
          obtain ⟨r₃, fs₃⟩ := fs₂.makeDir p
          rcases r₃ with e | u
          · exact hforgive e fs₃
          · rfl
      all_goals exact hforgive _ fs₁
    · rfl

/-- What making one directory keeps, making directories keeps, also where it fails. -/
theorem makeDirs_induction {P : FileSystem → Prop}
    (hstep : ∀ fs p, P fs → P (fs.makeDir p).2) (ps : List Path) {fs : FileSystem} (h : P fs) :
    P ((makeDirs Viewing ps : Editing _) fs).2 := by
  induction ps generalizing fs with
  | nil => exact h
  | cons p above ih =>
    have hfirst := hstep fs p h
    rw [makeDirs_cons]
    split
    · exact h
    · split
      · rename_i fs₁ hmade
        rwa [hmade] at hfirst
      · rename_i fs₁ hmade
        rw [hmade] at hfirst
        have habove := ih hfirst
        split
        · rename_i e fs₂ hab
          rwa [hab] at habove
        · rename_i fs₂ hab
          rw [hab] at habove
          have hagain := hstep fs₂ p habove
          split
          · rename_i fs₃ hmade'
            rwa [hmade'] at hagain
          · rename_i e fs₃ hmade'
            rw [hmade'] at hagain
            split <;> exact hagain
      · rename_i e fs₁ _ hmade
        rw [hmade] at hfirst
        split <;> exact hfirst

/-- Making directories changes the tree only. -/
theorem exists_root_makeDirs (ps : List Path) (fs : FileSystem) :
    ∃ root, ((makeDirs Viewing ps : Editing _) fs).2 = { fs with root } := by
  refine makeDirs_induction (P := fun fs' => ∃ root, fs' = { fs with root }) ?_ ps ⟨fs.root, rfl⟩
  rintro fs' p ⟨root, rfl⟩
  obtain ⟨e, he⟩ | ⟨d, name, hmade, -⟩ := makeDir_cases { fs with root } p
  · exact ⟨root, by rw [he]⟩
  · exact ⟨_, by rw [hmade]; rfl⟩

/-- **Making directories brings in directories only**, also where it fails. -/
theorem addsDirectories_makeDirs (ps : List Path) (fs : FileSystem) :
    AddsDirectories fs ((makeDirs Viewing ps : Editing _) fs).2 :=
  makeDirs_induction (fun fs' p h => h.trans (addsDirectories_makeDir fs' p)) ps (.refl fs)

/-! ## 5. Writing in turn -/

section

variable {fs fs' : FileSystem} {p : Path} {t : Text}

/-- A file can be written where its path leads, if no directory is there and nothing is refused. -/
theorem write_ok_iff : (fs.write p t).1 = .ok () ↔ ∃ place, fs.resolve p = .ok place ∧
    fs.nodeAt place ≠ some .directory ∧ fs.refusal? .writing place = none := by
  cases hplace : fs.resolve p with
  | error e => simp [write, hplace]
  | ok place =>
    by_cases hfree : fs.nodeAt place = some .directory
    · simp [write, hplace, hfree]
    · rw [write_eq_of_resolve hplace hfree]
      cases hrefusal : fs.refusal? .writing place <;> simp [hfree, hrefusal]

theorem write_ok (h : fs.write p t = (.ok (), fs')) : ∃ d name,
    fs' = fs.setNode (d ++ [name]) (.file (.text t)) ∧ fs.placeOf p = d ++ [name] ∧
      fs.resolve p = .ok (d ++ [name]) ∧ fs.nodeAt d = some .directory ∧
      fs.nodeAt (d ++ [name]) ≠ some .directory := by
  obtain ⟨e, he⟩ | ⟨d, name, hwrite, hresolve, hdir, hfree⟩ := write_cases fs p t
  · rw [he] at h
    cases h
  · rw [hwrite] at h
    cases h
    exact ⟨d, name, rfl, (eq_placeOf_of_resolve hresolve).symm, hresolve, hdir, hfree⟩

/-- A file that is written changes its own place only. -/
theorem nodeAt_write (h : fs.write p t = (.ok (), fs')) (q : Place) :
    fs'.nodeAt q = if q = fs.placeOf p then some (.file (.text t)) else fs.nodeAt q := by
  obtain ⟨d, name, rfl, hplace, -, hdir, hfree⟩ := write_ok h
  rw [hplace]
  exact nodeAt_setNode_name hdir hfree _ q

theorem workingDir_write (h : fs.write p t = (.ok (), fs')) : fs'.workingDir = fs.workingDir := by
  obtain ⟨d, name, rfl, -⟩ := write_ok h
  rfl

theorem directory_write (h : fs.write p t = (.ok (), fs')) {q : Place}
    (hq : fs.nodeAt q = some .directory) : fs'.nodeAt q = some .directory := by
  obtain ⟨d, name, -, hplace, -, -, hfree⟩ := write_ok h
  rw [nodeAt_write h, if_neg, hq]
  rintro rfl
  exact hfree (hplace ▸ hq)

theorem resolve_write (h : fs.write p t = (.ok (), fs')) : fs'.resolve p = .ok (fs.placeOf p) := by
  obtain ⟨d, name, -, hplace, hresolve, -, -⟩ := write_ok h
  rw [hplace]
  exact resolve_mono (fun _ => directory_write h) (workingDir_write h) hresolve

theorem placeOf_congr (h : fs'.workingDir = fs.workingDir) (p : Path) :
    fs'.placeOf p = fs.placeOf p := by
  rw [placeOf, placeOf, h]

end

/-- The second file system comes from the first one by writing the files in turn. -/
inductive Wrote : FileSystem → List (Path × Text) → FileSystem → Prop where
  | nil (fs : FileSystem) : Wrote fs [] fs
  | cons {fs fs' fs'' : FileSystem} {p : Path} {t : Text} {rest : List (Path × Text)}
      (first : fs.write p t = (.ok (), fs')) (later : Wrote fs' rest fs'') :
      Wrote fs ((p, t) :: rest) fs''

namespace Wrote

variable {fs fs' : FileSystem} {docs : List (Path × Text)}

theorem workingDir (h : Wrote fs docs fs') : fs'.workingDir = fs.workingDir := by
  induction h with
  | nil => rfl
  | cons first _ ih => exact ih.trans (workingDir_write first)

theorem directory (h : Wrote fs docs fs') {q : Place} (hq : fs.nodeAt q = some .directory) :
    fs'.nodeAt q = some .directory := by
  induction h with
  | nil => exact hq
  | cons first _ ih => exact ih (directory_write first hq)

/-- Files are written only where no directory is. -/
theorem directory_iff (h : Wrote fs docs fs') {q : Place} :
    fs'.nodeAt q = some .directory ↔ fs.nodeAt q = some .directory := by
  refine ⟨fun hq => ?_, h.directory⟩
  induction h with
  | nil => exact hq
  | cons first _ ih =>
    have hafter := ih hq
    rw [nodeAt_write first] at hafter
    split at hafter
    · cases hafter
    · exact hafter

theorem refusal? (h : Wrote fs docs fs') : fs'.refusal? = fs.refusal? := by
  induction h with
  | nil => rfl
  | cons first _ ih =>
    obtain ⟨_, _, rfl, -⟩ := write_ok first
    exact ih

/-- Writing some files does not decide whether another one can be written. -/
theorem write_ok_iff (h : Wrote fs docs fs') {p : Path} {t : Text} :
    (fs'.write p t).1 = .ok () ↔ (fs.write p t).1 = .ok () := by
  have hresolve : ∀ place, fs'.resolve p = .ok place ↔ fs.resolve p = .ok place := fun place =>
    ⟨resolve_mono (fun _ => h.directory_iff.1) h.workingDir.symm,
      resolve_mono (fun _ => h.directory_iff.2) h.workingDir⟩
  simp only [FileSystem.write_ok_iff, hresolve, ne_eq, h.directory_iff, h.refusal?]

/-- What was written is found under its path. -/
theorem resolve (h : Wrote fs docs fs') {d : Path × Text} (hd : d ∈ docs) :
    fs'.resolve d.1 = .ok (fs.placeOf d.1) := by
  induction h with
  | nil => cases hd
  | cons first later ih =>
    rcases List.mem_cons.1 hd with rfl | hd
    · exact resolve_mono (fun _ => later.directory) later.workingDir (resolve_write first)
    · rw [ih hd, placeOf_congr (workingDir_write first)]

/-- **What is not written stays as it was.** -/
theorem nodeAt_of_ne (h : Wrote fs docs fs') {q : Place} (hq : ∀ d ∈ docs, fs.placeOf d.1 ≠ q) :
    fs'.nodeAt q = fs.nodeAt q := by
  induction h with
  | nil => rfl
  | @cons _ _ _ p t _ first later ih =>
    rw [ih fun d hd => ?_, nodeAt_write first, if_neg]
    · exact fun he => hq (p, t) List.mem_cons_self he.symm
    · rw [placeOf_congr (workingDir_write first)]
      exact hq d (List.mem_cons_of_mem _ hd)

/-- **What is written stands there afterwards**, if no two files are written to one place. -/
theorem nodeAt_of_mem (h : Wrote fs docs fs')
    (hplaces : docs.Pairwise fun a b => fs.placeOf a.1 ≠ fs.placeOf b.1) {d : Path × Text}
    (hd : d ∈ docs) : fs'.nodeAt (fs.placeOf d.1) = some (.file (.text d.2)) := by
  induction h with
  | nil => cases hd
  | cons first later ih =>
    have hstart := placeOf_congr (workingDir_write first)
    obtain ⟨hfirst, hlater⟩ := List.pairwise_cons.1 hplaces
    rcases List.mem_cons.1 hd with rfl | hd
    · rw [later.nodeAt_of_ne fun d hd => ?_, nodeAt_write first, if_pos rfl]
      rw [hstart]
      exact (hfirst d hd).symm
    · rw [← hstart]
      refine ih ?_ hd
      simpa only [hstart] using hlater

end Wrote

end FileSystem

end PatternBook
