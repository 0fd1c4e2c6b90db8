import PatternBook.Proofs.FileChanges

/-!
# File systems that differ in one file

Two file systems that differ in nothing but what one file holds, and whether it may be read, answer
alike whatever is asked of them except that file (`EqualBut`): paths lead to the same places
(`resolve_eq`), what they lead to is of the same kind (`kind?_eq`), and directories hold the same
names (`children_eq`). The same changes succeed on both, and they differ in no other file afterwards
(`Preserves.makeDirs`, `Preserves.write`).

`withText` is the way from a file system to such another one.
-/

namespace PatternBook

/-! ## 1. The names in a directory -/

namespace SortedMap

variable {κ υ : Type} [DecidableEq κ]

/-- Changing the values at one key changes what is found there. -/
theorem find?_map_at (k j : κ) (f : υ → υ) (l : List (κ × υ)) :
    find? j (l.map fun e => if e.1 = k then (e.1, f e.2) else e) =
      if j = k then (find? j l).map f else find? j l := by
  induction l with
  | nil => simp [find?]
  | cons e l ih =>
    obtain ⟨i, v⟩ := e
    rw [List.map_cons]
    by_cases hi : i = k <;> by_cases hj : j = i <;> simp_all [find?]

/-- Whether a key is there depends on the keys. -/
theorem isSome_find?_congr {l l' : List (κ × υ)} (h : l'.map (·.1) = l.map (·.1)) (k : κ) :
    (find? k l').isSome = (find? k l).isSome := by
  induction l generalizing l' with
  | nil =>
    rw [List.map_nil, List.map_eq_nil_iff] at h
    rw [h]
  | cons e l ih =>
    cases l' with
    | nil => cases h
    | cons e' l' =>
      obtain ⟨hkey, hkeys⟩ : e'.1 = e.1 ∧ l'.map (·.1) = l.map (·.1) := List.cons.inj h
      unfold find?
      rw [hkey]
      split
      · rfl
      · exact ih hkeys

/-- The keys after a value has been set depend on the keys before. -/
theorem map_fst_alterEntries [LT κ] [DecidableLT κ] {l l' : List (κ × υ)}
    (h : l'.map (·.1) = l.map (·.1)) (k : κ) (f g : Option υ → υ) :
    (alterEntries k f l').map (·.1) = (alterEntries k g l).map (·.1) := by
  induction l generalizing l' with
  | nil =>
    rw [List.map_nil, List.map_eq_nil_iff] at h
    rw [h]
    rfl
  | cons e l ih =>
    cases l' with
    | nil => cases h
    | cons e' l' =>
      obtain ⟨hkey, hkeys⟩ : e'.1 = e.1 ∧ l'.map (·.1) = l.map (·.1) := List.cons.inj h
      unfold alterEntries
      rw [hkey]
      split
      · rw [List.map_cons, List.map_cons, hkeys]
      · split
        · simp only [List.map_cons, hkeys]
        · simp only [List.map_cons, ih hkeys]

end SortedMap

namespace Tree

/-- The names in the directory at a place, if there is one. -/
def namesAt (t : Tree) (place : Place) : Option (List Text) :=
  match t.get? place with
  | some (.directory entries) => some (entries.map (·.1))
  | _ => none

theorem namesAt_file (content : Content) (place : Place) : (file content).namesAt place = none := by
  cases place <;> rfl

theorem namesAt_directory_cons (entries : List (Text × Tree)) (name : Text) (rest : Place) :
    (directory entries).namesAt (name :: rest)
      = (SortedMap.find? name entries).bind fun t => t.namesAt rest := by
  unfold namesAt
  rw [get?]
  cases SortedMap.find? name entries <;> rfl

theorem namesAt_set_cons (entries : List (Text × Tree)) (name x : Text) (rest q : Place)
    (new : Tree) :
    ((directory entries).set (name :: rest) new).namesAt (x :: q)
      = if x = name then
          (((SortedMap.find? name entries).getD (directory [])).set rest new).namesAt q
        else (directory entries).namesAt (x :: q) := by
  simp only [set, namesAt_directory_cons, SortedMap.find?_alterEntries_const]
  split <;> rfl

/-- The names after a tree has been put somewhere depend on the names before. -/
theorem namesAt_set_congr {t t' : Tree} (h : ∀ q, t'.namesAt q = t.namesAt q) (place : Place)
    (new : Tree) (q : Place) : (t'.set place new).namesAt q = (t.set place new).namesAt q := by
  induction place generalizing t t' q with
  | nil => cases t <;> cases t' <;> rfl
  | cons name rest ih =>
    cases t with
    | file content =>
      cases t' with
      | file content' => exact h q
      | directory entries' => exact absurd (h []) (by simp [namesAt, get?])
    | directory entries =>
      cases t' with
      | file content' => exact absurd (h []) (by simp [namesAt, get?])
      | directory entries' =>
        have hkeys : entries'.map (·.1) = entries.map (·.1) := Option.some.inj (h [])
        cases q with
        | nil => exact congrArg some (SortedMap.map_fst_alterEntries hkeys name _ _)
        | cons x q =>
          rw [namesAt_set_cons, namesAt_set_cons]
          split
          · refine ih (fun q => ?_) q
            have hthere := SortedMap.isSome_find?_congr hkeys name
            have hinner := h (name :: q)
            rw [namesAt_directory_cons, namesAt_directory_cons] at hinner
            cases hfind : SortedMap.find? name entries <;>
              cases hfind' : SortedMap.find? name entries' <;> simp_all
          · exact h (x :: q)

/-! ## 2. Another content for a file -/

/-- The tree with another content in the file at a place. -/
def refill : Tree → Place → Content → Tree
  | file _, [], new => file new
  | file content, _ :: _, _ => file content
  | directory entries, [], _ => directory entries
  | directory entries, name :: rest, new =>
    directory (entries.map fun e => if e.1 = name then (e.1, e.2.refill rest new) else e)

theorem nodeAt_refill {t : Tree} {place : Place} {content : Content}
    (h : t.nodeAt place = some (.file content)) (new : Content) (q : Place) :
    (t.refill place new).nodeAt q = if q = place then some (.file new) else t.nodeAt q := by
  induction place generalizing t q with
  | nil =>
    cases t with
    | file content => cases q <;> simp [refill, node]
    | directory entries => simp [node] at h
  | cons name rest ih =>
    cases t with
    | file content => simp at h
    | directory entries =>
      rw [nodeAt_directory_cons] at h
      obtain ⟨inner, hfind, hinner⟩ := Option.bind_eq_some_iff.1 h
      rw [refill]
      cases q with
      | nil => simp [node]
      | cons x q =>
        rw [nodeAt_directory_cons, nodeAt_directory_cons,
          SortedMap.find?_map_at name x fun t : Tree => t.refill rest new]
        by_cases hx : x = name
        · subst hx
          rw [if_pos rfl, hfind, Option.map_some, Option.bind_some, Option.bind_some, ih hinner]
          simp
        · simp [hx]

theorem namesAt_refill (t : Tree) (place : Place) (new : Content) (q : Place) :
    (t.refill place new).namesAt q = t.namesAt q := by
  induction place generalizing t q with
  | nil =>
    cases t with
    | file content => rw [refill, namesAt_file, namesAt_file]
    | directory entries => rfl
  | cons name rest ih =>
    cases t with
    | file content => rfl
    | directory entries =>
      rw [refill]
      cases q with
      | nil =>
        refine congrArg some ?_
        rw [List.map_map]
        refine List.map_congr_left fun e _ => ?_
        dsimp only [Function.comp_apply]
        split <;> rfl
      | cons x q =>
        rw [namesAt_directory_cons, namesAt_directory_cons,
          SortedMap.find?_map_at name x fun t : Tree => t.refill rest new]
        split
        · cases SortedMap.find? x entries with
          | none => rfl
          | some inner => exact ih inner q
        · rfl

end Tree

namespace FileSystem

variable {place : Place} {fs fs' : FileSystem} {p : Path}

/-! ## 3. File systems that differ in one file -/

/-- Two file systems differ in nothing but what the file at a place holds, and whether it may be
    read. -/
structure EqualBut (place : Place) (fs fs' : FileSystem) : Prop where
  workingDir : fs'.workingDir = fs.workingDir
  writing : ∀ q, fs'.refusal? .writing q = fs.refusal? .writing q
  reading : ∀ q, q ≠ place → fs'.refusal? .reading q = fs.refusal? .reading q
  nodeAt : ∀ q, q ≠ place → fs'.nodeAt q = fs.nodeAt q
  names : ∀ q, fs'.root.namesAt q = fs.root.namesAt q
  file : ∃ content, fs.nodeAt place = some (.file content)
  file' : ∃ content, fs'.nodeAt place = some (.file content)

/-- The file system in which the file at a place holds a text and may be read. -/
def withText (fs : FileSystem) (place : Place) (t : Text) : FileSystem where
  root := fs.root.refill place (.text t)
  workingDir := fs.workingDir
  refusal? := fun access q =>
    if access = .reading ∧ q = place then none else fs.refusal? access q

theorem equalBut_withText {content : Content} (h : fs.nodeAt place = some (.file content))
    (t : Text) : EqualBut place fs (fs.withText place t) where
  workingDir := rfl
  writing _ := by simp [withText]
  reading _ hq := by simp [withText, hq]
  nodeAt q hq := (Tree.nodeAt_refill h (.text t) q).trans (if_neg hq)
  names q := Tree.namesAt_refill fs.root place (.text t) q
  file := ⟨content, h⟩
  file' := ⟨.text t, (Tree.nodeAt_refill h (.text t) place).trans (if_pos rfl)⟩

namespace EqualBut

/-! ### Looking -/

/-- What stands at a place is of the same kind. -/
theorem kind_eq (h : EqualBut place fs fs') (q : Place) :
    (fs'.nodeAt q).map Node.kind = (fs.nodeAt q).map Node.kind := by
  by_cases hq : q = place
  · subst hq
    obtain ⟨content, hfile⟩ := h.file
    obtain ⟨content', hfile'⟩ := h.file'
    rw [hfile, hfile']
    rfl
  · rw [h.nodeAt q hq]

theorem directory_iff (h : EqualBut place fs fs') (q : Place) :
    fs'.nodeAt q = some .directory ↔ fs.nodeAt q = some .directory := by
  have hkind := h.kind_eq q
  have hdir : ∀ n : Option Node, n = some .directory ↔ n.map Node.kind = some .directory := by
    rintro (_ | _ | content) <;> simp [Node.kind]
  rw [hdir, hdir, hkind]

theorem free_iff (h : EqualBut place fs fs') (q : Place) :
    fs'.nodeAt q = none ↔ fs.nodeAt q = none := by
  rw [← Option.map_eq_none_iff (f := Node.kind), h.kind_eq, Option.map_eq_none_iff]

theorem follow_eq (h : EqualBut place fs fs') (q : Place) (parts : List Text) :
    fs'.follow q parts = fs.follow q parts := by
  induction parts generalizing q with
  | nil => rfl
  | cons part parts ih =>
    rw [follow, follow, ih]
    have hkind := h.kind_eq q
    cases hnode : fs.nodeAt q with
    | none =>
      rw [(h.free_iff q).2 hnode]
    | some node =>
      rw [hnode] at hkind
      obtain ⟨node', hnode', hsame⟩ := Option.map_eq_some_iff.1 hkind
      rw [hnode']
      cases node <;> cases node' <;> first | rfl | cases hsame

theorem resolveParts_eq (h : EqualBut place fs fs') (p : Path) (parts : List Text) :
    fs'.resolveParts p parts = fs.resolveParts p parts := by
  unfold resolveParts startOf
  rw [h.workingDir, h.follow_eq]

theorem resolve_eq (h : EqualBut place fs fs') (p : Path) : fs'.resolve p = fs.resolve p :=
  h.resolveParts_eq p p.parts

theorem kind?_eq (h : EqualBut place fs fs') (p : Path) : fs'.kind? p = fs.kind? p := by
  unfold kind? find
  rw [h.resolve_eq]
  cases fs.resolve p with
  | error e => rfl
  | ok q =>
    have hkind := h.kind_eq q
    dsimp only
    cases hnode : fs.nodeAt q <;> cases hnode' : fs'.nodeAt q <;> simp_all [Except.toOption]

theorem children_eq (h : EqualBut place fs fs') (p : Path) : fs'.children p = fs.children p := by
  unfold children
  rw [h.resolve_eq]
  cases fs.resolve p with
  | error e => rfl
  | ok q =>
    have hkind := h.kind_eq q
    have hnames := h.names q
    unfold FileSystem.nodeAt Tree.nodeAt at hkind
    unfold Tree.namesAt at hnames
    dsimp only
    cases hget : fs.root.get? q with
    | none =>
      cases hget' : fs'.root.get? q <;> simp_all
    | some t =>
      cases hget' : fs'.root.get? q with
      | none => simp_all
      | some t' =>
        rw [hget, hget'] at hkind hnames
        cases t with
        | file content =>
          cases t' with
          | file content' => rfl
          | directory entries' => cases hkind
        | directory entries =>
          cases t' with
          | file content' => cases hkind
          | directory entries' =>
            -- the file is no directory
            have hq : q ≠ place := by
              rintro rfl
              obtain ⟨content, hfile⟩ := h.file
              unfold FileSystem.nodeAt Tree.nodeAt at hfile
              rw [hget] at hfile
              cases hfile
            dsimp only
            rw [h.reading q hq, Option.some.inj hnames]

theorem read_eq (h : EqualBut place fs fs') (hp : fs.resolve p ≠ .ok place) :
    fs'.read p = fs.read p := by
  unfold read
  rw [h.resolve_eq]
  cases hresolve : fs.resolve p with
  | error e => rfl
  | ok q =>
    have hq : q ≠ place := fun hq => hp (hq ▸ hresolve)
    dsimp only
    rw [h.nodeAt q hq, h.reading q hq]

/-! ### Changing -/

/-- The same node is put at a name in a directory of both. Where the file is it may only be another
    file. -/
theorem setNode (h : EqualBut place fs fs') {d : Place} {name : Text} {node : Node}
    (hdir : fs.nodeAt d = some .directory) (hfree : fs.nodeAt (d ++ [name]) ≠ some .directory)
    (hfile : d ++ [name] = place → ∃ content, node = .file content) :
    EqualBut place (fs.setNode (d ++ [name]) node) (fs'.setNode (d ++ [name]) node) := by
  have hset := nodeAt_setNode_name hdir hfree node
  have hset' := nodeAt_setNode_name ((h.directory_iff d).2 hdir)
    (fun hd => hfree ((h.directory_iff _).1 hd)) node
  have hkept : ∀ {fs₁ : FileSystem}, (∃ content, fs₁.nodeAt place = some (.file content)) →
      ∃ content, (if place = d ++ [name] then some node else fs₁.nodeAt place) =
        some (.file content) := by
    intro fs₁ hfs₁
    split
    · rename_i hplace
      obtain ⟨content, rfl⟩ := hfile hplace.symm
      exact ⟨content, rfl⟩
    · exact hfs₁
  refine ⟨h.workingDir, h.writing, h.reading, fun q hq => ?_, fun q => ?_, ?_, ?_⟩
  · rw [hset, hset', h.nodeAt q hq]
  · exact Tree.namesAt_set_congr h.names _ _ q
  · rw [hset]
    exact hkept h.file
  · rw [hset']
    exact hkept h.file'

/-- A directory is made on both or on neither. -/
theorem makeDir_eq (h : EqualBut place fs fs') (p : Path) :
    (fs'.makeDir p).1 = (fs.makeDir p).1 ∧ EqualBut place (fs.makeDir p).2 (fs'.makeDir p).2 := by
  have hfree : ∀ q, (fs'.nodeAt q).isNone = (fs.nodeAt q).isNone := fun q => by
    rw [Bool.eq_iff_iff, Option.isNone_iff_eq_none, Option.isNone_iff_eq_none, h.free_iff]
  unfold makeDir
  dsimp only
  rw [h.resolveParts_eq]
  split
  · exact ⟨rfl, h⟩
  · rename_i q hplace
    rw [hfree, h.writing]
    split
    · rename_i hmake
      cases fs.refusal? .writing q with
      | some e => exact ⟨rfl, h⟩
      | none =>
        obtain ⟨d, name, rfl, hdir, hnone⟩ := name_of_makeDir hplace hmake
        refine ⟨rfl, h.setNode hdir (by rw [hnone]; nofun) fun hq => ?_⟩
        -- the place is free, so it is not that of the file
        obtain ⟨content, hfile⟩ := h.file
        rw [← hq, hnone] at hfile
        cases hfile
    · exact ⟨rfl, h⟩

/-- A file is written on both or on neither. -/
theorem write_eq (h : EqualBut place fs fs') (p : Path) (t : Text) :
    (fs'.write p t).1 = (fs.write p t).1 ∧ EqualBut place (fs.write p t).2 (fs'.write p t).2 := by
  have hresolve := h.resolve_eq p
  cases hplace : fs.resolve p with
  | error e =>
    rw [hplace] at hresolve
    rw [write, write, hresolve, hplace]
    exact ⟨rfl, h⟩
  | ok q =>
    rw [hplace] at hresolve
    by_cases hdirectory : fs.nodeAt q = some .directory
    · rw [write, write, hresolve, hplace]
      dsimp only
      rw [hdirectory, (h.directory_iff q).2 hdirectory]
      exact ⟨rfl, h⟩
    · have hdirectory' : fs'.nodeAt q ≠ some .directory := fun hd =>
        hdirectory ((h.directory_iff q).1 hd)
      rw [write_eq_of_resolve hplace hdirectory, write_eq_of_resolve hresolve hdirectory', h.writing]
      cases fs.refusal? .writing q with
      | some e => exact ⟨rfl, h⟩
      | none =>
        obtain ⟨d, name, hdir, rfl, -⟩ := name_of_resolve hplace hdirectory
        exact ⟨rfl, h.setNode hdir hdirectory fun _ => ⟨.text t, rfl⟩⟩

end EqualBut

/-! ## 4. Computations that do not read the file -/

/-- A computation that answers alike wherever the file at a place alone differs. -/
def Overlooks {α : Type} (place : Place) (x : Viewing α) : Prop :=
  ∀ ⦃fs fs'⦄, EqualBut place fs fs' → x fs' = x fs

/-- What two file systems that differ in one file have become: they still differ in that file at
    most, and if they do, it is as it was in each of them. -/
structure Kept (place : Place) (fs fs' after after' : FileSystem) : Prop where
  equal : EqualBut place after after'
  file : after'.nodeAt place = after.nodeAt place ∨
    after.nodeAt place = fs.nodeAt place ∧ after'.nodeAt place = fs'.nodeAt place

theorem Kept.refl (h : EqualBut place fs fs') : Kept place fs fs' fs fs' := ⟨h, .inr ⟨rfl, rfl⟩⟩

theorem Kept.trans {mid mid' after after' : FileSystem} (h : Kept place fs fs' mid mid')
    (k : Kept place mid mid' after after') : Kept place fs fs' after after' := by
  refine ⟨k.equal, ?_⟩
  rcases k.file with hsame | ⟨hkept, hkept'⟩
  · exact .inl hsame
  · rw [hkept, hkept']
    exact h.file

theorem Kept.of_makeDir (h : EqualBut place fs fs') (p : Path) :
    Kept place fs fs' (fs.makeDir p).2 (fs'.makeDir p).2 := by
  obtain ⟨content, hfile⟩ := h.file
  obtain ⟨content', hfile'⟩ := h.file'
  refine ⟨(h.makeDir_eq p).2, .inr ⟨?_, ?_⟩⟩
  · rw [hfile]
    exact (addsDirectories_makeDir fs p).file_iff.2 hfile
  · rw [hfile']
    exact (addsDirectories_makeDir fs' p).file_iff.2 hfile'

theorem Kept.of_write (h : EqualBut place fs fs') (p : Path) (t : Text) :
    Kept place fs fs' (fs.write p t).2 (fs'.write p t).2 := by
  obtain ⟨hanswer, hafter⟩ := h.write_eq p t
  refine ⟨hafter, ?_⟩
  -- where the first write goes, the second one goes
  cases hwrite : fs.write p t with
  | mk r after =>
    cases hwrite' : fs'.write p t with
    | mk r' after' =>
      rw [hwrite, hwrite'] at hanswer
      obtain rfl : r' = r := hanswer
      cases r' with
      | error e =>
        have hstay : ∀ {fs after : FileSystem}, fs.write p t = (.error e, after) → after = fs := by
          intro fs after hfail
          obtain ⟨_, he⟩ | ⟨_, _, hok, -⟩ := write_cases fs p t
          · exact congrArg Prod.snd (hfail.symm.trans he)
          · cases hfail.symm.trans hok
        rw [hstay hwrite, hstay hwrite']
        exact .inr ⟨rfl, rfl⟩
      | ok u =>
        have hplace : fs'.placeOf p = fs.placeOf p := placeOf_congr h.workingDir p
        dsimp only
        rw [nodeAt_write hwrite, nodeAt_write hwrite', hplace]
        split
        · exact .inl rfl
        · exact .inr ⟨rfl, rfl⟩

/-- A computation that answers alike wherever the file at a place alone differs, and leaves that
    difference as it is or removes it. -/
def Preserves {α : Type} (place : Place) (x : Editing α) : Prop :=
  ∀ ⦃fs fs'⦄, EqualBut place fs fs' → (x fs').1 = (x fs).1 ∧ Kept place fs fs' (x fs).2 (x fs').2

section

variable {α β : Type}

namespace Overlooks

theorem pure (a : α) : Overlooks place (Pure.pure a : Viewing α) := fun _ _ _ => rfl

theorem bind {x : Viewing α} {f : α → Viewing β} (hx : Overlooks place x)
    (hf : ∀ a, Overlooks place (f a)) : Overlooks place (x >>= f) := by
  intro fs fs' h
  rw [viewing_bind, viewing_bind, hx h]
  exact hf _ h

theorem kind? (p : Path) : Overlooks place (FileView.kind? p : Viewing _) := fun _ _ h => h.kind?_eq p

theorem children (p : Path) : Overlooks place (FileView.children p : Viewing _) := fun _ _ h =>
  h.children_eq p

theorem isDir (p : Path) : Overlooks place (FileView.isDir p : Viewing _) := fun fs fs' h => by
  rw [viewing_isDir, viewing_isDir, h.kind?_eq]

theorem isFile (p : Path) : Overlooks place (FileView.isFile p : Viewing _) := fun fs fs' h => by
  rw [viewing_isFile, viewing_isFile, h.kind?_eq]

theorem leads (p : Path) : Overlooks place (FileView.leads p : Viewing _) := fun fs fs' h => by
  rw [viewing_leads, viewing_leads, h.kind?_eq]

end Overlooks

namespace Preserves

theorem pure (a : α) : Preserves place (Pure.pure a : Editing α) := fun _ _ h => ⟨rfl, .refl h⟩

theorem bind {x : Editing α} {f : α → Editing β} (hx : Preserves place x)
    (hf : ∀ a, Preserves place (f a)) : Preserves place (x >>= f) := by
  intro fs fs' h
  obtain ⟨hanswer, hafter⟩ := hx h
  rw [editing_bind, editing_bind, hanswer]
  obtain ⟨hanswer', hafter'⟩ := hf (x fs).1 hafter.equal
  exact ⟨hanswer', hafter.trans hafter'⟩

theorem lift {x : Viewing α} (hx : Overlooks place x) :
    Preserves place (liftM x : Editing α) := fun _ _ h => ⟨hx h, .refl h⟩

theorem makeDir (p : Path) : Preserves place (FileEdit.makeDir p : Editing _) := fun _ _ h =>
  ⟨(h.makeDir_eq p).1, .of_makeDir h p⟩

theorem write (p : Path) (t : Text) : Preserves place (FileEdit.write p t : Editing _) :=
  fun _ _ h => ⟨(h.write_eq p t).1, .of_write h p t⟩

/-- Making directories does not depend on what a file holds. -/
theorem makeDirs (ps : List Path) : Preserves place (makeDirs Viewing ps : Editing _) := by
  have hforgive : ∀ (p : Path) (e : FileError),
      Preserves place (do if ← (FileView.isDir p : Viewing Bool) then return .ok () else
        return .error e : Editing (Except FileError Unit)) := by
    intro p e
    refine (lift (.isDir p)).bind fun isDir => ?_
    cases isDir <;> exact pure _
  induction ps with
  | nil => exact pure _
  | cons p above ih =>
    rw [PatternBook.makeDirs]
    split
    · exact pure _
    · refine (makeDir p).bind fun made => ?_
      rcases made with e | u
      · cases e
        case notFound =>
          refine ih.bind fun made => ?_
          rcases made with e | u
          · exact pure _
          · refine (makeDir p).bind fun made => ?_
            rcases made with e | u
            · exact hforgive p e
            · exact pure _
        all_goals exact hforgive p _
      · exact pure _

end Preserves

end

end FileSystem

end PatternBook
