import PatternBook.FileSystem
import PatternBook.Proofs.Marks

/-!
# Where paths lead

A path leads to a place that its components alone decide (`eq_placeOf_of_resolve`); the spelling and
the files on the way only decide whether it leads anywhere. So two spellings of the same components
never lead to two places, and a name added to a path leads to a name added to its place
(`components_join`).

* `follow_cases` -- a path that can be followed ends at a directory, or at a name within one;
* `resolve_mono` -- paths that can be followed stay so while directories stay directories.
-/

namespace PatternBook

/-- Whether a part of a path is a name, and neither empty nor one of the two names that every
    directory has. -/
def Text.IsName (part : Text) : Prop := part ≠ [] ∧ part ≠ ['.'] ∧ part ≠ ['.', '.']

/-- The place that a component leads to from a place. -/
def Component.enter (place : Place) : Component → Place
  | root => []
  | current => place
  | parent => place.dropLast
  | name t => place ++ [t]

/-! ## 1. Parts and components -/

namespace Path

/-- The components of parts, of which the first is the root if the path is absolute. -/
def componentsOf (absolute : Bool) : List Text → List Component
  | [] => []
  | first :: rest =>
    if absolute then .root :: innerComponents rest
    else if first = ['.'] then .current :: innerComponents rest
    else innerComponents (first :: rest)

theorem components_eq (p : Path) : p.components = componentsOf p.isAbsolute p.parts := rfl

theorem innerComponents_append (ps qs : List Text) :
    innerComponents (ps ++ qs) = innerComponents ps ++ innerComponents qs := by
  simp [innerComponents]

theorem innerComponents_name {part : Text} (h : part.IsName) :
    innerComponents [part] = [.name part] := by
  simp [innerComponents, Component.ofPart, h.1, h.2.1, h.2.2]

/-- A part that comes last and not first adds its component, if it has one. -/
theorem componentsOf_concat {ps : List Text} (hps : ps ≠ []) (part : Text) (absolute : Bool) :
    componentsOf absolute (ps ++ [part]) = componentsOf absolute ps ++ innerComponents [part] := by
  obtain ⟨first, rest, rfl⟩ := List.exists_cons_of_ne_nil hps
  rw [List.cons_append, componentsOf, componentsOf]
  split
  · rw [innerComponents_append, List.cons_append]
  · split
    · rw [innerComponents_append, List.cons_append]
    · rw [← List.cons_append, innerComponents_append]

theorem parts_ne_nil (p : Path) : p.parts ≠ [] := List.splitOn_ne_nil _ _

/-- A path of one part is not absolute. -/
theorem isAbsolute_of_parts {p : Path} {part : Text} (h : p.parts = [part]) :
    p.isAbsolute = false := by
  unfold isAbsolute
  cases hs : p.spelling with
  | nil => rfl
  | cons c t =>
    by_cases hc : c = '/'
    · subst hc
      rw [parts, hs, List.splitOn_cons_eq_if_modifyHead] at h
      cases ht : t.splitOn '/' with
      | nil => exact absurd ht (List.splitOn_ne_nil _ _)
      | cons m ms => simp [ht] at h
    · simp [hc]

/-- A part within a directory adds its component, if it has one. -/
theorem components_join_part {p : Path} (hp : p.spelling ≠ []) {part : Text} (hsep : '/' ∉ part) :
    (p.join part).components = p.components ++ innerComponents [part] := by
  have hsplit : part.splitOn '/' = [part] := List.splitOn_eq_singleton hsep
  have hhead : part.head? ≠ some '/' := fun hh => hsep (List.mem_of_head? hh)
  rw [join, if_neg (by simpa using hhead)]
  split
  · rename_i hplain
    have hslash := (Bool.or_eq_true_iff.1 hplain).resolve_left (by simpa using hp)
    obtain ⟨s, hs⟩ := List.getLast?_eq_some_iff.1 (beq_iff_eq.1 hslash)
    have habs : (⟨p.spelling ++ part⟩ : Path).isAbsolute = p.isAbsolute := by
      unfold isAbsolute
      rw [hs]
      cases s <;> rfl
    rw [components_eq, components_eq, habs, parts, parts, hs, List.append_assoc,
      List.singleton_append, List.splitOn_append_cons_self, List.splitOn_append_cons_self, hsplit,
      List.splitOn_nil, componentsOf_concat (List.splitOn_ne_nil _ _),
      componentsOf_concat (List.splitOn_ne_nil _ _)]
    simp [innerComponents]
  · have habs : (⟨p.spelling ++ ['/'] ++ part⟩ : Path).isAbsolute = p.isAbsolute := by
      obtain ⟨c, t, hct⟩ := List.exists_cons_of_ne_nil hp
      unfold isAbsolute
      rw [hct]
      rfl
    rw [components_eq, components_eq, habs, parts, parts, List.append_assoc, List.singleton_append,
      List.splitOn_append_cons_self, hsplit, componentsOf_concat (List.splitOn_ne_nil _ _)]

/-- A name alone is a path of one component. -/
theorem components_name {name : Text} (h : name.IsName) (hsep : '/' ∉ name) :
    (⟨name⟩ : Path).components = [.name name] := by
  have hparts : (⟨name⟩ : Path).parts = [name] := List.splitOn_eq_singleton hsep
  rw [components_eq, hparts, isAbsolute_of_parts hparts]
  simp only [componentsOf, Bool.false_eq_true, if_false, if_neg h.2.1]
  exact innerComponents_name h

/-- A name in a directory is a component behind those of the directory. -/
theorem components_join (p : Path) {part : Text} (h : part.IsName) (hsep : '/' ∉ part) :
    (p.join part).components = p.components ++ [.name part] := by
  by_cases hp : p.spelling = []
  · have hhead : part.head? ≠ some '/' := fun hh => hsep (List.mem_of_head? hh)
    have hjoin : p.join part = ⟨part⟩ := by
      rw [join, if_neg (by simpa using hhead), hp]
      rfl
    have hnone : p.components = [] := by
      rw [components_eq, parts, isAbsolute, hp]
      rfl
    rw [hjoin, hnone, components_name h hsep]
    rfl
  · rw [components_join_part hp hsep, innerComponents_name h]

/-- A component that is a name is a part between two separators. -/
theorem part_of_mem_components {p : Path} {t : Text} (h : .name t ∈ p.components) :
    t.IsName ∧ t ∈ p.parts := by
  have hinner : ∀ ps : List Text, .name t ∈ innerComponents ps → t.IsName ∧ t ∈ ps := by
    intro ps ht
    obtain ⟨part, hpart, hname⟩ := List.mem_map.1 (List.mem_filter.1 ht).1
    obtain ⟨hmem, hnil⟩ := List.mem_filter.1 hpart
    unfold Component.ofPart at hname
    split at hname
    · cases hname
    · split at hname
      · cases hname
      · rename_i hcurrent hparent
        cases hname
        exact ⟨⟨by simpa using hnil, hcurrent, hparent⟩, hmem⟩
  rw [components_eq] at h
  obtain ⟨first, rest, hparts⟩ := List.exists_cons_of_ne_nil p.parts_ne_nil
  rw [hparts, componentsOf] at h
  rw [hparts]
  have hrest : .name t ∈ innerComponents rest → t.IsName ∧ t ∈ first :: rest := fun ht =>
    ⟨(hinner rest ht).1, List.mem_cons_of_mem first (hinner rest ht).2⟩
  split at h
  · exact hrest ((List.mem_cons.1 h).resolve_left fun hroot => by cases hroot)
  · split at h
    · exact hrest ((List.mem_cons.1 h).resolve_left fun hcurrent => by cases hcurrent)
    · exact hinner _ h

/-- A file name is a name and holds no separator. -/
theorem isName_of_fileName? {p : Path} {name : Text} (h : p.fileName? = some name) :
    name.IsName ∧ '/' ∉ name := by
  unfold fileName? at h
  split at h
  · rename_i t hlast
    cases h
    obtain ⟨hname, hpart⟩ := part_of_mem_components (List.mem_of_getLast? hlast)
    exact ⟨hname, Text.notMem_of_mem_splitOn hpart⟩
  · cases h

/-- A name is a path of one component. -/
theorem fileName?_of_isName {name : Text} (h : name.IsName) (hsep : '/' ∉ name) :
    fileName? ⟨name⟩ = some name := by
  rw [fileName?, components_name h hsep]
  rfl

/-- The stem of a file name is part of it. -/
theorem subset_splitName (name : Text) : (splitName name).1 ⊆ name := by
  intro c hc
  unfold splitName at hc
  split at hc
  · exact hc
  · exact hc
  · rename_i dot stem _ hdrop
    have hmem : c ∈ name.reverse.dropWhile (· != '.') := by
      rw [hdrop]
      exact List.mem_cons_of_mem dot (List.mem_reverse.1 hc)
    exact List.mem_reverse.1 ((List.dropWhile_sublist _).subset hmem)

/-- The stem of a path holds no separator. -/
theorem separator_notMem_stem? {p : Path} {stem : Text} (h : p.stem? = some stem) : '/' ∉ stem := by
  obtain ⟨name, hname, rfl⟩ := Option.map_eq_some_iff.1 h
  exact fun hslash => (isName_of_fileName? hname).2 (subset_splitName name hslash)

/-- Paths that compare as equal have the same components. -/
theorem components_of_key {p q : Path} (h : p.key = q.key) : p.components = q.components := by
  have hinj : ∀ a b : Component, a.key = b.key → a = b := by
    intro a b hab
    cases a <;> cases b <;> simp_all [Component.key]
    rename_i t u
    exact (List.map_inj_right fun c d => Char.toNat_inj.1).1 hab
  exact (List.map_inj_right hinj).1 h

end Path

/-! ## 2. Following parts -/

/-- What stands above a directory is a directory. -/
theorem Tree.nodeAt_dropLast {t : Tree} {place : Place} (h : t.nodeAt place = some .directory) :
    t.nodeAt place.dropLast = some .directory := by
  induction place generalizing t with
  | nil => exact h
  | cons name rest ih =>
    cases t with
    | file content => simp at h
    | directory entries =>
      cases rest with
      | nil => simp [node]
      | cons x rest =>
        rw [List.dropLast_cons_of_ne_nil (List.cons_ne_nil x rest)]
        rw [nodeAt_directory_cons] at h ⊢
        obtain ⟨inner, hfind, hinner⟩ := Option.bind_eq_some_iff.1 h
        rw [hfind]
        exact ih hinner

namespace FileSystem

variable {fs fs' : FileSystem} {place q : Place} {p : Path}

theorem nodeAt_dropLast (h : fs.nodeAt place = some .directory) :
    fs.nodeAt place.dropLast = some .directory :=
  Tree.nodeAt_dropLast h

theorem follow_cons_eq_ok_iff {part : Text} {parts : List Text} :
    fs.follow place (part :: parts) = .ok q ↔ fs.nodeAt place = some .directory ∧
      part.utf8Length ≤ maxName ∧ fs.follow (stepTo place part) parts = .ok q := by
  rw [follow]
  split
  · rename_i hn
    simp [hn]
  · rename_i content hn
    simp [hn]
  · rename_i hn
    split
    · rename_i hlong
      simp [Nat.not_le.2 hlong]
    · rename_i hshort
      simp [hn, Nat.not_lt.1 hshort]

/-- The parts alone decide where they lead. -/
theorem eq_foldl_of_follow {parts : List Text} (h : fs.follow place parts = .ok q) :
    q = parts.foldl stepTo place := by
  induction parts generalizing place with
  | nil =>
    rw [follow] at h
    exact (Except.ok.inj h).symm
  | cons part parts ih => exact ih (follow_cons_eq_ok_iff.1 h).2.2

/-- The last part starts from the directory that the others lead to. -/
theorem directory_of_follow_concat {parts : List Text} {part : Text}
    (h : fs.follow place (parts ++ [part]) = .ok q) :
    ∃ d, fs.nodeAt d = some .directory ∧ q = stepTo d part := by
  induction parts generalizing place with
  | nil =>
    obtain ⟨hdir, -, hq⟩ := follow_cons_eq_ok_iff.1 h
    rw [follow] at hq
    exact ⟨place, hdir, (Except.ok.inj hq).symm⟩
  | cons first parts ih => exact ih (follow_cons_eq_ok_iff.1 h).2.2

/-- Parts lead to a directory, or by a name to a place within one. -/
theorem follow_cases {parts : List Text} (hne : parts ≠ []) (h : fs.follow place parts = .ok q) :
    fs.nodeAt q = some .directory ∨ ∃ init d name, parts = init ++ [name] ∧ name.IsName ∧
      fs.nodeAt d = some .directory ∧ q = d ++ [name] := by
  obtain ⟨init, part, rfl⟩ := (List.eq_nil_or_concat' parts).resolve_left hne
  obtain ⟨d, hdir, rfl⟩ := directory_of_follow_concat h
  unfold stepTo
  split
  · exact .inl hdir
  · split
    · exact .inl (nodeAt_dropLast hdir)
    · rename_i hnil hparent
      obtain ⟨hnil, hcurrent⟩ := not_or.1 hnil
      exact .inr ⟨init, d, part, rfl, ⟨hnil, hcurrent, hparent⟩, hdir, rfl⟩

/-- Parts that can be followed stay so while directories stay directories. -/
theorem follow_mono (hdir : ∀ q, fs.nodeAt q = some .directory → fs'.nodeAt q = some .directory)
    {parts : List Text} (h : fs.follow place parts = .ok q) : fs'.follow place parts = .ok q := by
  induction parts generalizing place with
  | nil => exact h
  | cons part parts ih =>
    obtain ⟨hplace, hlength, hrest⟩ := follow_cons_eq_ok_iff.1 h
    exact follow_cons_eq_ok_iff.2 ⟨hdir place hplace, hlength, ih hrest⟩

/-! ## 3. Resolving paths -/

/-- The place of the components of a path. -/
def placeOf (fs : FileSystem) (p : Path) : Place := p.components.foldl Component.enter fs.workingDir

theorem foldl_innerComponents (place : Place) (parts : List Text) :
    (Path.innerComponents parts).foldl Component.enter place = parts.foldl stepTo place := by
  induction parts generalizing place with
  | nil => rfl
  | cons part parts ih =>
    have hsplit : Path.innerComponents (part :: parts) =
        Path.innerComponents [part] ++ Path.innerComponents parts :=
      Path.innerComponents_append [part] parts
    have hstep : (Path.innerComponents [part]).foldl Component.enter place = stepTo place part := by
      unfold stepTo
      split
      · rename_i hskip
        rcases hskip with rfl | rfl <;> rfl
      · rename_i hname
        obtain ⟨hnil, hcurrent⟩ := not_or.1 hname
        split
        · rename_i hparent
          subst hparent
          rfl
        · rename_i hparent
          rw [Path.innerComponents_name ⟨hnil, hcurrent, hparent⟩]
          rfl
    rw [hsplit, List.foldl_append, hstep, ih, List.foldl_cons]

theorem foldl_parts (fs : FileSystem) (p : Path) :
    p.parts.foldl stepTo (fs.startOf p) = fs.placeOf p := by
  obtain ⟨first, rest, hparts⟩ := List.exists_cons_of_ne_nil p.parts_ne_nil
  rw [placeOf, Path.components_eq, startOf, hparts, Path.componentsOf]
  split
  · rename_i habs
    -- the part before the first separator is empty
    have hfirst : first = [] := by
      unfold Path.isAbsolute at habs
      obtain ⟨t, ht⟩ := List.head?_eq_some_iff.1 (beq_iff_eq.1 habs)
      rw [Path.parts, ht, List.splitOn_cons_eq_if_modifyHead] at hparts
      exact (List.cons.inj hparts).1.symm
    rw [List.foldl_cons, List.foldl_cons, foldl_innerComponents, hfirst]
    rfl
  · split
    · rename_i hcurrent
      rw [List.foldl_cons, List.foldl_cons, foldl_innerComponents, hcurrent]
      rfl
    · rw [foldl_innerComponents]

theorem follow_of_resolveParts {parts : List Text} (h : fs.resolveParts p parts = .ok place) :
    fs.follow (fs.startOf p) parts = .ok place := by
  unfold resolveParts at h
  split at h
  · cases h
  · split at h
    · cases h
    · exact h

/-- **The components of a path decide where it leads**, if it leads anywhere. -/
theorem eq_placeOf_of_resolve (h : fs.resolve p = .ok place) : place = fs.placeOf p := by
  rw [← foldl_parts]
  exact eq_foldl_of_follow (follow_of_resolveParts h)

/-- Paths that can be followed stay so while directories stay directories. -/
theorem resolve_mono (hdir : ∀ q, fs.nodeAt q = some .directory → fs'.nodeAt q = some .directory)
    (hstart : fs'.workingDir = fs.workingDir) (h : fs.resolve p = .ok place) :
    fs'.resolve p = .ok place := by
  have hfollow := follow_mono hdir (follow_of_resolveParts h)
  unfold resolve resolveParts at h ⊢
  unfold startOf at hfollow ⊢
  rw [hstart]
  split at h
  · cases h
  · split at h
    · cases h
    · rename_i hne hlong
      rw [if_neg hne, if_neg hlong]
      exact hfollow

theorem find_eq_ok_iff {node : Node} :
    fs.find p = .ok node ↔ ∃ place, fs.resolve p = .ok place ∧ fs.nodeAt place = some node := by
  unfold find
  cases fs.resolve p with
  | error e => simp
  | ok place => cases hnode : fs.nodeAt place <;> simp [hnode]

/-- A path that leads to something else than a directory ends with the name of the place within its
    directory. -/
theorem name_of_resolve (h : fs.resolve p = .ok place) (hfree : fs.nodeAt place ≠ some .directory) :
    ∃ d name, fs.nodeAt d = some .directory ∧ place = d ++ [name] ∧ p.fileName? = some name := by
  obtain hdir | ⟨init, d, name, hparts, hname, hdir, hplace⟩ :=
    follow_cases p.parts_ne_nil (follow_of_resolveParts h)
  · exact absurd hdir hfree
  · refine ⟨d, name, hdir, hplace, ?_⟩
    rw [Path.fileName?, Path.components_eq, hparts]
    by_cases hinit : init = []
    · rw [hinit, List.nil_append] at hparts ⊢
      rw [Path.isAbsolute_of_parts hparts]
      simp only [Path.componentsOf, Bool.false_eq_true, if_false, if_neg hname.2.1,
        Path.innerComponents_name hname]
      rfl
    · rw [Path.componentsOf_concat hinit, Path.innerComponents_name hname, List.getLast?_concat]

end FileSystem

end PatternBook
