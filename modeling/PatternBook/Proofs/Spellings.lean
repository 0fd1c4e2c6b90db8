import PatternBook.Proofs.SourceFiles

/-!
# Spellings of a path

A path can be spelled in several ways with the same components, and of the spellings that the
arguments bring in only the first is kept. Nothing that is read through a path tells them apart:
spellings of one path have one file name, and where they lead to a file they lead to the same one
(`read_of_key`). So the sources of a run, up to their spellings, are known from what can be read as
a set (`mem_sourcesOf_iff`, `keyed_sourcesOf_congr`), and what is left of a module from the sources
up to their spellings (`patternsLeft_of_keyed`).
-/

namespace PatternBook

/-! ## 1. What the components decide -/

namespace Path

variable {p q : Path}

theorem fileName?_of_key (h : p.key = q.key) : p.fileName? = q.fileName? := by
  unfold fileName?
  rw [components_of_key h]

theorem stem?_of_key (h : p.key = q.key) : p.stem? = q.stem? := by
  unfold stem?
  rw [fileName?_of_key h]

end Path

/-- The file name alone decides whether a file is a source. -/
theorem Source.isSupported_of_fileName? {p q : Path} (h : p.fileName? = q.fileName?) :
    isSupported p = isSupported q := by
  unfold isSupported Path.extension?
  rw [h]

namespace FileSystem

variable {fs : FileSystem} {p q : Path}

/-- A path leads to a file if it leads to a place where one is. -/
theorem isFile_iff : fs.kind? p = some .file ↔
    ∃ place content, fs.resolve p = .ok place ∧ fs.nodeAt place = some (.file content) := by
  constructor
  · intro h
    obtain ⟨node, hnode, hkind⟩ := Option.map_eq_some_iff.1 h
    cases hfind : fs.find p with
    | error e =>
      rw [hfind] at hnode
      cases hnode
    | ok found =>
      rw [hfind] at hnode
      cases hnode
      obtain ⟨place, hplace, hat⟩ := find_eq_ok_iff.1 hfind
      cases node with
      | directory => cases hkind
      | file content => exact ⟨place, content, hplace, hat⟩
  · rintro ⟨place, content, hplace, hat⟩
    unfold kind?
    rw [find_eq_ok_iff.2 ⟨place, hplace, hat⟩]
    rfl

/-- Spellings of one path that lead to a file lead to the same place. -/
theorem resolve_of_key (hp : fs.kind? p = some .file) (hq : fs.kind? q = some .file)
    (h : p.key = q.key) : fs.resolve p = fs.resolve q := by
  obtain ⟨place, _, hplace, -⟩ := isFile_iff.1 hp
  obtain ⟨place', _, hplace', -⟩ := isFile_iff.1 hq
  have hsame : fs.placeOf p = fs.placeOf q := by
    unfold placeOf
    rw [Path.components_of_key h]
  rw [hplace, hplace', eq_placeOf_of_resolve hplace, eq_placeOf_of_resolve hplace', hsame]

/-- **Spellings of one path are read alike.** -/
theorem read_of_key (hp : fs.kind? p = some .file) (hq : fs.kind? q = some .file)
    (h : p.key = q.key) : fs.read p = fs.read q := by
  unfold read
  rw [resolve_of_key hp hq h]

end FileSystem

namespace Command

open FileSystem

/-! ## 2. The paths that are kept -/

theorem exists_mem_arrange_iff {paths : List Path} {k : Path.Key} :
    (∃ p ∈ arrange paths, p.key = k) ↔ ∃ p ∈ paths, p.key = k := by
  refine ⟨fun ⟨p, hp, hk⟩ => ⟨p, mem_of_mem_arrange hp, hk⟩, fun ⟨p, hp, hk⟩ => ?_⟩
  -- the first path with the key is kept
  have hfound : (paths.find? fun q => q.key = k).isSome :=
    List.find?_isSome.2 ⟨p, hp, decide_eq_true hk⟩
  obtain ⟨q, hq⟩ := Option.isSome_iff_exists.1 hfound
  have hkey : q.key = k := by simpa using List.find?_some hq
  exact ⟨q, mem_arrange_iff.2 (by rw [hkey]; exact hq), hkey⟩

/-! ## 3. The sources -/

/-- The sources with the keys of their paths in place of the spellings. -/
def keyed (sources : List (Path × Text)) : List (Path.Key × Text) :=
  sources.map fun s => (s.1.key, s.2)

theorem mem_keyed {sources : List (Path × Text)} {k : Path.Key} {t : Text} :
    (k, t) ∈ keyed sources ↔ ∃ s ∈ sources, s.1.key = k ∧ s.2 = t := by
  simp only [keyed, List.mem_map, Prod.mk.injEq]

section

variable {fs : FileSystem} {arguments : List Text} {paths : List Path} [GlobView Viewing]

theorem sourcesOf_eq (h : expansions fs arguments = .ok paths) :
    sourcesOf fs arguments = (arrange paths).filterMap (sourceAt? fs) := by
  rw [sourcesOf, h]

/-- The sources are in the order of their paths. -/
theorem sorted_sourcesOf (h : expansions fs arguments = .ok paths) :
    (sourcesOf fs arguments).Pairwise fun s u => s.1.key < u.1.key := by
  rw [sourcesOf_eq h, List.pairwise_filterMap]
  refine (sorted_arrange paths).imp fun {p q} hlt s hs u hu => ?_
  rw [(isSupported_of_sourceAt? hs).1, (isSupported_of_sourceAt? hu).1]
  exact hlt

/-- **The sources** are the paths of the arguments that have the extension of a source and can be
    read, each with its text. -/
theorem mem_sourcesOf_iff (h : expansions fs arguments = .ok paths) {k : Path.Key} {t : Text} :
    (∃ s ∈ sourcesOf fs arguments, s.1.key = k ∧ s.2 = t) ↔
      ∃ p ∈ paths, p.key = k ∧ Source.isSupported p = true ∧ fs.read p = .ok t := by
  rw [sourcesOf_eq h]
  constructor
  · rintro ⟨s, hs, hk, rfl⟩
    obtain ⟨p, hp, hsource⟩ := List.mem_filterMap.1 hs
    obtain ⟨rfl, hsupported, hread⟩ := isSupported_of_sourceAt? hsource
    exact ⟨s.1, mem_of_mem_arrange hp, hk, hsupported, hread⟩
  · rintro ⟨p, hp, rfl, hsupported, hread⟩
    obtain ⟨q, hq, hkey⟩ := exists_mem_arrange_iff.2 ⟨p, hp, rfl⟩
    have hsupported' : Source.isSupported q = true := by
      rw [Source.isSupported_of_fileName? (Path.fileName?_of_key hkey)]
      exact hsupported
    have hread' : fs.read q = .ok t := by
      rw [read_of_key (isFile_of_mem_expansions h (mem_of_mem_arrange hq))
        (isFile_of_mem_expansions h hp) hkey]
      exact hread
    refine ⟨(q, t), List.mem_filterMap.2 ⟨q, hq, ?_⟩, hkey, rfl⟩
    rw [sourceAt?, if_pos hsupported', hread']
    rfl

/-- **Up to their spellings the sources are known from what can be read as a set.** -/
theorem keyed_sourcesOf_congr (h : expansions fs arguments = .ok paths) {arguments' : List Text}
    {paths' : List Path} (h' : expansions fs arguments' = .ok paths')
    (hread : ∀ k t, (∃ p ∈ paths, p.key = k ∧ Source.isSupported p = true ∧ fs.read p = .ok t) ↔
      ∃ p ∈ paths', p.key = k ∧ Source.isSupported p = true ∧ fs.read p = .ok t) :
    keyed (sourcesOf fs arguments) = keyed (sourcesOf fs arguments') := by
  have : Std.Irrefl fun a b : Path.Key × Text => a.1 < b.1 := ⟨fun a => List.lt_irrefl a.1⟩
  have : Std.Antisymm fun a b : Path.Key × Text => a.1 < b.1 :=
    ⟨fun a b hlt hgt => absurd (List.lt_trans hlt hgt) (List.lt_irrefl a.1)⟩
  have hsorted : (keyed (sourcesOf fs arguments)).Pairwise fun a b => a.1 < b.1 :=
    List.pairwise_map.2 (sorted_sourcesOf h)
  refine hsorted.eq_of_mem_iff (List.pairwise_map.2 (sorted_sourcesOf h')) fun (k, t) => ?_
  rw [mem_keyed, mem_keyed, mem_sourcesOf_iff h, mem_sourcesOf_iff h', hread]

end

/-! ## 4. What is left of a module -/

/-- **What is left of a module does not depend on how the paths of its sources are spelled.** -/
theorem patternsLeft_of_keyed {sources sources' : List (Path × Text)}
    (h : keyed sources = keyed sources') (filters : List Filter) (name : Text) :
    patternsLeft filters sources name = patternsLeft filters sources' name := by
  unfold patternsLeft
  congr 1
  induction sources generalizing sources' with
  | nil =>
    obtain rfl : sources' = [] := List.map_eq_nil_iff.1 h.symm
    rfl
  | cons s sources ih =>
    cases sources' with
    | nil => cases h
    | cons s' sources' =>
      obtain ⟨hfirst, hlater⟩ := List.cons.inj h
      obtain ⟨hkey, htext⟩ := Prod.mk.inj hfirst
      rw [List.filter_cons, List.filter_cons, Path.stem?_of_key hkey]
      split
      · rw [List.flatMap_cons, List.flatMap_cons, htext, ih hlater]
      · exact ih hlater

end Command

end PatternBook
