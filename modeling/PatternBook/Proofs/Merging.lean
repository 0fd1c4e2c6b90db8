import Mathlib.Data.List.Perm.Basic
import PatternBook.Proofs.ByteOrder
import PatternBook.Proofs.Modules

/-!
# Merging as a partition

`Proofs.Modules` says which patterns a module has. This file says what merging is on the whole: the
files are divided among the modules, and a module reports the patterns that one of its files documents
under a name that another file of the module has documented first.

* `filter_key_perm` -- dividing a list by keys neither loses nor repeats anything;
* `firstSource?` -- the file of a module that documents a name first, and `repeatEvent?` -- what is
  reported of a pattern;
* `duplicates_eq` -- remembering the first file of each name, pattern by pattern, comes to looking it
  up among all files of the module;
* `files_of_duplicate` -- a report names two of the files, with different paths;
* `merge_partition` -- so the modules, their patterns and the reports are read off the list of files.
-/

namespace PatternBook

/-- Dividing a list by the keys of its elements neither loses nor repeats anything. -/
theorem filter_key_perm {α κ : Type} [DecidableEq κ] (key : α → κ) {keys : List κ}
    (hkeys : keys.Nodup) {l : List α} (h : ∀ a ∈ l, key a ∈ keys) :
    (keys.flatMap fun k => l.filter fun a => key a = k).Perm l := by
  induction keys generalizing l with
  | nil =>
    cases l with
    | nil => exact List.Perm.nil
    | cons a l => cases h a List.mem_cons_self
  | cons k keys ih =>
    obtain ⟨hk, hkeys⟩ := List.nodup_cons.1 hkeys
    -- the elements with other keys are divided by the other keys
    have hothers : ∀ a ∈ l.filter fun a => !decide (key a = k), key a ∈ keys := by
      intro a ha
      obtain ⟨hmem, hne⟩ := List.mem_filter.1 ha
      exact List.mem_of_ne_of_mem (by simpa using hne) (h a hmem)
    have hsame : ∀ j ∈ keys, l.filter (fun a => key a = j) =
        (l.filter fun a => !decide (key a = k)).filter fun a => key a = j := by
      intro j hj
      rw [List.filter_filter]
      refine List.filter_congr fun a _ => ?_
      by_cases ha : key a = j
      · have hne : key a ≠ k := fun hak => hk (by rwa [← hak, ha])
        simp [ha, ha ▸ hne]
      · simp [ha]
    rw [List.flatMap_cons, List.flatMap_congr hsame]
    exact (List.Perm.append_left _ (ih hkeys hothers)).trans (List.filter_append_perm _ l)

namespace Module

/-! ## 1. Names that are documented again -/

/-- The path of the first file that documents a name. -/
def firstSource? (files : List SourceFile) (name : Text) : Option Text :=
  (files.find? fun f => f.patterns.any fun p => p.name = name).map (·.path)

/-- What is reported of a pattern in the file at a path: that its name was documented first in
    another file, if so it was. -/
def repeatEvent? (module : Text) (files : List SourceFile) (path : Text) (p : Pattern) :
    Option Event :=
  (firstSource? files p.name).bind fun first =>
    if first = path then none else some (.duplicatePattern module p.name first path)

/-- The first occurrence of a name stands in the first file that documents it. -/
theorem find?_occurrences (files : List SourceFile) (name : Text) :
    ((occurrences files).find? fun o => o.1 = name).map (·.2) = firstSource? files name := by
  induction files with
  | nil => rfl
  | cons f files ih =>
    have hcons : occurrences (f :: files) =
        f.patterns.map (fun p => (p.name, f.path)) ++ occurrences files := List.flatMap_cons
    rw [hcons, List.find?_append, firstSource?, List.find?_cons]
    cases hfound : f.patterns.any fun p => p.name = name with
    | true =>
      obtain ⟨p, hp⟩ := Option.isSome_iff_exists.1
        ((List.find?_isSome (p := fun p : Pattern => decide (p.name = name))).2
          (List.any_eq_true.1 hfound))
      rw [List.find?_map]
      simp only [Function.comp_def, hp, Option.map_some, Option.some_or]
    | false =>
      have hnone : f.patterns.find? (fun p => decide (p.name = name)) = none :=
        List.find?_eq_none.2 (List.any_eq_false.1 hfound)
      rw [List.find?_map]
      simp only [Function.comp_def, hnone, Option.map_none, Option.none_or]
      exact ih

/-- **What is remembered is what stands first.** Where the map holds the first file of each name among
    the occurrences so far, each occurrence that follows is compared with the first one of all. -/
theorem duplicates_eq (module : Text) {firsts : SortedMap Text Text} {before : List (Text × Text)}
    (h : ∀ name, firsts.get? name = (before.find? fun o => o.1 = name).map (·.2))
    (rest : List (Text × Text)) :
    duplicates module firsts rest = rest.filterMap fun o =>
      (((before ++ rest).find? fun e => e.1 = o.1).map (·.2)).bind fun first =>
        if first = o.2 then none else some (.duplicatePattern module o.1 first o.2) := by
  induction rest generalizing firsts before with
  | nil => rfl
  | cons o rest ih =>
    obtain ⟨name, path⟩ := o
    have hname := h name
    have hassoc : before ++ (name, path) :: rest = before ++ [(name, path)] ++ rest := by simp
    rw [duplicates, List.filterMap_cons, hassoc]
    cases hfirst : before.find? fun o => o.1 = name with
    | none =>
      rw [hfirst, Option.map_none] at hname
      have hnew : ∀ j, (firsts.insert name path).get? j =
          ((before ++ [(name, path)]).find? fun o => o.1 = j).map (·.2) := by
        intro j
        rw [SortedMap.get?_insert, List.find?_append, h j]
        by_cases hj : j = name
        · subst hj
          simp [hfirst]
        · cases before.find? fun o => o.1 = j with
          | none => simp [hj, Ne.symm hj]
          | some e => simp [hj]
      rw [hname]
      simp only [ih hnew, List.find?_append, hfirst, Option.none_or, List.find?_singleton]
      simp
    | some first =>
      rw [hfirst, Option.map_some] at hname
      have hold : ∀ j, firsts.get? j =
          ((before ++ [(name, path)]).find? fun o => o.1 = j).map (·.2) := by
        intro j
        rw [List.find?_append, h j]
        by_cases hj : j = name
        · subst hj
          rw [hfirst, Option.some_or]
        · cases before.find? fun o => o.1 = j with
          | none => simp [Ne.symm hj]
          | some e => rfl
      rw [hname]
      simp only [ih hold, List.find?_append, hfirst, Option.some_or, Option.map_some,
        Option.bind_some]
      by_cases hpath : first.2 = path <;> simp [hpath]

/-- The reports of a module: file by file, and in each file pattern by pattern. -/
theorem duplicates_occurrences (module : Text) (files : List SourceFile) :
    duplicates module .empty (occurrences files) =
      files.flatMap fun f => f.patterns.filterMap (repeatEvent? module files f.path) := by
  have hempty : ∀ name, (SortedMap.empty : SortedMap Text Text).get? name =
      (([] : List (Text × Text)).find? fun o => o.1 = name).map (·.2) := fun _ => rfl
  rw [duplicates_eq module hempty, List.nil_append]
  simp only [find?_occurrences]
  rw [occurrences, List.filterMap_flatMap]
  simp only [List.filterMap_map]
  rfl

/-- The reports are those of the modules in turn. -/
theorem merge_events (files : List SourceFile) :
    (merge files).events = (filesByName files).keys.flatMap fun name =>
      (filesOf files name).flatMap fun f =>
        f.patterns.filterMap (repeatEvent? name (filesOf files name) f.path) := by
  have hevents : (merge files).events =
      (filesByName files).keys.flatMap fun name => (ofFiles (name, filesOf files name)).events := by
    simp only [merge, Logged.join, toList_filesByName, List.flatMap_map]
  rw [hevents]
  exact List.flatMap_congr fun name _ => duplicates_occurrences name (filesOf files name)

/-- A report names the paths of two files, and these are spelled differently. -/
theorem files_of_duplicate {files : List SourceFile} {module pattern first again : Text}
    (h : .duplicatePattern module pattern first again ∈ (merge files).events) :
    first ≠ again ∧ (∃ f ∈ files, f.path = first) ∧ ∃ f ∈ files, f.path = again := by
  rw [merge_events] at h
  obtain ⟨name, -, h⟩ := List.mem_flatMap.1 h
  obtain ⟨f, hf, h⟩ := List.mem_flatMap.1 h
  obtain ⟨p, -, h⟩ := List.mem_filterMap.1 h
  obtain ⟨path, hpath, h⟩ := Option.bind_eq_some_iff.1 h
  obtain ⟨g, hg, rfl⟩ := Option.map_eq_some_iff.1 hpath
  split at h
  · cases h
  · rename_i hne
    cases h
    have hmem := List.mem_of_find?_eq_some hg
    exact ⟨hne, ⟨g, (mem_filesOf.1 hmem).1, rfl⟩, f, (mem_filesOf.1 hf).1, rfl⟩

/-! ## 2. The partition -/

/-- **Merging divides the files among the modules.** The names of the modules increase in the order of
    their bytes and are those of the files. A module has the patterns of its files in the order of the
    files, so that every pattern of the files has its place in one module. The reports are those of the
    modules in turn: file by file and pattern by pattern, one for each pattern whose name was documented
    first in another file of the module. -/
theorem merge_partition (files : List SourceFile) :
    ((merge files).value.map (·.name)).Pairwise (fun a b => a.bytes < b.bytes) ∧
    (∀ name, name ∈ (merge files).value.map (·.name) ↔ ∃ f ∈ files, nameOf f.path = name) ∧
    (∀ m ∈ (merge files).value, m.patterns = (filesOf files m.name).flatMap (·.patterns)) ∧
    ((merge files).value.flatMap (·.patterns)).Perm (files.flatMap (·.patterns)) ∧
    (merge files).events = (merge files).value.flatMap fun m =>
      (filesOf files m.name).flatMap fun f =>
        f.patterns.filterMap (repeatEvent? m.name (filesOf files m.name) f.path) := by
  have hnames : (merge files).value.map (·.name) = (filesByName files).keys := by
    rw [merge_value, List.map_map]
    exact List.map_id _
  have hsorted := (filesByName files).keys_sorted
  refine ⟨?_, fun name => ?_, fun m hm => ?_, ?_, ?_⟩
  · rw [hnames]
    exact hsorted.imp Text.bytes_lt_bytes
  · rw [hnames]
    exact mem_keys_filesByName
  · rw [merge_value] at hm
    obtain ⟨name, -, rfl⟩ := List.mem_map.1 hm
    rfl
  · have hnodup : (filesByName files).keys.Nodup := by
      refine hsorted.imp fun {a b} hlt hab => ?_
      rw [hab] at hlt
      exact List.lt_irrefl b hlt
    have hperm := filter_key_perm (fun f : SourceFile => nameOf f.path) hnodup
      fun f hf => mem_keys_filesByName.2 ⟨f, hf, rfl⟩
    have hvalue : (merge files).value.flatMap (·.patterns) =
        ((filesByName files).keys.flatMap fun name => filesOf files name).flatMap (·.patterns) := by
      rw [merge_value, List.flatMap_map, List.flatMap_assoc]
      rfl
    rw [hvalue]
    exact hperm.flatMap_right _
  · rw [merge_events, merge_value, List.flatMap_map]

end Module

end PatternBook
