import Mathlib.Data.List.Basic
import PatternBook.Module

/-!
# The files of a module

Merging sorts files by the module they belong to and loses none of them: a module has the patterns
of its files in the order of the files (`filesOf`, `patternsOf`), and the modules are those of the
files, in the order of their names (`merge_value`).
-/

namespace PatternBook.Module

/-- The files that belong to a module, in the order in which they are given. -/
def filesOf (files : List SourceFile) (name : Text) : List SourceFile :=
  files.filter fun f => nameOf f.path = name

/-- The patterns of the files that belong to a module, in the order of the files. -/
def patternsOf (files : List SourceFile) (name : Text) : List Pattern :=
  (filesOf files name).flatMap (·.patterns)

theorem mem_filesOf {files : List SourceFile} {name : Text} {f : SourceFile} :
    f ∈ filesOf files name ↔ f ∈ files ∧ nameOf f.path = name := by
  rw [filesOf, List.mem_filter, decide_eq_true_eq]

theorem filesOf_cons (f : SourceFile) (files : List SourceFile) (name : Text) :
    filesOf (f :: files) name =
      if nameOf f.path = name then f :: filesOf files name else filesOf files name := by
  simp only [filesOf, List.filter_cons, decide_eq_true_eq]

/-- Adding files in turn adds to each module its own files, behind those it had. -/
theorem get?_foldl_alter (files : List SourceFile) (groups : SortedMap Text (List SourceFile))
    (name : Text) :
    (files.foldl (fun groups f => groups.alter (nameOf f.path) fun fs => fs.getD [] ++ [f])
        groups).get? name =
      if filesOf files name = [] then groups.get? name
      else some ((groups.get? name).getD [] ++ filesOf files name) := by
  induction files generalizing groups with
  | nil => rfl
  | cons f files ih =>
    rw [List.foldl_cons, ih, SortedMap.get?_alter, filesOf_cons]
    by_cases hf : nameOf f.path = name
    · subst hf
      simp only [if_true, Option.getD_some, List.append_assoc, List.singleton_append,
        List.cons_ne_nil, if_false]
      split
      · rename_i hnone
        rw [hnone]
      · rfl
    · simp only [hf, Ne.symm hf, if_false]

/-- The map holds the files of each module, in order. -/
theorem get?_filesByName (files : List SourceFile) (name : Text) :
    (filesByName files).get? name =
      if filesOf files name = [] then none else some (filesOf files name) :=
  get?_foldl_alter files .empty name

theorem mem_keys_filesByName {files : List SourceFile} {name : Text} :
    name ∈ (filesByName files).keys ↔ ∃ f ∈ files, nameOf f.path = name := by
  simp only [SortedMap.mem_keys_iff, get?_filesByName, ← mem_filesOf]
  constructor
  · rintro ⟨fs, hfs⟩
    split at hfs
    · cases hfs
    · rename_i hsome
      exact List.exists_mem_of_ne_nil _ hsome
  · rintro ⟨f, hf⟩
    exact ⟨filesOf files name, if_neg (List.ne_nil_of_mem hf)⟩

/-- The map holds a module for each name of a file, with the files of that name. -/
theorem toList_filesByName (files : List SourceFile) :
    (filesByName files).toList =
      (filesByName files).keys.map fun name => (name, filesOf files name) := by
  have hown : ∀ g ∈ (filesByName files).toList, (g.1, filesOf files g.1) = g := by
    intro g hg
    have hget : (filesByName files).get? g.1 = some g.2 := SortedMap.get?_eq_some_iff.2 hg
    rw [get?_filesByName] at hget
    split at hget
    · cases hget
    · exact Prod.ext rfl (Option.some.inj hget)
  rw [SortedMap.keys, List.map_map]
  exact ((List.map_congr_left hown).trans (List.map_id _)).symm

/-- **Merging loses nothing**: the modules are those of the files, in the order of their names, and
    each has the patterns of its files. -/
theorem merge_value (files : List SourceFile) :
    (merge files).value = (filesByName files).keys.map fun name => ⟨name, patternsOf files name⟩ := by
  simp only [merge, Logged.join, toList_filesByName, List.flatMap_map]
  exact List.map_eq_flatMap.symm

end PatternBook.Module
