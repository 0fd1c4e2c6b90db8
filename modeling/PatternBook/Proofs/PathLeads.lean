import PatternBook.Proofs.FilePlaces

/-!
# How paths begin

In front of its first name a path may say where it begins: at the root, at the current directory or
above it. A path that has only names behind that leads to a place below.

* `Tree.wellNamed` -- the names in a tree are names that can be a part of a path;
* `Path.HasLead` -- a path begins with the given components and goes on with names;
* `HasLead.components_eq_iff` -- two such paths that lead to one place have the same components exactly
  if they begin alike.
-/

namespace PatternBook

instance (t : Text) : Decidable t.IsName := inferInstanceAs (Decidable (_ ∧ _ ∧ _))

/-! ## 1. Names in a tree -/

namespace Tree

mutual

/-- Whether all names in a tree can be a part of a path. -/
def wellNamed : Tree → Bool
  | file _ => true
  | directory entries => entriesWellNamed entries

/-- Whether this is so of the entries of a directory and of what is under them. -/
def entriesWellNamed : List (Text × Tree) → Bool
  | [] => true
  | (name, t) :: rest =>
    decide (name.IsName ∧ '/' ∉ name) && wellNamed t && entriesWellNamed rest

end

theorem wellNamed_of_mem {entries : List (Text × Tree)} (h : entriesWellNamed entries = true)
    {name : Text} {t : Tree} (hmem : (name, t) ∈ entries) :
    (name.IsName ∧ '/' ∉ name) ∧ t.wellNamed = true := by
  induction entries with
  | nil => cases hmem
  | cons e rest ih =>
    obtain ⟨hfirst, hrest⟩ := Bool.and_eq_true_iff.1 h
    obtain ⟨hname, ht⟩ := Bool.and_eq_true_iff.1 hfirst
    rcases List.mem_cons.1 hmem with rfl | hmem
    · exact ⟨of_decide_eq_true hname, ht⟩
    · exact ih hrest hmem

theorem wellNamed_of_find? {entries : List (Text × Tree)} (h : entriesWellNamed entries = true)
    {name : Text} {t : Tree} (hfind : SortedMap.find? name entries = some t) :
    t.wellNamed = true := by
  induction entries with
  | nil => cases hfind
  | cons e rest ih =>
    obtain ⟨hfirst, hrest⟩ := Bool.and_eq_true_iff.1 h
    unfold SortedMap.find? at hfind
    split at hfind
    · cases hfind
      exact (Bool.and_eq_true_iff.1 hfirst).2
    · exact ih hrest hfind

theorem wellNamed_of_get? {t inner : Tree} {place : Place} (h : t.wellNamed = true)
    (hget : t.get? place = some inner) : inner.wellNamed = true := by
  induction place generalizing t with
  | nil =>
    cases hget
    exact h
  | cons name rest ih =>
    cases t with
    | file content => cases hget
    | directory entries =>
      obtain ⟨next, hnext, hinner⟩ := Option.bind_eq_some_iff.1 hget
      exact ih (wellNamed_of_find? h hnext) hinner

end Tree

/-- What a directory lists are names. -/
theorem FileSystem.isName_of_children {fs : FileSystem} (h : fs.root.wellNamed = true) {p : Path}
    {names : List Text} (hnames : fs.children p = .ok names) {name : Text} (hmem : name ∈ names) :
    name.IsName ∧ '/' ∉ name := by
  unfold children at hnames
  split at hnames
  · cases hnames
  · split at hnames
    · cases hnames
    · cases hnames
    · rename_i entries hget
      split at hnames
      · cases hnames
      · cases hnames
        obtain ⟨e, he, rfl⟩ := List.mem_map.1 hmem
        exact (Tree.wellNamed_of_mem (Tree.wellNamed_of_get? h hget) he).1

/-! ## 2. Leads -/

namespace Component

/-- Whether a component is a name, and not the root, the current directory or the one above. -/
def isName : Component → Bool
  | name _ => true
  | root | current | parent => false

theorem exists_names {cs : List Component} (h : ∀ c ∈ cs, c.isName = true) :
    ∃ names : List Text, cs = names.map name := by
  induction cs with
  | nil => exact ⟨[], rfl⟩
  | cons c cs ih =>
    obtain ⟨hc, hcs⟩ := List.forall_mem_cons.1 h
    obtain ⟨names, rfl⟩ := ih hcs
    cases c with
    | name t => exact ⟨t :: names, rfl⟩
    | _ => cases hc

/-- Names lead further down, each to a place of its own. -/
theorem foldl_enter_names (place : Place) (names : List Text) :
    (names.map Component.name).foldl Component.enter place = place ++ names := by
  induction names generalizing place with
  | nil => exact (List.append_nil place).symm
  | cons name names ih =>
    rw [List.map_cons, List.foldl_cons, ih, Component.enter, List.append_assoc]
    rfl

end Component

namespace Path

/-- What stands in front of the first name of a path. -/
def lead (p : Path) : List Component := p.components.takeWhile fun c => !c.isName

/-- No name of a path has anything but names behind it, so the path does not lead up again. -/
def IsStraight (p : Path) : Prop :=
  ∀ c ∈ p.components.dropWhile fun c => !c.isName, c.isName = true

instance (p : Path) : Decidable p.IsStraight := inferInstanceAs (Decidable (∀ _ ∈ _, _))

/-- A path begins with the given components, of which none is a name, and goes on with names. -/
def HasLead (cs : List Component) (p : Path) : Prop :=
  (∀ c ∈ cs, c.isName = false) ∧ ∃ names : List Text, p.components = cs ++ names.map .name

theorem IsStraight.hasLead {p : Path} (h : p.IsStraight) : p.HasLead p.lead := by
  have hlead : ∀ c ∈ p.lead, c.isName = false := fun c hc => by
    simpa using List.all_eq_true.1 List.all_takeWhile c hc
  obtain ⟨names, hrest⟩ := Component.exists_names h
  exact ⟨hlead, names, by rw [← hrest]; exact List.takeWhile_append_dropWhile.symm⟩

namespace HasLead

variable {cs cs' : List Component} {p q : Path}

theorem lead_eq (h : p.HasLead cs) : p.lead = cs := by
  obtain ⟨hcs, names, hp⟩ := h
  have hnone : (names.map Component.name).takeWhile (fun c => !c.isName) = [] := by
    cases names <;> rfl
  rw [lead, hp, List.takeWhile_append_of_pos fun c hc => by rw [hcs c hc]; rfl, hnone,
    List.append_nil]

/-- A name in a directory begins as the directory does. -/
theorem join (h : p.HasLead cs) {name : Text} (hname : name.IsName ∧ '/' ∉ name) :
    (p.join name).HasLead cs := by
  obtain ⟨hcs, names, hp⟩ := h
  refine ⟨hcs, names ++ [name], ?_⟩
  rw [components_join p hname.1 hname.2, hp, List.map_append, List.append_assoc]
  rfl

/-- **Paths to one place have the same components exactly if they begin alike.** -/
theorem components_eq_iff {fs : FileSystem} (hp : p.HasLead cs) (hq : q.HasLead cs')
    (h : fs.placeOf p = fs.placeOf q) : p.components = q.components ↔ cs = cs' := by
  constructor
  · intro hcomponents
    rw [← hp.lead_eq, ← hq.lead_eq, lead, lead, hcomponents]
  · rintro rfl
    obtain ⟨-, names, hp⟩ := hp
    obtain ⟨-, names', hq⟩ := hq
    rw [FileSystem.placeOf, FileSystem.placeOf, hp, hq, List.foldl_append, List.foldl_append,
      Component.foldl_enter_names, Component.foldl_enter_names] at h
    rw [hp, hq, List.append_cancel_left h]

end HasLead

end Path

end PatternBook
