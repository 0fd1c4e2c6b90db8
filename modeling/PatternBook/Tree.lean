import PatternBook.SortedMap
import PatternBook.Text.Basic

/-!
# Trees of files

A tree is a file, or a directory with a tree under each of its names. A place in a tree is the list
of names that leads to it from the top; what stands there is read by `nodeAt`, which tells a
directory from a file and shows no more of a directory than that it is one.

* `set` puts a tree at a place;
* `nodeAt_set` says that, under a directory and where no directory stood before, a node without
  anything under it changes nothing but its own place;
* `nodes` lists all places with what stands there.
-/

namespace PatternBook

/-- What a file holds: text, or bytes that are no text. -/
inductive Content where
  | text (t : Text)
  | binary (bytes : List UInt8)
  deriving DecidableEq

/-- What stands at a place. -/
inductive Node where
  | directory
  | file (content : Content)
  deriving DecidableEq

/-- The names that lead from the top to a place. -/
abbrev Place := List Text

/-- A file, or a directory with its entries in the order of their names. -/
inductive Tree where
  | file (content : Content)
  | directory (entries : List (Text × Tree))

namespace Tree

/-! ## 1. Reading -/

/-- What stands at the top. -/
def node : Tree → Node
  | file content => .file content
  | directory _ => .directory

/-- The tree with nothing under a node. -/
def ofNode : Node → Tree
  | .directory => directory []
  | .file content => file content

/-- The tree at a place. -/
def get? : Tree → Place → Option Tree
  | t, [] => some t
  | file _, _ :: _ => none
  | directory entries, name :: rest => (SortedMap.find? name entries).bind fun t => t.get? rest

/-- What stands at a place. -/
def nodeAt (t : Tree) (place : Place) : Option Node := (t.get? place).map node

mutual

/-- All places under a place, itself first, with what stands there. -/
def nodesFrom (place : Place) : Tree → List (Place × Node)
  | file content => [(place, .file content)]
  | directory entries => (place, .directory) :: entryNodes place entries

/-- All places under the entries of the directory at a place. -/
def entryNodes (place : Place) : List (Text × Tree) → List (Place × Node)
  | [] => []
  | (name, t) :: rest => nodesFrom (place ++ [name]) t ++ entryNodes place rest

end

/-- All places of a tree with what stands there. -/
def nodes (t : Tree) : List (Place × Node) := nodesFrom [] t

@[simp] theorem nodeAt_nil (t : Tree) : t.nodeAt [] = some t.node := rfl

@[simp] theorem nodeAt_file_cons (content : Content) (name : Text) (rest : Place) :
    (file content).nodeAt (name :: rest) = none := rfl

theorem nodeAt_directory_cons (entries : List (Text × Tree)) (name : Text) (rest : Place) :
    (directory entries).nodeAt (name :: rest)
      = (SortedMap.find? name entries).bind fun t => t.nodeAt rest := by
  unfold nodeAt
  rw [get?]
  cases SortedMap.find? name entries <;> rfl

/-- Nothing stands under a node alone. -/
theorem nodeAt_ofNode_cons (n : Node) (name : Text) (rest : Place) :
    (ofNode n).nodeAt (name :: rest) = none := by
  cases n <;> rfl

/-! ## 2. Writing -/

/-- The tree with another tree at a place. Directories that are missing on the way are made, and
    under a file nothing can be put. -/
def set : Tree → Place → Tree → Tree
  | _, [], new => new
  | file content, _ :: _, _ => file content
  | directory entries, name :: rest, new =>
    let inner := (SortedMap.find? name entries).getD (directory [])
    directory (SortedMap.alterEntries name (fun _ => inner.set rest new) entries)

/-- Putting a tree under a name leaves the other names as they are. -/
theorem nodeAt_set_cons (entries : List (Text × Tree)) (name x : Text) (rest q : Place)
    (new : Tree) :
    ((directory entries).set (name :: rest) new).nodeAt (x :: q)
      = if x = name then
          (((SortedMap.find? name entries).getD (directory [])).set rest new).nodeAt q
        else (directory entries).nodeAt (x :: q) := by
  simp only [set, nodeAt_directory_cons, SortedMap.find?_alterEntries_const]
  split <;> rfl

/-- Under a directory, and where no directory stood before, a node without anything under it
    changes nothing but its own place. -/
theorem nodeAt_set {t : Tree} {place : Place} (hne : place ≠ [])
    (hparent : t.nodeAt place.dropLast = some .directory)
    (hfree : t.nodeAt place ≠ some .directory) (n : Node) (q : Place) :
    (t.set place (ofNode n)).nodeAt q = if q = place then some n else t.nodeAt q := by
  induction place generalizing t q with
  | nil => exact absurd rfl hne
  | cons name rest ih =>
    cases t with
    | file content =>
      cases rest with
      | nil => simp [node] at hparent
      | cons y ys => simp at hparent
    | directory entries =>
      cases q with
      | nil => simp [set, node]
      | cons x q =>
        rw [nodeAt_set_cons]
        by_cases hx : x = name
        · subst hx
          simp only [if_pos, List.cons.injEq, true_and]
          cases rest with
          | nil =>
            have hnode : (ofNode n).node = n := by cases n <;> rfl
            cases q with
            | nil => simp [set, hnode]
            | cons y ys =>
              have hnone : (directory entries).nodeAt (x :: y :: ys) = none := by
                rw [nodeAt_directory_cons] at hfree ⊢
                cases hf : SortedMap.find? x entries with
                | none => rfl
                | some inner =>
                  cases inner with
                  | file content => rfl
                  | directory es => exact absurd (by rw [hf]; rfl) hfree
              simp [set, nodeAt_ofNode_cons, hnone]
          | cons y ys =>
            rw [List.dropLast_cons_of_ne_nil (List.cons_ne_nil y ys)] at hparent
            rw [nodeAt_directory_cons] at hparent hfree ⊢
            cases hf : SortedMap.find? x entries with
            | none =>
              rw [hf] at hparent
              exact absurd hparent (by simp)
            | some inner =>
              rw [hf] at hparent hfree
              exact ih (List.cons_ne_nil y ys) hparent hfree q
        · simp [hx]

end Tree

end PatternBook
