/-!
# Maps in key order

A map kept as the list of its entries, each key once and the keys in increasing order. The order is
a field of the type, so two maps with the same entries are equal, and whatever reads a map meets
its keys in order. The operations are read through the entry list:

* `get?` looks a key up (`get?_eq_some_iff`), and `insert` writes one entry (`get?_insert`);
* `alter` rewrites the value at one key, whether or not it was there;
* `ofList` writes a list of entries in turn, so the last entry of a key stands (`ofList_toList`).
-/

namespace PatternBook

/-- A map from keys to values whose entries stand in the order of their keys. -/
structure SortedMap (κ υ : Type) [LT κ] where
  toList : List (κ × υ)
  sorted : toList.Pairwise fun a b => a.1 < b.1

namespace SortedMap

variable {κ υ : Type} [LT κ]

/-! ## 1. Equality -/

/-- Two maps with the same entries are the same map. -/
@[ext] theorem ext {m n : SortedMap κ υ} (h : m.toList = n.toList) : m = n := by
  cases m
  cases n
  cases h
  rfl

instance [DecidableEq κ] [DecidableEq υ] : DecidableEq (SortedMap κ υ) := fun m n =>
  decidable_of_iff (m.toList = n.toList) ⟨ext, fun h => h ▸ rfl⟩

/-! ## 2. Reading -/

/-- The map without entries. -/
def empty : SortedMap κ υ := ⟨[], List.Pairwise.nil⟩

instance : Inhabited (SortedMap κ υ) := ⟨empty⟩

/-- The keys, in order. -/
def keys (m : SortedMap κ υ) : List κ := m.toList.map (·.1)

/-- The value of the first entry with the key. -/
def find? [DecidableEq κ] (k : κ) : List (κ × υ) → Option υ
  | [] => none
  | (j, v) :: rest => if k = j then some v else find? k rest

/-- The value at a key. -/
def get? [DecidableEq κ] (m : SortedMap κ υ) (k : κ) : Option υ := find? k m.toList

/-- Whether the key has a value. -/
def contains [DecidableEq κ] (m : SortedMap κ υ) (k : κ) : Bool := (m.get? k).isSome

/-- The keys increase. -/
theorem keys_sorted (m : SortedMap κ υ) : m.keys.Pairwise (· < ·) :=
  List.pairwise_map.2 m.sorted

/-- A key below every key of the entries is not among them. -/
theorem find?_eq_none [DecidableEq κ] [Std.Irrefl fun a b : κ => a < b] {k : κ} {l : List (κ × υ)}
    (h : ∀ e ∈ l, k < e.1) : find? k l = none := by
  induction l with
  | nil => rfl
  | cons e rest ih =>
    have hk : k ≠ e.1 := by
      intro hk
      have hlt := h e List.mem_cons_self
      rw [← hk] at hlt
      exact Std.Irrefl.irrefl _ hlt
    simp only [find?, if_neg hk]
    exact ih fun d hd => h d (List.mem_cons_of_mem e hd)

/-- In increasing order no key hides another entry. -/
theorem find?_eq_some_iff [DecidableEq κ] [Std.Irrefl fun a b : κ => a < b] {k : κ} {v : υ}
    {l : List (κ × υ)} (h : l.Pairwise fun a b => a.1 < b.1) :
    find? k l = some v ↔ (k, v) ∈ l := by
  induction l with
  | nil => simp [find?]
  | cons e rest ih =>
    rw [List.pairwise_cons] at h
    unfold find?
    split
    · rename_i hk
      subst hk
      have hrest : (e.1, v) ∉ rest := fun hm => Std.Irrefl.irrefl _ (h.1 (e.1, v) hm)
      simp only [Option.some.injEq, List.mem_cons, hrest, or_false]
      exact ⟨fun hv => hv ▸ rfl, fun he => congrArg Prod.snd he.symm⟩
    · rename_i hk
      have hne : (k, v) ≠ e := fun he => hk (congrArg Prod.fst he)
      simp only [ih h.2, List.mem_cons, hne, false_or]

/-- The value at a key is that of its entry. -/
theorem get?_eq_some_iff [DecidableEq κ] [Std.Irrefl fun a b : κ => a < b] {m : SortedMap κ υ}
    {k : κ} {v : υ} : m.get? k = some v ↔ (k, v) ∈ m.toList :=
  find?_eq_some_iff m.sorted

/-- The keys are those that have a value. -/
theorem mem_keys_iff [DecidableEq κ] [Std.Irrefl fun a b : κ => a < b] {m : SortedMap κ υ} {k : κ} :
    k ∈ m.keys ↔ ∃ v, m.get? k = some v := by
  simp only [get?_eq_some_iff, keys, List.mem_map, Prod.exists, exists_and_right, exists_eq_right]

/-! ## 3. Writing -/

variable [DecidableEq κ] [DecidableLT κ]

/-- The entries with the value at `k` set to what `f` makes of the value there. -/
def alterEntries (k : κ) (f : Option υ → υ) : List (κ × υ) → List (κ × υ)
  | [] => [(k, f none)]
  | (j, v) :: rest =>
    if k = j then (k, f (some v)) :: rest
    else if k < j then (k, f none) :: (j, v) :: rest
    else (j, v) :: alterEntries k f rest

/-- Writing at a key brings in no key but that one. -/
theorem fst_mem_alterEntries {k : κ} {f : Option υ → υ} {l : List (κ × υ)} {e : κ × υ}
    (h : e ∈ alterEntries k f l) : e.1 = k ∨ ∃ v, (e.1, v) ∈ l := by
  induction l with
  | nil => simp_all [alterEntries]
  | cons d rest ih => grind [alterEntries]

/-- Looking a key up after a value has been written finds the value at its key, and what was there
    before at every other key. The order of the entries does not matter. -/
theorem find?_alterEntries_const (k j : κ) (v : υ) (l : List (κ × υ)) :
    find? j (alterEntries k (fun _ => v) l) = if j = k then some v else find? j l := by
  induction l with
  | nil => simp [alterEntries, find?]
  | cons d rest ih =>
    obtain ⟨i, w⟩ := d
    unfold alterEntries
    split
    · rename_i hk
      subst hk
      by_cases hj : j = k <;> simp [find?, hj]
    · rename_i hk
      split
      · by_cases hj : j = k <;> simp [find?, hj]
      · by_cases hj : j = i
        · subst hj
          simp [find?, Ne.symm hk]
        · simp [find?, hj, ih]

variable [Trans (fun a b : κ => a < b) (fun a b : κ => a < b) (fun a b : κ => a < b)]

/-- Looking a key up after a write finds what was written there, and what was there before at every
    other key. -/
theorem find?_alterEntries [Std.Irrefl fun a b : κ => a < b] (k j : κ) (f : Option υ → υ)
    {l : List (κ × υ)} (h : l.Pairwise fun a b => a.1 < b.1) :
    find? j (alterEntries k f l) = if j = k then some (f (find? k l)) else find? j l := by
  induction l with
  | nil => simp [alterEntries, find?]
  | cons d rest ih =>
    obtain ⟨i, v⟩ := d
    rw [List.pairwise_cons] at h
    have hbelow : k < i → find? k rest = none := fun hk =>
      find?_eq_none fun e he => Trans.trans hk (h.1 e he)
    unfold alterEntries
    split
    · rename_i hk
      subst hk
      by_cases hj : j = k <;> simp [find?, hj]
    · rename_i hk
      split
      · rename_i hki
        by_cases hj : j = k <;> simp [find?, hj, hk, hbelow hki]
      · by_cases hj : j = i
        · subst hj
          simp [find?, Ne.symm hk]
        · simp [find?, hj, hk, ih h.2]

/-- Writing at a key beyond all others adds an entry at the end. -/
theorem alterEntries_of_lt [Std.Irrefl fun a b : κ => a < b] {k : κ} (f : Option υ → υ)
    {l : List (κ × υ)} (h : ∀ e ∈ l, e.1 < k) : alterEntries k f l = l ++ [(k, f none)] := by
  induction l with
  | nil => rfl
  | cons d rest ih =>
    obtain ⟨j, v⟩ := d
    have hjk : j < k := h (j, v) List.mem_cons_self
    have hne : k ≠ j := by
      intro hk
      rw [hk] at hjk
      exact Std.Irrefl.irrefl _ hjk
    have hlt : ¬ k < j := fun hk => Std.Irrefl.irrefl j (Trans.trans hjk hk)
    rw [alterEntries, if_neg hne, if_neg hlt, ih fun e he => h e (List.mem_cons_of_mem _ he)]
    rfl

variable [Std.Trichotomous fun a b : κ => a < b]

/-- Writing at a key keeps the keys in order. -/
theorem sorted_alterEntries (k : κ) (f : Option υ → υ) {l : List (κ × υ)}
    (h : l.Pairwise fun a b => a.1 < b.1) :
    (alterEntries k f l).Pairwise fun a b => a.1 < b.1 := by
  induction l with
  | nil => simp [alterEntries]
  | cons d rest ih =>
    obtain ⟨j, v⟩ := d
    rw [List.pairwise_cons] at h
    unfold alterEntries
    split
    · rename_i hk
      subst hk
      exact List.pairwise_cons.2 h
    · rename_i hk
      split
      · rename_i hlt
        refine List.pairwise_cons.2 ⟨?_, List.pairwise_cons.2 h⟩
        intro e he
        rcases List.mem_cons.1 he with rfl | he
        · exact hlt
        · exact Trans.trans hlt (h.1 e he)
      · rename_i hlt
        have hjk : j < k := by
          by_cases hjk : j < k
          · exact hjk
          · exact absurd (Std.Trichotomous.trichotomous k j hlt hjk) hk
        refine List.pairwise_cons.2 ⟨?_, ih h.2⟩
        intro e he
        rcases fst_mem_alterEntries he with hek | ⟨w, hw⟩
        · exact hek ▸ hjk
        · exact h.1 (e.1, w) hw

/-- The map with the value at `k` set to what `f` makes of the value there. -/
def alter (m : SortedMap κ υ) (k : κ) (f : Option υ → υ) : SortedMap κ υ :=
  ⟨alterEntries k f m.toList, sorted_alterEntries k f m.sorted⟩

/-- The map with `v` at `k`. -/
def insert (m : SortedMap κ υ) (k : κ) (v : υ) : SortedMap κ υ := m.alter k fun _ => v

/-- The map of the entries of a list, in which the last entry of a key stands. -/
def ofList (l : List (κ × υ)) : SortedMap κ υ := l.foldl (fun m e => m.insert e.1 e.2) empty

/-- After `alter` the altered key holds what `f` made of its value, and every other key what it
    held before. -/
theorem get?_alter [Std.Irrefl fun a b : κ => a < b] (m : SortedMap κ υ) (k j : κ)
    (f : Option υ → υ) : (m.alter k f).get? j = if j = k then some (f (m.get? k)) else m.get? j :=
  find?_alterEntries k j f m.sorted

/-- After `insert` the key holds the value, and every other key what it held before. -/
theorem get?_insert (m : SortedMap κ υ) (k j : κ) (v : υ) :
    (m.insert k v).get? j = if j = k then some v else m.get? j :=
  find?_alterEntries_const k j v m.toList

/-- A map is written from its entries. -/
theorem ofList_toList [Std.Irrefl fun a b : κ => a < b] (m : SortedMap κ υ) :
    ofList m.toList = m := by
  -- the entries written so far are a front part of `m`, and the next key lies beyond them
  have hwrite : ∀ (l : List (κ × υ)) (n : SortedMap κ υ),
      ((n.toList ++ l).Pairwise fun a b => a.1 < b.1) →
      (l.foldl (fun m e => m.insert e.1 e.2) n).toList = n.toList ++ l := by
    intro l
    induction l with
    | nil =>
      intro n _
      exact (List.append_nil n.toList).symm
    | cons e l ih =>
      intro n hn
      have hbelow : ∀ d ∈ n.toList, d.1 < e.1 := fun d hd =>
        (List.pairwise_append.1 hn).2.2 d hd e List.mem_cons_self
      have hinsert : (n.insert e.1 e.2).toList = n.toList ++ [e] := alterEntries_of_lt _ hbelow
      have hassoc : n.toList ++ [e] ++ l = n.toList ++ e :: l := by
        rw [List.append_assoc, List.singleton_append]
      rw [List.foldl_cons, ih _ (by rw [hinsert, hassoc]; exact hn), hinsert, hassoc]
  exact ext (hwrite m.toList empty m.sorted)

end SortedMap

end PatternBook
