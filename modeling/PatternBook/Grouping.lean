/-!
# Grouping a list at its headings

Some elements of a list are headings, and a heading owns the elements after it up to the next one.
`groupAt` gives what stands before the first heading and then each heading with what it owns.
-/

namespace PatternBook

/-- Groups a list at its headings, the elements of which `heading?` makes something. -/
def groupAt {α β : Type} (heading? : α → Option β) (l : List α) : List α × List (β × List α) :=
  l.foldr
    (fun a (lead, groups) =>
      match heading? a with
      | some b => ([], (b, lead) :: groups)
      | none => (a :: lead, groups))
    ([], [])

section

variable {α β : Type} {heading? : α → Option β}

@[simp] theorem groupAt_nil : groupAt heading? [] = ([], []) := rfl

/-- A heading at the front owns what stood before the first heading so far. -/
theorem groupAt_cons_heading {a : α} {b : β} (l : List α) (h : heading? a = some b) :
    groupAt heading? (a :: l)
      = ([], (b, (groupAt heading? l).1) :: (groupAt heading? l).2) := by
  simp [groupAt, h]

/-- An element at the front that is no heading stands before the first heading. -/
theorem groupAt_cons_plain {a : α} (l : List α) (h : heading? a = none) :
    groupAt heading? (a :: l) = (a :: (groupAt heading? l).1, (groupAt heading? l).2) := by
  simp [groupAt, h]

/-- Without a heading everything stands before the first one. -/
theorem groupAt_of_none {l : List α} (h : ∀ a ∈ l, heading? a = none) :
    groupAt heading? l = (l, []) := by
  induction l with
  | nil => rfl
  | cons a l ih =>
    rw [groupAt_cons_plain l (h a List.mem_cons_self),
      ih fun b hb => h b (List.mem_cons_of_mem a hb)]

/-- Where nothing stands before the first heading of the second part, the groups of two parts are
    those of the first and then those of the second. -/
theorem groupAt_append (l : List α) {m : List α} (h : (groupAt heading? m).1 = []) :
    groupAt heading? (l ++ m)
      = ((groupAt heading? l).1, (groupAt heading? l).2 ++ (groupAt heading? m).2) := by
  induction l with
  | nil => exact Prod.ext h rfl
  | cons a l ih =>
    rw [List.cons_append]
    cases ha : heading? a with
    | none => simp [groupAt_cons_plain _ ha, ih]
    | some b => simp [groupAt_cons_heading _ ha, ih]

/-- What stands before the first heading is part of the list. -/
theorem mem_of_mem_lead {a : α} {l : List α} (h : a ∈ (groupAt heading? l).1) : a ∈ l := by
  induction l with
  | nil => exact h
  | cons c l ih =>
    cases hc : heading? c with
    | some b =>
      rw [groupAt_cons_heading l hc] at h
      cases h
    | none =>
      rw [groupAt_cons_plain l hc] at h
      rcases List.mem_cons.1 h with h | h
      · exact h ▸ List.mem_cons_self
      · exact List.mem_cons_of_mem c (ih h)

/-- A group comes from a heading of the list, and what the heading owns is part of the list. -/
theorem mem_of_mem_groups {g : β × List α} {l : List α} (h : g ∈ (groupAt heading? l).2) :
    (∃ a ∈ l, heading? a = some g.1) ∧ ∀ a ∈ g.2, a ∈ l := by
  induction l with
  | nil => cases h
  | cons c l ih =>
    have hlater : g ∈ (groupAt heading? l).2 →
        (∃ a ∈ c :: l, heading? a = some g.1) ∧ ∀ a ∈ g.2, a ∈ c :: l := by
      intro hg
      obtain ⟨⟨a, ha, hb⟩, hown⟩ := ih hg
      exact ⟨⟨a, List.mem_cons_of_mem c ha, hb⟩, fun b hb => List.mem_cons_of_mem c (hown b hb)⟩
    cases hc : heading? c with
    | none =>
      rw [groupAt_cons_plain l hc] at h
      exact hlater h
    | some b =>
      rw [groupAt_cons_heading l hc] at h
      rcases List.mem_cons.1 h with h | h
      · subst h
        exact ⟨⟨c, List.mem_cons_self, hc⟩, fun a ha => List.mem_cons_of_mem c (mem_of_mem_lead ha)⟩
      · exact hlater h

end

end PatternBook
