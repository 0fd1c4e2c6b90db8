import PatternBook.Glob.Walk
import PatternBook.Proofs.FileChanges
import PatternBook.Proofs.PathLeads

/-!
# Where a glob goes

A glob of which no piece leads to the directory above goes down from where it starts: each step of its
walk adds a name (`reached_walk`). A glob from the root has paths that begin at the root. Any other has
paths that begin with a name: it drops the current directory in front of names, however often the glob
spells it.

* `of_ofText` -- the pieces are read off parts of the text, so none of them holds a separator;
* `Reached` -- where a walk may stand; `Descends` -- what it needs of a piece to go down;
* `reached_stepFrom` -- one step, over a text, the special names and the names of a directory;
* `reached_expand` -- the paths of a glob.
-/

namespace PatternBook

open FileSystem

/-! ## 1. The pieces of a glob -/

namespace Glob

/-- A bracket stands for none of its characters alone, and what it leaves over is part of the text. -/
theorem subset_bracketToken? {t after : Text} {token : Token} {n : Nat}
    (h : bracketToken? t = some (token, n, after)) : after ⊆ t ∧ ∀ c, token ≠ .literal c := by
  have hcut : ∀ {c : Char} {rest inner after : Text}, Text.cut? rest [']'] = some (inner, after) →
      after ⊆ c :: rest := by
    intro c rest inner after hcut
    rw [Text.eq_of_cut? hcut]
    intro d hd
    simp [hd]
  unfold bracketToken? at h
  split at h
  · obtain ⟨⟨inner, after'⟩, hc, he⟩ := Option.map_eq_some_iff.1 h
    cases he
    exact ⟨List.subset_cons_of_subset _ (hcut hc), nofun⟩
  · cases h
  · cases h
  · obtain ⟨⟨inner, after'⟩, hc, he⟩ := Option.map_eq_some_iff.1 h
    cases he
    exact ⟨hcut hc, nofun⟩

theorem map_cons_eq_ok {read : Except GlobError (List Token)} {token : Token} {piece : List Token}
    (h : read.map (token :: ·) = .ok piece) : ∃ rest, read = .ok rest ∧ piece = token :: rest := by
  cases read with
  | error e => cases h
  | ok rest =>
    cases h
    exact ⟨rest, rfl, rfl⟩

/-- A character that stands for itself is one of the text. -/
theorem mem_of_literal_mem {position : Nat} {previous : Option Char} {t : Text}
    {piece : List Token} (h : tokensFrom position previous t = .ok piece) {c : Char}
    (hc : .literal c ∈ piece) : c ∈ t := by
  fun_induction tokensFrom position previous t generalizing piece with
  | case1 =>
    cases h
    cases hc
  | case4 =>
    cases h
    simp at hc
  | case2 _ _ _ ih | case8 _ _ _ _ _ ih =>
    obtain ⟨rest, hrest, rfl⟩ := map_cons_eq_ok h
    exact List.mem_cons_of_mem _ (ih hrest (by simpa using hc))
  | case5 _ _ _ _ _ ih =>
    obtain ⟨rest, hrest, rfl⟩ := map_cons_eq_ok h
    have hmem := ih hrest (by simpa using hc)
    simp [hmem]
  | case10 _ _ _ _ _ _ hbracket ih =>
    obtain ⟨hafter, hne⟩ := subset_bracketToken? hbracket
    obtain ⟨rest, hrest, rfl⟩ := map_cons_eq_ok h
    have hlater := (List.mem_cons.1 hc).resolve_left fun hlit => hne c hlit.symm
    exact List.mem_cons_of_mem _ (hafter (ih hrest hlater))
  | case11 _ _ _ _ _ _ _ _ _ ih =>
    obtain ⟨rest, hrest, rfl⟩ := map_cons_eq_ok h
    rcases List.mem_cons.1 hc with hlit | hlater
    · cases hlit
      exact List.mem_cons_self
    · exact List.mem_cons_of_mem _ (ih hrest hlater)
  | case3 | case6 | case7 | case9 => cases h

theorem eq_map_of_literal? {piece : List Token} {name : Text} (h : literal? piece = some name) :
    piece = name.map .literal := by
  induction piece generalizing name with
  | nil =>
    cases h
    rfl
  | cons token piece ih =>
    cases token with
    | literal c =>
      obtain ⟨rest, hrest, rfl⟩ := Option.map_eq_some_iff.1 h
      rw [ih hrest, List.map_cons]
    | _ => cases h

theorem exists_of_mapM_tokens {parts : List Text} {pieces : List (List Token)}
    (h : parts.mapM tokens = .ok pieces) {piece : List Token} (hpiece : piece ∈ pieces) :
    ∃ part ∈ parts, tokens part = .ok piece := by
  induction parts generalizing pieces with
  | nil =>
    cases h
    cases hpiece
  | cons part parts ih =>
    rw [List.mapM_cons] at h
    cases hfirst : tokens part with
    | error e =>
      rw [hfirst] at h
      cases h
    | ok first =>
      cases hlater : parts.mapM tokens with
      | error e =>
        rw [hfirst, hlater] at h
        cases h
      | ok later =>
        rw [hfirst, hlater] at h
        cases h
        rcases List.mem_cons.1 hpiece with rfl | hpiece
        · exact ⟨part, List.mem_cons_self, hfirst⟩
        · obtain ⟨part', hpart', hread⟩ := ih hlater hpiece
          exact ⟨part', List.mem_cons_of_mem _ hpart', hread⟩

/-- The parts of a text are some of those between its separators. -/
theorem separator_notMem_of_mem_splitParts {t part : Text} (h : part ∈ splitParts t) :
    '/' ∉ part := by
  unfold splitParts at h
  dsimp only at h
  split at h
  · exact Text.notMem_of_mem_splitOn (List.dropLast_subset _ h)
  · exact Text.notMem_of_mem_splitOn h

/-- A glob starts at the root if its text does, and its pieces are read off parts of the text. -/
theorem of_ofText {t : Text} {g : Glob} (h : ofText t = .ok g) :
    g.isAbsolute = Path.isAbsolute ⟨t⟩ ∧
      ∀ piece ∈ g.pieces, ∃ part, '/' ∉ part ∧ tokens part = .ok piece := by
  unfold ofText at h
  cases htokens : tokens t with
  | error e =>
    rw [htokens] at h
    cases h
  | ok whole =>
    rw [htokens] at h
    dsimp only [bind, Except.bind] at h
    split at h
    · cases h
    · rename_i pieces hpieces
      cases h
      refine ⟨rfl, fun piece hpiece => ?_⟩
      dsimp only at hpiece
      generalize (if t.head? == some '/' then t.drop 1 else t) = rest at hpieces hpiece
      split at hpiece
      · obtain rfl := List.mem_singleton.1 hpiece
        exact ⟨[], List.not_mem_nil, by rw [tokens, tokensFrom]⟩
      · obtain ⟨part, hpart, hread⟩ := exists_of_mapM_tokens hpieces hpiece
        exact ⟨part, separator_notMem_of_mem_splitParts hpart, hread⟩

/-- A piece between separators stands for no text with a separator. -/
theorem separator_notMem_of_literal? {t : Text} {g : Glob} (h : ofText t = .ok g)
    {piece : List Token} (hpiece : piece ∈ g.pieces) {name : Text}
    (hname : literal? piece = some name) : '/' ∉ name := by
  obtain ⟨part, hpart, hread⟩ := (of_ofText h).2 piece hpiece
  intro hslash
  refine hpart (mem_of_literal_mem hread ?_)
  rw [eq_map_of_literal? hname]
  exact List.mem_map_of_mem hslash

/-! ## 2. Walks -/

/-- Where a walk stands that has gone down from the root, or from the current directory: there still, or
    behind names. The current directory stands in front of no names. -/
def Reached (cs : List Component) (path : Path) : Prop :=
  cs = [] ∧ path.components = [.current] ∨
    path.HasLead cs ∧ path.components ≠ [] ∧ path.components ≠ [.current]

/-- What a walk needs of a piece to go down: it does not lead to the directory above, and a text that it
    stands for is a single part of a path. -/
structure Descends (piece : List Token) : Prop where
  notAbove : ['.', '.'] ∉ specials piece
  single : ∀ name, literal? piece = some name → '/' ∉ name

theorem Descends.eq_of_mem_specials {piece : List Token} (h : Descends piece) {name : Text}
    (hmem : name ∈ specials piece) : name = ['.'] := by
  have hcases : name = ['.', '.'] ∨ name = ['.'] := by
    unfold specials at hmem
    split at hmem
    · simpa using (List.mem_filter.1 hmem).1
    · cases hmem
  rcases hcases with rfl | rfl
  · exact absurd hmem h.notAbove
  · rfl

section Reached

variable {fs : FileSystem} {cs : List Component} {path : Path} {name : Text}

theorem Reached.spelling_ne_nil (h : Reached cs path) : path.spelling ≠ [] := by
  intro hnil
  have hnone : path.components = [] := by
    rw [Path.components_eq, Path.parts, Path.isAbsolute, hnil]
    rfl
  rcases h with ⟨-, hcurrent⟩ | ⟨-, hne, -⟩
  · rw [hnone] at hcurrent
    cases hcurrent
  · exact hne hnone

/-- A walk that stands somewhere also stands there behind a part that is no component. -/
theorem Reached.join_nothing (h : Reached cs path) (hsep : '/' ∉ name)
    (hname : Path.innerComponents [name] = []) : Reached cs (path.join name) := by
  have hsame : (path.join name).components = path.components := by
    rw [Path.components_join_part h.spelling_ne_nil hsep, hname, List.append_nil]
  unfold Reached Path.HasLead at h ⊢
  rwa [hsame]

theorem Reached.child_name (h : Reached cs path) (hname : name.IsName ∧ '/' ∉ name) :
    Reached cs (child path name) := by
  unfold child
  rcases h with ⟨rfl, hcurrent⟩ | ⟨hlead, hne, hcurrent⟩
  · have hcomponents := Path.components_name hname.1 hname.2
    rw [if_pos (by rw [isCurrent, hcurrent]; rfl)]
    exact .inr ⟨⟨nofun, [name], hcomponents⟩, by simp [hcomponents], by simp [hcomponents]⟩
  · have hcomponents := Path.components_join path hname.1 hname.2
    rw [if_neg (by simpa [isCurrent] using hcurrent)]
    refine .inr ⟨hlead.join hname, ?_, fun hc => ?_⟩
    · simp [hcomponents]
    · -- the last component is the name
      rw [hcomponents] at hc
      have hlast := congrArg List.getLast? hc
      simp at hlast

/-- The current directory is reached where the walk stands. -/
theorem Reached.child_current (h : Reached cs path) : Reached cs (child path ['.']) := by
  unfold child
  split
  · rename_i hcurrent
    rcases h with ⟨rfl, -⟩ | ⟨-, -, hne⟩
    · exact .inl ⟨rfl, by decide +kernel⟩
    · exact absurd (beq_iff_eq.1 hcurrent) hne
  · exact h.join_nothing (by decide) rfl

/-- So is anything else that a text without a separator leads to, if it is not the directory above. -/
theorem Reached.child_text (h : Reached cs path) (hsep : '/' ∉ name) (hspecial : isSpecial name = false)
    (hthere : (fs.kind? (child path name)).isSome = true) : Reached cs (child path name) := by
  obtain ⟨hcurrent, hparent⟩ : name ≠ ['.'] ∧ name ≠ ['.', '.'] := by simpa [isSpecial] using hspecial
  by_cases hnil : name = []
  · subst hnil
    unfold child at hthere ⊢
    split at hthere
    · -- the empty path leads nowhere
      cases hthere
    · rename_i hother
      rw [if_neg hother]
      exact h.join_nothing hsep rfl
  · exact h.child_name ⟨⟨hnil, hcurrent, hparent⟩, hsep⟩

end Reached

/-- At each of the paths such a walk may stand. -/
def AllReached (cs : List Component) (paths : List Path) : Prop := ∀ p ∈ paths, Reached cs p

section Steps

variable {fs : FileSystem} {cs : List Component}

theorem AllReached.nil : AllReached cs [] := fun _ hp => absurd hp List.not_mem_nil

theorem AllReached.singleton {path : Path} (h : Reached cs path) : AllReached cs [path] :=
  List.forall_mem_singleton.2 h

theorem AllReached.append {l m : List Path} (hl : AllReached cs l) (hm : AllReached cs m) :
    AllReached cs (l ++ m) := fun p hp => (List.mem_append.1 hp).elim (hl p) (hm p)

theorem reached_gather {α : Type} {f : α → Viewing (List Path)} {l : List α}
    (h : ∀ a ∈ l, AllReached cs (f a fs)) : AllReached cs ((gather f l : Viewing _) fs) := by
  induction l with
  | nil => exact .nil
  | cons a l ih =>
    obtain ⟨ha, hl⟩ := List.forall_mem_cons.1 h
    exact ha.append (ih hl)

theorem reached_arrive (requireDir : Bool) {path : Path} (h : Reached cs path) :
    AllReached cs ((arrive requireDir path : Viewing _) fs) := by
  unfold arrive
  split
  · rw [viewing_bind, viewing_isDir]
    split
    · exact .singleton h
    · exact .nil
  · exact .singleton h

variable {walk : List (List Token) → Path → Viewing (List Path)}
  (hwalk : ∀ pieces path, (∀ piece ∈ pieces, Descends piece) → Reached cs path →
    AllReached cs (walk pieces path fs))
  (requireDir : Bool) {piece : List Token} {rest : List (List Token)} {path : Path} {name : Text}

include hwalk

theorem reached_proceed (hrest : ∀ piece ∈ rest, Descends piece) (h : Reached cs path) :
    AllReached cs (proceed walk requireDir rest path fs) := by
  unfold proceed
  split
  · exact reached_arrive requireDir h
  · exact hwalk rest path hrest h

theorem reached_matchChild (hrest : ∀ piece ∈ rest, Descends piece) (h : Reached cs path)
    (hname : name.IsName ∧ '/' ∉ name) :
    AllReached cs (matchChild walk requireDir rest path name fs) := by
  unfold matchChild
  split
  · exact .nil
  · split
    · exact reached_proceed hwalk requireDir (List.forall_mem_cons.1 hrest).2 (h.child_name hname)
    · exact .nil

theorem reached_visit (hpiece : Descends piece) (hrest : ∀ piece ∈ rest, Descends piece)
    (h : Reached cs path) (hname : name.IsName ∧ '/' ∉ name) :
    AllReached cs (visit walk requireDir piece rest path name fs) := by
  have hchild := h.child_name hname
  have hafter : ∀ later ∈ rest.dropWhile isRecursive, Descends later := fun later hlater =>
    hrest later ((List.dropWhile_sublist _).subset hlater)
  have hmatched := reached_matchChild hwalk requireDir hafter h hname
  unfold visit
  split
  · rw [viewing_bind, viewing_isDir]
    cases fs.kind? (child path name) == some .directory with
    | false =>
      dsimp only
      split
      · exact AllReached.nil.append .nil
      · exact hmatched.append .nil
    | true =>
      have hdeeper := hwalk _ _ (List.forall_mem_cons.2 ⟨hpiece, hafter⟩) hchild
      dsimp only
      split
      · exact (AllReached.singleton hchild).append hdeeper
      · exact hmatched.append hdeeper
  · exact reached_matchChild hwalk requireDir (List.forall_mem_cons.2 ⟨hpiece, hrest⟩) h hname

/-- A piece takes a walk down: a text that it stands for is a name, or no component at all; and of the
    two names that every directory has a piece with wildcards can only match the first. -/
theorem reached_stepFrom (hfs : fs.root.wellNamed = true) (hpiece : Descends piece)
    (hrest : ∀ piece ∈ rest, Descends piece) (h : Reached cs path) :
    AllReached cs (stepFrom walk requireDir piece rest path fs) := by
  have hgo : ∀ next, Reached cs next → AllReached cs (proceed walk requireDir rest next fs) :=
    fun next hnext => reached_proceed hwalk requireDir hrest hnext
  unfold stepFrom
  cases hliteral : literal? piece with
  | some name =>
    dsimp only
    split
    · rename_i hspecial
      rw [viewing_bind]
      split
      · refine hgo _ ?_
        obtain rfl | rfl : name = ['.'] ∨ name = ['.', '.'] := by simpa [isSpecial] using hspecial
        · exact h.child_current
        · rw [eq_map_of_literal? hliteral] at hpiece
          exact absurd (by decide +kernel) hpiece.notAbove
      · exact .nil
    · rename_i hspecial
      rw [viewing_bind, viewing_leads]
      split
      · rename_i hthere
        exact hgo _ (h.child_text (hpiece.single name hliteral) (by simpa using hspecial) hthere)
      · exact .nil
  | none =>
    dsimp only
    rw [viewing_bind, viewing_isDir]
    split
    · rw [viewing_bind, viewing_children]
      cases hnames : fs.children path with
      | error e => exact .nil
      | ok names =>
        refine AllReached.append (reached_gather fun name hmem => ?_)
          (reached_gather fun name hmem => ?_)
        · refine hgo _ ?_
          rw [hpiece.eq_of_mem_specials hmem]
          exact h.join_nothing (by decide) rfl
        · exact reached_visit hwalk requireDir hpiece hrest h (isName_of_children hfs hnames hmem)
    · exact .nil

end Steps

/-- **A walk goes down**, whatever number of steps it takes. -/
theorem reached_walk {fs : FileSystem} (hfs : fs.root.wellNamed = true) {cs : List Component}
    (requireDir : Bool) (steps : Nat) (pieces : List (List Token)) (path : Path)
    (hpieces : ∀ piece ∈ pieces, Descends piece) (h : Reached cs path) :
    AllReached cs ((walk requireDir steps pieces path : Viewing _) fs) := by
  induction steps generalizing pieces path with
  | zero => exact .nil
  | succ steps ih =>
    cases pieces with
    | nil => exact .nil
    | cons piece rest =>
      obtain ⟨hpiece, hrest⟩ := List.forall_mem_cons.1 hpieces
      exact reached_stepFrom ih requireDir hfs hpiece hrest h

/-- The paths of a glob begin at the root, or with names. -/
theorem reached_expand {fs : FileSystem} (hfs : fs.root.wellNamed = true) {g : Glob}
    (hg : ∀ piece ∈ g.pieces, Descends piece) :
    AllReached (if g.isAbsolute then [.root] else []) ((g.expand : Viewing _) fs) := by
  refine reached_walk hfs _ _ _ _ hg ?_
  split
  · have hroot : (⟨['/']⟩ : Path).components = [.root] := by decide +kernel
    exact .inr ⟨⟨by decide, [], hroot⟩, by simp [hroot], by simp [hroot]⟩
  · exact .inl ⟨rfl, by decide +kernel⟩

end Glob

end PatternBook
