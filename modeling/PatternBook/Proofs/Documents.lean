import PatternBook.Proofs.SourceFiles

/-!
# Documents in their directory

Documents are written one after the other, each to a place of its own, so a document that has been
written stays as it is while the later ones are written.

* `writeDocuments_cases` -- documents are written up to the first that cannot be written, and none
  of them decides whether another one can be written (`writeDocuments_ok_iff`);
* `placeOf_documentPath` -- the document of a module is a name in the directory of documents, so
  different modules have different places, and none of them is that of a source
  (`not_isSupported_document`);
* `find_document`, `nodeAt_of_not_document` -- what is found once the documents of some modules have
  been written.
-/

namespace PatternBook

namespace Command

open FileSystem

/-! ## 1. Writing documents -/

theorem writeDocuments_cons (p : Path) (t : Text) (rest : List (Path × Text)) (fs : FileSystem) :
    (writeDocuments ((p, t) :: rest) : Editing _) fs =
      match fs.write p t with
      | (.error e, fs') => (.error (.unwritable p e), fs')
      | (.ok (), fs') => (writeDocuments rest : Editing _) fs' := by
  rw [writeDocuments, editing_bind, editing_write]
  obtain ⟨r, fs'⟩ := fs.write p t
  cases r <;> rfl

/-- Documents are written in turn, all of them or up to the first that cannot be written. -/
theorem writeDocuments_cases (docs : List (Path × Text)) (fs : FileSystem) :
    (∃ fs', (writeDocuments docs : Editing _) fs = (.ok (), fs') ∧ Wrote fs docs fs') ∨
    ∃ written p t rest e fs', docs = written ++ (p, t) :: rest ∧
      (writeDocuments docs : Editing _) fs = (.error (.unwritable p e), fs') ∧
      Wrote fs written fs' := by
  induction docs generalizing fs with
  | nil => exact .inl ⟨fs, rfl, .nil fs⟩
  | cons d docs ih =>
    obtain ⟨p, t⟩ := d
    rw [writeDocuments_cons]
    obtain ⟨e, he⟩ | ⟨_, _, hwrite, -⟩ := write_cases fs p t
    · rw [he]
      exact .inr ⟨[], p, t, docs, e, fs, rfl, rfl, .nil fs⟩
    · rw [hwrite]
      obtain ⟨fs', hdocs, hwrote⟩ | ⟨written, q, s, rest, e, fs', rfl, hdocs, hwrote⟩ := ih _
      · exact .inl ⟨fs', hdocs, .cons hwrite hwrote⟩
      · exact .inr ⟨(p, t) :: written, q, s, rest, e, fs', rfl, hdocs, .cons hwrite hwrote⟩

/-- Documents can all be written if each of them can be written at the start. -/
theorem writeDocuments_ok_iff (docs : List (Path × Text)) (fs : FileSystem) :
    ((writeDocuments docs : Editing _) fs).1 = .ok () ↔
      ∀ d ∈ docs, (fs.write d.1 d.2).1 = .ok () := by
  induction docs generalizing fs with
  | nil => exact ⟨fun _ _ hd => absurd hd List.not_mem_nil, fun _ => rfl⟩
  | cons d docs ih =>
    obtain ⟨p, t⟩ := d
    rw [writeDocuments_cons, List.forall_mem_cons]
    cases hwrite : fs.write p t with
    | mk r fs' =>
      cases r with
      | error e => simp
      | ok u =>
        dsimp only
        rw [ih]
        -- the first document does not get in the way of the later ones
        simp only [(Wrote.cons hwrite (.nil fs')).write_ok_iff, true_and]

/-! ## 2. The places of documents -/

section

variable {m n : Text} (directory : Path) (format : Format)

theorem separator_notMem_document (hm : '/' ∉ m) : '/' ∉ m ++ ['.'] ++ format.extension := by
  cases format <;> simpa [Format.extension] using hm

/-- The name of a document is a name. -/
theorem isName_document (m : Text) : (m ++ ['.'] ++ format.extension).IsName := by
  have hlast : ∀ c, (m ++ ['.'] ++ format.extension).getLast? = some c → c ≠ '.' := by
    intro c hc
    cases format <;> simp [Format.extension] at hc <;> simp [← hc]
  refine ⟨by simp, fun h => ?_, fun h => ?_⟩
  · exact hlast '.' (by rw [h]; rfl) rfl
  · exact hlast '.' (by rw [h]; rfl) rfl

/-- A document is a name in the directory of documents. -/
theorem placeOf_documentPath (fs : FileSystem) (hm : '/' ∉ m) :
    fs.placeOf (documentPath directory format m) =
      fs.placeOf directory ++ [m ++ ['.'] ++ format.extension] := by
  rw [documentPath, placeOf, Path.components_join directory (isName_document format m)
    (separator_notMem_document format hm), List.foldl_append]
  rfl

/-- Different modules have their documents at different places. -/
theorem placeOf_documentPath_inj (fs : FileSystem) (hm : '/' ∉ m) (hn : '/' ∉ n)
    (h : fs.placeOf (documentPath directory format m) =
      fs.placeOf (documentPath directory format n)) : m = n := by
  rw [placeOf_documentPath directory format fs hm, placeOf_documentPath directory format fs hn] at h
  simpa using h

/-- No document has the extension of a source. -/
theorem not_isSupported_document (hm : '/' ∉ m) :
    Source.isSupported ⟨m ++ ['.'] ++ format.extension⟩ = false := by
  have hname := Path.fileName?_of_isName (isName_document format m)
    (separator_notMem_document format hm)
  rw [Source.isSupported, Path.extension?, hname, Option.bind_some]
  have hdot : ∀ c ∈ format.extension.reverse, (c != '.') = true := by
    cases format <;> simp [Format.extension]
  have hsplit : (m ++ ['.'] ++ format.extension).reverse =
      format.extension.reverse ++ '.' :: m.reverse := by
    simp
  have hdrop : (m ++ ['.'] ++ format.extension).reverse.dropWhile (· != '.') =
      '.' :: m.reverse := by
    rw [hsplit, List.dropWhile_append_of_pos hdot]
    rfl
  have htake : (m ++ ['.'] ++ format.extension).reverse.takeWhile (· != '.') =
      format.extension.reverse := by
    rw [hsplit, List.takeWhile_append_of_pos hdot]
    simp
  rw [Path.splitName, hdrop]
  split
  · rfl
  · rfl
  · have hformat : Source.extensions.contains format.extension = false := by
      cases format <;> decide
    rw [htake, List.reverse_reverse]
    exact hformat

end

/-- The name of a module of which something is left is the stem of a source. -/
theorem stem_of_patternsLeft {filters : List Filter} {sources : List (Path × Text)} {m : Text}
    (h : patternsLeft filters sources m ≠ []) :
    (∃ s ∈ sources, s.1.stem? = some m) ∧ '/' ∉ m := by
  obtain ⟨p, hp⟩ := List.exists_mem_of_ne_nil _ h
  obtain ⟨s, hs, -⟩ := List.mem_flatMap.1 (List.mem_filter.1 hp).1
  obtain ⟨hmem, hstem⟩ := List.mem_filter.1 hs
  have hstem' : s.1.stem? = some m := of_decide_eq_true hstem
  exact ⟨⟨s, hmem, hstem'⟩, Path.separator_notMem_stem? hstem'⟩

/-- What is left of the module of a single source. -/
theorem patternsLeft_singleton {filters : List Filter} {p : Path} {t m : Text}
    (hstem : p.stem? = some m) :
    patternsLeft filters [(p, t)] m = Filter.apply filters (Source.patterns t) := by
  simp [patternsLeft, hstem]

/-! ## 3. What is found afterwards -/

section

variable {made after : FileSystem} {directory : Path} {format : Format} {names : List Text}
  {text : Text → Text}

/-- A document that has been written is found where its path led before. -/
theorem resolve_document
    (h : Wrote made (names.map fun m => (documentPath directory format m, text m)) after) {m : Text}
    (hm : m ∈ names) : after.resolve (documentPath directory format m) =
      .ok (made.placeOf (documentPath directory format m)) :=
  h.resolve (d := (documentPath directory format m, text m)) (List.mem_map_of_mem hm)

/-- **The document of each module is found under its path.** -/
theorem find_document
    (h : Wrote made (names.map fun m => (documentPath directory format m, text m)) after)
    (hsorted : names.Pairwise (· < ·)) (hslash : ∀ m ∈ names, '/' ∉ m) {m : Text} (hm : m ∈ names) :
    after.find (documentPath directory format m) = .ok (.file (.text (text m))) := by
  have hplaces : (names.map fun m => (documentPath directory format m, text m)).Pairwise
      fun a b => made.placeOf a.1 ≠ made.placeOf b.1 := by
    refine List.pairwise_map.2 (hsorted.imp_of_mem fun {a b} ha hb hlt he => ?_)
    rw [placeOf_documentPath_inj directory format made (hslash a ha) (hslash b hb) he] at hlt
    exact List.lt_irrefl b hlt
  have hdoc : (documentPath directory format m, text m) ∈
      names.map fun m => (documentPath directory format m, text m) :=
    List.mem_map_of_mem hm
  exact find_eq_ok_iff.2 ⟨_, resolve_document h hm, h.nodeAt_of_mem hplaces hdoc⟩

/-- **Where no document was written, nothing has changed.** -/
theorem nodeAt_of_not_document
    (h : Wrote made (names.map fun m => (documentPath directory format m, text m)) after)
    {place : Place}
    (hplace : ∀ m ∈ names, after.resolve (documentPath directory format m) ≠ .ok place) :
    after.nodeAt place = made.nodeAt place := by
  refine h.nodeAt_of_ne fun d hd he => ?_
  obtain ⟨m, hm, rfl⟩ := List.mem_map.1 hd
  exact hplace m hm (he ▸ resolve_document h hm)

/-- Where a document was written, no source is. -/
theorem not_isSupported_of_resolve
    (h : Wrote made (names.map fun m => (documentPath directory format m, text m)) after)
    (hslash : ∀ m ∈ names, '/' ∉ m) {m : Text} (hm : m ∈ names) {place : Place} {name : Text}
    (hplace : after.resolve (documentPath directory format m) = .ok (place ++ [name])) :
    Source.isSupported ⟨name⟩ = false := by
  have hdoc := Except.ok.inj ((resolve_document h hm).symm.trans hplace)
  rw [placeOf_documentPath directory format made (hslash m hm)] at hdoc
  obtain ⟨rfl⟩ := List.append_inj_right' hdoc rfl
  exact not_isSupported_document format (hslash m hm)

/-- Different modules have their documents at different places. -/
theorem resolve_document_ne
    (h : Wrote made (names.map fun m => (documentPath directory format m, text m)) after)
    (hslash : ∀ m ∈ names, '/' ∉ m) {m n : Text} (hm : m ∈ names) (hn : n ∈ names) (hne : m ≠ n) :
    after.resolve (documentPath directory format m) ≠
      after.resolve (documentPath directory format n) := by
  rw [resolve_document h hm, resolve_document h hn]
  intro he
  exact hne (placeOf_documentPath_inj directory format made (hslash m hm) (hslash n hn)
    (Except.ok.inj he))

end

end Command

end PatternBook
