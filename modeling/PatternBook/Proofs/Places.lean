import PatternBook.Comment.Token

/-!
# Places of lines

`segmentsBy` cuts a list of lines into plain lines and whole regions. This file reads the same lines
one by one instead, with one bit of state (inside a region or not), and gives each line its place:

* `placesBy` -- outside a region, a line that opens one does so; inside, the first line that closes
  it does so; a region that is never closed runs to the end;
* `flatMap_places` -- the two readings agree: the segments, written out line by line, are the places;
* `placesBy_append`, `placesBy_map` -- what follows cannot change the place of a line, and reading
  through a view is reading the viewed lines;
* `any_fenced_foldl` -- a loop over the lines that tracks regions in its own way is compared with the
  places by what it does with one line.
-/

namespace PatternBook

/-! ## 1. Lines with their places -/

/-- Where a line stands: outside all regions, or as the opening line, a line inside, or the closing
    line of a region. -/
inductive Line.Place where
  | plain
  | opener (lang : Option Text)
  | inner
  | closer
  deriving DecidableEq

/-- A line and its place. -/
structure Line where
  text : Text
  place : Line.Place
  deriving DecidableEq

namespace Line

/-- Whether the line stands outside all regions. -/
def isPlain (x : Line) : Bool := x.place == .plain

/-- Whether the line stands strictly inside a region. -/
def isInner (x : Line) : Bool := x.place == .inner

/-- The language of a line that opens a region. -/
def opens? (x : Line) : Option (Option Text) :=
  match x.place with
  | .opener lang => some lang
  | _ => none

/-- The tag of a tag line, which stands outside all regions, and what follows the tag. -/
def tag? (x : Line) : Option (Tag × Text) := if x.isPlain then Tag.ofLine? x.text else none

end Line

/-- The place of a line that is met inside or outside a region. -/
def Line.Place.ofText (inside : Bool) (line : Text) : Line.Place :=
  if inside then
    if Fence.isClosing line then .closer else .inner
  else
    match Fence.opening? line with
    | none => .plain
    | some lang => .opener lang

/-- Whether the line after a place is met inside a region. -/
def Line.Place.leadsInside : Line.Place → Bool
  | .plain | .closer => false
  | .opener _ | .inner => true

/-- Gives each line its place, reading it through `view`; `inside` says whether the first line
    is met inside a region. -/
def placesBy (view : Text → Text) (inside : Bool) : List Text → List Line
  | [] => []
  | l :: ls =>
    let place := Line.Place.ofText inside (view l)
    ⟨l, place⟩ :: placesBy view place.leadsInside ls

/-- The lines with their places. -/
def places (lines : List Text) : List Line := placesBy id false lines

/-! ## 2. One line, then the rest -/

/-- No line is lost, added or moved. -/
theorem map_text_placesBy (view : Text → Text) (inside : Bool) (ls : List Text) :
    (placesBy view inside ls).map (·.text) = ls := by
  induction ls generalizing inside with
  | nil => rfl
  | cons l ls ih => rw [placesBy, List.map_cons, ih]

/-- What follows does not change the places of the lines before it. -/
theorem placesBy_append (view : Text → Text) (inside : Bool) (ls ms : List Text) :
    placesBy view inside ls <+: placesBy view inside (ls ++ ms) := by
  induction ls generalizing inside with
  | nil => exact List.nil_prefix
  | cons l ls ih =>
    rw [List.cons_append, placesBy, placesBy, List.cons_prefix_cons]
    exact ⟨rfl, ih _⟩

/-- Reading through a view is reading the viewed lines. -/
theorem placesBy_map (view : Text → Text) (inside : Bool) (ls : List Text) :
    placesBy id inside (ls.map view) =
      (placesBy view inside ls).map fun x => ⟨view x.text, x.place⟩ := by
  induction ls generalizing inside with
  | nil => rfl
  | cons l ls ih =>
    rw [List.map_cons, placesBy, placesBy, List.map_cons, ih]
    rfl

/-- **A loop that tracks regions** as the places do, line by line, finds them where the places are. Its
    state says by `inside` whether a region is open, and `fenced` says whether it takes a line for a part
    of one. -/
theorem any_fenced_foldl {σ : Type} {step : σ → Text → σ} {inside : σ → Bool}
    {fenced : σ → Text → Bool} {view : Text → Text}
    (hstep : ∀ s l, inside (step s l) = (Line.Place.ofText (inside s) (view l)).leadsInside)
    (hfenced : ∀ s l, fenced s l = !(Line.Place.ofText (inside s) (view l) == .plain))
    (ls : List Text) (i : Nat) (s : σ) :
    (ls[i]?.any fun l => fenced ((ls.take i).foldl step s) l) =
      (placesBy view (inside s) ls)[i]?.any fun x => !x.isPlain := by
  induction ls generalizing i s with
  | nil => rfl
  | cons l ls ih =>
    rw [placesBy]
    cases i with
    | zero => exact hfenced s l
    | succ i =>
      rw [List.getElem?_cons_succ, List.getElem?_cons_succ, List.take_succ_cons, List.foldl_cons, ih,
        hstep]

/-! ## 3. Segments -/

/-- The lines of a region behind its opening line, with their places. -/
def Region.innerPlaces (r : Region) : List Line :=
  r.inner.map (⟨·, .inner⟩) ++ r.closer.toList.map (⟨·, .closer⟩)

/-- The lines of a segment with their places. -/
def Segment.places : Segment → List Line
  | .plain line => [⟨line, .plain⟩]
  | .fenced r => ⟨r.opener, .opener r.lang⟩ :: r.innerPlaces

/-- From inside a region, the lines up to the closing one stand inside, and behind it reading goes on
    outside. -/
theorem placesBy_inside (view : Text → Text) (ls : List Text) :
    placesBy view true ls =
      (ls.takeWhile fun l => !Fence.isClosing (view l)).map (⟨·, .inner⟩) ++
      (ls.dropWhile fun l => !Fence.isClosing (view l)).head?.toList.map (⟨·, .closer⟩) ++
      placesBy view false (ls.dropWhile fun l => !Fence.isClosing (view l)).tail := by
  induction ls with
  | nil => rfl
  | cons l ls ih =>
    cases h : Fence.isClosing (view l) with
    | true => simp [placesBy, Line.Place.ofText, Line.Place.leadsInside, h]
    | false => simp [placesBy, Line.Place.ofText, Line.Place.leadsInside, h, ih]

/-- **The two readings agree**: the segments, line by line, are the lines with their places. -/
theorem flatMap_places (view : Text → Text) (ls : List Text) :
    (segmentsBy view ls).flatMap Segment.places = placesBy view false ls := by
  fun_induction segmentsBy view ls with
  | case1 => rfl
  | case2 l ls h ih =>
    simp [placesBy, Line.Place.ofText, Line.Place.leadsInside, Segment.places, h, ih]
  | case3 l ls lang h isInner after ih =>
    simp [placesBy, Line.Place.ofText, Line.Place.leadsInside, Segment.places, Region.innerPlaces, h, ih,
      placesBy_inside, isInner, after]

theorem filter_isPlain_innerPlaces (r : Region) : r.innerPlaces.filter Line.isPlain = [] := by
  simp [Region.innerPlaces, List.filter_map, Line.isPlain, Function.comp_def]

/-- The plain lines of segments are their lines outside all regions. -/
theorem filterMap_plain?_eq (segs : List Segment) :
    segs.filterMap Segment.plain? =
      ((segs.flatMap Segment.places).filter Line.isPlain).map (·.text) := by
  induction segs with
  | nil => rfl
  | cons s segs ih =>
    rw [List.flatMap_cons, List.filter_append, List.map_append, ← ih]
    cases s with
    | plain line => rfl
    | fenced r =>
      have h : (Segment.fenced r).places.filter Line.isPlain = [] := by
        rw [Segment.places, List.filter_cons_of_neg (by simp [Line.isPlain])]
        exact filter_isPlain_innerPlaces r
      rw [h]
      rfl

/-- The plain lines are among the lines. -/
theorem mem_of_mem_plain? {view : Text → Text} {ls : List Text} {l : Text}
    (h : l ∈ (segmentsBy view ls).filterMap Segment.plain?) : l ∈ ls := by
  rw [filterMap_plain?_eq, flatMap_places] at h
  obtain ⟨x, hx, rfl⟩ := List.mem_map.1 h
  rw [← map_text_placesBy view false ls]
  exact List.mem_map_of_mem (List.mem_filter.1 hx).1

end PatternBook
