import PatternBook.Proofs.Decoration
import PatternBook.Proofs.OnePass

/-!
# The vote in one pass

Whether a body is decorated is decided before its stars are taken away, so the lines are counted with
their stars on, and fences are tracked a second time. This file reads the lines one by one as the
count does, and compares it with the reader of the tokens:

* `Tally` -- the two counts and whether a fence is open; `Tally.use` -- what a line is counted as;
* `Tally.run_eq` -- the counts are those of the lines that are not blank and whose bare counterparts
  stand outside all regions (`Body.candidates`);
* `Tally.leavesOut_eq` -- a line is left out as fenced where the place of its bare counterpart is not
  plain, and so it is with `Reader.fencedAt`;
* `places_framing_append` -- framing lines at the front change no place behind them;
* `Body.vote_agrees` -- so the count and the reader agree on every line that is left of a body that
  passes the vote.
-/

namespace PatternBook

/-! ## 1. The tally -/

/-- The count of a vote: the lines with a star, all lines that vote, and whether a fence is open. -/
structure Tally where
  decorated : Nat := 0
  nonBlank : Nat := 0
  inFence : Bool := false
  deriving DecidableEq

namespace Tally

/-- What a line is counted as. -/
inductive Use where
  | fenced
  | opener
  | blank
  | voter
  deriving DecidableEq

/-- Whether a line is left out of the vote as a part of a fence. -/
def Use.isFenced : Use → Bool
  | fenced | opener => true
  | blank | voter => false

/-- The use of a line. While a fence is open nothing else is asked of the line. -/
def use (t : Tally) (line : Text) : Use :=
  if t.inFence then .fenced
  else if (Fence.opening? (Body.undecorate line)).isSome then .opener
  else if Text.isAllBlank line then .blank
  else .voter

/-- Counts one line. -/
def step (t : Tally) (line : Text) : Tally :=
  match t.use line with
  | .fenced => { t with inFence := !Fence.isClosing (Body.undecorate line) }
  | .opener => { t with inFence := true }
  | .blank => t
  | .voter =>
    { t with
      nonBlank := t.nonBlank + 1
      decorated := t.decorated + if (Body.undecorate? line).isSome then 1 else 0 }

/-- Counts the lines of a body. -/
def run (lines : List Text) : Tally := lines.foldl step {}

/-- Whether the vote passes. -/
def passes (t : Tally) : Bool := decide (t.nonBlank < t.decorated * 2)

/-- Whether the line at a position is left out of the vote as a part of a fence, the lines before it
    having been counted. -/
def leavesOut (ls : List Text) (i : Nat) : Bool :=
  ls[i]?.any fun l => ((run (ls.take i)).use l).isFenced

end Tally

/-- The lines of a body that are not blank and whose counterparts without decoration stand outside all
    regions of the lines without decoration. -/
def Body.candidates (lines : List Text) : List Text :=
  ((lines.zip (places (lines.map undecorate))).filter fun (l, x) =>
    x.isPlain && !Text.isAllBlank l).map (·.1)

namespace Tally

/-! ## 2. One line -/

/-- One line leaves a fence open where the place of its bare counterpart leads inside. -/
theorem inFence_step (t : Tally) (line : Text) : (t.step line).inFence =
    (Line.Place.ofText t.inFence (Body.undecorate line)).leadsInside := by
  unfold step use
  cases hf : t.inFence with
  | true =>
    cases hc : Fence.isClosing (Body.undecorate line) <;>
      simp [Line.Place.ofText, Line.Place.leadsInside, hc]
  | false =>
    cases ho : Fence.opening? (Body.undecorate line) with
    | some lang => simp [Line.Place.ofText, Line.Place.leadsInside, ho]
    | none =>
      cases hb : line.isAllBlank <;> simp [Line.Place.ofText, Line.Place.leadsInside, ho, hf]

/-- A line is left out as fenced where the place of its bare counterpart is not plain. -/
theorem isFenced_use (t : Tally) (line : Text) : (t.use line).isFenced =
    !(Line.Place.ofText t.inFence (Body.undecorate line) == .plain) := by
  unfold use
  cases hf : t.inFence with
  | true =>
    cases hc : Fence.isClosing (Body.undecorate line) <;> simp [Line.Place.ofText, Use.isFenced, hc]
  | false =>
    cases ho : Fence.opening? (Body.undecorate line) with
    | some lang => simp [Line.Place.ofText, Use.isFenced, ho]
    | none => cases hb : line.isAllBlank <;> simp [Line.Place.ofText, Use.isFenced, ho]

/-- Whether a line that is met inside or outside a fence votes: it is not blank, and its bare
    counterpart is plain. -/
def votes (inside : Bool) (line : Text) : Bool :=
  Line.Place.ofText inside (Body.undecorate line) == .plain && !line.isAllBlank

/-- A line that votes is counted, and no other line is. -/
theorem counts_step (t : Tally) (line : Text) :
    (t.step line).nonBlank = t.nonBlank + (if votes t.inFence line then 1 else 0) ∧
    (t.step line).decorated = t.decorated +
      if votes t.inFence line && (Body.undecorate? line).isSome then 1 else 0 := by
  unfold step use votes
  cases hf : t.inFence with
  | true =>
    cases hc : Fence.isClosing (Body.undecorate line) <;> simp [Line.Place.ofText, hc]
  | false =>
    cases ho : Fence.opening? (Body.undecorate line) with
    | some lang => simp [Line.Place.ofText, ho]
    | none => cases hb : line.isAllBlank <;> simp [Line.Place.ofText, ho]

/-! ## 3. All lines -/

/-- The lines that vote among the given ones, the first of which is met inside or outside a fence. -/
def votersFrom (inside : Bool) (ls : List Text) : List Text :=
  ((ls.zip (placesBy id inside (ls.map Body.undecorate))).filter fun (l, x) =>
    x.isPlain && !Text.isAllBlank l).map (·.1)

theorem votersFrom_cons (inside : Bool) (l : Text) (ls : List Text) :
    votersFrom inside (l :: ls) = (if votes inside l then [l] else []) ++
      votersFrom (Line.Place.ofText inside (Body.undecorate l)).leadsInside ls := by
  unfold votersFrom
  rw [List.map_cons, placesBy, List.zip_cons_cons, List.filter_cons]
  show (if votes inside l then _ else _ : List (Text × Line)).map (·.1) = _
  cases votes inside l <;> rfl

/-- The counts of a tally grow by the lines that vote, and by those of them that carry a star. -/
theorem counts_foldl (ls : List Text) (t : Tally) :
    (ls.foldl step t).nonBlank = t.nonBlank + (votersFrom t.inFence ls).length ∧
    (ls.foldl step t).decorated =
      t.decorated + (votersFrom t.inFence ls).countP fun l => (Body.undecorate? l).isSome := by
  induction ls generalizing t with
  | nil => exact ⟨rfl, rfl⟩
  | cons l ls ih =>
    obtain ⟨hblank, hstar⟩ := ih (t.step l)
    obtain ⟨hblank', hstar'⟩ := counts_step t l
    rw [List.foldl_cons, hblank, hstar, hblank', hstar', inFence_step, votersFrom_cons,
      List.length_append, List.countP_append]
    cases votes t.inFence l with
    | false => exact ⟨by simp, by simp⟩
    | true => cases hs : (Body.undecorate? l).isSome <;> simp [hs] <;> omega

/-- **The count is that of the lines that are not blank and stand outside all regions once the stars
    are taken away.** -/
theorem run_eq (ls : List Text) :
    (run ls).nonBlank = (Body.candidates ls).length ∧
    (run ls).decorated = (Body.candidates ls).countP fun l => (Body.undecorate? l).isSome := by
  obtain ⟨hblank, hstar⟩ := counts_foldl ls {}
  exact ⟨hblank.trans (Nat.zero_add _), hstar.trans (Nat.zero_add _)⟩

/-- The lines that are left out of the vote as fenced are those whose bare counterparts are not
    plain. -/
theorem leavesOut_eq (ls : List Text) (i : Nat) :
    leavesOut ls i = (places (ls.map Body.undecorate))[i]?.any fun x => !x.isPlain := by
  rw [places, placesBy_map, List.getElem?_map, Option.any_map]
  exact any_fenced_foldl inFence_step isFenced_use ls i {}

end Tally

/-! ## 4. The vote -/

/-- The lines that vote, counted where they stand. -/
theorem Body.voters_eq_candidates (ls : List Text) : voters ls = candidates ls := by
  have hfrom : ∀ inside, (((placesBy undecorate inside ls).filter Line.isPlain).map (·.text)).filter
      (fun l => !Text.isAllBlank l) = Tally.votersFrom inside ls := by
    induction ls with
    | nil => intro inside; rfl
    | cons l ls ih =>
      intro inside
      rw [Tally.votersFrom_cons, ← ih, placesBy, List.filter_cons]
      cases hp : Line.Place.ofText inside (undecorate l) == .plain <;>
        cases hb : l.isAllBlank <;> simp [Line.isPlain, Tally.votes, hp, hb]
  rw [voters, filterMap_plain?_eq, flatMap_places]
  exact hfrom false

/-- **The tally decides the vote.** -/
theorem Tally.passes_run (ls : List Text) : (run ls).passes = Body.isDecorated ls := by
  obtain ⟨hblank, hstar⟩ := run_eq ls
  rw [passes, hblank, hstar, Body.isDecorated, Body.voters_eq_candidates, Nat.mul_comm]

/-! ## 5. Framing -/

/-- Framing lines at the front are plain, and change no place behind them. -/
theorem places_framing_append {top : List Text} (h : ∀ l ∈ top, Body.isFraming l = true)
    (ls : List Text) : places (top ++ ls) = top.map (⟨·, .plain⟩) ++ places ls := by
  induction top with
  | nil => rfl
  | cons l top ih =>
    have hopening : Fence.opening? l = none := by
      cases ho : Fence.opening? l with
      | none => rfl
      | some lang =>
        have hframing := h l List.mem_cons_self
        rw [Body.not_isFraming_of_opening? ho] at hframing
        cases hframing
    have hplain : Line.Place.ofText false l = .plain := by simp [Line.Place.ofText, hopening]
    rw [List.cons_append, places, placesBy, id, hplain]
    show _ :: places (top ++ ls) = _
    rw [ih fun m hm => h m (List.mem_cons_of_mem l hm)]
    rfl

/-- The lines between the framing have the places that they have among all lines. -/
theorem getElem?_places_core {top core bottom : List Text}
    (h : ∀ l ∈ top, Body.isFraming l = true) {i : Nat} (hi : i < core.length) :
    (places (top ++ core ++ bottom))[top.length + i]? = (places core)[i]? := by
  have hlength : (places core).length = core.length := by
    rw [← List.length_map (·.text), places, map_text_placesBy]
  obtain ⟨more, hmore⟩ := placesBy_append id false core bottom
  rw [List.append_assoc, places_framing_append h, ← List.length_map (fun l => (⟨l, .plain⟩ : Line)),
    List.getElem?_append_right (Nat.le_add_right _ _), Nat.add_sub_cancel_left,
    show places (core ++ bottom) = places core ++ more from hmore.symm,
    List.getElem?_append_left (by rwa [hlength])]

/-- **The vote and the tokens agree on what is fenced.** For every body, with its lines as they stand
    in the source (`raw`) and the same lines without decoration (`bare`):

    * what is left of it are the bare lines if the vote passes and the raw lines otherwise, without the
      framing lines at both ends, and nothing at all if all lines are framing;
    * the vote passes if of the lines that are not blank and whose bare counterparts stand outside all
      regions of the bare lines more than half carry a star;
    * the tally is what decides the vote, the reader is what gives the tokens, and if the vote passes,
      the tally leaves a line that is kept out of the count as fenced exactly if the reader takes it
      for a part of a fence, though the tally has also seen the framing at the front. -/
theorem Body.vote_agrees (body : Text) :
    let raw := rawLines body
    let bare := raw.map undecorate
    let chosen := if isDecorated raw then bare else raw
    Unframed chosen (lines body) ∧ ((∀ l ∈ chosen, isFraming l = true) → lines body = []) ∧
    (isDecorated raw = true ↔
      (candidates raw).length < 2 * (candidates raw).countP fun l => (undecorate? l).isSome) ∧
    (Tally.run raw).passes = isDecorated raw ∧
    (Reader.run (lines body)).finish = Token.ofLines (lines body) ∧
    (isDecorated raw = true → ∀ top bottom, bare = top ++ lines body ++ bottom →
      (∀ l ∈ top, isFraming l = true) → ∀ i < (lines body).length,
        Tally.leavesOut raw (top.length + i) = Reader.fencedAt (lines body) i) := by
  intro raw bare chosen
  have hunframed : Unframed chosen (lines body) := unframed_dropFraming chosen
  refine ⟨hunframed, fun hall => ?_, ?_, Tally.passes_run raw, Reader.finish_run _, ?_⟩
  · obtain ⟨top, bottom, hsplit, -, -⟩ := hunframed.split
    cases hlines : lines body with
    | nil => rfl
    | cons l ls =>
      have hmem : l ∈ chosen := by simp [hsplit, hlines]
      have hfirst := hunframed.first l (by rw [hlines]; rfl)
      rw [hall l hmem] at hfirst
      cases hfirst
  · rw [isDecorated, voters_eq_candidates, decide_eq_true_eq]
  · intro _ top bottom hbare htop i hi
    rw [Tally.leavesOut_eq, Reader.fencedAt_eq, show raw.map undecorate = bare from rfl, hbare,
      getElem?_places_core htop hi]

/-- A body with framing at both ends, of which one line that votes and the opening line of a region carry
    no star. -/
def Body.mixed : Text :=
  "\n---\n * @example\n\x60\x60\x60js\n * let x\n * \x60\x60\x60\n * ---\n".toList

/-- The body passes the vote. Of the lines that are left the tally has left out the last three, and the
    reader takes these three for a fence. -/
theorem Body.vote_agrees_mixed : isDecorated (rawLines mixed) = true ∧
    lines mixed = ["@example", "\x60\x60\x60js", "let x", "\x60\x60\x60"].map String.toList ∧
    (∀ i < (lines mixed).length,
      Tally.leavesOut (rawLines mixed) (2 + i) = Reader.fencedAt (lines mixed) i) ∧
    (List.range 4).map (Reader.fencedAt (lines mixed)) = [false, true, true, true] := by
  have hvote : isDecorated (rawLines mixed) = true := by decide +kernel
  obtain ⟨-, -, -, -, -, hagree⟩ := vote_agrees mixed
  refine ⟨hvote, by decide +kernel, ?_, by decide +kernel⟩
  exact hagree hvote [[], "---".toList] ["---".toList, []] (by decide +kernel) (by decide)

end PatternBook
