import PatternBook.Text.Basic

/-!
# Block comments

A source text is read only for its block comments, which run from `/*` to the next `*/`. What
stands between comments is skipped, and an opening without an end stops the scan.
-/

namespace PatternBook

/-- The bodies of the closed comments of a text, in order, and the byte offset of the comment that
    is never closed, if there is one. -/
structure Comments where
  bodies : List Text
  unterminated : Option Nat
  deriving DecidableEq

namespace Comments

/-- The mark that opens a comment. -/
def opening : Text := ['/', '*']

/-- The mark that closes a comment. -/
def closing : Text := ['*', '/']

/-- What follows a comment is shorter than the text it stands in. -/
theorem length_rest_lt {t gap inside body rest : Text} (hgap : t.cut? opening = some (gap, inside))
    (hbody : inside.cut? closing = some (body, rest)) : rest.length < t.length := by
  have h₁ := Text.length_of_cut? hgap
  have h₂ := Text.length_of_cut? hbody
  have h₃ : opening.length = 2 := rfl
  omega

/-- The comments of a text that starts `offset` bytes into the source. -/
def scanFrom (offset : Nat) (t : Text) : Comments :=
  match _ : t.cut? opening with
  | none => ⟨[], none⟩
  | some (gap, inside) =>
    match _ : inside.cut? closing with
    | none => ⟨[], some (offset + gap.utf8Length)⟩
    | some (body, rest) =>
      let later := scanFrom (offset + gap.utf8Length + 2 + body.utf8Length + 2) rest
      ⟨body :: later.bodies, later.unterminated⟩
termination_by t.length
decreasing_by exact length_rest_lt ‹_› ‹_›

/-- The comments of a source text. -/
def scan (source : Text) : Comments := scanFrom 0 source

end Comments

end PatternBook
