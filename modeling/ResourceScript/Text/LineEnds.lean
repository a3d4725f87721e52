import ResourceScript.Text.Basic

/-!
# Line ends

Texts from files end their lines with a carriage return, a line feed, or both.

## Main definitions

* `Text.normalizeLineEnds` : a text in which every line ends with a line feed.

## Main results

* `Text.carriageReturn_notMem` : no carriage return is left.
-/

namespace ResourceScript.Text

/-- Ends lines with a line feed.  `afterReturn` tells whether a carriage return precedes the
text; the line feed after it belongs to the same line end. -/
def normalizeLineEndsFrom (afterReturn : Bool) : Text → Text
  | [] => []
  | c :: s =>
    if c = '\r' then '\n' :: normalizeLineEndsFrom true s
    else if c = '\n' ∧ afterReturn then normalizeLineEndsFrom false s
    else c :: normalizeLineEndsFrom false s

/-- A text in which every line ends with a line feed. -/
def normalizeLineEnds (s : Text) : Text := normalizeLineEndsFrom false s

/-- No carriage return is left. -/
theorem carriageReturn_notMem (s : Text) : '\r' ∉ normalizeLineEnds s := by
  suffices ∀ b, '\r' ∉ normalizeLineEndsFrom b s from this false
  induction s with
  | nil => simp [normalizeLineEndsFrom]
  | cons c s ih =>
    intro b
    unfold normalizeLineEndsFrom
    split
    · simp [ih]
    · next h =>
      split
      · exact ih _
      · simp [ih, Ne.symm h]

end ResourceScript.Text
