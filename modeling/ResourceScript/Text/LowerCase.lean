import ResourceScript.Text.Casing

/-!
# Lower-casing

The full lower-case mapping.  Each character has an image of its own, apart from two rules: the
capital `I` with a dot above becomes two characters, and a capital sigma becomes a final sigma
when a cased character precedes it and none follows it, case-ignorable characters aside.

## Main definitions

* `Text.lowerChar` : the image of one character without its neighbours.
* `Text.lowerCase` : the image of a text.

## Main results

* `Text.lowerCase_ascii` : on a text of ASCII characters the mapping is that of the core library.
-/

namespace ResourceScript.Text

/-- The lower-case image of a single character. -/
def lowerChar (c : Char) : Text :=
  if c.toNat < 0x80 then [c.toLower]
  else if c.toNat = 0x130 then ['i', Char.ofNat 0x307]
  else match capitalRuns.findSome? (·.image? c.toNat) with
    | some n => [Char.ofNat n]
    | none => [c]

/-- The capital sigma. -/
def capitalSigma : Char := Char.ofNat 0x3a3

/-- Whether the nearest character that is not case-ignorable is cased. -/
def nearestIsCased (s : Text) : Bool :=
  match s.dropWhile isCaseIgnorable with
  | [] => false
  | c :: _ => isCased c

/-- Lower-cases a text that follows the text with the characters `before`, the nearest first. -/
def lowerCaseAfter (before : Text) : Text → Text
  | [] => []
  | c :: s =>
    let image :=
      if c = capitalSigma then
        if nearestIsCased before && !nearestIsCased s then [Char.ofNat 0x3c2]
        else [Char.ofNat 0x3c3]
      else lowerChar c
    image ++ lowerCaseAfter (c :: before) s

/-- The lower-case image of a text. -/
def lowerCase (s : Text) : Text := lowerCaseAfter [] s

/-- On ASCII characters the mapping is that of the core library. -/
theorem lowerCase_ascii {s : Text} (h : ∀ c ∈ s, c.toNat < 0x80) :
    lowerCase s = s.map Char.toLower := by
  suffices ∀ before, lowerCaseAfter before s = s.map Char.toLower from this []
  induction s with
  | nil => simp [lowerCaseAfter]
  | cons c s ih =>
    intro before
    have hc : c.toNat < 0x80 := h c (by simp)
    have hsigma : c ≠ capitalSigma := by
      rintro rfl
      exact absurd hc (by decide)
    simp [lowerCaseAfter, hsigma, lowerChar, hc, ih fun d hd => h d (by simp [hd])]

end ResourceScript.Text
