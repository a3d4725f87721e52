import ResourceScript.Proofs.Block.Line

/-!
# Stripping a row

When no other assignment comes first, stripping changes the row of the name only, provided that the
row has no comment and that its literal delimits itself: the statement that begins at the name ends
behind the literal.

## Main definitions

* `Block.Row.withLiteral`: a row with another literal.

## Main results

* `Unquote.stripQuotes_row`: the row of the name loses its paired quotes.
* `Unquote.assignedRest?_linesOf`: rows in which the name is not assigned are passed over.
-/

namespace ResourceScript

/-- A row with another literal. -/
def Block.Row.withLiteral (r : Block.Row) (literal : Text) : Block.Row :=
  { r with literal := literal }

namespace Unquote

open Text (IsName isBlank)
open Block

variable {settings : Settings} {width : Nat} {r : Row} {before : List Row} {bodies : List Text}
  {bare rest name t : Text}

theorem line_withLiteral (settings : Settings) (width : Nat) (r : Row) (literal : Text) :
    (r.withLiteral literal).line settings width =
      settings.indent ++ (r.header width ++ (literal ++ r.tail settings)) :=
  Row.line_eq settings width (r.withLiteral literal)

section Rows

variable (hblank : ∀ c ∈ settings.lineTerminator, isBlank c)

include hblank

/-- A row in which the name is not assigned is passed over. -/
theorem assignedRest?_line (hname : IsName name) (hr : IsName r.name) (hne : name ≠ r.name)
    (hcomment : r.comment = []) (hliteral : Delimited bodies r.literal bare)
    (hbodies : ∀ body ∈ bodies, assignedRest? name false body = none) :
    assignedRest? name true (r.line settings width ++ t) = assignedRest? name true t := by
  rw [assignedRest?_line_of_ne hr hname hne, Row.tail_of_comment_eq_nil hcomment,
    Settings.statementEnd, List.cons_append, hliteral.assignedRest?_append hname hbodies,
    assignedRest?_lineTerminator hblank hname]

omit hblank in
/-- Rows in which the name is not assigned are passed over. -/
theorem assignedRest?_linesOf
    (h : ∀ r ∈ before, ∀ t, assignedRest? name true (r.line settings width ++ t) =
      assignedRest? name true t) (t : Text) :
    assignedRest? name true (linesOf settings width before ++ t) = assignedRest? name true t := by
  induction before with
  | nil => rfl
  | cons r before ih =>
    rw [linesOf_cons, List.append_assoc, h r List.mem_cons_self,
      ih fun m hm => h m (List.mem_cons_of_mem r hm)]

/-- **Stripping a row.** When no other assignment comes first, the row of the name loses the quotes
around the bodies of its literal, and the rest of the text stays as it is. -/
theorem stripQuotes_row (hr : IsName r.name) (hcomment : r.comment = [])
    (hliteral : Delimited bodies r.literal bare)
    (hend : ∀ body ∈ bodies, ¬ settings.statementEnd <:+: body)
    (hfirst : assignedRest? r.name true (linesOf settings width before ++
      (r.line settings width ++ rest)) =
        assignedRest? r.name true (r.line settings width ++ rest)) :
    stripQuotes settings false r.name (linesOf settings width before ++
      (r.line settings width ++ rest)) = .ok (linesOf settings width before ++
        ((r.withLiteral bare).line settings width ++ rest)) := by
  let u := linesOf settings width before ++ settings.indent
  let v := r.header width ++ r.literal
  let w := settings.statementEnd ++ rest
  have hsplit (literal : Text) : linesOf settings width before ++
      ((r.withLiteral literal).line settings width ++ rest) =
        u ++ (r.header width ++ literal ++ w) := by
    simp [u, w, line_withLiteral, Row.tail_of_comment_eq_nil hcomment]
  have hself : r.withLiteral r.literal = r := rfl
  have hassign : assignedRest? r.name true (u ++ (v ++ w)) = some (v ++ w) := by
    rw [← hsplit, hself, hfirst, assignedRest?_line_self hr, Row.tail_of_comment_eq_nil hcomment]
    simp [v, w]
  have hstop : Text.find? settings.statementEnd (v ++ w) = some v.length := by
    simp only [v, w]
    rw [List.append_assoc, find?_header hr, hliteral.find?_statementEnd hblank hend,
      Option.map_some, List.length_append, Nat.add_comm]
  have heven : Even (quotesWithin false u.length v).length := by
    rw [(isSealed_header hr).quotesWithin_append]
    exact hliteral.even_quotes _
  have hdrop : dropQuotes false v = r.header width ++ bare := by
    rw [(isSealed_header hr).dropQuotes_append, hliteral.dropQuotes_eq]
  have hu : escapesNext false u = false := escapesNext_linesOf_append_indent hblank before
  rw [hsplit, ← hdrop, ← stripQuotes_of_even hassign hstop hu heven, ← hsplit, hself]

end Rows

end Unquote

end ResourceScript
