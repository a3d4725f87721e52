import ResourceScript.Block.Render
import ResourceScript.Proofs.Block.Literal

/-!
# Writing rows one after the other

Rows are written one after the other, up to the first one of which the line cannot be written. What
fails there is seen from the width of the names and from the value of the row: no name can be padded
if the width cannot be counted, and otherwise only a value that already is a literal can fail to be
put in its line. The literals of all rows up to there have been made, so their users are to be
registered and their questions have been asked.

## Main definitions

* `Block.upTo`: the members of a list up to the first one with a property.
* `Block.failureAt?`: why the row of a value cannot be written.

## Main results

* `Block.writeRows_eq`: what is written, and the literals of which rows are made.
* `Block.failure?_rowOf`: the width and the value tell whether a row can be written.
-/

namespace ResourceScript.Block

/-- The members of a list up to the first one with a property, this one included. -/
def upTo {α : Type} (p : α → Bool) : List α → List α
  | [] => []
  | a :: l => if p a then [a] else a :: upTo p l

/-- Why the row of a value cannot be written in a column of the given width. -/
def failureAt? (width : Nat) (v : Value) : Option Failure :=
  if uncountableWidth ≤ width then some .uncountableWidth else v.literalFault?.map .literal

variable {width : Nat} {v : Value}

/-! ### Up to the first one -/

section UpTo

variable {α β : Type} {p : α → Bool} {l before after : List α} {a : α}

theorem upTo_sublist (p : α → Bool) (l : List α) : (upTo p l).Sublist l := by
  induction l with
  | nil => exact List.Sublist.refl _
  | cons a l ih =>
    rw [upTo]
    split
    · exact List.singleton_sublist.mpr List.mem_cons_self
    · exact ih.cons_cons a

theorem upTo_eq_self (h : ∀ a ∈ l, p a = false) : upTo p l = l := by
  induction l with
  | nil => rfl
  | cons a l ih =>
    obtain ⟨ha, hl⟩ := List.forall_mem_cons.mp h
    rw [upTo, ha, ih hl]
    rfl

/-- A list that is cut at the first member with the property. -/
theorem upTo_append_cons (hbefore : ∀ a ∈ before, p a = false) (ha : p a) (after : List α) :
    upTo p (before ++ a :: after) = before ++ [a] := by
  induction before with
  | nil => exact if_pos ha
  | cons b before ih =>
    obtain ⟨hb, hbefore⟩ := List.forall_mem_cons.mp hbefore
    rw [List.cons_append, upTo, hb, ih hbefore]
    rfl

theorem upTo_map (f : α → β) (p : β → Bool) (l : List α) :
    upTo p (l.map f) = (upTo (fun a => p (f a)) l).map f := by
  induction l with
  | nil => rfl
  | cons a l ih =>
    rw [List.map_cons, upTo, upTo, ih]
    split <;> rfl

end UpTo

/-! ### Rows -/

/-- **Writing rows.** The first row that cannot be written tells the failure; if there is none, all
lines are written. The literals of the rows up to there have been made. -/
theorem writeRows_eq (settings : Settings) (width : Nat) (rows : List Row) :
    writeRows settings width rows = renderingOf
      (match rows.findSome? (·.failure? width) with
        | some failure => .error failure
        | none => .ok (rows.map (Row.line settings width)).flatten)
      (upTo (fun r => (r.failure? width).isSome) rows) := by
  induction rows with
  | nil => rfl
  | cons r rows ih =>
    rw [writeRows, List.findSome?_cons, upTo]
    cases h : r.failure? width with
    | some failure => rfl
    | none =>
      simp only [ih, renderingOf, Option.isSome_none, Bool.false_eq_true, if_false,
        List.filterMap_cons]
      cases r.username <;> cases r.question <;> cases rows.findSome? (·.failure? width) <;> rfl

/-! ### Rows of values -/

/-- The width and the value tell whether a row can be written. -/
theorem failure?_rowOf (ctx : Context) (comments : List (Text × Text)) (nv : NamedValue)
    (width : Nat) : (rowOf ctx comments nv).failure? width = failureAt? width nv.value := by
  rw [Row.failure?, failureAt?, ← fault_rowLiteral ctx nv]
  rfl

/-- A row that cannot be written belongs to a column that is too wide or to a literal without text
form. -/
theorem isSome_failureAt?_iff : (failureAt? width v).isSome ↔
    uncountableWidth ≤ width ∨ v.isFormlessLiteral := by
  rw [failureAt?, ← v.isSome_literalFault?]
  split
  · next hwidth => exact iff_of_true rfl (Or.inl hwidth)
  · next hwidth => rw [or_iff_right hwidth, Option.isSome_map]

end ResourceScript.Block
