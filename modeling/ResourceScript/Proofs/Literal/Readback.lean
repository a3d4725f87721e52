import Mathlib.Data.List.Forall2
import ResourceScript.Literal.Format
import ResourceScript.Proofs.Text.Delimiter
import ResourceScript.Proofs.Text.Join

/-!
# Reading literals back

A literal of a text, a truth value, an integer or a list of texts or of integers tells the value
that it was written from, and it tells where it ends: followed by a separator it is determined by
any longer text that it begins. The reason differs from form to form. A text ends with its closing
quote, an integer with the first sign that is no digit, an array with its parenthesis, and the first
character tells the forms apart. Inside of an array the items are read one after another.

## Main definitions

* `Literal.IsItem`, `Literal.IsWritten`: the literals of items of arrays and of values.
* `Literal.isSeparator`: the signs that may follow a literal.

## Main results

* `Literal.IsItem.append_cons_inj`: items are read back.
* `Literal.items_append_inj`: the items of an array are read back.
* `Literal.IsWritten.append_cons_inj`: literals are read back.
-/

namespace ResourceScript.Literal

open Text (isNumeralChar)

/-- The literals of an item of an array, which is a text or an integer. -/
inductive IsItem : Value → Text → Prop
  | text (allowVariables : Bool) (s : Text) :
    IsItem (.text s) ('\x22' :: (Text.escape allowVariables s ++ ['\x22']))
  | int (n : Int) : IsItem (.int n) (Text.ofInt n)

/-- The literals of a value. A list without items about which nobody could tell its kind has a
literal of its own. -/
inductive IsWritten : Value → Text → Prop
  | item {v : Value} {l : Text} (h : IsItem v l) : IsWritten v l
  | bool (b : Bool) : IsWritten (.bool b) (formatBool (.bool b))
  | list {vs : List Value} {ls : List Text} (h : List.Forall₂ IsItem vs ls) :
    IsWritten (.list vs) (arrayOf [','] ls)
  | unanswered : IsWritten (.list []) ['[', ']']

/-- The signs that may follow a literal. -/
def isSeparator (c : Char) : Bool := c == ',' || c == ')' || c == ';'

variable {v w : Value} {vs ws : List Value} {l m : Text} {ls ms : List Text} {c d : Char}
  {s t u : Text}

theorem isNumeralChar_eq_false_of_isSeparator (h : isSeparator c) : isNumeralChar c = false := by
  simp only [isSeparator, Bool.or_eq_true, beq_iff_eq] at h
  rcases h with (rfl | rfl) | rfl <;> decide

/-! ### Items -/

/-- Items begin with a quote, a digit or a minus sign. -/
theorem IsItem.append_ne_cons (h : IsItem v l) (hquote : c ≠ '\x22')
    (hnumeral : isNumeralChar c = false) : l ++ s ≠ c :: t := by
  cases h with
  | text allowVariables r => exact fun heq => hquote (List.cons.inj heq).1.symm
  | int n =>
    obtain ⟨e, r, hr, he⟩ := Text.exists_ofInt_eq_cons n
    rw [hr]
    intro heq
    rw [(List.cons.inj heq).1, hnumeral] at he
    exact absurd he Bool.false_ne_true

/-- No numeral begins with a quote. -/
private theorem ofInt_append_ne_quote_cons {n : Int} : Text.ofInt n ++ s ≠ '\x22' :: t := by
  obtain ⟨c, r, hr, hc⟩ := Text.exists_ofInt_eq_cons n
  rw [hr]
  intro heq
  rw [(List.cons.inj heq).1] at hc
  exact absurd hc (by decide)

/-- Items are read back. -/
theorem IsItem.append_cons_inj (hv : IsItem v l) (hw : IsItem w m) (hc : isSeparator c)
    (hd : isSeparator d) (h : l ++ c :: t = m ++ d :: u) : v = w ∧ c = d ∧ t = u := by
  cases hv with
  | text allowVariables s =>
    cases hw with
    | text allowVariables' s' =>
      simp only [List.cons_append, List.append_assoc, List.nil_append] at h
      obtain ⟨rfl, hrest⟩ := Text.escape_append_quote_inj (List.cons.inj h).2
      exact ⟨rfl, List.cons.inj hrest⟩
    | int n => exact absurd h.symm ofInt_append_ne_quote_cons
  | int n =>
    cases hw with
    | text allowVariables' s' => exact absurd h ofInt_append_ne_quote_cons
    | int n' =>
      obtain ⟨rfl, hrest⟩ := Text.ofInt_append_cons_inj (isNumeralChar_eq_false_of_isSeparator hc)
        (isNumeralChar_eq_false_of_isSeparator hd) h
      exact ⟨rfl, hrest⟩

/-! ### Arrays -/

theorem isSeparator_of_mem (h : c ∈ [',', ')']) : isSeparator c := by
  simp only [List.mem_cons, List.not_mem_nil, or_false] at h
  rcases h with rfl | rfl <;> rfl

/-- **Reading items one after another.** The items of an array and what follows its parenthesis are
determined by the whole. -/
theorem items_append_inj (hv : List.Forall₂ IsItem vs ls) (hw : List.Forall₂ IsItem ws ms)
    (h : Text.joinWith [','] ls ++ ')' :: t = Text.joinWith [','] ms ++ ')' :: u) :
    vs = ws ∧ t = u :=
  Text.joinWith_append_inj
    (fun hv hw hc hd => hv.append_cons_inj hw (isSeparator_of_mem hc) (isSeparator_of_mem hd))
    (fun hv => hv.append_ne_cons (by decide) (by decide)) (by decide) hv hw h

/-! ### Literals -/

theorem isWritten_list_map {α : Type} {f : α → Value} {g : α → Text} (h : ∀ a, IsItem (f a) (g a))
    (as : List α) : IsWritten (.list (as.map f)) (arrayOf [','] (as.map g)) := by
  refine .list ?_
  rw [List.forall₂_map_left_iff, List.forall₂_map_right_iff, List.forall₂_same]
  exact fun a _ => h a

private theorem formatBool_append_inj {b b' : Bool}
    (h : formatBool (.bool b) ++ s = formatBool (.bool b') ++ t) : b = b' ∧ s = t := by
  have hne : ∀ r r' : Text, formatBool (.bool true) ++ r ≠ formatBool (.bool false) ++ r' := by
    intro r r' heq
    exact absurd (List.cons.inj (List.cons.inj heq).2).1 (by decide)
  cases b with
  | true =>
    cases b' with
    | true => exact ⟨rfl, List.append_cancel_left h⟩
    | false => exact absurd h (hne s t)
  | false =>
    cases b' with
    | true => exact absurd h.symm (hne t s)
    | false => exact ⟨rfl, List.append_cancel_left h⟩

/-- **Reading a literal.** A value and what follows its literal are determined by the whole, if a
separator follows. -/
theorem IsWritten.append_cons_inj (hv : IsWritten v l) (hw : IsWritten w m) (hc : isSeparator c)
    (hd : isSeparator d) (h : l ++ c :: t = m ++ d :: u) : v = w ∧ c = d ∧ t = u := by
  -- the first character tells the four forms apart
  cases hv with
  | item hv =>
    cases hw with
    | item hw => exact hv.append_cons_inj hw hc hd h
    | bool b => cases b <;> exact absurd h (hv.append_ne_cons (by decide) (by decide))
    | list _ => exact absurd h (hv.append_ne_cons (by decide) (by decide))
    | unanswered => exact absurd h (hv.append_ne_cons (by decide) (by decide))
  | bool b =>
    cases hw with
    | item hw => cases b <;> exact absurd h.symm (hw.append_ne_cons (by decide) (by decide))
    | bool b' =>
      obtain ⟨rfl, hrest⟩ := formatBool_append_inj h
      exact ⟨rfl, List.cons.inj hrest⟩
    | list _ => cases b <;> exact absurd (List.cons.inj h).1 (by decide)
    | unanswered => cases b <;> exact absurd (List.cons.inj h).1 (by decide)
  | list hv =>
    cases hw with
    | item hw => exact absurd h.symm (hw.append_ne_cons (by decide) (by decide))
    | bool b => cases b <;> exact absurd (List.cons.inj h).1 (by decide)
    | list hw =>
      simp only [arrayOf, List.cons_append, List.append_assoc, List.nil_append] at h
      obtain ⟨rfl, hrest⟩ := items_append_inj hv hw (List.cons.inj (List.cons.inj h).2).2
      exact ⟨rfl, List.cons.inj hrest⟩
    | unanswered => exact absurd (List.cons.inj h).1 (by decide)
  | unanswered =>
    cases hw with
    | item hw => exact absurd h.symm (hw.append_ne_cons (by decide) (by decide))
    | bool b => cases b <;> exact absurd (List.cons.inj h).1 (by decide)
    | list _ => exact absurd (List.cons.inj h).1 (by decide)
    | unanswered =>
      simp only [List.cons_append, List.nil_append, List.cons.injEq, true_and] at h
      exact ⟨rfl, h⟩

end ResourceScript.Literal
