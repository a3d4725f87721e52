import Mathlib.Data.List.Basic
import ResourceScript.Proofs.Text.Escape
import ResourceScript.Text.Numeral

/-!
# What can be read back

A text that is followed by a delimiter can be read back from the longer text, provided that no
delimiter stands in it. An escaped text is read back from what a double quote follows, whether or
not variables in it stay variables, since every double quote and every backtick of the text has a
backtick of its own. A numeral is read back from what no digit follows.

## Main definitions

* `Text.isNumeralChar`: the characters of the decimal numerals of integers.

## Main results

* `Text.append_cons_inj`: reading up to the first delimiter.
* `Text.escape_append_quote_inj`: reading an escaped text up to its closing quote.
* `Text.ofInt_injective`, `Text.ofInt_append_cons_inj`: reading a numeral.
-/

namespace ResourceScript.Text

variable {q : Char → Bool} {c d : Char} {s s' t t' : Text}

/-- **Reading up to the first delimiter.** Two texts without delimiters are the same, and what
follows them is the same, when a delimiter follows each and the longer texts are the same. -/
theorem append_cons_inj (hs : ∀ e ∈ s, q e = false) (hs' : ∀ e ∈ s', q e = false) (hc : q c)
    (hd : q d) (h : s ++ c :: t = s' ++ d :: t') : s = s' ∧ c = d ∧ t = t' := by
  induction s generalizing s' with
  | nil =>
    cases s' with
    | nil => exact ⟨rfl, List.cons.inj h⟩
    | cons e s' =>
      have hce : c = e := (List.cons.inj h).1
      rw [hce, hs' e List.mem_cons_self] at hc
      exact absurd hc Bool.false_ne_true
  | cons e s ih =>
    cases s' with
    | nil =>
      have hed : e = d := (List.cons.inj h).1
      rw [← hed, hs e List.mem_cons_self] at hd
      exact absurd hd Bool.false_ne_true
    | cons e' s' =>
      obtain ⟨rfl, htail⟩ := List.cons.inj h
      obtain ⟨rfl, hrest⟩ := ih (fun x hx => hs x (List.mem_cons_of_mem e hx))
        (fun x hx => hs' x (List.mem_cons_of_mem e hx)) htail
      exact ⟨rfl, hrest⟩

/-- Reading up to the first occurrence of one sign. -/
theorem append_cons_inj_of_notMem (hs : c ∉ s) (hs' : c ∉ s') (h : s ++ c :: t = s' ++ c :: t') :
    s = s' ∧ t = t' := by
  have hother {s : Text} (hs : c ∉ s) : ∀ e ∈ s, (e == c) = false := fun e he =>
    beq_eq_false_iff_ne.mpr fun hec => hs (hec ▸ he)
  obtain ⟨hst, -, hrest⟩ := append_cons_inj (hother hs) (hother hs') (beq_self_eq_true c)
    (beq_self_eq_true c) h
  exact ⟨hst, hrest⟩

/-! ### Escaped texts -/

/-- An escaped text before a quote begins with that quote only if it is empty. -/
private theorem quote_cons_ne_escape_cons {allowVariables : Bool} :
    '\x22' :: t ≠ escape allowVariables (c :: s) ++ t' := by
  intro h
  cases hc : isSpecial allowVariables c with
  | true =>
    rw [escape_cons_of_isSpecial hc] at h
    exact absurd (List.cons.inj h).1 (by decide)
  | false =>
    rw [escape_cons_of_not_isSpecial hc] at h
    rw [← (List.cons.inj h).1, isSpecial_quote] at hc
    exact absurd hc.symm Bool.false_ne_true

/-- A special character is not written like a character that is not special. -/
private theorem not_escapes_differently {a b : Bool} (hc : isSpecial a c)
    (hd : isSpecial b d = false) : escape a (c :: s) ++ t ≠ escape b (d :: s') ++ t' := by
  intro h
  rw [escape_cons_of_isSpecial hc, escape_cons_of_not_isSpecial hd] at h
  rw [← (List.cons.inj h).1, isSpecial_escapeLead] at hd
  exact absurd hd.symm Bool.false_ne_true

/-- **Reading an escaped text.** An escaped text and what follows its closing quote are determined
by the whole, also when variables stay variables in one of two texts only. -/
theorem escape_append_quote_inj {a b : Bool}
    (h : escape a s ++ '\x22' :: t = escape b s' ++ '\x22' :: t') : s = s' ∧ t = t' := by
  induction s generalizing s' with
  | nil =>
    rw [escape_nil, List.nil_append] at h
    cases s' with
    | nil =>
      rw [escape_nil] at h
      exact ⟨rfl, (List.cons.inj h).2⟩
    | cons d s' => exact absurd h quote_cons_ne_escape_cons
  | cons c s ih =>
    cases s' with
    | nil =>
      rw [escape_nil, List.nil_append] at h
      exact absurd h.symm quote_cons_ne_escape_cons
    | cons d s' =>
      cases hc : isSpecial a c <;> cases hd : isSpecial b d
      · rw [escape_cons_of_not_isSpecial hc, escape_cons_of_not_isSpecial hd] at h
        obtain ⟨rfl, htail⟩ := List.cons.inj h
        obtain ⟨rfl, hrest⟩ := ih htail
        exact ⟨rfl, hrest⟩
      · exact absurd h.symm (not_escapes_differently hd hc)
      · exact absurd h (not_escapes_differently hc hd)
      · rw [escape_cons_of_isSpecial hc, escape_cons_of_isSpecial hd] at h
        obtain ⟨rfl, htail⟩ := List.cons.inj (List.cons.inj h).2
        obtain ⟨rfl, hrest⟩ := ih htail
        exact ⟨rfl, hrest⟩

/-! ### Numerals -/

/-- A decimal digit or the minus sign. -/
def isNumeralChar (c : Char) : Bool := c.isDigit || c == '-'

theorem ofNat_injective : Function.Injective ofNat := by
  intro m n h
  calc
    m = Nat.ofDigitChars 10 (ofNat m) 0 := Nat.ofDigitChars_ten_toDigits.symm
    _ = Nat.ofDigitChars 10 (ofNat n) 0 := by rw [h]
    _ = n := Nat.ofDigitChars_ten_toDigits

theorem isDigit_of_mem_ofNat {n : Nat} (h : c ∈ ofNat n) : c.isDigit :=
  Nat.isDigit_of_mem_toDigits (by decide) (by decide) h

theorem isNumeralChar_of_mem_ofInt {n : Int} (h : c ∈ ofInt n) : isNumeralChar c := by
  cases n with
  | ofNat n => simp [isNumeralChar, isDigit_of_mem_ofNat h]
  | negSucc n =>
    rcases List.mem_cons.mp h with rfl | h
    · rfl
    · simp [isNumeralChar, isDigit_of_mem_ofNat h]

private theorem ofNat_ne_minus_cons {m n : Nat} : ofNat m ≠ '-' :: ofNat n := fun h =>
  absurd (isDigit_of_mem_ofNat (h ▸ List.mem_cons_self)) (by decide)

theorem ofInt_injective : Function.Injective ofInt := by
  intro m n h
  cases m with
  | ofNat m =>
    cases n with
    | ofNat n => exact congrArg Int.ofNat (ofNat_injective h)
    | negSucc n => exact absurd h ofNat_ne_minus_cons
  | negSucc m =>
    cases n with
    | ofNat n => exact absurd h.symm ofNat_ne_minus_cons
    | negSucc n =>
      have hsucc : m + 1 = n + 1 := ofNat_injective (List.cons.inj h).2
      exact congrArg Int.negSucc (Nat.succ.inj hsucc)

/-- A numeral begins with a digit or a minus sign. -/
theorem exists_ofInt_eq_cons (n : Int) : ∃ c s, ofInt n = c :: s ∧ isNumeralChar c := by
  have hne : ofInt n ≠ [] := by
    cases n with
    | ofNat n => exact Nat.toDigits_ne_nil
    | negSucc n => exact List.cons_ne_nil _ _
  obtain ⟨c, s, hs⟩ := List.exists_cons_of_ne_nil hne
  exact ⟨c, s, hs, isNumeralChar_of_mem_ofInt (hs ▸ List.mem_cons_self)⟩

/-- **Reading a numeral.** An integer and what follows its numeral are determined by the whole,
unless a digit or a minus sign follows. -/
theorem ofInt_append_cons_inj {m n : Int} (hc : isNumeralChar c = false)
    (hd : isNumeralChar d = false) (h : ofInt m ++ c :: t = ofInt n ++ d :: t') :
    m = n ∧ c = d ∧ t = t' := by
  obtain ⟨hmn, hrest⟩ := append_cons_inj (q := fun e => !isNumeralChar e)
    (fun e he => by simp [isNumeralChar_of_mem_ofInt he])
    (fun e he => by simp [isNumeralChar_of_mem_ofInt he]) (by simp [hc]) (by simp [hd]) h
  exact ⟨ofInt_injective hmn, hrest⟩

end ResourceScript.Text
