import Mathlib.Algebra.Ring.Parity
import Mathlib.Data.List.DropRight
import ResourceScript.Proofs.Text.Deletion
import ResourceScript.Proofs.Text.Escape
import ResourceScript.Unquote.Quotes

/-!
# Unescaped quotes part by part

Whether a quote is escaped depends on the run of backticks before it, and of that run only its
parity matters. The parity is carried along from left to right, so the unescaped quotes of a text
that is put together are those of its parts, each part being read with the parity that the parts
before it leave. A *sealed* text, such as an escaped one, holds no unescaped quote and leaves the
next character unescaped.

## Main definitions

* `Unquote.escapesNext`: whether the character after a text is escaped.
* `Unquote.quotesWithin`: the unescaped quotes of a part of a text.
* `Unquote.dropQuotes`: a part of a text without its unescaped quotes.
* `Unquote.IsSealed`: the sealed texts.

## Main results

* `Unquote.quotesFrom_append`: counting backticks backwards finds the quotes of the parts.
* `Unquote.deleteFrom_eq_dropQuotes`: deleting the unescaped quotes of a part.
* `Unquote.isSealed_escape`: an escaped text is sealed.
-/

namespace ResourceScript.Unquote

open Text (escapeLead deleteFrom)

/-- Whether the character after a text is escaped, when `odd` tells whether the first character of
the text is: a backtick escapes the next character unless it is escaped itself. -/
def escapesNext (odd : Bool) : Text → Bool
  | [] => odd
  | c :: s => escapesNext (c == escapeLead && !odd) s

/-- The unescaped double quotes of a part of a text that begins at position `pos`. -/
def quotesWithin (odd : Bool) (pos : Nat) : Text → List Nat
  | [] => []
  | c :: s =>
    if c = '\x22' ∧ odd = false then pos :: quotesWithin false (pos + 1) s
    else quotesWithin (c == escapeLead && !odd) (pos + 1) s

/-- A part of a text without its unescaped double quotes. -/
def dropQuotes (odd : Bool) : Text → Text
  | [] => []
  | c :: s =>
    if c = '\x22' ∧ odd = false then dropQuotes false s
    else c :: dropQuotes (c == escapeLead && !odd) s

variable {odd : Bool} {pos : Nat} {s t u v : Text} {c : Char}

/-! ### Parts of a text -/

theorem escapesNext_append (s t : Text) :
    escapesNext odd (s ++ t) = escapesNext (escapesNext odd s) t := by
  induction s generalizing odd with
  | nil => rfl
  | cons c s ih => exact ih

theorem quotesWithin_append (s t : Text) : quotesWithin odd pos (s ++ t) =
    quotesWithin odd pos s ++ quotesWithin (escapesNext odd s) (pos + s.length) t := by
  induction s generalizing odd pos with
  | nil => rfl
  | cons c s ih =>
    have hpos : pos + (c :: s).length = pos + 1 + s.length := by simp; omega
    by_cases h : c = '\x22' ∧ odd = false
    · obtain ⟨rfl, rfl⟩ := h
      simp only [List.cons_append, quotesWithin, and_self, if_true, ih, escapesNext, hpos]
      rfl
    · simp only [List.cons_append, quotesWithin, h, if_false, ih, escapesNext, hpos]

theorem dropQuotes_append (s t : Text) :
    dropQuotes odd (s ++ t) = dropQuotes odd s ++ dropQuotes (escapesNext odd s) t := by
  induction s generalizing odd with
  | nil => rfl
  | cons c s ih =>
    by_cases h : c = '\x22' ∧ odd = false
    · obtain ⟨rfl, rfl⟩ := h
      simp only [List.cons_append, dropQuotes, and_self, if_true, ih, escapesNext]
      rfl
    · simp only [List.cons_append, dropQuotes, h, if_false, ih, escapesNext]

/-- The unescaped quotes of a part are double quotes inside of that part. -/
theorem of_mem_quotesWithin {p : Nat} (h : p ∈ quotesWithin odd pos s) :
    pos ≤ p ∧ p < pos + s.length ∧ s[p - pos]? = some '\x22' := by
  induction s generalizing odd pos with
  | nil => simp [quotesWithin] at h
  | cons c s ih =>
    have hstep : ∀ odd', p ∈ quotesWithin odd' (pos + 1) s →
        pos ≤ p ∧ p < pos + (c :: s).length ∧ (c :: s)[p - pos]? = some '\x22' := fun odd' hp => by
      obtain ⟨hle, hlt, hget⟩ := ih hp
      refine ⟨by omega, by simp only [List.length_cons]; omega, ?_⟩
      rw [show p - pos = p - (pos + 1) + 1 by omega, List.getElem?_cons_succ, hget]
    by_cases hc : c = '\x22' ∧ odd = false
    · simp only [quotesWithin, hc, and_self, if_true, List.mem_cons] at h
      rcases h with rfl | h
      · simp [hc.1]
      · exact hc.1 ▸ hstep false h
    · simp only [quotesWithin, hc, if_false] at h
      exact hstep _ h

/-- Where a part begins does not matter for the number of its quotes. -/
theorem length_quotesWithin (pos pos' : Nat) (s : Text) :
    (quotesWithin odd pos s).length = (quotesWithin odd pos' s).length := by
  induction s generalizing odd pos pos' with
  | nil => rfl
  | cons c s ih =>
    by_cases h : c = '\x22' ∧ odd = false
    · simp only [quotesWithin, h, and_self, if_true, List.length_cons, ih (pos + 1) (pos' + 1)]
    · simp only [quotesWithin, h, if_false, ih (pos + 1) (pos' + 1)]

/-- The quotes of a part that begins later stand as much later. -/
theorem quotesWithin_add (k : Nat) (s : Text) :
    quotesWithin odd (pos + k) s = (quotesWithin odd pos s).map (· + k) := by
  induction s generalizing odd pos with
  | nil => rfl
  | cons c s ih =>
    have hpos : pos + k + 1 = pos + 1 + k := Nat.add_right_comm pos k 1
    by_cases h : c = '\x22' ∧ odd = false
    · simp only [quotesWithin, h, and_self, if_true, List.map_cons, hpos, ih]
    · simp only [quotesWithin, h, if_false, hpos, ih]

/-- A part is cut behind some of its unescaped quotes, right behind the last of them. -/
theorem exists_append_of_quotesWithin_eq {qs rest : List Nat}
    (h : quotesWithin odd pos s = qs ++ rest) : ∃ u v, s = u ++ v ∧ quotesWithin odd pos u = qs ∧
      quotesWithin (escapesNext odd u) (pos + u.length) v = rest ∧
      (u = [] ∨ ∃ q ∈ qs, q + 1 = pos + u.length) := by
  induction s generalizing odd pos qs with
  | nil =>
    obtain ⟨rfl, rfl⟩ := List.append_eq_nil_iff.mp h.symm
    exact ⟨[], [], rfl, rfl, rfl, Or.inl rfl⟩
  | cons c s ih =>
    cases qs with
    | nil => exact ⟨[], c :: s, rfl, rfl, h, Or.inl rfl⟩
    | cons q qs =>
      by_cases hc : c = '\x22' ∧ odd = false
      · obtain ⟨rfl, rfl⟩ := hc
        simp only [quotesWithin, and_self, if_true, List.cons_append, List.cons.injEq] at h
        obtain ⟨rfl, htail⟩ := h
        obtain ⟨u, v, rfl, hu, hv, hlast⟩ := ih htail
        refine ⟨'\x22' :: u, v, rfl, by simp [quotesWithin, hu], ?_, Or.inr ?_⟩
        · rw [List.length_cons, ← Nat.add_assoc, Nat.add_right_comm]
          exact hv
        · rcases hlast with rfl | ⟨q, hq, hlast⟩
          · exact ⟨pos, List.mem_cons_self, rfl⟩
          · exact ⟨q, List.mem_cons_of_mem _ hq, by rw [hlast, List.length_cons]; omega⟩
      · simp only [quotesWithin, hc, if_false] at h
        obtain ⟨u, v, rfl, hu, hv, hlast⟩ := ih h
        refine ⟨c :: u, v, rfl, by simp only [quotesWithin, hc, if_false, hu], ?_, Or.inr ?_⟩
        · rw [List.length_cons, ← Nat.add_assoc, Nat.add_right_comm]
          exact hv
        · rcases hlast with rfl | ⟨q, hq, hlast⟩
          · exact absurd hu (by simp [quotesWithin])
          · exact ⟨q, hq, by rw [hlast, List.length_cons]; omega⟩

/-! ### Without unescaped quotes -/

/-- A text without double quotes has none to lose. -/
theorem dropQuotes_of_notMem (h : '\x22' ∉ s) : dropQuotes odd s = s := by
  induction s generalizing odd with
  | nil => rfl
  | cons c s ih =>
    obtain ⟨hc, hs⟩ := not_or.mp (mt List.mem_cons.mpr h)
    simp only [dropQuotes, Ne.symm hc, false_and, if_false, ih hs]

/-- A part that lost its unescaped quotes leaves the next character as it was: a deleted quote was
unescaped, and so is what follows it. -/
theorem escapesNext_dropQuotes (odd : Bool) (s : Text) :
    escapesNext odd (dropQuotes odd s) = escapesNext odd s := by
  induction s generalizing odd with
  | nil => rfl
  | cons c s ih =>
    by_cases h : c = '\x22' ∧ odd = false
    · obtain ⟨rfl, rfl⟩ := h
      simp only [dropQuotes, and_self, if_true, ih]
      rfl
    · simp only [dropQuotes, h, if_false, escapesNext, ih]

/-- No quote that stays becomes unescaped. -/
theorem quotesWithin_dropQuotes (odd : Bool) (pos : Nat) (s : Text) :
    quotesWithin odd pos (dropQuotes odd s) = [] := by
  induction s generalizing odd pos with
  | nil => rfl
  | cons c s ih =>
    by_cases h : c = '\x22' ∧ odd = false
    · obtain ⟨rfl, rfl⟩ := h
      simp only [dropQuotes, and_self, if_true, ih]
    · simp only [dropQuotes, h, if_false, quotesWithin, ih]

/-! ### Counting backticks backwards -/

/-- A text escapes the next character exactly if it ends in an odd number of backticks. -/
theorem escapesNext_eq_true_iff : escapesNext false s = true ↔
    Odd (s.rtakeWhile (· == escapeLead)).length := by
  induction s using List.reverseRecOn with
  | nil => simp [escapesNext]
  | append_singleton s c ih =>
    rw [escapesNext_append]
    by_cases hc : c = escapeLead
    · rw [List.rtakeWhile_concat_pos _ _ _ (by simp [hc]), List.length_append,
        List.length_singleton, Nat.odd_add_one, ← ih]
      simp [escapesNext, hc]
    · rw [List.rtakeWhile_concat_neg _ _ _ (by simp [hc])]
      simp [escapesNext, hc]

theorem isEscaped_append_length (u v : Text) :
    isEscaped (u ++ v) u.length = escapesNext false u := by
  rw [Bool.eq_iff_iff, escapesNext_eq_true_iff, isEscaped, backticksBefore, List.take_left' rfl,
    beq_iff_eq, ← Nat.odd_iff, List.rtakeWhile, List.length_reverse]

private theorem filterMap_zipIdx_eq_quotesWithin (u s : Text) :
    (s.zipIdx u.length).filterMap (fun (c, i) =>
      if c = '\x22' ∧ !isEscaped (u ++ s) i then some i else none) =
      quotesWithin (escapesNext false u) u.length s := by
  induction s generalizing u with
  | nil => rfl
  | cons c s ih =>
    have hs := ih (u ++ [c])
    rw [List.append_assoc, List.singleton_append, List.length_append, List.length_singleton,
      escapesNext_append] at hs
    rw [List.zipIdx_cons, List.filterMap_cons, hs]
    simp only [isEscaped_append_length, quotesWithin, escapesNext]
    by_cases h : c = '\x22' ∧ escapesNext false u = false
    · simp [h, escapeLead]
    · have h' : ¬ (c = '\x22' ∧ (!escapesNext false u) = true) := by simpa using h
      rw [if_neg h, if_neg h']

theorem quotes_eq_quotesWithin (s : Text) : quotes s = quotesWithin false 0 s :=
  filterMap_zipIdx_eq_quotesWithin [] s

/-- **The quotes of the parts.** The unescaped quotes from a position on, for which backticks are
counted backwards, are those of the rest of the text, read with the parity that the part before it
leaves. -/
theorem quotesFrom_append (u v : Text) :
    quotesFrom (u ++ v) u.length = quotesWithin (escapesNext false u) u.length v := by
  rw [quotesFrom, quotes_eq_quotesWithin, quotesWithin_append, List.filter_append,
    List.filter_eq_nil_iff.mpr, List.filter_eq_self.mpr, Nat.zero_add, List.nil_append]
  · intro p hp
    have := (of_mem_quotesWithin hp).1
    simpa using this
  · intro p hp
    have := (of_mem_quotesWithin hp).2.1
    simp only [decide_eq_true_eq]
    omega

/-- The next unescaped quote is the first one of the rest of the text. -/
theorem nextQuote?_append (u v : Text) :
    nextQuote? (u ++ v) u.length = (quotesWithin (escapesNext false u) u.length v).head? := by
  rw [nextQuote?, quotesFrom_append]

theorem mem_quotes_iff {q : Nat} :
    q ∈ quotes s ↔ s[q]? = some '\x22' ∧ isEscaped s q = false := by
  simp only [quotes, List.mem_filterMap, Prod.exists, List.mk_mem_zipIdx_iff_getElem?]
  constructor
  · rintro ⟨c, i, hget, h⟩
    split_ifs at h with hc
    obtain rfl := Option.some.inj h
    exact ⟨hc.1 ▸ hget, by simpa using hc.2⟩
  · rintro ⟨hget, hescaped⟩
    exact ⟨'\x22', q, hget, by simp [hescaped]⟩

theorem mem_quotesFrom_iff {q : Nat} : q ∈ quotesFrom s pos ↔ pos ≤ q ∧ q ∈ quotes s := by
  rw [quotesFrom, List.mem_filter, decide_eq_true_eq, and_comm]

/-! ### Deleting unescaped quotes -/

/-- Deleting from a part of a text, when the listed positions inside of that part are those of its
unescaped quotes. -/
theorem deleteFrom_eq_dropQuotes {positions : List Nat}
    (h : ∀ p, pos ≤ p → p < pos + s.length → (p ∈ positions ↔ p ∈ quotesWithin odd pos s)) :
    deleteFrom pos positions s = dropQuotes odd s := by
  rw [Text.deleteFrom_congr h]
  clear h
  induction s generalizing odd pos with
  | nil => rfl
  | cons c s ih =>
    have hnot : ∀ odd', pos ∉ quotesWithin odd' (pos + 1) s := fun odd' hp => by
      have := (of_mem_quotesWithin hp).1
      omega
    by_cases hc : c = '\x22' ∧ odd = false
    · simp only [quotesWithin, dropQuotes, hc, and_self, if_true]
      have htail : deleteFrom (pos + 1) (pos :: quotesWithin false (pos + 1) s) s =
          deleteFrom (pos + 1) (quotesWithin false (pos + 1) s) s := by
        refine Text.deleteFrom_congr fun p hle _ => ?_
        rw [List.mem_cons, or_iff_right (by omega)]
      rw [Text.deleteFrom_cons_of_mem List.mem_cons_self, htail, ih]
    · simp only [quotesWithin, dropQuotes, hc, if_false]
      rw [Text.deleteFrom_cons_of_notMem (hnot _), ih]

/-! ### Sealed texts -/

/-- A sealed text holds no unescaped quote and leaves the next character unescaped. -/
structure IsSealed (s : Text) : Prop where
  quotesWithin_eq : ∀ pos, quotesWithin false pos s = []
  escapesNext_eq : escapesNext false s = false

theorem isSealed_nil : IsSealed [] := ⟨fun _ => rfl, rfl⟩

theorem isSealed_cons (hq : c ≠ '\x22') (hb : c ≠ escapeLead) (h : IsSealed s) :
    IsSealed (c :: s) where
  quotesWithin_eq pos := by
    simp [quotesWithin, hq, beq_eq_false_iff_ne.mpr hb, h.quotesWithin_eq]
  escapesNext_eq := by simp [escapesNext, beq_eq_false_iff_ne.mpr hb, h.escapesNext_eq]

theorem IsSealed.append (hs : IsSealed s) (ht : IsSealed t) : IsSealed (s ++ t) where
  quotesWithin_eq pos := by
    rw [quotesWithin_append, hs.quotesWithin_eq, hs.escapesNext_eq, ht.quotesWithin_eq,
      List.append_nil]
  escapesNext_eq := by rw [escapesNext_append, hs.escapesNext_eq, ht.escapesNext_eq]

/-- A text without double quotes and backticks is sealed. -/
theorem isSealed_of_notMem (hq : '\x22' ∉ s) (hb : escapeLead ∉ s) : IsSealed s := by
  induction s with
  | nil => exact isSealed_nil
  | cons c s ih =>
    simp only [List.mem_cons, not_or] at hq hb
    exact isSealed_cons (Ne.symm hq.1) (Ne.symm hb.1) (ih hq.2 hb.2)

/-- **An escaped text is sealed.** Each quote in it has a backtick of its own, and so has each
backtick of the text that was escaped. -/
theorem isSealed_escape (allowVariables : Bool) (s : Text) :
    IsSealed (Text.escape allowVariables s) := by
  induction s with
  | nil => rw [Text.escape_nil]; exact isSealed_nil
  | cons c s ih =>
    cases hc : Text.isSpecial allowVariables c with
    | true =>
      rw [Text.escape_cons_of_isSpecial hc]
      refine ⟨fun pos => ?_, ?_⟩
      · simp [quotesWithin, escapeLead, ih.quotesWithin_eq]
      · simp [escapesNext, ih.escapesNext_eq]
    | false =>
      rw [Text.escape_cons_of_not_isSpecial hc]
      refine isSealed_cons ?_ (Text.ne_escapeLead_of_not_isSpecial hc) ih
      rintro rfl
      simp [Text.isSpecial_quote] at hc

/-- The rest of a sealed text is sealed, unless its first character is escaped. -/
theorem IsSealed.of_append (h : IsSealed (s ++ t)) (hs : escapesNext false s = false) :
    IsSealed t where
  quotesWithin_eq pos := by
    have hquotes := h.quotesWithin_eq 0
    rw [Unquote.quotesWithin_append, hs, List.append_eq_nil_iff] at hquotes
    rw [← List.length_eq_zero_iff, length_quotesWithin pos (0 + s.length), hquotes.2,
      List.length_nil]
  escapesNext_eq := by
    have hnext := h.escapesNext_eq
    rwa [escapesNext_append, hs] at hnext

theorem IsSealed.quotesWithin_append (h : IsSealed s) (t : Text) :
    quotesWithin false pos (s ++ t) = quotesWithin false (pos + s.length) t := by
  rw [Unquote.quotesWithin_append, h.quotesWithin_eq, h.escapesNext_eq, List.nil_append]

/-- The quotes around a sealed text are the first two of what they begin. -/
theorem IsSealed.quotesWithin_quoted (h : IsSealed s) (pos : Nat) (t : Text) :
    quotesWithin false pos ('\x22' :: (s ++ '\x22' :: t)) =
      pos :: (pos + 1 + s.length) :: quotesWithin false (pos + 1 + s.length + 1) t := by
  simp [quotesWithin, h.quotesWithin_append]

theorem IsSealed.dropQuotes_eq (h : IsSealed s) : dropQuotes false s = s := by
  have hnone : deleteFrom 0 [] s = dropQuotes false s :=
    deleteFrom_eq_dropQuotes fun p _ _ => by rw [h.quotesWithin_eq]
  rw [← hnone]
  exact Text.deleteFrom_of_forall_notMem fun p hp => absurd hp List.not_mem_nil

theorem IsSealed.dropQuotes_append (h : IsSealed s) (t : Text) :
    dropQuotes false (s ++ t) = s ++ dropQuotes false t := by
  rw [Unquote.dropQuotes_append, h.dropQuotes_eq, h.escapesNext_eq]

end ResourceScript.Unquote
