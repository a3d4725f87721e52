import ResourceScript.Proofs.Text.Search

/-!
# Replacing from match to match

A replacement goes through a text from match to match: a character where no match begins stays, and
a match is replaced by its image before the replacement goes on behind it. Along these steps one
sees which characters a replacement keeps, when it changes nothing, and when it may go through two
parts of a text on their own.

## Main results

* `Text.matchInduction`: induction along the steps of a replacement.
* `Text.filter_substituteMatches`, `Text.filter_replaceAll`: a replacement that keeps a class of
  characters.
* `Text.forall_eq_zero_of_length_le`: a replacement by shorter texts that does not shorten the text
  finds no match in it.
* `Text.substituteMatches_append`, `Text.replaceAll_append`: a replacement in two parts between
  which no match lies.
* `Text.replaceChar_nil_eq_filter`, `Text.replaceChar_singleton_eq_map`: a character that is left
  out, or replaced by another one.
-/

namespace ResourceScript.Text

variable {matchLength : Text → Nat} {image : Text → Text} {q : Char → Bool} {old new s t : Text}
  {c z : Char}

/-! ### The steps of a replacement -/

/-- What is still to be passed over belongs to a match that was replaced before. -/
theorem substituteMatchesFrom_eq (matchLength : Text → Nat) (image : Text → Text) (k : Nat)
    (s : Text) : substituteMatchesFrom matchLength image k s =
      substituteMatches matchLength image (s.drop k) := by
  induction s generalizing k with
  | nil => cases k <;> rfl
  | cons c s ih =>
    cases k with
    | zero => rfl
    | succ k => exact ih k

@[simp] theorem substituteMatches_nil (matchLength : Text → Nat) (image : Text → Text) :
    substituteMatches matchLength image [] = [] := rfl

theorem substituteMatches_cons_of_eq_zero (h : matchLength (c :: s) = 0) :
    substituteMatches matchLength image (c :: s) =
      c :: substituteMatches matchLength image s := by
  rw [substituteMatches, substituteMatchesFrom, h]
  rfl

theorem substituteMatches_of_ne_zero (hs : s ≠ []) (h : matchLength s ≠ 0) :
    substituteMatches matchLength image s = image (s.take (matchLength s)) ++
      substituteMatches matchLength image (s.drop (matchLength s)) := by
  obtain ⟨c, s, rfl⟩ := List.exists_cons_of_ne_nil hs
  obtain ⟨n, hn⟩ := Nat.exists_eq_succ_of_ne_zero h
  rw [substituteMatches, substituteMatchesFrom, hn]
  simp only [substituteMatchesFrom_eq]
  rfl

/-- **Induction along a replacement.** A text is empty, begins with a character that is kept, or
begins with a match. -/
@[elab_as_elim]
theorem matchInduction (matchLength : Text → Nat) {motive : Text → Prop} (nil : motive [])
    (kept : ∀ c s, matchLength (c :: s) = 0 → motive s → motive (c :: s))
    (matched : ∀ s, s ≠ [] → matchLength s ≠ 0 → motive (s.drop (matchLength s)) → motive s)
    (s : Text) : motive s := by
  by_cases hs : s = []
  · exact hs ▸ nil
  · by_cases hm : matchLength s = 0
    · obtain ⟨c, s, rfl⟩ := List.exists_cons_of_ne_nil hs
      exact kept c s hm (matchInduction matchLength nil kept matched s)
    · have hlt : (s.drop (matchLength s)).length < s.length := by
        have hpos : 0 < s.length := List.length_pos_iff.mpr hs
        rw [List.length_drop]
        omega
      exact matched s hs hm (matchInduction matchLength nil kept matched _)
termination_by s.length

/-! ### What a replacement keeps -/

/-- **Keeping a class of characters.** If the image of each match keeps the characters of a class,
then so does the whole replacement. -/
theorem filter_substituteMatches
    (h : ∀ s, matchLength s ≠ 0 → (image (s.take (matchLength s))).filter q =
      (s.take (matchLength s)).filter q) (s : Text) :
    (substituteMatches matchLength image s).filter q = s.filter q := by
  induction s using matchInduction matchLength with
  | nil => rfl
  | kept c s hc ih =>
    rw [substituteMatches_cons_of_eq_zero hc, List.filter_cons, List.filter_cons, ih]
  | matched s hs hm ih =>
    rw [substituteMatches_of_ne_zero hs hm, List.filter_append, h s hm, ih, ← List.filter_append,
      List.take_append_drop]

/-- A replacement keeps the last character if the image of each match does. -/
theorem getLast?_substituteMatches
    (h : ∀ s, matchLength s ≠ 0 → (image (s.take (matchLength s))).getLast? =
      (s.take (matchLength s)).getLast?) (s : Text) :
    (substituteMatches matchLength image s).getLast? = s.getLast? := by
  induction s using matchInduction matchLength with
  | nil => rfl
  | kept c s hc ih =>
    rw [substituteMatches_cons_of_eq_zero hc, List.getLast?_cons, List.getLast?_cons, ih]
  | matched s hs hm ih =>
    rw [substituteMatches_of_ne_zero hs hm, List.getLast?_append, h s hm, ih,
      ← List.getLast?_append, List.take_append_drop]

/-- A text in which no match begins is passed over. -/
theorem substituteMatches_append_of_forall_eq_zero
    (h : ∀ x, x <:+ s → x ≠ [] → matchLength (x ++ t) = 0) :
    substituteMatches matchLength image (s ++ t) = s ++ substituteMatches matchLength image t := by
  induction s with
  | nil => rfl
  | cons c s ih =>
    have hc : matchLength (c :: (s ++ t)) = 0 := h (c :: s) (List.suffix_refl _) (by simp)
    rw [List.cons_append, substituteMatches_cons_of_eq_zero hc,
      ih fun x hx => h x (hx.trans (List.suffix_cons c s))]
    rfl

theorem substituteMatches_eq_self (h : ∀ x, x <:+ s → x ≠ [] → matchLength x = 0) :
    substituteMatches matchLength image s = s := by
  have hnil : substituteMatches matchLength image (s ++ []) =
      s ++ substituteMatches matchLength image [] :=
    substituteMatches_append_of_forall_eq_zero fun x hx hne =>
      (List.append_nil x).symm ▸ h x hx hne
  simpa using hnil

/-! ### Shorter texts -/

section Shorter

variable (hshort : ∀ s, matchLength s ≠ 0 →
  (image (s.take (matchLength s))).length < (s.take (matchLength s)).length)

include hshort

theorem length_substituteMatches_le (s : Text) :
    (substituteMatches matchLength image s).length ≤ s.length := by
  induction s using matchInduction matchLength with
  | nil => exact Nat.le_refl 0
  | kept c s hc ih =>
    rw [substituteMatches_cons_of_eq_zero hc]
    exact Nat.succ_le_succ ih
  | matched s hs hm ih =>
    have hlength := congrArg List.length (List.take_append_drop (matchLength s) s)
    have := hshort s hm
    rw [List.length_append] at hlength
    rw [substituteMatches_of_ne_zero hs hm, List.length_append]
    omega

/-- A replacement by shorter texts that does not shorten a text finds no match in it. -/
theorem forall_eq_zero_of_length_le
    (h : s.length ≤ (substituteMatches matchLength image s).length) :
    ∀ x, x <:+ s → x ≠ [] → matchLength x = 0 := by
  induction s using matchInduction matchLength with
  | nil => exact fun x hx hne => absurd (List.suffix_nil.mp hx) hne
  | kept c s hc ih =>
    rw [substituteMatches_cons_of_eq_zero hc] at h
    intro x hx hne
    rcases List.suffix_cons_iff.mp hx with rfl | hx
    · exact hc
    · exact ih (Nat.le_of_succ_le_succ h) x hx hne
  | matched s hs hm _ =>
    have hlength := congrArg List.length (List.take_append_drop (matchLength s) s)
    have hrest := length_substituteMatches_le hshort (s.drop (matchLength s))
    have := hshort s hm
    rw [List.length_append] at hlength
    rw [substituteMatches_of_ne_zero hs hm, List.length_append] at h
    omega

end Shorter

/-! ### Two parts of a text -/

/-- **Replacing in two parts.** Where the matches that begin in the first part also end there, the
two parts are gone through on their own. -/
theorem substituteMatches_append (h : ∀ x, x <:+ s → x ≠ [] →
    matchLength (x ++ t) = matchLength x ∧ matchLength x ≤ x.length) :
    substituteMatches matchLength image (s ++ t) =
      substituteMatches matchLength image s ++ substituteMatches matchLength image t := by
  induction s using matchInduction matchLength with
  | nil => rfl
  | kept c s hc ih =>
    have hc' : matchLength (c :: (s ++ t)) = 0 :=
      (h (c :: s) (List.suffix_refl _) (by simp)).1.trans hc
    rw [List.cons_append, substituteMatches_cons_of_eq_zero hc',
      substituteMatches_cons_of_eq_zero hc, ih fun x hx => h x (hx.trans (List.suffix_cons c s)),
      List.cons_append]
  | matched s hs hm ih =>
    obtain ⟨hsame, hle⟩ := h s (List.suffix_refl s) hs
    have hst : s ++ t ≠ [] := by simp [hs]
    rw [substituteMatches_of_ne_zero hst (hsame ▸ hm), substituteMatches_of_ne_zero hs hm, hsame,
      List.take_append_of_le_length hle, List.drop_append_of_le_length hle,
      ih fun x hx => h x (hx.trans (List.drop_suffix _ s)), List.append_assoc]

/-! ### Replacing a fixed text -/

/-- The length of the occurrence of `old` that begins a text. -/
def occurrenceLength (old s : Text) : Nat := if old.isPrefixOf s then old.length else 0

theorem replaceAll_eq_substituteMatches (old new s : Text) :
    replaceAll old new s = substituteMatches (occurrenceLength old) (fun _ => new) s := rfl

theorem occurrenceLength_eq_length (h : old <+: s) : occurrenceLength old s = old.length := by
  simp [occurrenceLength, h]

theorem occurrenceLength_eq_zero (h : ¬ old <+: s) : occurrenceLength old s = 0 := by
  simp [occurrenceLength, h]

theorem take_occurrenceLength (h : occurrenceLength old s ≠ 0) :
    s.take (occurrenceLength old s) = old := by
  have hp : old <+: s := not_not.mp (mt occurrenceLength_eq_zero h)
  rw [occurrenceLength_eq_length hp]
  exact (List.prefix_iff_eq_take.mp hp).symm

theorem filter_replaceAll (h : new.filter q = old.filter q) (s : Text) :
    (replaceAll old new s).filter q = s.filter q := by
  rw [replaceAll_eq_substituteMatches]
  exact filter_substituteMatches (fun t ht => by rw [take_occurrenceLength ht, h]) s

theorem getLast?_replaceAll (h : new.getLast? = old.getLast?) (s : Text) :
    (replaceAll old new s).getLast? = s.getLast? := by
  rw [replaceAll_eq_substituteMatches]
  exact getLast?_substituteMatches (fun t ht => by rw [take_occurrenceLength ht, h]) s

theorem replaceAll_eq_self (h : ¬ old <:+: s) : replaceAll old new s = s :=
  substituteMatches_eq_self fun _ hx _ =>
    occurrenceLength_eq_zero fun hp => h (hp.isInfix.trans hx.isInfix)

theorem replaceAll_append_left (hold : old ≠ []) (s : Text) :
    replaceAll old new (old ++ s) = new ++ replaceAll old new s := by
  have hlength : occurrenceLength old (old ++ s) = old.length :=
    occurrenceLength_eq_length (List.prefix_append ..)
  rw [replaceAll_eq_substituteMatches, substituteMatches_of_ne_zero (by simp [hold])
    (by simp [hlength, hold]), hlength, List.drop_left' rfl]
  rfl

theorem replaceAll_cons (h : ¬ old <+: c :: s) :
    replaceAll old new (c :: s) = c :: replaceAll old new s :=
  substituteMatches_cons_of_eq_zero (occurrenceLength_eq_zero h)

section Shorter

variable (hshort : new.length < old.length)

include hshort

theorem length_replaceAll_le (s : Text) : (replaceAll old new s).length ≤ s.length := by
  rw [replaceAll_eq_substituteMatches]
  exact length_substituteMatches_le (fun t ht => by rwa [take_occurrenceLength ht]) s

/-- A replacement by a shorter text that does not shorten a text finds no occurrence in it. -/
theorem not_infix_of_length_le_replaceAll (h : s.length ≤ (replaceAll old new s).length) :
    ¬ old <:+: s := by
  rw [replaceAll_eq_substituteMatches] at h
  rintro ⟨u, v, rfl⟩
  have hsuffix : old ++ v <:+ u ++ old ++ v := List.append_assoc u old v ▸ List.suffix_append ..
  have hne : old ≠ [] := List.length_pos_iff.mp (Nat.zero_lt_of_lt hshort)
  have hzero := forall_eq_zero_of_length_le (fun t ht => by rwa [take_occurrenceLength ht]) h
    (old ++ v) hsuffix (by simp [hne])
  rw [occurrenceLength_eq_length (List.prefix_append ..)] at hzero
  exact hne (List.length_eq_zero_iff.mp hzero)

end Shorter

/-- Where the first part ends with a character that can only end an occurrence, the two parts are
gone through on their own. -/
theorem replaceAll_append (hz : z ∉ old.dropLast) (hs : s.getLast? = some z) (t : Text) :
    replaceAll old new (s ++ t) = replaceAll old new s ++ replaceAll old new t := by
  simp only [replaceAll_eq_substituteMatches]
  refine substituteMatches_append fun x hx hne => ?_
  have hlast : x.getLast? = some z := by
    obtain ⟨u, rfl⟩ := hx
    rwa [List.getLast?_append_of_ne_nil u hne] at hs
  have hborder : old <+: x ++ t ↔ old <+: x := by
    refine ⟨fun hp => ?_, fun hp => hp.trans (List.prefix_append ..)⟩
    refine (List.prefix_or_prefix_of_prefix hp (List.prefix_append ..)).elim id ?_
    rintro ⟨w, rfl⟩
    rcases List.eq_nil_or_concat' w with rfl | ⟨w, e, rfl⟩
    · rw [List.append_nil]
    · rw [← List.append_assoc, List.dropLast_concat, List.mem_append, not_or] at hz
      exact absurd (List.mem_of_getLast? hlast) hz.1
  by_cases hp : old <+: x
  · rw [occurrenceLength_eq_length (hborder.mpr hp), occurrenceLength_eq_length hp]
    exact ⟨rfl, hp.length_le⟩
  · rw [occurrenceLength_eq_zero (mt hborder.mp hp), occurrenceLength_eq_zero hp]
    exact ⟨rfl, Nat.zero_le _⟩

/-! ### Replacing a character -/

theorem replaceChar_nil_eq_filter (c : Char) (s : Text) :
    replaceChar c [] s = s.filter (· ≠ c) := by
  induction s with
  | nil => rfl
  | cons d s ih =>
    rw [replaceChar, List.flatMap_cons, ← replaceChar, ih]
    by_cases h : d = c <;> simp [h]

theorem replaceChar_singleton_eq_map (c d : Char) (s : Text) :
    replaceChar c [d] s = s.map fun e => if e = c then d else e := by
  rw [replaceChar, List.map_eq_flatMap]
  congr 1
  funext e
  split <;> rfl

end ResourceScript.Text
