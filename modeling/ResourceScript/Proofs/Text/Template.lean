import Mathlib.Data.List.Infix
import ResourceScript.Proofs.Steps
import ResourceScript.Text.Template

/-!
# Templates that stand for themselves

A template is read from left to right, and each escape sequence in it stands for itself, for a
single character or for the match. Only the sequences of the first sort are as short as what they
stand for: those of the second are longer, and the match may be longer than the whole template. So
the templates that give themselves for such a match are those in which each backslash is followed by
a character that it leaves as it is.

## Main definitions

* `Template.IsVerbatim`: a template in which each backslash leaves the next character as it is.

## Main results

* `Template.parse_of_isVerbatim`: such a template is read as its own characters.
* `Template.length_le_of_parse`: a template without the match consists of at least as many
  characters as it stands for.
* `Template.expand_eq_self_iff`: the templates that stand for themselves.
-/

namespace ResourceScript.Template

/-- A character that a backslash leaves as it is, together with itself. -/
def isInert (c : Char) : Bool := !c.isAlphanum && c != '\\'

/-- Each backslash of a template is followed by a character that it leaves as it is. -/
def IsVerbatim (s : Text) : Prop := ∀ t, '\\' :: t <:+ s → ∃ c ∈ t.head?, isInert c

variable {s t found : Text} {c : Char} {parts : List Part} {n : Nat}

theorem isVerbatim_of_notMem (h : '\\' ∉ s) : IsVerbatim s := fun _ ht =>
  absurd (ht.subset List.mem_cons_self) h

theorem isVerbatim_cons : IsVerbatim (c :: s) ↔
    (c = '\\' → ∃ d ∈ s.head?, isInert d) ∧ IsVerbatim s := by
  simp only [IsVerbatim, List.suffix_cons_iff, or_imp, forall_and, List.cons.injEq]
  refine and_congr_left fun _ => ⟨fun h hc => h s ⟨hc.symm, rfl⟩, ?_⟩
  rintro h t ⟨hc, rfl⟩
  exact h hc.symm

theorem isVerbatim_cons_of_ne (h : c ≠ '\\') : IsVerbatim (c :: s) ↔ IsVerbatim s := by
  rw [isVerbatim_cons, and_iff_right fun hc => absurd hc h]

theorem ne_backslash_of_isInert (h : isInert c) : c ≠ '\\' := by
  rintro rfl
  exact absurd h (by decide)

theorem isVerbatim_backslash_cons : IsVerbatim ('\\' :: c :: s) ↔ isInert c ∧ IsVerbatim s := by
  rw [isVerbatim_cons]
  constructor
  · rintro ⟨hc, hs⟩
    have hinert : isInert c := by simpa using hc
    exact ⟨hinert, (isVerbatim_cons_of_ne (ne_backslash_of_isInert hinert)).mp hs⟩
  · rintro ⟨hc, hs⟩
    exact ⟨fun _ => ⟨c, rfl, hc⟩, (isVerbatim_cons_of_ne (ne_backslash_of_isInert hc)).mpr hs⟩

/-! ### Reading a template -/

/-- What is still to be passed over belongs to an escape sequence that was read before. -/
theorem parseFrom_eq (k : Nat) (s : Text) : parseFrom k s = parse (s.drop k) := by
  induction s generalizing k with
  | nil => cases k <;> rfl
  | cons c s ih =>
    cases k with
    | zero => rfl
    | succ k => exact ih k

theorem parse_cons_of_ne (h : c ≠ '\\') (s : Text) :
    parse (c :: s) = (parse s).map (.char c :: ·) := by
  rw [parse, parseFrom, if_neg h]
  rfl

theorem parse_backslash_cons (s : Text) : parse ('\\' :: s) =
    (escapeSequence s).bind fun p => (parse (s.drop p.2)).map (p.1 ++ ·) := by
  rw [parse, parseFrom, if_pos rfl]
  cases escapeSequence s with
  | error f => rfl
  | ok p => simp only [parseFrom_eq]; rfl

theorem escapeSequence_of_isInert (h : isInert c) (s : Text) :
    escapeSequence (c :: s) = .ok ([.char '\\', .char c], 1) := by
  have hne (d : Char) (hd : isInert d = false) : c ≠ d := by
    rintro rfl
    exact absurd h (by simp [hd])
  have hcontrol : controlChar? c = none := by
    rw [controlChar?.eq_def]
    split
    all_goals first | rfl | exact absurd rfl (hne _ (by decide))
  simp only [isInert, Char.isAlphanum, Bool.not_or, Bool.and_eq_true, Bool.not_eq_true'] at h
  simp [escapeSequence, hne 'g' (by decide), hne '0' (by decide), h.1.1, h.1.2, hcontrol]

theorem parse_backslash_cons_of_isInert (h : isInert c) (s : Text) :
    parse ('\\' :: c :: s) = (parse s).map ([.char '\\', .char c] ++ ·) := by
  rw [parse_backslash_cons, escapeSequence_of_isInert h]
  rfl

/-- There is no other group than the match as a whole. -/
theorem eq_matched_of_groupReference {p : Part} {m : Nat} (h : groupReference s = .ok (p, m)) :
    p = .matched := by
  rw [groupReference.eq_def] at h
  split at h
  · split at h
    · obtain ⟨q, hq, heq⟩ := map_eq_ok_iff.mp h
      obtain ⟨rfl, -⟩ := Prod.mk.inj heq
      rw [groupNamed] at hq
      split_ifs at hq
      exact (Except.ok.inj hq).symm
    · exact absurd h (by simp)
  · exact absurd h (by simp)

/-- An escape sequence stands for itself, for the match, or for a single character. -/
theorem of_escapeSequence_eq_ok (h : escapeSequence (c :: s) = .ok (parts, n)) :
    (isInert c ∧ parts = [.char '\\', .char c] ∧ n = 1) ∨ .matched ∈ parts ∨
      (parts.length = 1 ∧ 0 < n) := by
  rw [escapeSequence] at h
  split at h
  · -- a reference
    obtain ⟨⟨p, m⟩, hp, heq⟩ := map_eq_ok_iff.mp h
    obtain ⟨rfl, -⟩ := Prod.mk.inj heq
    exact Or.inr (Or.inl (by rw [eq_matched_of_groupReference hp]; exact List.mem_cons_self))
  split at h
  · -- up to two octal digits behind a zero
    obtain ⟨rfl, rfl⟩ := Prod.mk.inj (Except.ok.inj h)
    exact Or.inr (Or.inr ⟨rfl, Nat.succ_pos _⟩)
  split at h
  · -- three octal digits
    obtain ⟨p, -, heq⟩ := map_eq_ok_iff.mp h
    obtain ⟨rfl, rfl⟩ := Prod.mk.inj heq
    exact Or.inr (Or.inr ⟨rfl, by decide⟩)
  · next hdigit =>
    split at h
    · obtain ⟨rfl, rfl⟩ := Prod.mk.inj (Except.ok.inj h)
      exact Or.inr (Or.inr ⟨rfl, by decide⟩)
    · next hcontrol =>
      split at h
      · exact absurd h (by simp)
      · next halpha =>
        obtain ⟨rfl, rfl⟩ := Prod.mk.inj (Except.ok.inj h)
        have hne : c ≠ '\\' := by
          rintro rfl
          exact absurd hcontrol (by decide)
        exact Or.inl ⟨by simp [isInert, Char.isAlphanum, hdigit, halpha, hne], rfl, rfl⟩

/-- **Verbatim templates** are read as their own characters. -/
theorem parse_of_isVerbatim : ∀ {s : Text}, IsVerbatim s → parse s = .ok (s.map .char)
  | [], _ => rfl
  | c :: s, h => by
    by_cases hc : c = '\\'
    · subst hc
      cases s with
      | nil => exact absurd ((isVerbatim_cons.mp h).1 rfl) (by simp)
      | cons d s =>
        obtain ⟨hd, hs⟩ := isVerbatim_backslash_cons.mp h
        rw [parse_backslash_cons_of_isInert hd, parse_of_isVerbatim hs]
        rfl
    · rw [parse_cons_of_ne hc, parse_of_isVerbatim ((isVerbatim_cons_of_ne hc).mp h)]
      rfl

/-- **What a template stands for is no longer than the template**, if it does not refer to the
match, and it is as long only if the template is verbatim. -/
theorem length_le_of_parse {s : Text} {parts : List Part} (h : parse s = .ok parts)
    (hmatched : .matched ∉ parts) :
    parts.length ≤ s.length ∧ (parts.length = s.length → IsVerbatim s) := by
  cases s with
  | nil =>
    obtain rfl := Except.ok.inj h
    exact ⟨Nat.le_refl 0, fun _ => isVerbatim_of_notMem List.not_mem_nil⟩
  | cons c s =>
    by_cases hc : c = '\\'
    · subst hc
      rw [parse_backslash_cons] at h
      obtain ⟨⟨first, n⟩, hfirst, h⟩ := bind_eq_ok_iff.mp h
      obtain ⟨rest, hrest, rfl⟩ := map_eq_ok_iff.mp h
      obtain ⟨hmfirst, hmrest⟩ := not_or.mp (mt List.mem_append.mpr hmatched)
      obtain ⟨hle, hverbatim⟩ := length_le_of_parse hrest hmrest
      cases s with
      | nil => exact absurd hfirst (by simp [escapeSequence])
      | cons d s =>
        rcases of_escapeSequence_eq_ok hfirst with ⟨hd, rfl, rfl⟩ | hm | ⟨hone, hpos⟩
        · simp only [List.drop_succ_cons, List.drop_zero, List.length_append, List.length_cons,
            List.length_nil] at hle hverbatim ⊢
          exact ⟨by omega, fun heq => isVerbatim_backslash_cons.mpr ⟨hd, hverbatim (by omega)⟩⟩
        · exact absurd hm hmfirst
        · simp only [List.length_drop, List.length_append, List.length_cons] at hle ⊢
          omega
    · rw [parse_cons_of_ne hc] at h
      obtain ⟨rest, hrest, rfl⟩ := map_eq_ok_iff.mp h
      obtain ⟨hle, hverbatim⟩ := length_le_of_parse hrest
        fun hm => hmatched (List.mem_cons_of_mem _ hm)
      simp only [List.length_cons]
      exact ⟨Nat.succ_le_succ hle, fun heq =>
        (isVerbatim_cons_of_ne hc).mpr (hverbatim (Nat.succ.inj heq))⟩
termination_by s.length

/-! ### Expanding a template -/

theorem length_le_length_expand (h : .matched ∈ parts) :
    found.length ≤ (expand parts found).length := by
  obtain ⟨before, after, rfl⟩ := List.append_of_mem h
  simp only [expand, List.flatMap_append, List.flatMap_cons, List.length_append]
  omega

theorem length_expand (h : .matched ∉ parts) : (expand parts found).length = parts.length := by
  induction parts with
  | nil => rfl
  | cons p parts ih =>
    rw [List.mem_cons, not_or] at h
    cases p with
    | char c => simpa [expand] using ih h.2
    | matched => exact absurd rfl h.1

/-- **Templates that stand for themselves.** For a longer match, these are the verbatim ones. -/
theorem expand_eq_self_iff (hlength : s.length < found.length) :
    (∃ parts, parse s = .ok parts ∧ expand parts found = s) ↔ IsVerbatim s := by
  constructor
  · rintro ⟨parts, hparts, heq⟩
    have hmatched : .matched ∉ parts := fun hm => by
      have hle : found.length ≤ (expand parts found).length := length_le_length_expand hm
      rw [heq] at hle
      omega
    have hexpand : (expand parts found).length = parts.length := length_expand hmatched
    refine (length_le_of_parse hparts hmatched).2 ?_
    rw [← hexpand, heq]
  · exact fun h => ⟨_, parse_of_isVerbatim h, expand_map_char s found⟩

end ResourceScript.Template
