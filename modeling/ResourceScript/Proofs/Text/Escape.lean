import Mathlib.Data.List.Infix
import ResourceScript.Text.Blank
import ResourceScript.Text.Escaped

/-!
# Escaping in one pass

Escaping replaces one special character after the other in the whole text. Each replacement acts on
every character on its own, so the chain of replacements does too, and its image of one character is
read off by cases: a backtick is put before a special character and nothing else happens. Texts
without special characters are therefore found in an escaped text exactly where they were before.

## Main results

* `Text.escape_eq_escapeOnce`: the chain of replacements is a single pass.
* `Text.escape_eq_and_unescape_eq`: reading an escaped text once undoes the escaping.
* `Text.mem_escape_iff`: escaping adds backticks only.
* `Text.prefix_escape_iff`, `Text.infix_escape_iff`, `Text.suffix_escape_iff`: escaping neither
  hides nor makes an occurrence of a text without special characters.
-/

namespace ResourceScript.Text

variable {allowVariables : Bool} {p s t : Text} {c : Char}

/-! ### The chain of replacements -/

theorem escape_append (s t : Text) :
    escape allowVariables (s ++ t) = escape allowVariables s ++ escape allowVariables t := by
  cases allowVariables <;> simp [escape, escapeChar, typographicQuotes]

theorem escape_singleton (c : Char) :
    escape allowVariables [c] = if isSpecial allowVariables c then [escapeLead, c] else [c] := by
  by_cases hc : c ∈ ['\x60', '$', '\x22', Char.ofNat 0x201e, Char.ofNat 0x201c, Char.ofNat 0x201d]
  · simp only [List.mem_cons, List.not_mem_nil, or_false] at hc
    rcases hc with rfl | rfl | rfl | rfl | rfl | rfl <;> cases allowVariables <;> decide
  · simp only [List.mem_cons, List.not_mem_nil, or_false, not_or] at hc
    obtain ⟨h1, h2, h3, h4, h5, h6⟩ := hc
    cases allowVariables <;>
      simp [escape, escapeChar, replaceChar, isSpecial, typographicQuotes, escapeLead,
        variableSigil, h1, h2, h3, h4, h5, h6]

/-- **Escaping in one pass.** The replacements one after the other write a backtick before each
special character of the text and change nothing else. -/
theorem escape_eq_escapeOnce (s : Text) :
    escape allowVariables s = escapeOnce allowVariables s := by
  induction s with
  | nil => exact escape_nil _
  | cons c s ih =>
    have hsplit : escape allowVariables (c :: s) =
        escape allowVariables [c] ++ escape allowVariables s := escape_append [c] s
    rw [hsplit, escape_singleton, ih]
    rfl

theorem escape_cons_of_isSpecial (h : isSpecial allowVariables c) (s : Text) :
    escape allowVariables (c :: s) = escapeLead :: c :: escape allowVariables s := by
  simp [escape_eq_escapeOnce, escapeOnce, h]

theorem escape_cons_of_not_isSpecial (h : isSpecial allowVariables c = false) (s : Text) :
    escape allowVariables (c :: s) = c :: escape allowVariables s := by
  simp [escape_eq_escapeOnce, escapeOnce, h]

/-- A text without special characters is not changed by escaping. -/
theorem escape_eq_self (h : ∀ c ∈ s, isSpecial allowVariables c = false) :
    escape allowVariables s = s := by
  induction s with
  | nil => exact escape_nil _
  | cons c s ih =>
    obtain ⟨hc, hs⟩ := List.forall_mem_cons.mp h
    rw [escape_cons_of_not_isSpecial hc, ih hs]

theorem isSpecial_escapeLead : isSpecial allowVariables escapeLead := by
  simp [isSpecial]

theorem isSpecial_quote : isSpecial allowVariables '\x22' := by
  simp [isSpecial]

theorem ne_escapeLead_of_not_isSpecial (h : isSpecial allowVariables c = false) :
    c ≠ escapeLead := by
  rintro rfl
  exact absurd h (by simp [isSpecial_escapeLead])

/-- With variables allowed fewer characters are special. -/
theorem isSpecial_false_of_isSpecial (h : isSpecial allowVariables c) : isSpecial false c := by
  cases allowVariables with
  | false => exact h
  | true =>
    simp only [isSpecial, Bool.not_true, Bool.false_and, Bool.or_false] at h
    simp only [isSpecial, h, Bool.true_or]

/-- A blank has no special meaning. -/
theorem isSpecial_eq_false_of_isBlank (h : isBlank c) : isSpecial allowVariables c = false := by
  by_contra hc
  have hspecial := isSpecial_false_of_isSpecial (Bool.not_eq_false _ ▸ hc)
  simp only [isSpecial, typographicQuotes, List.contains_cons, List.contains_nil, Bool.or_eq_true,
    beq_iff_eq, Bool.not_false, Bool.true_and, Bool.or_false] at hspecial
  rcases hspecial with ((rfl | rfl) | rfl | rfl | rfl) | rfl <;> exact absurd h (by decide)

/-! ### Reading an escaped text -/

theorem unescape_lead_cons (c : Char) (s : Text) :
    unescape (escapeLead :: c :: s) = c :: unescape s := rfl

theorem unescape_cons_of_ne (h : c ≠ escapeLead) (s : Text) :
    unescape (c :: s) = c :: unescape s := by
  cases s with
  | nil => simp [unescape, h]
  | cons d s => simp [unescape, h]

/-- **Escaping is a single pass that a single pass undoes.** The replacements one after the other
write one backtick before each special character and copy every other character. Reading the result
once, where each backtick is dropped and the character after it is kept as it is, gives the text
back. -/
theorem escape_eq_and_unescape_eq (allowVariables : Bool) (s : Text) :
    escape allowVariables s = escapeOnce allowVariables s ∧
      unescape (escape allowVariables s) = s := by
  refine ⟨escape_eq_escapeOnce s, ?_⟩
  induction s with
  | nil => rw [escape_nil]; rfl
  | cons c s ih =>
    cases hc : isSpecial allowVariables c with
    | true => rw [escape_cons_of_isSpecial hc, unescape_lead_cons, ih]
    | false =>
      have hlead : c ≠ escapeLead := ne_escapeLead_of_not_isSpecial hc
      rw [escape_cons_of_not_isSpecial hc, unescape_cons_of_ne hlead, ih]

/-! ### Occurrences in an escaped text -/

/-- Escaping adds backticks only. -/
theorem mem_escape_iff (hc : c ≠ escapeLead) : c ∈ escape allowVariables s ↔ c ∈ s := by
  simp only [escape_eq_escapeOnce, escapeOnce, List.mem_flatMap]
  constructor
  · rintro ⟨d, hd, hcd⟩
    split at hcd
    · rcases List.mem_cons.mp hcd with rfl | hcd
      · exact absurd rfl hc
      · exact List.mem_singleton.mp hcd ▸ hd
    · exact List.mem_singleton.mp hcd ▸ hd
  · intro h
    refine ⟨c, h, ?_⟩
    split <;> simp

/-- A text without special characters begins an escaped text if it begins the text itself. -/
theorem prefix_escape_iff (hp : ∀ d ∈ p, isSpecial allowVariables d = false) :
    p <+: escape allowVariables s ↔ p <+: s := by
  induction p generalizing s with
  | nil => simp
  | cons d p ih =>
    have hd : isSpecial allowVariables d = false := hp d List.mem_cons_self
    cases s with
    | nil => simp
    | cons c s =>
      cases hc : isSpecial allowVariables c with
      | true =>
        have hlead : d ≠ escapeLead := ne_escapeLead_of_not_isSpecial hd
        have hdc : d ≠ c := by
          rintro rfl
          simp [hc] at hd
        rw [escape_cons_of_isSpecial hc, List.cons_prefix_cons, List.cons_prefix_cons]
        simp [hlead, hdc]
      | false =>
        rw [escape_cons_of_not_isSpecial hc, List.cons_prefix_cons, List.cons_prefix_cons,
          ih fun e he => hp e (List.mem_cons_of_mem _ he)]

/-- A text without special characters occurs in an escaped text if it occurs in the text itself. -/
theorem infix_escape_iff (hp : ∀ d ∈ p, isSpecial allowVariables d = false) :
    p <:+: escape allowVariables s ↔ p <:+: s := by
  induction s with
  | nil => simp
  | cons c s ih =>
    have hstep : p <:+: c :: s ↔
        p <+: escape allowVariables (c :: s) ∨ p <:+: escape allowVariables s := by
      rw [List.infix_cons_iff, prefix_escape_iff hp, ih]
    rw [hstep]
    cases hc : isSpecial allowVariables c with
    | true =>
      have hdc : ∀ d ∈ p, d ≠ c := by
        rintro d hd rfl
        simp [hp d hd] at hc
      rw [escape_cons_of_isSpecial hc, List.infix_cons_iff, List.infix_cons_iff]
      cases p with
      | nil => simp
      | cons d p => simp [hdc d List.mem_cons_self]
    | false => rw [escape_cons_of_not_isSpecial hc, List.infix_cons_iff]

theorem concat_suffix_concat_iff {d : Char} : p ++ [d] <:+ s ++ [c] ↔ d = c ∧ p <:+ s := by
  rw [← List.reverse_prefix, List.reverse_concat, List.reverse_concat, List.cons_prefix_cons,
    List.reverse_prefix]

/-- A text without special characters ends an escaped text if it ends the text itself. -/
theorem suffix_escape_iff (hp : ∀ d ∈ p, isSpecial allowVariables d = false) :
    p <:+ escape allowVariables s ↔ p <:+ s := by
  induction s using List.reverseRecOn generalizing p with
  | nil => rw [escape_nil]
  | append_singleton s c ih =>
    rcases List.eq_nil_or_concat' p with rfl | ⟨p, d, rfl⟩
    · simp
    · have hd : isSpecial allowVariables d = false := hp d (by simp)
      have hlast : p <:+ escape allowVariables s ↔ p <:+ s := ih fun e he => hp e (by simp [he])
      rw [escape_append, escape_singleton]
      split
      · next hc =>
        have hdc : d ≠ c := by
          rintro rfl
          simp [hc] at hd
        have hcut : [escapeLead, c] = [escapeLead] ++ [c] := rfl
        rw [hcut, ← List.append_assoc, concat_suffix_concat_iff, concat_suffix_concat_iff]
        simp [hdc]
      · rw [concat_suffix_concat_iff, concat_suffix_concat_iff, hlast]

end ResourceScript.Text
