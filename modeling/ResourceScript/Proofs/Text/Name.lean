import ResourceScript.Proofs.Text.Search
import ResourceScript.Text.Blank
import ResourceScript.Text.Escaped
import ResourceScript.Text.Identifier

/-!
# Names

The names that rows are found by. A name is not empty and holds neither blanks nor the punctuation
by which rows and literals are told apart, so a name that stands alone between blanks can be
recognised, and it reads the same inside of an escaped text. Every identifier of any script is a
name in this sense.

## Main definitions

* `Text.isNameChar`, `Text.IsName`: the characters of names, and the names.
* `Text.IsKey`: the names that may stand between braces.

## Main results

* `Text.isName_of_isIdentifier`, `Text.isKey_of_isIdentifier`: every identifier is a name and a key.
* `Text.IsName.append_blank_prefix_iff`: two names before a blank are told apart.
-/

namespace ResourceScript.Text

/-- Whether a character may stand in a name: it is not blank, it is not special inside of a
literal, and it separates no parts of a row. -/
def isNameChar (c : Char) : Bool := !isBlank c && !isSpecial false c && c != '=' && c != ';'

/-- A name is not empty and has neither blanks nor punctuation of rows and literals. -/
structure IsName (s : Text) : Prop where
  ne_nil : s ≠ []
  isNameChar : ∀ c ∈ s, isNameChar c

instance (s : Text) : Decidable (IsName s) :=
  decidable_of_iff (s ≠ [] ∧ s.all Text.isNameChar)
    ⟨fun h => ⟨h.1, List.all_eq_true.mp h.2⟩, fun h => ⟨h.1, List.all_eq_true.mpr h.2⟩⟩

/-! ### Identifiers are names -/

/-- The code points of the blanks. -/
def blankCodes : List Nat :=
  [0x09, 0x0a, 0x0b, 0x0c, 0x0d, 0x1c, 0x1d, 0x1e, 0x1f, 0x20, 0x85, 0xa0, 0x1680, 0x2000, 0x2001,
   0x2002, 0x2003, 0x2004, 0x2005, 0x2006, 0x2007, 0x2008, 0x2009, 0x200a, 0x2028, 0x2029, 0x202f,
   0x205f, 0x3000]

theorem toNat_mem_blankCodes {c : Char} (h : isBlank c) : c.toNat ∈ blankCodes := by
  simp only [isBlank, isWhiteSpace, Bool.or_eq_true, Bool.and_eq_true, decide_eq_true_eq,
    beq_iff_eq, UInt32.le_iff_toNat_le, ← UInt32.toNat_inj] at h
  change c.val.toNat ∈ blankCodes
  simp only [UInt32.reduceToNat] at h
  simp only [blankCodes, List.mem_cons, List.not_mem_nil, or_false]
  omega

theorem not_isIdentifierPart_of_mem_blankCodes :
    ∀ n ∈ blankCodes, isIdentifierPart (Char.ofNat n) = false := by
  decide +kernel

/-- Letters, digits, marks and connecting punctuation of any script may stand in a name. -/
theorem isNameChar_of_isIdentifierPart {c : Char} (h : isIdentifierPart c) : isNameChar c := by
  have hblank : isBlank c = false := by
    by_contra hb
    have hc := not_isIdentifierPart_of_mem_blankCodes _
      (toNat_mem_blankCodes (Bool.not_eq_false _ ▸ hb))
    rw [Char.ofNat_toNat, h] at hc
    exact Bool.noConfusion hc
  have hother : ∀ d ∈ ['\x60', '\x22', Char.ofNat 0x201e, Char.ofNat 0x201c, Char.ofNat 0x201d,
      '$', '=', ';'], c ≠ d := by
    rintro d hd rfl
    have hall : ['\x60', '\x22', Char.ofNat 0x201e, Char.ofNat 0x201c, Char.ofNat 0x201d,
      '$', '=', ';'].all fun d => !isIdentifierPart d := by decide +kernel
    have hc := List.all_eq_true.mp hall c hd
    rw [h] at hc
    exact Bool.noConfusion hc
  simp only [List.forall_mem_cons, List.not_mem_nil, false_implies, implies_true, and_true]
    at hother
  obtain ⟨h1, h2, h3, h4, h5, h6, h7, h8⟩ := hother
  simp [isNameChar, hblank, isSpecial, typographicQuotes, escapeLead, variableSigil, h1, h2, h3,
    h4, h5, h6, h7, h8]

theorem isIdentifierPart_of_mem {s : Text} {c : Char} (h : isIdentifier s) (hc : c ∈ s) :
    isIdentifierPart c := by
  cases s with
  | nil => exact absurd hc List.not_mem_nil
  | cons d s =>
    simp only [isIdentifier, Bool.and_eq_true, List.all_eq_true] at h
    rcases List.mem_cons.mp hc with rfl | hc
    · simp [isIdentifierPart, h.1]
    · exact h.2 c hc

/-- Every identifier is a name. -/
theorem isName_of_isIdentifier {s : Text} (h : isIdentifier s) : IsName s where
  ne_nil hnil := by
    rw [hnil] at h
    exact Bool.noConfusion h
  isNameChar _ hc := isNameChar_of_isIdentifierPart (isIdentifierPart_of_mem h hc)

/-! ### Keys -/

/-- A key is a name that may stand between braces: it holds no closing brace. -/
structure IsKey (s : Text) : Prop extends IsName s where
  brace_notMem : '\x7d' ∉ s

instance (s : Text) : Decidable (IsKey s) :=
  decidable_of_iff (IsName s ∧ '\x7d' ∉ s) ⟨fun ⟨hn, hb⟩ => ⟨hn, hb⟩, fun ⟨hn, hb⟩ => ⟨hn, hb⟩⟩

/-- Every identifier is a key. -/
theorem isKey_of_isIdentifier {s : Text} (h : isIdentifier s) : IsKey s where
  toIsName := isName_of_isIdentifier h
  brace_notMem hm := by
    have hbrace : isIdentifierPart '\x7d' = false := by decide +kernel
    exact absurd (isIdentifierPart_of_mem h hm) (by simp [hbrace])

/-! ### What a name does not hold -/

namespace IsName

variable {name other : Text} (h : IsName name)

include h

theorem notMem_of_isBlank {c : Char} (hc : isBlank c) : c ∉ name := fun hm => by
  simpa [Text.isNameChar, hc] using h.isNameChar c hm

theorem notMem_of_isSpecial {c : Char} (hc : isSpecial false c) : c ∉ name := fun hm => by
  simpa [Text.isNameChar, hc] using h.isNameChar c hm

theorem blank_notMem : ' ' ∉ name := h.notMem_of_isBlank (by decide)

theorem quote_notMem : '\x22' ∉ name := h.notMem_of_isSpecial (by decide)

theorem backtick_notMem : escapeLead ∉ name := h.notMem_of_isSpecial (by decide)

theorem equals_notMem : '=' ∉ name := fun hm => by
  simpa [Text.isNameChar] using h.isNameChar _ hm

theorem semicolon_notMem : ';' ∉ name := fun hm => by
  simpa [Text.isNameChar] using h.isNameChar _ hm

/-- A name begins with a character that is not blank. -/
theorem exists_cons : ∃ c s, name = c :: s ∧ isBlank c = false := by
  obtain ⟨c, s, rfl⟩ := List.exists_cons_of_ne_nil h.ne_nil
  refine ⟨c, s, rfl, ?_⟩
  by_contra hb
  exact h.notMem_of_isBlank (Bool.not_eq_false _ ▸ hb) List.mem_cons_self

/-- Of two names before a blank, one begins the other only if they are the same. -/
theorem append_blank_prefix_iff (ho : IsName other) {t : Text} :
    name ++ [' '] <+: other ++ ' ' :: t ↔ name = other := by
  refine ⟨fun hp => ?_, ?_⟩
  · have hn : name <+: other := (prefix_append_cons_iff h.blank_notMem).mp
      ((List.prefix_append name [' ']).trans hp)
    obtain ⟨r, rfl⟩ := hn
    rw [List.append_assoc, List.prefix_append_right_inj] at hp
    cases r with
    | nil => simp
    | cons d r =>
      obtain ⟨rfl, -⟩ := List.cons_prefix_cons.mp hp
      exact absurd (List.mem_append_right name List.mem_cons_self) ho.blank_notMem
  · rintro rfl
    exact ⟨t, by simp⟩

end IsName

end ResourceScript.Text
