import ResourceScript.Literal.Format
import ResourceScript.Proofs.Text.Replacement

/-!
# References that are written again

A reference is derived from a user, and a text that begins like a reference is taken for one and
written with its hyphens and dots as underscores. Behind the common beginning a derived reference
has no such separators left, so it is written again as it is exactly when the beginning has none
either. Then the literal of every user settles: derived or taken over, it begins like a reference
and holds no separator.

## Main definitions

* `Literal.Settles`: the literal of a value is written again as it is.

## Main results

* `Credential.underscoreSeparators_eq_self_iff`: the texts without separators stay as they are.
* `Credential.exists_referenceName_eq_append`: what stands behind the beginning of a reference.
* `Literal.formatCredential_referenceName_iff`: when derived references are written as they are.
-/

namespace ResourceScript

/-! ### Separators -/

namespace Credential

variable {s : Text}

theorem underscoreSeparators_eq_map (s : Text) :
    underscoreSeparators s = s.map fun c => if c = '-' ∨ c = '.' then '_' else c := by
  rw [underscoreSeparators, Text.replaceChar_singleton_eq_map, Text.replaceChar_singleton_eq_map,
    List.map_map]
  refine List.map_congr_left fun c _ => ?_
  by_cases hyphen : c = '-' <;> by_cases dot : c = '.' <;> simp [hyphen, dot]

theorem underscoreSeparators_append (s t : Text) :
    underscoreSeparators (s ++ t) = underscoreSeparators s ++ underscoreSeparators t := by
  simp only [underscoreSeparators_eq_map, List.map_append]

/-- No separator is left, and none becomes another one. -/
theorem notMem_underscoreSeparators (s : Text) :
    '-' ∉ underscoreSeparators s ∧ '.' ∉ underscoreSeparators s := by
  have hleft : ∀ c ∈ underscoreSeparators s, ¬ (c = '-' ∨ c = '.') := by
    intro c hc
    rw [underscoreSeparators_eq_map] at hc
    obtain ⟨d, -, rfl⟩ := List.mem_map.mp hc
    split
    · decide
    · next hd => exact hd
  exact ⟨fun h => hleft _ h (Or.inl rfl), fun h => hleft _ h (Or.inr rfl)⟩

/-- The texts without separators stay as they are. -/
theorem underscoreSeparators_eq_self_iff :
    underscoreSeparators s = s ↔ '-' ∉ s ∧ '.' ∉ s := by
  refine ⟨fun h => h ▸ notMem_underscoreSeparators s, fun ⟨hhyphen, hdot⟩ => ?_⟩
  have hsame : ∀ c ∈ s, (if c = '-' ∨ c = '.' then '_' else c) = c := by
    intro c hc
    rw [if_neg]
    rintro (rfl | rfl)
    · exact hhyphen hc
    · exact hdot hc
  rw [underscoreSeparators_eq_map, List.map_congr_left hsame, List.map_id']

/-- Behind the beginning of a reference stand no separators, blanks and at signs. -/
theorem exists_referenceName_eq_append (username lead : Text) :
    ∃ t, referenceName username lead = lead ++ t ∧
      ('-' ∉ t ∧ '.' ∉ t) ∧ ' ' ∉ t ∧ '@' ∉ t := by
  obtain ⟨hhyphen, hdot⟩ := notMem_underscoreSeparators (accountName username)
  refine ⟨_, rfl, ?_⟩
  simp only [Text.replaceChar_nil_eq_filter, List.mem_filter, not_and]
  exact ⟨⟨fun h => absurd h.1 hhyphen, fun h => absurd h.1 hdot⟩, by simp, by simp⟩

end Credential

namespace Literal

open Credential (isReference referenceName underscoreSeparators)

variable {parameter lead s : Text}

/-- The literal that a value has as a credential is written again as it is. -/
def Settles (parameter lead : Text) (v : Value) : Prop :=
  ∃ l, formatCredential parameter lead v = .ok l ∧ formatCredential parameter lead (.text l) = .ok l

theorem formatCredential_of_isReference (h : isReference lead s) :
    formatCredential parameter lead (.text s) = .ok (underscoreSeparators s) := by
  simp [formatCredential, plainForm, Except.map, h]

theorem formatCredential_of_not_isReference (h : ¬ isReference lead s) :
    formatCredential parameter lead (.text s) = .ok (referenceName s lead) := by
  simp [formatCredential, plainForm, Except.map, h]

theorem isReference_append (lead t : Text) : isReference lead (lead ++ t) := by
  simp [isReference]

/-- A derived reference is written as it is if its beginning has no separators, and only then. -/
theorem formatCredential_referenceName_eq_iff (username : Text) :
    formatCredential parameter lead (.text (referenceName username lead)) =
      .ok (referenceName username lead) ↔ '-' ∉ lead ∧ '.' ∉ lead := by
  obtain ⟨t, ht, hfree, -⟩ := Credential.exists_referenceName_eq_append username lead
  rw [ht, formatCredential_of_isReference (isReference_append lead t), Except.ok.injEq,
    Credential.underscoreSeparators_append, Credential.underscoreSeparators_eq_self_iff.mpr hfree,
    List.append_left_inj, Credential.underscoreSeparators_eq_self_iff]

/-- The literal of a user settles, whether it is derived or taken over. -/
theorem settles_text (hlead : '-' ∉ lead ∧ '.' ∉ lead) (parameter s : Text) :
    Settles parameter lead (.text s) := by
  by_cases href : isReference lead s
  · obtain ⟨t, rfl⟩ := List.isPrefixOf_iff_prefix.mp href
    refine ⟨_, formatCredential_of_isReference href, ?_⟩
    have hkeep : underscoreSeparators (lead ++ t) = lead ++ underscoreSeparators t := by
      rw [Credential.underscoreSeparators_append,
        Credential.underscoreSeparators_eq_self_iff.mpr hlead]
    rw [hkeep, formatCredential_of_isReference (isReference_append ..), ← hkeep,
      Credential.underscoreSeparators_eq_self_iff.mpr (Credential.notMem_underscoreSeparators _)]
  · exact ⟨_, formatCredential_of_not_isReference href,
      (formatCredential_referenceName_eq_iff s).mpr hlead⟩

/-- **References that are written again.** All derived references are written as they are exactly if
their common beginning has no hyphens and dots. Then the literal of every credential and of every
text settles; and a derived reference is the beginning and a text without hyphens, dots, blanks and
at signs. -/
theorem formatCredential_referenceName_iff (parameter lead : Text) :
    ((∀ username, formatCredential parameter lead (.text (referenceName username lead)) =
        .ok (referenceName username lead)) ↔ '-' ∉ lead ∧ '.' ∉ lead) ∧
      ('-' ∉ lead ∧ '.' ∉ lead →
        (∀ c : Credential, Settles parameter lead (.credential c)) ∧
          (∀ s, Settles parameter lead (.text s)) ∧
          ∀ username, ∃ t, referenceName username lead = lead ++ t ∧
            ('-' ∉ t ∧ '.' ∉ t) ∧ ' ' ∉ t ∧ '@' ∉ t) := by
  constructor
  · simp only [formatCredential_referenceName_eq_iff, forall_const]
  · intro hlead
    refine ⟨fun c => ?_, settles_text hlead parameter, fun username =>
      Credential.exists_referenceName_eq_append username lead⟩
    -- a credential is written like the name of its user
    exact settles_text hlead parameter c.username

/-- A user of a domain whose account name begins like a reference and holds all that is replaced. -/
theorem formatCredential_referenceName_iff_account :
    let lead := Credential.defaultReferencePrefix
    let c : Credential := ⟨"CORP\\$Creds-a.b c@d\\e".toList, some ['p']⟩
    ('-' ∉ lead ∧ '.' ∉ lead) ∧ Settles ['P'] lead (.credential c) ∧
      formatCredential ['P'] lead (.credential c) = .ok "$Creds$Creds_a_bcd\\e".toList := by
  intro lead c
  have hlead : '-' ∉ lead ∧ '.' ∉ lead := by decide
  exact ⟨hlead, ((formatCredential_referenceName_iff ['P'] lead).2 hlead).1 c, by decide⟩

end Literal

end ResourceScript
