import ResourceScript.Proofs.Block.Literal

/-!
# The rows of credentials

A credential literal is written from a credential, from a text that is declared as one, or from
another value that was classified as one. The row refers to a user in the first two cases. The
literal and the user to be registered are found out separately: the literal is that of an existing
reference when the plain form of the value begins like one, and a text that begins like one names no
user, but a credential names its user in any case.

## Main definitions

* `NamedValue.credential?`: the value that the credential literal of a row is written from.
* `NamedValue.user?`: the user of that value.
* `NamedValue.readsAsReference`: the value is read as an existing reference.

## Main results

* `Block.literal_of_credential?`: the literal of a row with a credential literal.
* `Block.username_rowLiteral`: the user to be registered by a row.
* `Block.rowLiteral_of_user?`: a row with a new reference to a user registers that user.
-/

namespace ResourceScript

open Credential (isReference)

namespace NamedValue

/-- The value that the credential literal of a named value is written from, if the value has such a
literal. -/
def credential? (nv : NamedValue) : Option Value :=
  match Literal.classify nv.kind nv.value with
  | .ok ⟨.credential, payload⟩ => some payload
  | _ => none

/-- The user that a named value stands for: that of a credential, or the text that is declared as a
credential. -/
def user? (nv : NamedValue) : Option Text :=
  match nv.credential? with
  | some (.credential c) => some c.username
  | some (.text s) => some s
  | _ => none

/-- Whether the credential literal of a named value is read as an existing reference. -/
def readsAsReference (lead : Text) (nv : NamedValue) : Bool :=
  match nv.credential? with
  | none | some .null => false
  | some payload => payload.plainForm?.any (isReference lead)

variable {nv : NamedValue} {payload : Value} {username lead : Text}

theorem credential?_eq_some_iff : nv.credential? = some payload ↔
    Literal.classify nv.kind nv.value = .ok ⟨.credential, payload⟩ := by
  rw [credential?]
  split
  · next heq => rw [heq, Option.some.injEq, Except.ok.injEq, Literal.mk.injEq, and_iff_right rfl]
  · next hne => exact ⟨fun h => absurd h (by simp), fun h => absurd h (hne payload)⟩

/-- A sequence without items is an array, whatever it is declared as. -/
theorem kind_ne_credential_of_isEmptySequence {kind : Option Kind} {l : Literal}
    (hempty : nv.value.isEmptySequence) (h : Literal.classify kind nv.value = .ok l) :
    l.kind ≠ .credential := by
  have harray : Literal.arrayKind kind [] ≠ .credential := by
    rcases kind with _ | kind
    · decide
    · cases kind <;> decide
  rcases Value.eq_of_isEmptySequence hempty with hv | hv <;>
  · rw [hv] at h
    rwa [← Except.ok.inj h]

/-- A user is given by a credential or by a text. -/
theorem user?_eq_some_iff : nv.user? = some username ↔
    (∃ c, nv.credential? = some (.credential c) ∧ c.username = username) ∨
      nv.credential? = some (.text username) := by
  rw [user?]
  split <;> simp_all

/-- A value with a user is read as a reference when the name of the user is. -/
theorem readsAsReference_of_user? (h : nv.user? = some username) :
    nv.readsAsReference lead = isReference lead username := by
  rcases user?_eq_some_iff.mp h with ⟨c, hc, rfl⟩ | hs
  · rw [readsAsReference, hc]
    rfl
  · rw [readsAsReference, hs]
    rfl

theorem readsAsReference_of_credential {c : Credential}
    (h : nv.credential? = some (.credential c)) :
    nv.readsAsReference lead = isReference lead c.username :=
  readsAsReference_of_user? (user?_eq_some_iff.mpr (Or.inl ⟨c, h, rfl⟩))

end NamedValue

namespace Block

variable {ctx : Context} {nv : NamedValue} {payload : Value} {username lead : Text}

/-- A row with a credential literal is not asked about. -/
theorem rowLiteral_of_credential? (h : nv.credential? = some payload) :
    rowLiteral ctx nv = literalUnder ctx nv nv.kind := by
  refine rowLiteral_eq (questionFor?_eq_none (Bool.eq_false_iff.mpr fun hempty => ?_))
  exact NamedValue.kind_ne_credential_of_isEmptySequence hempty
    (NamedValue.credential?_eq_some_iff.mp h) rfl

/-- A literal of another kind names no user. -/
theorem username_literalUnder_eq_none {kind : Option Kind}
    (h : ∀ l, Literal.classify kind nv.value = .ok l → l.kind ≠ .credential) :
    (literalUnder ctx nv kind).username = none := by
  rw [literalUnder]
  split
  · rfl
  · next l hclassify =>
    have hnone (lead : Text) : userOf? lead l = none := by
      rw [userOf?]
      split
      · next hkind _ => exact absurd hkind (h l hclassify)
      · next hkind _ => exact absurd hkind (h l hclassify)
      · rfl
    cases ctx.registryLead with
    | none => rfl
    | some lead => exact hnone lead

/-- The user to be registered by a row is found from the credential literal alone. -/
theorem username_rowLiteral (hlead : ctx.registryLead = some lead) : (rowLiteral ctx nv).username =
    nv.credential?.bind fun payload => userOf? lead ⟨.credential, payload⟩ := by
  cases hcredential : nv.credential? with
  | some payload =>
    rw [rowLiteral_of_credential? hcredential, literalUnder,
      NamedValue.credential?_eq_some_iff.mp hcredential, hlead]
    rfl
  | none =>
    have hdeclared : (literalUnder ctx nv nv.kind).username = none := by
      refine username_literalUnder_eq_none fun l hl hkind => ?_
      have hsome : nv.credential? = some l.payload :=
        NamedValue.credential?_eq_some_iff.mpr (by rw [hl, ← hkind])
      exact absurd (hcredential.symm.trans hsome) (by simp)
    rw [Option.bind_none, rowLiteral]
    cases hquestion : questionFor? ctx nv with
    | none => exact hdeclared
    | some question =>
      obtain ⟨resolver, resource, parameter⟩ := question
      obtain ⟨-, hempty, -, -⟩ := of_questionFor?_eq_some hquestion
      have hunder (kind : Option Kind) : (literalUnder ctx nv kind).username = none := by
        rw [literalUnder_of_isEmptySequence hempty]
      simp only
      cases resolver resource parameter with
      | declared kind => exact hunder kind
      | undeclared => exact hunder none
      | failed => rfl

/-- A credential literal is the existing reference that the plain form of its value begins like, or
else the reference that is derived from the plain form. -/
theorem literal_of_credential? {s : Text} (hpayload : nv.credential? = some payload)
    (hnull : payload.isNull = false) (hform : payload.plainForm? = some s) :
    (rowLiteral ctx nv).literal =
      if isReference ctx.lead s then Credential.underscoreSeparators s
      else Credential.referenceName s ctx.lead := by
  have hplain : Literal.plainForm payload = .ok s := by rw [Literal.plainForm, hform]
  rw [rowLiteral_of_credential? hpayload]
  refine literal_literalUnder (NamedValue.credential?_eq_some_iff.mp hpayload) ?_
  rw [Literal.format, Literal.formatCredential, hplain]
  · rfl
  · rintro rfl
    exact absurd hnull (by decide)

theorem literal_of_user? (huser : nv.user? = some username) : (rowLiteral ctx nv).literal =
    if isReference ctx.lead username then Credential.underscoreSeparators username
    else Credential.referenceName username ctx.lead := by
  rcases NamedValue.user?_eq_some_iff.mp huser with ⟨c, hc, rfl⟩ | hs
  · exact literal_of_credential? hc rfl rfl
  · exact literal_of_credential? hs rfl rfl

/-- **A new reference.** The row of a user whose name does not begin like a reference holds the
reference that is derived from the name, and registers the user. -/
theorem rowLiteral_of_user? (hlead : ctx.registryLead = some lead)
    (huser : nv.user? = some username) (hnew : ¬ isReference lead username) :
    (rowLiteral ctx nv).literal = Credential.referenceName username lead ∧
      (rowLiteral ctx nv).username = some username := by
  have hcontext : ctx.lead = lead := by rw [Context.lead, hlead, Option.getD_some]
  constructor
  · rw [literal_of_user? huser, hcontext, if_neg hnew]
  · rw [username_rowLiteral hlead]
    rcases NamedValue.user?_eq_some_iff.mp huser with ⟨c, hc, rfl⟩ | hs
    · rw [hc]
      rfl
    · rw [hs]
      exact if_neg hnew

/-- What a row registers is its user. A text that begins like a reference is not registered. -/
theorem user?_of_username_rowLiteral (hlead : ctx.registryLead = some lead)
    (h : (rowLiteral ctx nv).username = some username) : nv.user? = some username := by
  rw [username_rowLiteral hlead] at h
  obtain ⟨payload, hpayload, huser⟩ := Option.bind_eq_some_iff.mp h
  rw [NamedValue.user?_eq_some_iff, hpayload]
  rw [userOf?] at huser
  split at huser
  · next hcredential =>
    exact Or.inl ⟨_, congrArg some hcredential, Option.some.inj huser⟩
  · next htext =>
    split at huser
    · exact absurd huser (by simp)
    · exact Or.inr (congrArg some (htext.trans (congrArg Value.text (Option.some.inj huser))))
  · exact absurd huser (by simp)

end Block

end ResourceScript
