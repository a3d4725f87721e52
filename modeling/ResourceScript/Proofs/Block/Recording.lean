import ResourceScript.Proofs.Block.Credential
import ResourceScript.Proofs.Block.Rows
import ResourceScript.Proofs.Credential.Registry

/-!
# The users that a block records

While the literals of a block are made, the users of its rows are saved one after the other. This
happens also when the block is not written in the end, for the rows whose literals were made until
then. A user should be recorded for a derived reference only. A row that is read as an existing
reference but is given as a credential records its user nevertheless, so this fails unless that user
is held already when the row is reached.

## Main definitions

* `Block.Context.recordedBy`: the context in which a registry records.
* `Block.formatted`: the values whose literals are made.
* `Block.registered`: the registry after some of these values.
* `Block.IgnoresReferences`: rows that are read as existing references add nothing to a registry.
* `Block.RecordsDerivedOnly`: users are recorded for derived references only.

## Main results

* `Block.register_render`: what a block records, whether or not it is written.
* `Block.exists_recording`: a recorded name was recorded first by one of the rows.
* `Block.recordsDerivedOnly_iff`: when users are recorded for derived references only.
-/

namespace ResourceScript.Block

open Credential (isReference)

/-- The context in which a registry records the users of a block. -/
def Context.recordedBy (ctx : Context) (registry : Registry) : Context :=
  { ctx with registryLead := some registry.lead }

/-- The values whose literals are made, in order: none if a comment has no text form, and else those
that are printed up to the first one of which the row cannot be written. -/
def formatted (ctx : Context) (values : List (Text × NamedValue)) : List NamedValue :=
  match commentsOf ctx values with
  | .error _ => []
  | .ok _ =>
    upTo (fun nv => (rowFailure? ctx.settings values nv).isSome) (printed ctx.settings values)

/-- A registry after the rows of some values were made. -/
def registered (ctx : Context) (registry : Registry) (nvs : List NamedValue) : Registry :=
  registry.saveAll (nvs.filterMap fun nv => (rowLiteral ctx nv).username)

/-- Rows that are read as existing references leave a registry as it is. -/
def IgnoresReferences (ctx : Context) (registry : Registry) (nvs : List NamedValue) : Prop :=
  ∀ before nv after, nvs = before ++ nv :: after → nv.readsAsReference registry.lead →
    registered ctx registry (before ++ [nv]) = registered ctx registry before

/-- **Users are recorded for derived references only.** Every name that a block adds to a registry
is that of a row with the reference that is derived from it, and a row that is read as an existing
reference adds nothing. -/
structure RecordsDerivedOnly (ctx : Context) (values : List (Text × NamedValue))
    (registry : Registry) : Prop where
  derived : ∀ key ∈ ((render (ctx.recordedBy registry) values).register registry).usernames,
    key ∉ registry.usernames → ∃ nv ∈ formatted (ctx.recordedBy registry) values, ∃ username,
      nv.user? = some username ∧ key = Text.lowerCase username ∧
        (rowLiteral (ctx.recordedBy registry) nv).literal = registry.referenceName username
  ignoresReferences : IgnoresReferences (ctx.recordedBy registry) registry
    (formatted (ctx.recordedBy registry) values)

variable {ctx : Context} {registry : Registry} {values : List (Text × NamedValue)}
  {nv : NamedValue} {nvs before after : List NamedValue} {key : Text}

/-! ### What a block records -/

theorem formatted_of_outcome_eq_ok {block : Text} (h : (render ctx values).outcome = .ok block) :
    formatted ctx values = printed ctx.settings values := by
  rw [outcome_render] at h
  split at h
  · exact absurd h (by simp)
  · exact absurd h (by simp)
  · next comments hc hfirst =>
    rw [formatted, hc]
    refine upTo_eq_self fun nv hnv => ?_
    rw [List.findSome?_eq_none_iff.mp hfirst nv hnv, Option.isSome_none]

/-- A rendering shows the rows of the values whose literals are made, and no others. -/
theorem render_eq_renderingOf (ctx : Context) (values : List (Text × NamedValue)) :
    render ctx values = renderingOf (render ctx values).outcome
      ((formatted ctx values).map (rowOf ctx ((commentsOf ctx values).toOption.getD []))) := by
  cases hc : commentsOf ctx values with
  | error e =>
    rw [render, formatted, hc]
    rfl
  | ok comments =>
    have hrows : upTo (fun r => (r.failure? (columnWidth ctx.settings
        ((printed ctx.settings values).map (·.name)))).isSome) (rowsOf ctx values) =
          (formatted ctx values).map (rowOf ctx comments) := by
      rw [rowsOf, formatted, hc, upTo_map]
      simp only [failure?_rowOf]
      rfl
    rw [render_eq_writeRows hc, writeRows_eq, hrows]
    rfl

/-- The users of a block are those of the values whose literals are made. -/
theorem usernames_render (ctx : Context) (values : List (Text × NamedValue)) :
    (render ctx values).usernames =
      (formatted ctx values).filterMap fun nv => (rowLiteral ctx nv).username := by
  rw [render_eq_renderingOf]
  exact List.filterMap_map

/-- The questions about a block are those about the values whose literals are made. -/
theorem questions_render (ctx : Context) (values : List (Text × NamedValue)) :
    (render ctx values).questions =
      (formatted ctx values).filterMap fun nv => (rowLiteral ctx nv).question := by
  rw [render_eq_renderingOf]
  exact List.filterMap_map

theorem register_render (registry : Registry) : (render ctx values).register registry =
    registered ctx registry (formatted ctx values) := by
  rw [Rendering.register, usernames_render, registered]

/-! ### Row by row -/

theorem registered_concat (ctx : Context) (registry : Registry) (nvs : List NamedValue)
    (nv : NamedValue) : registered ctx registry (nvs ++ [nv]) =
      (registered ctx registry nvs).saveAll (rowLiteral ctx nv).username.toList := by
  rw [registered, List.filterMap_append, Registry.saveAll_append, List.filterMap_cons]
  cases (rowLiteral ctx nv).username <;> rfl

/-- A name that was added was added first by one of the rows. -/
theorem exists_recording (hnew : key ∉ registry.usernames)
    (h : key ∈ (registered ctx registry nvs).usernames) :
    ∃ before nv after username, nvs = before ++ nv :: after ∧
      (rowLiteral ctx nv).username = some username ∧ key = Text.lowerCase username ∧
        key ∉ (registered ctx registry before).usernames := by
  induction nvs using List.reverseRecOn with
  | nil => exact absurd h hnew
  | append_singleton nvs nv ih =>
    by_cases hbefore : key ∈ (registered ctx registry nvs).usernames
    · obtain ⟨before, nv', after, username, rfl, hrow⟩ := ih hbefore
      exact ⟨before, nv', after ++ [nv], username, by simp, hrow⟩
    · rw [registered_concat, Registry.mem_usernames_saveAll] at h
      obtain ⟨username, husername, hkey⟩ := h.resolve_left hbefore
      exact ⟨nvs, nv, [], username, rfl, Option.mem_toList.mp husername, hkey, hbefore⟩

/-! ### Existing references -/

section Reference

variable (hlead : ctx.registryLead = some registry.lead)

include hlead

/-- A row that is read as an existing reference leaves the registry as it is exactly if it is not
given as a credential, or if the user of that is held already. -/
theorem registered_concat_eq_self_iff (href : nv.readsAsReference registry.lead) :
    registered ctx registry (nvs ++ [nv]) = registered ctx registry nvs ↔
      ∀ c, nv.credential? = some (.credential c) →
        (registered ctx registry nvs).holds c.username := by
  rw [registered_concat, username_rowLiteral hlead]
  cases hcredential : nv.credential? with
  | none =>
    rw [NamedValue.readsAsReference, hcredential] at href
    exact absurd href Bool.false_ne_true
  | some payload =>
    cases payload with
    | credential c =>
      refine Registry.save_eq_self_iff.trans ⟨fun hheld c' hc' => ?_, fun hheld => hheld c rfl⟩
      rwa [← Value.credential.inj (Option.some.inj hc')]
    | text s =>
      have huser : nv.user? = some s := NamedValue.user?_eq_some_iff.mpr (Or.inr hcredential)
      rw [NamedValue.readsAsReference_of_user? huser] at href
      have hnone : userOf? registry.lead ⟨.credential, .text s⟩ = none := if_pos href
      rw [Option.bind_some, hnone]
      exact ⟨fun _ _ hc => absurd hc (by simp), fun _ => rfl⟩
    | _ => exact ⟨fun _ _ hc => absurd hc (by simp), fun _ => rfl⟩

/-- Rows that are read as existing references are ignored exactly if those that are given as
credentials come when their users are held. -/
theorem ignoresReferences_iff : IgnoresReferences ctx registry nvs ↔
    ∀ before nv after c, nvs = before ++ nv :: after → nv.credential? = some (.credential c) →
      isReference registry.lead c.username → (registered ctx registry before).holds c.username := by
  constructor
  · intro h before nv after c hsplit hc hnamed
    have href : nv.readsAsReference registry.lead := by
      rwa [NamedValue.readsAsReference_of_credential hc]
    exact (registered_concat_eq_self_iff hlead href).mp (h before nv after hsplit href) c hc
  · intro h before nv after hsplit href
    refine (registered_concat_eq_self_iff hlead href).mpr fun c hc => ?_
    rw [NamedValue.readsAsReference_of_credential hc] at href
    exact h before nv after c hsplit hc href

/-- If rows that are read as existing references are ignored, then every name that is added comes
from a row with the reference that is derived from it. -/
theorem IgnoresReferences.exists_derived (h : IgnoresReferences ctx registry nvs)
    (hnew : key ∉ registry.usernames) (hkey : key ∈ (registered ctx registry nvs).usernames) :
    ∃ nv ∈ nvs, ∃ username, nv.user? = some username ∧ key = Text.lowerCase username ∧
      (rowLiteral ctx nv).literal = registry.referenceName username := by
  obtain ⟨before, nv, after, username, rfl, husername, rfl, hadded⟩ := exists_recording hnew hkey
  have huser := user?_of_username_rowLiteral hlead husername
  refine ⟨nv, by simp, username, huser, rfl, ?_⟩
  refine (rowLiteral_of_user? hlead huser fun href => hadded ?_).1
  -- a row that is read as a reference would have to be ignored
  rw [← NamedValue.readsAsReference_of_user? huser] at href
  rw [← h before nv after rfl href, registered_concat, Registry.mem_usernames_saveAll]
  exact Or.inr ⟨username, Option.mem_toList.mpr husername, rfl⟩

end Reference

/-- **When users are recorded for derived references only.** The rows that are read as existing
references decide: each of them that is given as a credential must come when its user is held. -/
theorem recordsDerivedOnly_iff (ctx : Context) (values : List (Text × NamedValue))
    (registry : Registry) : RecordsDerivedOnly ctx values registry ↔
      ∀ before nv after c, formatted (ctx.recordedBy registry) values = before ++ nv :: after →
        nv.credential? = some (.credential c) → isReference registry.lead c.username →
          (registered (ctx.recordedBy registry) registry before).holds c.username := by
  have hlead : (ctx.recordedBy registry).registryLead = some registry.lead := rfl
  rw [← ignoresReferences_iff hlead]
  refine ⟨fun h => h.ignoresReferences, fun h => ⟨fun key hkey hnew => ?_, h⟩⟩
  rw [register_render] at hkey
  exact h.exists_derived hlead hnew hkey

/-- A credential whose user is named like a reference is written as an existing reference. Its user
is recorded nevertheless, though no row has the reference that is derived from the name. -/
theorem not_recordsDerivedOnly_reference :
    let nv : NamedValue := { name := ['C'], value := .credential ⟨"$CredsAlice".toList, none⟩ }
    (render (Context.recordedBy {} {}) (keyed [nv])).outcome =
        .ok "            C                    = $CredsAlice;\r\n".toList ∧
      ((render (Context.recordedBy {} {}) (keyed [nv])).register {}).usernames =
        ["$credsalice".toList] ∧ ¬ RecordsDerivedOnly {} (keyed [nv]) {} := by
  intro nv
  have hsurviving : surviving (keyed [nv]) = keyed [nv] :=
    surviving_eq_of_perm (.refl _) (by decide)
  have houtcome : (render (Context.recordedBy {} {}) (keyed [nv])).outcome =
      .ok "            C                    = $CredsAlice;\r\n".toList := by
    rw [render, commentsOf, printed, hsurviving]
    rfl
  have hrecorded : ((render (Context.recordedBy {} {}) (keyed [nv])).register {}).usernames =
      ["$credsalice".toList] := by
    rw [render, commentsOf, printed, hsurviving]
    rfl
  have hformatted : formatted (Context.recordedBy {} {}) (keyed [nv]) = [nv] := by
    rw [formatted_of_outcome_eq_ok houtcome, printed, hsurviving]
    rfl
  refine ⟨houtcome, hrecorded, fun h => ?_⟩
  obtain ⟨nv', hnv, username, huser, -, hliteral⟩ := h.derived "$credsalice".toList
    (by rw [hrecorded]; exact List.mem_singleton_self _) List.not_mem_nil
  rw [hformatted] at hnv
  obtain rfl := List.mem_singleton.mp hnv
  obtain rfl : "$CredsAlice".toList = username := Option.some.inj huser
  exact absurd hliteral (by decide)

end ResourceScript.Block
