import ResourceScript.Environment
import ResourceScript.Proofs.Block.Recording

/-!
# Written references are registered

An environment registers the users of a block while it writes the block, and forgets users only when
they are cleared. So the user of a derived reference is held from the row on that the reference was
written in, whatever is done until users are cleared.

What references begin with is fixed by the registry of the environment, which need not agree with
the settings. A text that begins like that is an existing reference and no block registers it, even
where the reference that is derived from it would read the same.

## Main definitions

* `Block.written`: the rows of a block with their values, if the block is written.
* `Environment.written`: the rows that an operation writes.

## Main results

* `Environment.eq_textOf_of_perform_render`, `Environment.eq_withHeader_of_perform_renderResource`:
  the text that is answered consists of the written rows.
* `Environment.usernames_subset_perform`: only clearing removes users.
* `Environment.holds_perform`: a written reference is registered with it.
* `Environment.holds_performAll_of_mem_written`: a written reference stays registered until users
  are cleared.
-/

namespace ResourceScript

open Credential (isReference)

namespace Block

/-- The rows of a block with the values that they are written for; none if the block is not
written. -/
def written (ctx : Context) (values : List (Text × NamedValue)) : List (NamedValue × Row) :=
  match (render ctx values).outcome with
  | .ok _ => (printed ctx.settings values).map fun nv =>
      (nv, rowOf ctx ((commentsOf ctx values).toOption.getD []) nv)
  | .error _ => []

variable {ctx : Context} {values : List (Text × NamedValue)} {nv : NamedValue} {row : Row}
  {username : Text} {registry : Registry}

/-- The text of a block is that of its written rows. -/
theorem eq_textOf_written {block : Text} (h : (render ctx values).outcome = .ok block) :
    block = textOf ctx.settings ((written ctx values).map (·.2)) := by
  have hrows : (written ctx values).map (·.2) = rowsOf ctx values := by
    rw [written, h, List.map_map]
    rfl
  rw [hrows]
  exact eq_textOf_of_outcome_eq_ok h

/-- A written row is that of a value whose literal was made. -/
theorem of_mem_written (h : (nv, row) ∈ written ctx values) :
    nv ∈ formatted ctx values ∧ row.toRowLiteral = rowLiteral ctx nv := by
  rw [written] at h
  split at h
  · next houtcome =>
    obtain ⟨nv', hnv, heq⟩ := List.mem_map.mp h
    obtain ⟨rfl, rfl⟩ := Prod.mk.inj heq
    exact ⟨by rwa [formatted_of_outcome_eq_ok houtcome], rfl⟩
  · exact absurd h List.not_mem_nil

/-- A row that is written with a new reference holds the reference that is derived from the user,
and the block registers the user. -/
theorem holds_register_of_mem_written (hlead : ctx.registryLead = some registry.lead)
    (h : (nv, row) ∈ written ctx values) (huser : nv.user? = some username)
    (hnew : ¬ isReference registry.lead username) :
    row.literal = registry.referenceName username ∧
      ((render ctx values).register registry).holds username := by
  obtain ⟨hnv, hrow⟩ := of_mem_written h
  obtain ⟨hliteral, husername⟩ := rowLiteral_of_user? hlead huser hnew
  refine ⟨by rw [hrow, hliteral, Registry.referenceName], ?_⟩
  rw [Registry.holds_iff, Rendering.register, usernames_render, Registry.mem_usernames_saveAll]
  exact Or.inr ⟨username, List.mem_filterMap.mpr ⟨nv, hnv, husername⟩, rfl⟩

end Block

namespace Environment

variable {e : Environment} {o : Operation} {os : List Operation}
  {nv : NamedValue} {row : Block.Row} {username : Text}

/-- The rows that an operation writes, with the values that they are written for. -/
def written (e : Environment) : Operation → List (NamedValue × Block.Row)
  | .render resource values excludeMetadata
  | .renderResource resource _ values excludeMetadata =>
    Block.written (e.blockContext resource excludeMetadata) values
  | _ => []

section Text

variable {resource instanceName text : Text} {values : List (Text × NamedValue)}
  {excludeMetadata : Bool}

private theorem mapError_eq_ok_iff {outcome : Except Block.Failure Text} :
    outcome.mapError Failure.block = .ok text ↔ outcome = .ok text := by
  cases outcome <;> simp [Except.mapError]

/-- Rendering a block answers with the lines of the written rows. -/
theorem eq_textOf_of_perform_render
    (h : (e.perform (.render resource values excludeMetadata)).1 = .ok text) :
    text = Block.textOf e.settings
      ((e.written (.render resource values excludeMetadata)).map (·.2)) :=
  Block.eq_textOf_written (mapError_eq_ok_iff.mp h)

/-- Rendering a resource answers with these lines between its header and its closing brace. -/
theorem eq_withHeader_of_perform_renderResource
    (h : (e.perform (.renderResource resource instanceName values excludeMetadata)).1 = .ok text) :
    text = Block.withHeader e.settings resource instanceName (Block.textOf e.settings
      ((e.written (.renderResource resource instanceName values excludeMetadata)).map (·.2))) := by
  have hmap : (Block.render (e.blockContext resource excludeMetadata) values).outcome.map
      (Block.withHeader e.settings resource instanceName) = .ok text := mapError_eq_ok_iff.mp h
  cases houtcome : (Block.render (e.blockContext resource excludeMetadata) values).outcome with
  | ok block =>
    rw [houtcome] at hmap
    rw [← Except.ok.inj hmap]
    exact congrArg _ (Block.eq_textOf_written houtcome)
  | error failure =>
    rw [houtcome] at hmap
    exact absurd hmap (by simp [Except.map])

end Text

/-! ### One operation -/

@[simp] theorem lead_perform (e : Environment) (o : Operation) :
    (e.perform o).2.registry.lead = e.registry.lead := by
  cases o with
  | render | renderResource => exact Registry.lead_saveAll _
  | saveUser username => exact Registry.lead_save e.registry username
  | registerSchema | stripQuotes | clearUsers | changeDocument => rfl

/-- Only clearing removes users. -/
theorem usernames_subset_perform (h : o ≠ .clearUsers) :
    e.registry.usernames ⊆ (e.perform o).2.registry.usernames := by
  cases o with
  | render | renderResource => exact Registry.usernames_subset_saveAll _
  | saveUser username => exact Registry.usernames_subset_saveAll [username]
  | clearUsers => exact absurd rfl h
  | registerSchema | stripQuotes | changeDocument => exact List.Subset.refl _

/-- A written row with a new reference holds the reference that is derived from the user, and the
user is registered. -/
theorem holds_perform (h : (nv, row) ∈ e.written o) (huser : nv.user? = some username)
    (hnew : ¬ isReference e.registry.lead username) :
    row.literal = e.registry.referenceName username ∧
      (e.perform o).2.registry.holds username := by
  cases o with
  | render | renderResource => exact Block.holds_register_of_mem_written rfl h huser hnew
  | registerSchema | stripQuotes | saveUser | clearUsers | changeDocument =>
    exact absurd h List.not_mem_nil

/-! ### Runs -/

theorem performAll_append (os os' : List Operation) :
    e.performAll (os ++ os') = (e.performAll os).performAll os' :=
  List.foldl_append

theorem performAll_cons (o : Operation) (os : List Operation) :
    e.performAll (o :: os) = (e.perform o).2.performAll os := rfl

@[simp] theorem lead_performAll (e : Environment) (os : List Operation) :
    (e.performAll os).registry.lead = e.registry.lead := by
  induction os generalizing e with
  | nil => rfl
  | cons o os ih => rw [performAll_cons, ih, lead_perform]

/-- No user is lost in a run in which users are not cleared. -/
theorem usernames_subset_performAll (h : .clearUsers ∉ os) :
    e.registry.usernames ⊆ (e.performAll os).registry.usernames := by
  induction os generalizing e with
  | nil => exact List.Subset.refl _
  | cons o os ih =>
    obtain ⟨ho, hos⟩ := not_or.mp (List.mem_cons.not.mp h)
    exact List.Subset.trans (usernames_subset_perform (Ne.symm ho)) (ih hos)

/-- **Written references are registered.** In every run, a row that was written for a user with a
new reference holds the reference that is derived from the name of the user, and from then on the
user and all users with the same lower-case name are held until users are cleared. No other
operation removes a user. -/
theorem holds_performAll_of_mem_written (e : Environment) (before after : List Operation)
    (o : Operation) :
    (∀ nv row username, (nv, row) ∈ (e.performAll before).written o →
      nv.user? = some username → ¬ isReference e.registry.lead username → .clearUsers ∉ after →
        row.literal = e.registry.referenceName username ∧
          ∀ other, Text.lowerCase other = Text.lowerCase username →
            (e.performAll (before ++ o :: after)).registry.holds other) ∧
      (o ≠ .clearUsers → (e.performAll before).registry.usernames ⊆
        (e.performAll (before ++ [o])).registry.usernames) := by
  have hlead : (e.performAll before).registry.lead = e.registry.lead := lead_performAll e before
  refine ⟨fun nv row username hrow huser hnew hafter => ?_, fun ho => ?_⟩
  · rw [← hlead] at hnew
    obtain ⟨hliteral, hheld⟩ := holds_perform hrow huser hnew
    refine ⟨by rw [hliteral, Registry.referenceName, hlead, Registry.referenceName], ?_⟩
    intro other hother
    rw [Registry.holds_congr hother, Registry.holds_iff, performAll_append, performAll_cons]
    exact usernames_subset_performAll hafter (Registry.holds_iff.mp hheld)
  · rw [performAll_append]
    exact usernames_subset_perform ho

/-- A resource with a reference to a user of a domain, between a clearing and other operations. -/
theorem holds_performAll_of_mem_written_domain :
    let nv : NamedValue :=
      { name := ['C'], value := .text "D\\A.b".toList, kind := some .credential }
    let row : Block.Row :=
      { name := ['C'], literal := "$CredsA_b".toList, username := some "D\\A.b".toList }
    let before : List Operation := [.saveUser ['u'], .clearUsers]
    let after : List Operation := [.stripQuotes false ['C'] [], .saveUser ['v']]
    let o : Operation := .renderResource ['R'] ['I'] [(['C'], nv)] false
    (nv, row) ∈ (performAll {} before).written o ∧
      row.literal = Registry.referenceName {} "D\\A.b".toList ∧
      (performAll {} (before ++ o :: after)).registry.holds "d\\a.B".toList ∧
      (performAll {} before).registry.usernames ⊆
        (performAll {} (before ++ [o])).registry.usernames := by
  intro nv row before after o
  have hsurviving : Block.surviving [(['C'], nv)] = [(['C'], nv)] :=
    Block.surviving_eq_of_perm (.refl _) (by decide)
  have hwritten : (performAll {} before).written o = [(nv, row)] := by
    simp only [o, written, Block.written, Block.render, Block.commentsOf, Block.printed, hsurviving]
    rfl
  have hmem : (nv, row) ∈ (performAll {} before).written o := hwritten ▸ List.mem_singleton_self _
  have hafter : .clearUsers ∉ after := by simp [after]
  obtain ⟨hregistered, hkept⟩ := holds_performAll_of_mem_written {} before after o
  obtain ⟨hliteral, hheld⟩ := hregistered nv row _ hmem rfl (by decide) hafter
  have ho : o ≠ .clearUsers := by simp [o]
  exact ⟨hmem, hliteral, hheld _ (by decide), hkept ho⟩

end Environment

end ResourceScript
