import ResourceScript.Proofs.Block.Line
import ResourceScript.Proofs.Block.Recording

/-!
# What a block does not depend on

The declared kind of a parameter is asked for only if its value is a sequence without items, and
such a sequence is written in the same way under every kind. The registry that records the users of
a block tells what references begin with, and is not looked into. So neither what a resolver answers
nor who is registered already shows in the text of a block, or in the users that it records.

## Main definitions

* `Resolver.Answers`: a resolver, if there is one, never fails.
* `Block.Context.given`: a context with another resolver and another registry.

## Main results

* `Block.literal_rowLiteral_of_answers`: an answer does not show in a literal.
* `Block.outcome_congr`: the text of a block is determined by its comments, names and literals.
* `Block.outcome_given_eq`: neither answers nor registered users show in a block.
-/

namespace ResourceScript

/-- A resolver that answers every question, or none. -/
def Resolver.Answers (resolver : Option Resolver) : Prop :=
  ∀ r ∈ resolver, ∀ resource parameter, r resource parameter ≠ .failed

namespace Block

/-- A context in which another resolver is asked and another registry records, if there are any. -/
def Context.given (ctx : Context) (resolver : Option Resolver) (registry : Option Registry) :
    Context :=
  { ctx with resolver := resolver, registryLead := registry.map (·.lead) }

variable {ctx ctx' : Context} {values : List (Text × NamedValue)} {nv : NamedValue}

/-! ### Literals -/

/-- A literal depends on its context only through what references begin with. -/
theorem literal_literalUnder_congr (hlead : ctx.lead = ctx'.lead) (kind : Option Kind) :
    (literalUnder ctx nv kind).literal = (literalUnder ctx' nv kind).literal := by
  rw [literalUnder, literalUnder]
  cases Literal.classify kind nv.value with
  | error _ => rfl
  | ok l => simp only [hlead]

/-- An answer does not show in a literal. -/
theorem literal_rowLiteral_of_answers (hanswers : Resolver.Answers ctx.resolver) :
    (rowLiteral ctx nv).literal = (literalUnder ctx nv nv.kind).literal := by
  rw [rowLiteral]
  cases hquestion : questionFor? ctx nv with
  | none => rfl
  | some question =>
    obtain ⟨resolver, resource, parameter⟩ := question
    obtain ⟨hresolver, hempty, -, -⟩ := of_questionFor?_eq_some hquestion
    simp only [literalUnder_of_isEmptySequence hempty]
    cases hanswer : resolver resource parameter with
    | declared _ => rfl
    | undeclared => rfl
    | failed => exact absurd hanswer (hanswers resolver hresolver resource parameter)

/-! ### Blocks -/

/-- The text of a block is determined by its comments, its names and its literals. -/
theorem outcome_congr (hsettings : ctx.settings = ctx'.settings)
    (hcomments : commentsOf ctx values = commentsOf ctx' values)
    (hliteral : ∀ nv, (rowLiteral ctx nv).literal = (rowLiteral ctx' nv).literal) :
    (render ctx values).outcome = (render ctx' values).outcome := by
  have hwidth : nameWidth ctx.settings (rowsOf ctx values) =
      nameWidth ctx.settings (rowsOf ctx' values) :=
    nameWidth_map_eq (by rw [map_name_rowsOf, map_name_rowsOf, hsettings])
  have htext : textOf ctx.settings (rowsOf ctx values) =
      textOf ctx'.settings (rowsOf ctx' values) := by
    rw [textOf_eq_linesOf, textOf_eq_linesOf, hwidth, ← hsettings]
    rw [rowsOf, rowsOf, ← hcomments, ← hsettings, linesOf, linesOf, List.map_map, List.map_map]
    refine congrArg List.flatten (List.map_congr_left fun nv _ => ?_)
    exact Row.line_congr rfl (hliteral nv) rfl
  rw [outcome_render, outcome_render, hcomments, hsettings, ← htext, hsettings]

/-- With the same comments, the same references are recorded. -/
theorem usernames_congr {lead : Text} (hsettings : ctx.settings = ctx'.settings)
    (hcomments : commentsOf ctx values = commentsOf ctx' values)
    (hlead : ctx.registryLead = some lead) (hlead' : ctx'.registryLead = some lead) :
    (render ctx values).usernames = (render ctx' values).usernames := by
  have hformatted : formatted ctx values = formatted ctx' values := by
    rw [formatted, formatted, hcomments, hsettings]
  rw [usernames_render, usernames_render, hformatted]
  refine List.filterMap_congr fun nv _ => ?_
  rw [username_rowLiteral hlead, username_rowLiteral hlead']

/-- **Neither answers nor registered users show in a block.** Two resolvers that answer, or none,
and two registries under which references begin in the same way, or none, give the same text or the
same failure, and the same users are saved in both registries. -/
theorem outcome_given_eq (ctx : Context) (values : List (Text × NamedValue))
    {resolver resolver' : Option Resolver} {registry registry' : Option Registry}
    (hanswers : Resolver.Answers resolver) (hanswers' : Resolver.Answers resolver')
    (hlead : (ctx.given resolver registry).lead = (ctx.given resolver' registry').lead) :
    (render (ctx.given resolver registry) values).outcome =
        (render (ctx.given resolver' registry') values).outcome ∧
      ∀ r ∈ registry, ∀ r' ∈ registry', ∃ usernames,
        (render (ctx.given resolver registry) values).register r = r.saveAll usernames ∧
        (render (ctx.given resolver' registry') values).register r' = r'.saveAll usernames := by
  have houtcome : (render (ctx.given resolver registry) values).outcome =
      (render (ctx.given resolver' registry') values).outcome := by
    refine outcome_congr rfl rfl fun nv => ?_
    rw [literal_rowLiteral_of_answers hanswers, literal_rowLiteral_of_answers hanswers',
      literal_literalUnder_congr hlead]
  refine ⟨houtcome, fun r hr r' hr' => ⟨_, rfl, ?_⟩⟩
  obtain rfl : registry = some r := hr
  obtain rfl : registry' = some r' := hr'
  have hleads : r.lead = r'.lead := hlead
  have hlead' : (ctx.given resolver' (some r')).registryLead = some r.lead :=
    congrArg some hleads.symm
  have husers : (render (ctx.given resolver (some r)) values).usernames =
      (render (ctx.given resolver' (some r')) values).usernames :=
    usernames_congr rfl rfl rfl hlead'
  rw [Rendering.register, husers]

/-- A sequence without items that is asked about once, and a user who is held by one of the
registries. -/
theorem outcome_given_eq_held :
    let values : List NamedValue :=
      [{ name := ['A'], value := .tuple [] }, { name := ['B'], value := .credential ⟨['U'], none⟩ }]
    let held : Registry := { usernames := [['u']] }
    let resolver : Resolver := fun _ _ => .declared .credential
    (render (Context.given {} (some resolver) (some held)) (keyed values)).questions =
        [([], ['A'])] ∧
      (render (Context.given {} (some resolver) (some held)) (keyed values)).outcome =
        (render (Context.given {} none (some {})) (keyed values)).outcome ∧
      ∃ usernames, (render (Context.given {} (some resolver) (some held)) (keyed values)).register
          held = held.saveAll usernames ∧
        (render (Context.given {} none (some {})) (keyed values)).register {} =
          Registry.saveAll {} usernames := by
  intro values held resolver
  have hanswers : Resolver.Answers (some resolver) := by
    intro r hr resource parameter
    rw [← Option.mem_some_iff.mp hr]
    exact Resolver.Answer.noConfusion
  have hanswers' : Resolver.Answers none := by
    intro r hr
    exact absurd hr (Option.not_mem_none r)
  have hlead : (Context.given {} (some resolver) (some held)).lead =
      (Context.given {} none (some {})).lead := rfl
  obtain ⟨houtcome, husers⟩ := outcome_given_eq {} (keyed values) hanswers hanswers' hlead
  have hsurviving : surviving (keyed values) = keyed values :=
    surviving_eq_of_perm (.refl _) (by decide)
  have hquestions : (render (Context.given {} (some resolver) (some held))
      (keyed values)).questions = [([], ['A'])] := by
    rw [render, commentsOf, printed, hsurviving]
    rfl
  exact ⟨hquestions, houtcome, husers held rfl {} rfl⟩

end Block

end ResourceScript
