import ResourceScript.Proofs.Unquote.Pairing

/-!
# Delimited literals

Outside of its quotes a literal holds plain characters only: no blanks, no semicolons and no
backticks. Its quotes come in pairs, and what stands between the two of a pair is sealed. Such a
literal delimits itself: it has an even number of unescaped quotes, no word of it is followed by a
blank outside of the quotes, and a statement end can only lie between two paired quotes.

## Main definitions

* `Unquote.isPlain`: the characters of a literal outside of its quotes.
* `Unquote.Delimited`: the literals with their bodies and with what is left without the quotes.

## Main results

* `Unquote.Delimited.even_quotes`, `Unquote.Delimited.dropQuotes_eq`: the quotes of a literal.
* `Unquote.Delimited.find?_statementEnd`: the statement ends behind the literal.
* `Unquote.Delimited.assignedRest?_append`: no assignment begins in the literal.
-/

namespace ResourceScript.Unquote

open Text (IsName isBlank escapeLead)

/-- The characters of a literal outside of its quotes. -/
def isPlain (c : Char) : Bool := !isBlank c && c != '\x22' && c != escapeLead && c != ';'

/-- `Delimited bodies s bare`: in the literal `s` the pairs of quotes stand around `bodies`, and
`bare` is the literal without these quotes. -/
inductive Delimited : List Text → Text → Text → Prop
  | nil : Delimited [] [] []
  | plain {c : Char} {bodies : List Text} {s bare : Text} (hc : isPlain c)
      (h : Delimited bodies s bare) : Delimited bodies (c :: s) (c :: bare)
  | quoted {body : Text} {bodies : List Text} {s bare : Text} (hbody : IsSealed body)
      (h : Delimited bodies s bare) :
      Delimited (body :: bodies) ('\x22' :: (body ++ '\x22' :: s)) (body ++ bare)

variable {settings : Settings} {bodies bodies' : List Text} {s s' bare bare' body t name : Text}
  {c : Char}

theorem isPlain_iff : isPlain c ↔ isBlank c = false ∧ c ≠ '\x22' ∧ c ≠ escapeLead ∧ c ≠ ';' := by
  simp [isPlain, and_assoc]

namespace Delimited

theorem append (h : Delimited bodies s bare) (h' : Delimited bodies' s' bare') :
    Delimited (bodies ++ bodies') (s ++ s') (bare ++ bare') := by
  induction h with
  | nil => exact h'
  | plain hc _ ih => exact ih.plain hc
  | quoted hbody _ ih => simpa using ih.quoted hbody

theorem of_isPlain (h : ∀ c ∈ s, isPlain c) : Delimited [] s s := by
  induction s with
  | nil => exact .nil
  | cons c s ih =>
    exact (ih fun d hd => h d (List.mem_cons_of_mem c hd)).plain (h c List.mem_cons_self)

theorem of_isSealed (h : IsSealed body) :
    Delimited [body] ('\x22' :: (body ++ ['\x22'])) body := by
  simpa using nil.quoted h

/-- A literal without bodies has no quotes to lose. -/
theorem bare_eq (h : Delimited [] s bare) : bare = s := by
  generalize hbodies : ([] : List Text) = bodies at h
  induction h with
  | nil => rfl
  | plain _ _ ih => rw [ih hbodies]
  | quoted _ _ _ => exact absurd hbodies (List.cons_ne_nil _ _).symm

/-! ### Quotes -/

/-- A literal leaves the next character unescaped. -/
theorem escapesNext_eq (h : Delimited bodies s bare) : escapesNext false s = false := by
  induction h with
  | nil => rfl
  | plain hc _ ih =>
    simpa [escapesNext, beq_eq_false_iff_ne.mpr (isPlain_iff.mp hc).2.2.1] using ih
  | quoted hbody _ ih =>
    rw [escapesNext, escapesNext_append]
    simpa [escapesNext, escapeLead, hbody.escapesNext_eq] using ih

/-- The quotes of a literal come in pairs. -/
theorem even_quotes (h : Delimited bodies s bare) (pos : Nat) :
    Even (quotesWithin false pos s).length := by
  induction h generalizing pos with
  | nil => exact Even.zero
  | plain hc _ ih =>
    obtain ⟨-, hquote, hlead, -⟩ := isPlain_iff.mp hc
    simpa [quotesWithin, hquote, beq_eq_false_iff_ne.mpr hlead] using ih (pos + 1)
  | quoted hbody _ ih =>
    rw [hbody.quotesWithin_quoted, List.length_cons, List.length_cons, Nat.even_add_one,
      Nat.even_add_one, not_not]
    exact ih _

/-- A literal without its quotes. -/
theorem dropQuotes_eq (h : Delimited bodies s bare) : dropQuotes false s = bare := by
  induction h with
  | nil => rfl
  | plain hc _ ih =>
    obtain ⟨-, hquote, hlead, -⟩ := isPlain_iff.mp hc
    simpa [dropQuotes, hquote, beq_eq_false_iff_ne.mpr hlead] using ih
  | quoted hbody _ ih => simp [dropQuotes, hbody.dropQuotes_append, ih]

/-! ### What can be found in a literal -/

section Find

variable (hblank : ∀ c ∈ settings.lineTerminator, isBlank c)

include hblank

omit hblank in
private theorem statementEnd_not_prefix_cons (hc : c ≠ ';') :
    ¬ settings.statementEnd <+: c :: s := fun h => hc (List.cons_prefix_cons.mp h).1.symm

theorem quote_notMem_statementEnd : '\x22' ∉ settings.statementEnd := by
  rw [Settings.statementEnd, List.mem_cons, not_or]
  exact ⟨by decide, fun h => absurd (hblank _ h) (by decide)⟩

/-- The statement ends behind the literal, unless a body holds the statement end. -/
theorem find?_statementEnd (h : Delimited bodies s bare)
    (hbodies : ∀ body ∈ bodies, ¬ settings.statementEnd <:+: body) :
    Text.find? settings.statementEnd (s ++ (settings.statementEnd ++ t)) = some s.length := by
  have hne : settings.statementEnd ≠ [] := List.cons_ne_nil _ _
  induction h with
  | nil => exact Text.find?_self_append hne
  | plain hc _ ih =>
    rw [List.cons_append, Text.find?_cons_succ
      (statementEnd_not_prefix_cons (isPlain_iff.mp hc).2.2.2), ih hbodies]
    rfl
  | @quoted body _ s _ _ _ ih =>
    have hnone : Text.find? settings.statementEnd body = none :=
      (Text.find?_eq_none_iff hne).mpr (hbodies body List.mem_cons_self)
    have hs := ih fun body hbody => hbodies body (List.mem_cons_of_mem _ hbody)
    rw [List.cons_append, Text.find?_cons_succ (statementEnd_not_prefix_cons (by decide)),
      List.append_assoc, List.cons_append,
      Text.find?_append_cons hne (quote_notMem_statementEnd hblank), hnone, Option.none_or,
      Text.find?_cons_succ (statementEnd_not_prefix_cons (by decide)), hs]
    simp
    omega

omit hblank in
private theorem name_not_prefix_append (h : Delimited bodies s bare) (hquote : '\x22' ∉ name)
    (hsemicolon : ';' ∉ name) : ¬ name ++ [' '] <+: s ++ ';' :: t := by
  induction h generalizing name with
  | nil =>
    cases name with
    | nil => exact fun hp => absurd (List.cons_prefix_cons.mp hp).1 (by decide)
    | cons d n => exact fun hp => hsemicolon ((List.cons_prefix_cons.mp hp).1 ▸ List.mem_cons_self)
  | plain hc _ ih =>
    cases name with
    | nil =>
      intro hp
      have hd := (List.cons_prefix_cons.mp hp).1
      exact absurd (isPlain_iff.mp hc).1 (by rw [← hd]; decide)
    | cons d n =>
      intro hp
      simp only [List.mem_cons, not_or] at hquote hsemicolon
      exact ih hquote.2 hsemicolon.2 (List.cons_prefix_cons.mp hp).2
  | quoted _ _ _ =>
    cases name with
    | nil => exact fun hp => absurd (List.cons_prefix_cons.mp hp).1 (by decide)
    | cons d n => exact fun hp => hquote ((List.cons_prefix_cons.mp hp).1 ▸ List.mem_cons_self)

omit hblank in
/-- No assignment begins in the literal, unless one begins in a body. -/
theorem assignedRest?_append (hname : IsName name) (h : Delimited bodies s bare)
    (hbodies : ∀ body ∈ bodies, assignedRest? name false body = none) {start : Bool} :
    assignedRest? name start (s ++ ';' :: t) = assignedRest? name false t := by
  induction h generalizing start with
  | nil => exact assignedRest?_cons_of_notMem hname hname.semicolon_notMem
  | plain hc h ih =>
    have hnot := name_not_prefix_append (t := t) (h.plain hc) hname.quote_notMem
      hname.semicolon_notMem
    rw [List.cons_append] at hnot
    rw [List.cons_append, assignedRest?_cons_of_not fun hb => hnot hb.1, ih hbodies]
  | @quoted body _ s _ _ _ ih =>
    rw [List.cons_append, assignedRest?_cons_of_notMem hname hname.quote_notMem, List.append_assoc,
      List.cons_append, show isBlank '\x22' = false by decide, assignedRest?_append_quote hname,
      hbodies body List.mem_cons_self, Option.map_none, Option.none_or]
    exact ih fun body hbody => hbodies body (List.mem_cons_of_mem _ hbody)

end Find

end Delimited

end ResourceScript.Unquote
