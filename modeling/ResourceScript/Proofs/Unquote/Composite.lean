import ResourceScript.Proofs.Unquote.Delimited
import ResourceScript.Proofs.Unquote.Separators

/-!
# Composite values

The quotes of a composite value are paired like those of a plain one, but a quote behind an equals
sign is taken for the opening quote of a nested literal and is passed over. So a quoted text keeps
its quotes when the equals sign stands at its own end, or when the statement ends inside of it.
Otherwise the two quotes go, the text between them is opened, and the whole block is tidied.

## Main definitions

* `Unquote.KeepsQuotes`: the quoted texts that composite stripping leaves alone.
* `Unquote.EscapesQuotesOnly`: the texts in which only quotes are special.

## Main results

* `Unquote.replaceAll_escape`: unescaping the quotes of a text without other special characters.
* `Unquote.stripQuotes_of_keepsQuotes`, `Unquote.stripQuotes_of_not_keepsQuotes`: what composite
  stripping makes of a quoted text.
-/

namespace ResourceScript.Unquote

open Text (isBlank isSpecial escape escapeLead)

/-- Composite stripping does not find the two quotes around a text: a statement ends in the text, or
the quote behind it seems to open a nested literal. -/
def KeepsQuotes (settings : Settings) (s : Text) : Prop :=
  settings.statementEnd <:+: s ∨ ['='] <:+ s ∨ ['=', ' '] <:+ s

instance (settings : Settings) (s : Text) : Decidable (KeepsQuotes settings s) :=
  inferInstanceAs (Decidable (_ ∨ _ ∨ _))

/-- Nothing but quotes has to be escaped in a text. -/
def EscapesQuotesOnly (allowVariables : Bool) (s : Text) : Prop :=
  ∀ c ∈ s, isSpecial allowVariables c → c = '\x22'

instance (allowVariables : Bool) (s : Text) : Decidable (EscapesQuotesOnly allowVariables s) :=
  decidable_of_iff (s.all fun c => !isSpecial allowVariables c || c == '\x22')
    (by simp [EscapesQuotesOnly, Decidable.imp_iff_not_or])

variable {settings : Settings} {s t u v w lead body name : Text} {start stop first last : Nat}
  {ps : List Nat}

/-! ### Pairing -/

theorem opensNested_append_length (u v : Text) :
    opensNested (u ++ v) u.length ↔ ['='] <:+ u ∨ ['=', ' '] <:+ u := by
  rw [opensNested, List.take_left' rfl, ← @List.reverse_prefix _ ['='],
    ← @List.reverse_prefix _ ['=', ' ']]
  simp only [List.reverse_cons, List.reverse_nil, List.nil_append, List.singleton_append]
  split
  · next h => simp [h]
  · next h => simp [h]
  · next hdirect hblank =>
    refine iff_of_false Bool.false_ne_true ?_
    rintro (⟨r, hr⟩ | ⟨r, hr⟩)
    · exact hdirect r hr.symm
    · exact hblank r hr.symm

/-- Quotes behind the end of the statement are not paired. -/
theorem boundariesFrom_eq_nil_of_forall_lt (s : Text) (composite : Bool) :
    ∀ (phase : Phase) {ps : List Nat}, (∀ p ∈ ps, stop < p) →
      boundariesFrom s stop composite phase ps = []
  | _, [], _ => by simp [boundariesFrom]
  | .outside, start :: ps, h => by
    have hstart : ¬ start < stop := Nat.not_lt.mpr (h start List.mem_cons_self).le
    simp [boundariesFrom, hstart]
  | .opened start, last :: ps, h => by
    have hlast : ¬ last ≤ stop := Nat.not_le.mpr (h last List.mem_cons_self)
    have hrest := boundariesFrom_eq_nil_of_forall_lt s composite (.nested start) fun p hp =>
      h p (List.mem_cons_of_mem last hp)
    simp [boundariesFrom, hlast, hrest]
  | .nested start, last :: ps, h => by
    rw [boundariesFrom]
    exact boundariesFrom_eq_nil_of_forall_lt s composite (.opened start) fun p hp =>
      h p (List.mem_cons_of_mem last hp)

/-- Two quotes of which the second one opens a nested literal or stands behind the statement. -/
theorem boundariesFrom_composite_eq_nil (hps : ∀ p ∈ ps, stop < p)
    (h : stop < last ∨ opensNested s last) :
    boundariesFrom s stop true .outside (first :: last :: ps) = [] := by
  have hnested := boundariesFrom_eq_nil_of_forall_lt s true (.nested first) hps
  rcases h with h | h
  · simp [boundariesFrom, Nat.not_le.mpr h, hnested]
  · simp [boundariesFrom, h, hnested]

/-- Two quotes that are the only ones of the statement. -/
theorem boundariesFrom_composite_pair (hps : ∀ p ∈ ps, stop < p) (hfirst : first < stop)
    (hlast : last ≤ stop) (h : ¬ opensNested s last) :
    boundariesFrom s stop true .outside (first :: last :: ps) = [first, last] := by
  have hrest := boundariesFrom_eq_nil_of_forall_lt s true .outside hps
  simp [boundariesFrom, hfirst, hlast, h, hrest]

/-! ### Opening a statement -/

/-- Unescaping the quotes of an escaped text gives the text back, if nothing but quotes had to be
escaped. -/
theorem replaceAll_escape {allowVariables : Bool}
    (h : EscapesQuotesOnly allowVariables s) :
    Text.replaceAll [escapeLead, '\x22'] ['\x22'] (escape allowVariables s) = s := by
  induction s with
  | nil => rw [Text.escape_nil]; rfl
  | cons c s ih =>
    obtain ⟨hc, hs⟩ := List.forall_mem_cons.mp h
    cases hspecial : isSpecial allowVariables c with
    | true =>
      obtain rfl := hc hspecial
      rw [Text.escape_cons_of_isSpecial hspecial]
      exact (Text.replaceAll_append_left (by simp) _).trans (congrArg ('\x22' :: ·) (ih hs))
    | false =>
      have hlead : ¬ [escapeLead, '\x22'] <+: c :: escape allowVariables s := fun hp => by
        rw [← (List.cons_prefix_cons.mp hp).1, Text.isSpecial_escapeLead] at hspecial
        exact Bool.noConfusion hspecial
      rw [Text.escape_cons_of_not_isSpecial hspecial, Text.replaceAll_cons hlead, ih hs]

/-- What stands before the value is left as it is. -/
theorem openStatement_append (hlead : escapeLead ∉ lead) (hlast : lead.getLast? = some ' ')
    (s : Text) : openStatement settings (lead ++ s) = lead ++ openStatement settings s := by
  have hinfix : ¬ [escapeLead, '\x22'] <:+: lead := fun h => hlead (h.subset (by simp))
  have hplain : Text.replaceAll [escapeLead, '\x22'] ['\x22'] (lead ++ s) =
      lead ++ Text.replaceAll [escapeLead, '\x22'] ['\x22'] s := by
    rw [Text.replaceAll_append (by decide) hlast, Text.replaceAll_eq_self hinfix]
  rw [openStatement, openStatement, hplain]
  set plain := Text.replaceAll [escapeLead, '\x22'] ['\x22'] s
  -- the blank before the value does not belong to a closing parenthesis behind a quote
  have hsuffix : ['\x22', ')'] <:+ lead ++ plain ↔ ['\x22', ')'] <:+ plain := by
    obtain ⟨init, rfl⟩ := List.getLast?_eq_some_iff.mp hlast
    rw [List.append_assoc, List.singleton_append, Text.suffix_append_cons_iff (by decide)]
  simp only [List.isSuffixOf_iff_suffix, hsuffix]
  split
  · next h =>
    have hne : plain ≠ [] := fun hnil => by simp [hnil] at h
    simp [List.dropLast_append_of_ne_nil hne]
  · rfl

/-- A text without backticks is left as it is, if no parenthesis closes a list at its end. -/
theorem openStatement_eq_self (hbacktick : escapeLead ∉ s) (hend : ¬ ['\x22', ')'] <:+ s) :
    openStatement settings s = s := by
  have hinfix : ¬ [escapeLead, '\x22'] <:+: s := fun h => hbacktick (h.subset (by simp))
  rw [openStatement, Text.replaceAll_eq_self hinfix, if_neg]
  rwa [List.isSuffixOf_iff_suffix]

/-- An escaped text is opened to the text itself, if nothing but quotes had to be escaped and no
parenthesis closes a list at its end. -/
theorem openStatement_escape {allowVariables : Bool}
    (h : EscapesQuotesOnly allowVariables s) (hend : ¬ ['\x22', ')'] <:+ s) :
    openStatement settings (escape allowVariables s) = s := by
  rw [openStatement, replaceAll_escape h, if_neg]
  rwa [List.isSuffixOf_iff_suffix]

/-- Opening a part of a block that is a statement. -/
theorem openedAt_append
    (hstop : statementStop settings (u ++ (v ++ w)) u.length = u.length + v.length) :
    openedAt settings (u ++ (v ++ w)) u.length = u ++ openStatement settings v ++ w := by
  have htake : (u ++ (v ++ w)).take (u.length + v.length) = u ++ v := by
    rw [← List.append_assoc, ← List.length_append, List.take_left' rfl]
  have hdrop : (u ++ (v ++ w)).drop (u.length + v.length) = w := by
    rw [← List.append_assoc, ← List.length_append, List.drop_left' rfl]
  rw [openedAt, hstop, htake, hdrop, List.take_left' rfl, List.drop_left' rfl]

/-- Tidying a block of which a part is a statement. -/
theorem tidy_append (hblank : ∀ c ∈ settings.lineTerminator, isBlank c)
    (hend : Text.find? settings.statementEnd (v ++ w) = some v.length) :
    tidy settings (u ++ (v ++ w)) u.length =
      .ok (dropSeparators settings.lineTerminator (u ++ openStatement settings v ++ w)) := by
  have hstop : statementStop settings (u ++ (v ++ w)) u.length = u.length + v.length := by
    rw [statementStop_append, hend, Option.getD_some]
  rw [tidy_eq hblank, openedAt_append hstop]

/-! ### Stripping a quoted text -/

/-- A statement with a quoted text: what stands before the text, the text, and what follows it. -/
def quotedStatement (settings : Settings) (lead body t : Text) : Text :=
  lead ++ '\x22' :: (body ++ '\x22' :: (settings.statementEnd ++ t))

theorem quotedStatement_eq (settings : Settings) (lead body t : Text) :
    quotedStatement settings lead body t =
      lead ++ '\x22' :: (body ++ ['\x22']) ++ (settings.statementEnd ++ t) := by
  simp [quotedStatement]

/-- The quote behind the text opens a nested literal exactly if the text ends that way. -/
theorem opensNested_quotedStatement : opensNested (u ++ quotedStatement settings lead body t)
    (u.length + lead.length + 1 + body.length) ↔ ['='] <:+ body ∨ ['=', ' '] <:+ body := by
  have hsplit : u ++ quotedStatement settings lead body t =
      (u ++ lead ++ '\x22' :: body) ++ '\x22' :: (settings.statementEnd ++ t) := by
    simp [quotedStatement]
  have hlength : u.length + lead.length + 1 + body.length =
      (u ++ lead ++ '\x22' :: body).length := by simp; omega
  rw [hsplit, hlength, opensNested_append_length, Text.suffix_append_cons_iff (by decide),
    Text.suffix_append_cons_iff (by decide)]

/-- A statement end in the text ends the statement before the quote behind the text. -/
theorem statementStop_lt_of_infix (hend : settings.statementEnd <:+: body) :
    statementStop settings (u ++ quotedStatement settings lead body t) u.length <
      u.length + lead.length + 1 + body.length := by
  have hne : settings.statementEnd ≠ [] := List.cons_ne_nil _ _
  have hsplit : quotedStatement settings lead body t =
      (lead ++ '\x22' :: body) ++ '\x22' :: (settings.statementEnd ++ t) := by
    simp [quotedStatement]
  have hinfix : settings.statementEnd <:+: lead ++ '\x22' :: body :=
    hend.trans ((List.suffix_cons _ _).trans (List.suffix_append ..)).isInfix
  cases hfind : Text.find? settings.statementEnd (lead ++ '\x22' :: body) with
  | none => exact absurd hinfix ((Text.find?_eq_none_iff hne).mp hfind)
  | some n =>
    have hle := Text.find?_add_length_le hne hfind
    have hpos : 0 < settings.statementEnd.length := List.length_pos_iff.mpr hne
    rw [List.length_append, List.length_cons] at hle
    rw [statementStop_append, hsplit, Text.find?_append_of_eq_some hne hfind, Option.getD_some]
    omega

section Stripping

variable (hblank : ∀ c ∈ settings.lineTerminator, isBlank c) (hlead : IsSealed lead)
  (hbody : IsSealed body) (hsemicolon : ';' ∉ lead) (hu : escapesNext false u = false)

include hlead hbody hu in
theorem boundaries_quotedStatement (stop : Nat) :
    boundaries (u ++ quotedStatement settings lead body t) u.length stop true =
      boundariesFrom (u ++ quotedStatement settings lead body t) stop true .outside
        ((u.length + lead.length) :: (u.length + lead.length + 1 + body.length) ::
          quotesWithin false (u.length + lead.length + 1 + body.length + 1)
            (settings.statementEnd ++ t)) := by
  rw [boundaries, quotesFrom_append, hu, quotedStatement, hlead.quotesWithin_append,
    hbody.quotesWithin_quoted]

/-- Quotes behind the statement end. -/
theorem lt_of_mem_quotesWithin_statementEnd {pos p : Nat}
    (h : p ∈ quotesWithin false pos (settings.statementEnd ++ t)) : pos < p := by
  have hstep : quotesWithin false pos (settings.statementEnd ++ t) =
      quotesWithin false (pos + 1) (settings.lineTerminator ++ t) := by
    simp [Settings.statementEnd, quotesWithin, escapeLead]
  exact (of_mem_quotesWithin (hstep ▸ h)).1

include hblank hsemicolon in
/-- A statement without a statement end in its text ends behind the text. -/
theorem statementStop_quotedStatement (hend : ¬ settings.statementEnd <:+: body) :
    statementStop settings (u ++ quotedStatement settings lead body t) u.length =
      u.length + lead.length + 1 + body.length + 1 := by
  have hne : settings.statementEnd ≠ [] := List.cons_ne_nil _ _
  have hquote : '\x22' ∉ settings.statementEnd := Delimited.quote_notMem_statementEnd hblank
  have hinfix : ¬ settings.statementEnd <:+: lead ++ '\x22' :: (body ++ ['\x22']) := by
    rw [Text.infix_append_cons_iff hne hquote, Text.infix_append_cons_iff hne hquote,
      List.infix_nil]
    rintro (h | h | h)
    · exact hsemicolon (h.subset List.mem_cons_self)
    · exact hend h
    · exact hne h
  have hfind : Text.find? settings.statementEnd (quotedStatement settings lead body t) =
      some (lead ++ '\x22' :: (body ++ ['\x22'])).length :=
    quotedStatement_eq settings lead body t ▸
      Text.find?_append_self (semicolon_notMem_terminator hblank) hinfix
  rw [statementStop_append, hfind, Option.getD_some]
  simp only [List.length_append, List.length_cons, List.length_nil]
  omega

include hblank hlead hbody hsemicolon hu in
/-- **Quotes that are kept.** Where a statement end or an equals sign misleads the pairing,
composite stripping changes nothing. -/
theorem stripQuotes_of_keepsQuotes (hkeep : KeepsQuotes settings body)
    (hassign : findAssignment? name (u ++ quotedStatement settings lead body t) = some u.length) :
    stripQuotes settings true name (u ++ quotedStatement settings lead body t) =
      .ok (u ++ quotedStatement settings lead body t) := by
  have hnil : boundaries (u ++ quotedStatement settings lead body t) u.length
      (statementStop settings (u ++ quotedStatement settings lead body t) u.length) true = [] := by
    rw [boundaries_quotedStatement hlead hbody hu]
    by_cases hend : settings.statementEnd <:+: body
    · have hstop : statementStop settings (u ++ quotedStatement settings lead body t) u.length <
          u.length + lead.length + 1 + body.length := statementStop_lt_of_infix hend
      refine boundariesFrom_composite_eq_nil (fun p hp => ?_) (Or.inl hstop)
      have := lt_of_mem_quotesWithin_statementEnd hp
      omega
    · have hstop := statementStop_quotedStatement (u := u) (t := t) hblank hsemicolon hend
      refine boundariesFrom_composite_eq_nil (fun p hp => ?_)
        (Or.inr (opensNested_quotedStatement.mpr (hkeep.resolve_left hend)))
      have := lt_of_mem_quotesWithin_statementEnd hp
      omega
  rw [stripQuotes, hassign]
  simp only [hnil]

include hblank hlead hbody hsemicolon hu in
/-- **Quotes that are lost.** Otherwise the text is opened, and the whole block is tidied. -/
theorem stripQuotes_of_not_keepsQuotes (hlast : lead.getLast? = some ' ')
    (hlead' : escapeLead ∉ lead) (hkeep : ¬ KeepsQuotes settings body)
    (hassign : findAssignment? name (u ++ quotedStatement settings lead body t) = some u.length) :
    stripQuotes settings true name (u ++ quotedStatement settings lead body t) =
      .ok (dropSeparators settings.lineTerminator
        (u ++ (lead ++ openStatement settings body) ++ (settings.statementEnd ++ t))) := by
  obtain ⟨hend, hnested⟩ := not_or.mp hkeep
  have hquotes : quotesWithin false u.length (lead ++ '\x22' :: (body ++ ['\x22'])) =
      [u.length + lead.length, u.length + lead.length + 1 + body.length] := by
    rw [hlead.quotesWithin_append, hbody.quotesWithin_quoted]
    rfl
  have hpair : boundaries (u ++ quotedStatement settings lead body t) u.length
      (statementStop settings (u ++ quotedStatement settings lead body t) u.length) true =
        [u.length + lead.length, u.length + lead.length + 1 + body.length] := by
    rw [boundaries_quotedStatement hlead hbody hu,
      statementStop_quotedStatement hblank hsemicolon hend]
    exact boundariesFrom_composite_pair (fun p hp => lt_of_mem_quotesWithin_statementEnd hp)
      (by omega) (by omega) (mt opensNested_quotedStatement.mp hnested)
  have hdrop : dropQuotes false (lead ++ '\x22' :: (body ++ ['\x22'])) = lead ++ body := by
    simp [hlead.dropQuotes_append, dropQuotes, hbody.dropQuotes_append]
  have hfind : Text.find? settings.statementEnd (lead ++ body ++ (settings.statementEnd ++ t)) =
      some (lead ++ body).length := by
    rw [List.append_assoc, Settings.statementEnd, Text.find?_append_of_notMem hsemicolon,
      Text.find?_append_self (semicolon_notMem_terminator hblank) hend, Option.map_some,
      List.length_append, Nat.add_comm]
  rw [stripQuotes, hassign]
  simp only [hpair, if_true]
  rw [← hquotes, quotedStatement_eq, deleteAt_quotesWithin, hdrop, tidy_append hblank hfind,
    openStatement_append hlead' hlast]

end Stripping

end ResourceScript.Unquote
