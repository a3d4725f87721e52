import ResourceScript.Proofs.Text.Template
import ResourceScript.Proofs.Unquote.Nesting

/-!
# Terminators that are written as they are

Tidying looks for the line terminator as it is, but writes it as a template. Whatever the block and
the name are, stripping can only fail on that template, and it fails as soon as there is a composite
value to be tidied. A block may begin with any text, in particular with a separator on a line of its
own that is longer than the line terminator, and then the template gives the line terminator back
only if it is verbatim.

## Main definitions

* `Unquote.openedBlock?`: the block from which the stray separators of a composite value are
  dropped.
* `Unquote.WritesTerminator`: the settings with which stripping never fails and writes nothing but
  the line terminator.

## Main results

* `Unquote.stripQuotes_eq_error_iff`: when stripping fails.
* `Unquote.exists_openedBlock?_eq`: any text may begin such a block.
* `Unquote.stripQuotes_writesTerminator_iff`: the terminators with which stripping never fails, and
  those that it writes as they are.
-/

namespace ResourceScript.Unquote

/-- The block from which the stray separators of a composite value are dropped: the quotes of the
value are gone, and its statement is opened. There is none when no quotes are found. -/
def openedBlock? (settings : Settings) (name block : Text) : Option Text :=
  (findAssignment? name block).bind fun start =>
    match boundaries block start (statementStop settings block start) true with
    | [] => none
    | paired => some (openedAt settings (Text.deleteAt paired block) start)

/-- Stripping never fails, and where a composite value is tidied, each line with a separator only
makes way for the line terminator itself. -/
structure WritesTerminator (settings : Settings) : Prop where
  succeeds : ∀ composite name block, ∃ t, stripQuotes settings composite name block = .ok t
  verbatim : ∀ name block s, openedBlock? settings name block = some s →
    dropLoneSeparators settings.lineTerminator s = .ok (Text.substituteMatches
      (loneSeparatorLength settings.lineTerminator) (fun _ => settings.lineTerminator) s)

variable {settings : Settings} {composite : Bool} {f : Template.Fault}
  {name block terminator lead p s t u v : Text}

/-! ### When stripping fails -/

theorem stripQuotes_composite_eq (settings : Settings) (name block : Text) :
    stripQuotes settings true name block =
      (openedBlock? settings name block).elim (.ok block) fun s =>
        (dropLoneSeparators settings.lineTerminator s).map
          (dropCommaAfterBrace settings.lineTerminator) := by
  rw [stripQuotes, openedBlock?]
  cases findAssignment? name block with
  | none => rfl
  | some start =>
    cases hpaired : boundaries block start (statementStop settings block start) true with
    | nil => simp [hpaired]
    | cons p ps =>
      simp only [hpaired, Option.bind_some, Option.elim_some, if_true]
      rfl

theorem exists_stripQuotes_plain_eq (settings : Settings) (name block : Text) :
    ∃ t, stripQuotes settings false name block = .ok t := by
  cases hfind : findAssignment? name block with
  | none => exact ⟨block, stripQuotes_of_not_assigned hfind⟩
  | some start => exact ⟨_, stripQuotes_eq_deleteAt hfind⟩

/-- **When stripping fails.** A composite value is to be tidied, and the line terminator is no
template. -/
theorem stripQuotes_eq_error_iff : stripQuotes settings composite name block = .error f ↔
    composite = true ∧ (openedBlock? settings name block).isSome ∧
      Template.parse settings.lineTerminator = .error f := by
  cases composite with
  | false =>
    obtain ⟨t, ht⟩ := exists_stripQuotes_plain_eq settings name block
    simp [ht]
  | true =>
    rw [stripQuotes_composite_eq]
    cases openedBlock? settings name block with
    | none => simp
    | some s =>
      cases hparse : Template.parse settings.lineTerminator <;>
        simp [dropLoneSeparators, hparse, Except.map]

/-! ### Any text may begin a block -/

/-- No assignment begins before a blank that comes too early for the name. -/
theorem not_beginsAssignment_of_length_lt (hname : ' ' ∉ name) (h : s.length < name.length) :
    ¬ BeginsAssignment name (s ++ ' ' :: t) := by
  rintro ⟨hbegin, -⟩
  have hs : name <+: s :=
    (Text.prefix_append_cons_iff hname).mp ((List.prefix_append name [' ']).trans hbegin)
  exact absurd hs.length_le (Nat.not_le.mpr h)

/-- A text that is shorter than the name holds no assignment. -/
theorem assignedRest?_append_blank {start : Bool} (hname : ' ' ∉ name)
    (h : lead.length < name.length) :
    assignedRest? name start (lead ++ ' ' :: t) = assignedRest? name true t := by
  induction lead generalizing start with
  | nil => exact assignedRest?_cons_of_not (not_beginsAssignment_of_length_lt hname h)
  | cons c lead ih =>
    rw [List.cons_append, assignedRest?_cons_of_not (s := lead ++ ' ' :: t)
      (not_beginsAssignment_of_length_lt hname h)]
    exact ih (Nat.lt_of_succ_lt h)

/-- Without a statement end the statement ends where the block does. -/
theorem statementStop_append_of_notMem (hsemicolon : ';' ∉ v) :
    statementStop settings (u ++ v) u.length = u.length + v.length := by
  have hnone : Text.find? settings.statementEnd v = none :=
    (Text.find?_eq_none_iff (List.cons_ne_nil _ _)).mpr fun h =>
      hsemicolon (h.subset List.mem_cons_self)
  rw [statementStop_append, hnone, Option.getD_none]

/-- A block that ends with an empty value loses the two quotes of the value. -/
theorem openedBlock?_append_quotes
    (hassign : assignedRest? name true (u ++ (v ++ ['\x22', '\x22'])) =
      some (v ++ ['\x22', '\x22']))
    (hu : escapesNext false u = false) (hv : IsSealed v) (hsemicolon : ';' ∉ v) :
    openedBlock? settings name (u ++ (v ++ ['\x22', '\x22'])) =
      some (u ++ openStatement settings v) := by
  have hstop : statementStop settings (u ++ (v ++ ['\x22', '\x22'])) u.length =
      u.length + v.length + 2 := by
    rw [statementStop_append_of_notMem (by simp [hsemicolon]), List.length_append, Nat.add_assoc]
    rfl
  have hnested : ¬ opensNested (u ++ (v ++ ['\x22', '\x22'])) (u.length + v.length + 1) := by
    have h := opensNested_between_iff (u := u ++ v) (t := []) (w := [])
    rw [List.length_append, List.append_assoc] at h
    exact mt h.mp (by simp [OpensField])
  have hpaired : boundaries (u ++ (v ++ ['\x22', '\x22'])) u.length (u.length + v.length + 2) true =
      [u.length + v.length, u.length + v.length + 1] := by
    have hquotes : quotesWithin false (u.length + v.length) ['\x22', '\x22'] =
        [u.length + v.length, u.length + v.length + 1] := rfl
    rw [boundaries, quotesFrom_append, hu, hv.quotesWithin_append, hquotes]
    exact boundariesFrom_composite_pair (by simp) (by omega) (by omega) hnested
  have hdelete : Text.deleteAt [u.length + v.length, u.length + v.length + 1]
      (u ++ (v ++ ['\x22', '\x22'])) = u ++ v := by
    have h := Text.deleteAt_pair (u ++ v) [] [] '\x22' '\x22'
    rw [List.length_append, List.append_assoc, List.append_nil, List.append_nil] at h
    exact h
  have hopened : openedAt settings (u ++ v) u.length = u ++ openStatement settings v := by
    have hend : statementStop settings (u ++ (v ++ [])) u.length = u.length + v.length := by
      rw [List.append_nil, statementStop_append_of_notMem hsemicolon]
    simpa using openedAt_append hend
  rw [openedBlock?, findAssignment?_eq_length hassign, Option.bind_some, hstop, hpaired]
  simp only [hdelete, hopened]

/-- What stands before a value, with a name that is longer than a text. -/
def longHeader (s : Text) : Text := List.replicate (s.length + 1) 'N' ++ [' ', '=']

theorem notMem_longHeader {c : Char} (hc : c ∉ ['N', ' ', '=']) (s : Text) : c ∉ longHeader s := by
  simp only [List.mem_cons, List.not_mem_nil, or_false, not_or] at hc
  simp [longHeader, hc]

theorem isSealed_longHeader (s : Text) : IsSealed (longHeader s) :=
  isSealed_of_notMem (notMem_longHeader (by decide) s) (notMem_longHeader (by decide) s)

theorem openStatement_longHeader (s : Text) :
    openStatement settings (longHeader s) = longHeader s :=
  openStatement_eq_self (notMem_longHeader (by decide) s) fun h =>
    notMem_longHeader (c := ')') (by decide) s (h.subset (by simp))

/-- **Any text may begin a block** from which separators are dropped, and what follows need not hold
any. The name is longer than the text, so that it is not assigned in the text. -/
theorem exists_openedBlock?_eq (settings : Settings) (lead : Text) : ∃ name block rest,
    openedBlock? settings name block = some (lead ++ rest) ∧ ',' ∉ rest ∧ ';' ∉ rest := by
  set name : Text := List.replicate (lead.length + 1) 'N' with hname
  have hassign : assignedRest? name true (lead ++ [' '] ++ (longHeader lead ++ ['\x22', '\x22'])) =
      some (longHeader lead ++ ['\x22', '\x22']) := by
    have hheader : longHeader lead ++ ['\x22', '\x22'] =
        name ++ [' '] ++ '=' :: ['\x22', '\x22'] := by
      simp [longHeader, hname]
    rw [List.append_assoc, List.singleton_append,
      assignedRest?_append_blank (by simp [hname]) (by simp [hname]), hheader]
    exact assignedRest?_of_beginsAssignment
      ⟨List.prefix_append .., ahead_append_equals (by simp [hname]) _⟩
  have hu : escapesNext false (lead ++ [' ']) = false := by
    rw [escapesNext_append]
    rfl
  have hopened : openedBlock? settings name
      (lead ++ [' '] ++ (longHeader lead ++ ['\x22', '\x22'])) =
        some (lead ++ [' '] ++ openStatement settings (longHeader lead)) :=
    openedBlock?_append_quotes hassign hu (isSealed_longHeader lead)
      (notMem_longHeader (by decide) lead)
  rw [openStatement_longHeader] at hopened
  refine ⟨name, _, ' ' :: longHeader lead, hopened.trans (by simp), ?_, ?_⟩
  · simpa using notMem_longHeader (c := ',') (by decide) lead
  · simpa using notMem_longHeader (c := ';') (by decide) lead

/-! ### What is written for a separator -/

theorem IsLoneSeparator.mem (h : IsLoneSeparator terminator p) : ',' ∈ p ∨ ';' ∈ p := by
  obtain ⟨blanks, c, rfl, -, rfl | rfl⟩ := h <;> simp

/-- A lone separator that begins a text makes way for its image, and no other one follows. -/
theorem substituteMatches_loneSeparator_append (h : IsLoneSeparator terminator p)
    (hcomma : ',' ∉ s) (hsemicolon : ';' ∉ s) (image : Text → Text) :
    Text.substituteMatches (loneSeparatorLength terminator) image (p ++ s) = image p ++ s := by
  have hlength : loneSeparatorLength terminator (p ++ s) = p.length :=
    loneSeparatorLength_append h s
  have hpos : 0 < p.length := Nat.zero_lt_of_lt h.length_lt
  have hrest : ∀ x, x <:+ s → x ≠ [] → loneSeparatorLength terminator x = 0 := by
    intro x hx _
    refine loneSeparatorLength_eq_zero_iff.mpr fun q hq hbegin => ?_
    have hsub : q ⊆ s := (hbegin.isInfix.trans hx.isInfix).subset
    exact hq.mem.elim (fun hm => hcomma (hsub hm)) fun hm => hsemicolon (hsub hm)
  rw [Text.substituteMatches_of_ne_zero
      (List.append_ne_nil_of_left_ne_nil (List.length_pos_iff.mp hpos) s) (by omega),
    hlength, List.take_left' rfl, List.drop_left' rfl, Text.substituteMatches_eq_self hrest]

/-- What is written for a lone separator gives the line terminator back only if the line terminator
is verbatim as a template. -/
theorem isVerbatim_of_dropLoneSeparators_eq (h : IsLoneSeparator terminator p)
    (hcomma : ',' ∉ s) (hsemicolon : ';' ∉ s)
    (hdrop : dropLoneSeparators terminator (p ++ s) = .ok (Text.substituteMatches
      (loneSeparatorLength terminator) (fun _ => terminator) (p ++ s))) :
    Template.IsVerbatim terminator := by
  obtain ⟨parts, hparts, heq⟩ := map_eq_ok_iff.mp hdrop
  rw [substituteMatches_loneSeparator_append h hcomma hsemicolon,
    substituteMatches_loneSeparator_append h hcomma hsemicolon] at heq
  exact (Template.expand_eq_self_iff h.length_lt).mp ⟨parts, hparts, List.append_cancel_right heq⟩

/-- **When stripping never fails.** The line terminator can be read as a template. -/
theorem forall_exists_stripQuotes_eq_iff (settings : Settings) :
    (∀ composite name block, ∃ t, stripQuotes settings composite name block = .ok t) ↔
      ∃ parts, Template.parse settings.lineTerminator = .ok parts := by
  constructor
  · intro h
    obtain ⟨name, block, rest, hopened, -⟩ := exists_openedBlock?_eq settings []
    cases hparse : Template.parse settings.lineTerminator with
    | ok parts => exact ⟨parts, rfl⟩
    | error f =>
      obtain ⟨t, ht⟩ := h true name block
      have herror : stripQuotes settings true name block = .error f :=
        stripQuotes_eq_error_iff.mpr ⟨rfl, by rw [hopened]; rfl, hparse⟩
      exact absurd (ht.symm.trans herror) (by simp)
  · rintro ⟨parts, hparts⟩ composite name block
    cases hrun : stripQuotes settings composite name block with
    | ok t => exact ⟨t, rfl⟩
    | error f =>
      obtain ⟨-, -, hparse⟩ := stripQuotes_eq_error_iff.mp hrun
      exact absurd (hparts.symm.trans hparse) (by simp)

/-- **When the line terminator is written as it is.** Stripping never fails if the line terminator
can be read as a template, and only then. Each line with a separator only makes way for the line
terminator itself if each backslash in it is followed by a character that is neither a letter or
digit nor a backslash, and only then. -/
theorem stripQuotes_writesTerminator_iff (settings : Settings) :
    ((∀ composite name block, ∃ t, stripQuotes settings composite name block = .ok t) ↔
        ∃ parts, Template.parse settings.lineTerminator = .ok parts) ∧
      (WritesTerminator settings ↔ Template.IsVerbatim settings.lineTerminator) := by
  refine ⟨forall_exists_stripQuotes_eq_iff settings, fun h => ?_, fun h => ⟨?_, fun _ _ s _ => ?_⟩⟩
  · have hlone : IsLoneSeparator settings.lineTerminator
        (settings.lineTerminator ++ ',' :: settings.lineTerminator) :=
      ⟨[], ',', rfl, by simp, Or.inl rfl⟩
    obtain ⟨name, block, rest, hopened, hcomma, hsemicolon⟩ := exists_openedBlock?_eq settings
      (settings.lineTerminator ++ ',' :: settings.lineTerminator)
    exact isVerbatim_of_dropLoneSeparators_eq hlone hcomma hsemicolon
      (h.verbatim name block _ hopened)
  · exact (forall_exists_stripQuotes_eq_iff settings).mpr ⟨_, Template.parse_of_isVerbatim h⟩
  · exact dropLoneSeparators_of_isVerbatim h s

/-- A backslash and a letter are written as a line feed. -/
example : dropLoneSeparators ['\\', 'n'] ['\\', 'n', ',', '\\', 'n'] = .ok ['\n'] := by decide

/-- With a backslash for the line terminator the stripping of a composite value fails. -/
theorem not_writesTerminator_backslash :
    let settings : Settings := { lineTerminator := ['\\'] }
    stripQuotes settings true ['N'] "N = \x22v\x22;\\".toList = .error .malformed ∧
      ¬ WritesTerminator settings := by
  intro settings
  have hfail : stripQuotes settings true ['N'] "N = \x22v\x22;\\".toList = .error .malformed := by
    decide
  refine ⟨hfail, fun h => ?_⟩
  obtain ⟨t, ht⟩ := h.succeeds true ['N'] "N = \x22v\x22;\\".toList
  exact absurd (hfail.symm.trans ht) (by simp)

end ResourceScript.Unquote
