import ResourceScript.Proofs.Stripping.Mention

/-!
# The order of two strippings

Stripping a parameter leaves its text without quotes around it, and from then on nothing hides what
the text mentions. When the text announces the name of a later row, the equals sign of the next row
completes the assignment: the later row is not found any more. So two parameters may be stripped in
either order exactly when the text of the first row does not announce the name of the other one.

## Main definitions

* `Unquote.IsInert`: texts without equals signs and semicolons.
* `Unquote.strippedRow`: the row of a text after its quotes are stripped.
* `Unquote.linesAround`: the lines of two rows and of plain rows around them.

## Main results

* `Unquote.stripQuotes_inertRow`, `Unquote.stripQuotes_laterRow`: stripping a row.
* `Unquote.stripQuotes_of_announces`: when a stripped text hides what is behind it.
* `Unquote.stripQuotes_comm_iff`: when the order of two strippings does not matter.
-/

namespace ResourceScript.Unquote

open Text (IsName isBlank escape)
open Block

/-- A named text that is written escaped and without a comment, and that holds neither equals signs
nor semicolons. -/
structure IsInert (settings : Settings) (nv : NamedValue) : Prop where
  isText : nv.IsText
  isUncommented : nv.IsUncommented settings
  equals_notMem : '=' ∉ nv.text
  semicolon_notMem : ';' ∉ nv.text

instance (settings : Settings) (nv : NamedValue) : Decidable (IsInert settings nv) :=
  decidable_of_iff (nv.IsText ∧ nv.IsUncommented settings ∧ '=' ∉ nv.text ∧ ';' ∉ nv.text)
    ⟨fun ⟨ht, hu, he, hs⟩ => ⟨ht, hu, he, hs⟩, fun ⟨ht, hu, he, hs⟩ => ⟨ht, hu, he, hs⟩⟩

/-- The row of a text after its quotes are stripped. -/
def strippedRow (settings : Settings) (nv : NamedValue) : Row :=
  (plainRow settings nv).withLiteral (escape nv.quoting.allowVariables nv.text)

/-- The lines of two rows, of plain rows before and between them, and what follows. -/
def linesAround (settings : Settings) (width : Nat) (before between : List NamedValue) (rest : Text)
    (first second : Row) : Text :=
  linesOf settings width (before.map (plainRow settings)) ++ (first.line settings width ++
    (linesOf settings width (between.map (plainRow settings)) ++
      (second.line settings width ++ rest)))

variable {settings : Settings} {width : Nat} {values before between after : List NamedValue}
  {m n nv : NamedValue} {rows : List Row} {name t : Text}

theorem notMem_escape {allowVariables : Bool} {c : Char} (hlead : c ≠ Text.escapeLead) (h : c ∉ t) :
    c ∉ escape allowVariables t := by
  rwa [Text.mem_escape_iff hlead]

theorem delimited_plainRow (h : nv.IsText) :
    Delimited [escape nv.quoting.allowVariables nv.text] (plainRow settings nv).literal
      (escape nv.quoting.allowVariables nv.text) := by
  have hliteral : (plainRow settings nv).literal =
      '\x22' :: (escape nv.quoting.allowVariables nv.text ++ ['\x22']) := h.literal_eq _
  rw [hliteral]
  exact Delimited.of_isSealed (isSealed_escape _ _)

theorem ahead_plainRows (hrows : ∀ nv ∈ between, IsName nv.name) (ht : ahead t = .equals) :
    ahead (linesOf settings width (between.map (plainRow settings)) ++ t) = .equals := by
  cases between with
  | nil => exact ht
  | cons nv between =>
    rw [List.map_cons, linesOf_cons, List.append_assoc]
    exact ahead_line (r := plainRow settings nv) (hrows nv List.mem_cons_self)

section Rows

variable (hblank : ∀ c ∈ settings.lineTerminator, isBlank c)

include hblank

/-- The search passes quoted texts without equals signs. -/
theorem assignedRest?_inertRows (hname : IsName name)
    (hbefore : ∀ nv ∈ before, IsInert settings nv ∧ name ≠ nv.name) (t : Text) :
    assignedRest? name true (linesOf settings width (before.map (plainRow settings)) ++ t) =
      assignedRest? name true t := by
  refine assignedRest?_plainRows hblank hname (fun nv hnv => ?_) (fun nv hnv => ?_) t
  · obtain ⟨hinert, hne⟩ := hbefore nv hnv
    exact ⟨hinert.isText, hinert.isUncommented, hne⟩
  · exact not_imitates_of_notMem (hbefore nv hnv).1.equals_notMem

/-- Stripping a row, when no other assignment comes first. -/
theorem stripQuotes_inertRow (hnv : IsInert settings nv) (rest : Text)
    (hfirst : assignedRest? nv.name true (linesOf settings width rows ++
      ((plainRow settings nv).line settings width ++ rest)) =
        assignedRest? nv.name true ((plainRow settings nv).line settings width ++ rest)) :
    stripQuotes settings false nv.name (linesOf settings width rows ++
      ((plainRow settings nv).line settings width ++ rest)) =
        .ok (linesOf settings width rows ++
          ((strippedRow settings nv).line settings width ++ rest)) := by
  have hend : ¬ settings.statementEnd <:+: escape nv.quoting.allowVariables nv.text := fun h =>
    notMem_escape (by decide) hnv.semicolon_notMem (h.subset List.mem_cons_self)
  exact stripQuotes_row hblank hnv.isText.isName (comment_plainRow hnv.isUncommented)
    (delimited_plainRow hnv.isText) (by simpa using hend) hfirst

/-- Stripping a later row, when the search passes the row `r` before it. -/
theorem stripQuotes_laterRow {r : Row} (hn : IsInert settings n)
    (hbefore : ∀ nv ∈ before, IsInert settings nv ∧ n.name ≠ nv.name)
    (hbetween : ∀ nv ∈ between, IsInert settings nv ∧ n.name ≠ nv.name) (rest : Text)
    (hr : ∀ t, ahead t = .equals → assignedRest? n.name true (r.line settings width ++ t) =
      assignedRest? n.name true t) :
    stripQuotes settings false n.name
      (linesAround settings width before between rest r (plainRow settings n)) =
        .ok (linesAround settings width before between rest r (strippedRow settings n)) := by
  have hname : IsName n.name := hn.isText.isName
  have hahead : ahead (linesOf settings width (between.map (plainRow settings)) ++
      ((plainRow settings n).line settings width ++ rest)) = .equals :=
    ahead_plainRows (fun nv hnv => (hbetween nv hnv).1.isText.isName) (ahead_line hname)
  have hrows (t : Text) : linesOf settings width (before.map (plainRow settings)) ++
      (r.line settings width ++ (linesOf settings width (between.map (plainRow settings)) ++ t)) =
        linesOf settings width (before.map (plainRow settings) ++
          r :: between.map (plainRow settings)) ++ t := by
    simp
  rw [linesAround, linesAround, hrows, hrows]
  refine stripQuotes_inertRow hblank hn rest ?_
  rw [← hrows, assignedRest?_inertRows hblank hname hbefore, hr _ hahead,
    assignedRest?_inertRows hblank hname hbetween]

/-- The search passes a stripped row, before which nothing hides its text, as it passes the text
with an equals sign behind it. -/
theorem assignedRest?_strippedRow (hname : IsName name) (hm : IsInert settings m)
    (hne : name ≠ m.name) (ht : ahead t = .equals) :
    assignedRest? name true ((strippedRow settings m).line settings width ++ t) =
      ((assignedRest? name true (m.text ++ ['='])).map fun r =>
        (escape m.quoting.allowVariables r).dropLast ++ (settings.statementEnd ++ t)).or
        (assignedRest? name true t) := by
  have hquote : '\x22' ∉ settings.statementEnd := Delimited.quote_notMem_statementEnd hblank
  have hahead : ahead (';' :: (settings.lineTerminator ++ t)) = .equals := by
    rw [← List.cons_append, ahead_append_iff]
    exact Or.inr ⟨hquote, ht⟩
  have hequals : escape m.quoting.allowVariables m.text ++ ['='] =
      escape m.quoting.allowVariables (m.text ++ ['=']) := by
    rw [Text.escape_append]
    cases m.quoting.allowVariables <;> rfl
  have hr : IsName (strippedRow settings m).name := hm.isText.isName
  have htail : (strippedRow settings m).tail settings = settings.statementEnd :=
    Row.tail_of_comment_eq_nil (comment_plainRow hm.isUncommented)
  rw [assignedRest?_line_of_ne hr hname hne, htail]
  change assignedRest? name true (escape m.quoting.allowVariables m.text ++
    ';' :: (settings.lineTerminator ++ t)) = _
  rw [assignedRest?_append_cons hname.equals_notMem hname.semicolon_notMem (by decide) hahead,
    hequals, assignedRest?_escape hname, Option.map_map, assignedRest?_lineTerminator hblank hname]
  rfl

/-- Behind a stripped text that announces the name nothing is stripped. -/
theorem stripQuotes_of_announces (hname : IsName name) (hm : IsInert settings m)
    (hne : name ≠ m.name) (h : Announces name m.text) (ht : ahead t = .equals)
    (hfirst : ∀ t, assignedRest? name true (linesOf settings width rows ++ t) =
      assignedRest? name true t) :
    stripQuotes settings false name (linesOf settings width rows ++
      ((strippedRow settings m).line settings width ++ t)) = .ok (linesOf settings width rows ++
        ((strippedRow settings m).line settings width ++ t)) := by
  obtain ⟨x, hx⟩ := Option.isSome_iff_exists.mp ((announces_iff hname).mp h)
  obtain ⟨skipped, mention, htext, rfl, -, -⟩ := exists_of_assignedRest?_concat_equals hname hx
  let v := escape m.quoting.allowVariables mention
  let u := linesOf settings width rows ++ settings.indent ++
    ((strippedRow settings m).header width ++ escape m.quoting.allowVariables skipped)
  have hsplit : linesOf settings width rows ++ ((strippedRow settings m).line settings width ++ t) =
      u ++ (v ++ (settings.statementEnd ++ t)) := by
    have hliteral : (strippedRow settings m).literal =
        escape m.quoting.allowVariables skipped ++ v := by
      rw [← Text.escape_append, ← htext]
      rfl
    have htail : (strippedRow settings m).tail settings = settings.statementEnd :=
      Row.tail_of_comment_eq_nil (comment_plainRow hm.isUncommented)
    simp [u, Row.line_eq, hliteral, htail]
  have hdropLast : (escape m.quoting.allowVariables (mention ++ ['='])).dropLast = v := by
    have hequals : escape m.quoting.allowVariables ['='] = ['='] := by
      cases m.quoting.allowVariables <;> rfl
    rw [Text.escape_append, hequals, List.dropLast_concat]
  have hassign : assignedRest? name true (u ++ (v ++ (settings.statementEnd ++ t))) =
      some (v ++ (settings.statementEnd ++ t)) := by
    rw [← hsplit, hfirst, assignedRest?_strippedRow hblank hname hm hne ht, hx,
      Option.map_some, hdropLast, Option.some_or]
  have hstop : Text.find? settings.statementEnd (v ++ (settings.statementEnd ++ t)) =
      some v.length := by
    have hmention : ';' ∉ mention := fun hmem =>
      hm.semicolon_notMem (htext ▸ List.mem_append_right _ hmem)
    rw [Settings.statementEnd, Text.find?_append_of_notMem (notMem_escape (by decide) hmention),
      Text.find?_self_append (List.cons_ne_nil _ _), Option.map_some, Nat.zero_add]
  have hsealed : IsSealed v := isSealed_escape _ _
  have hu : escapesNext false u = false := by
    rw [escapesNext_append, escapesNext_linesOf_append_indent hblank]
    exact ((isSealed_header hm.isText.isName).append (isSealed_escape _ _)).escapesNext_eq
  have heven : Even (quotesWithin false u.length v).length := by
    rw [hsealed.quotesWithin_eq]
    exact Even.zero
  rw [hsplit, stripQuotes_of_even hassign hstop hu heven, hsealed.dropQuotes_eq]

omit hblank in
theorem length_line_plainRow (hnv : nv.IsText) :
    ((plainRow settings nv).line settings width).length =
      ((strippedRow settings nv).line settings width).length + 2 := by
  have hliteral : (plainRow settings nv).literal =
      '\x22' :: ((strippedRow settings nv).literal ++ ['\x22']) := hnv.literal_eq _
  have hheader : (strippedRow settings nv).header width = (plainRow settings nv).header width := rfl
  have htail : (strippedRow settings nv).tail settings = (plainRow settings nv).tail settings := rfl
  rw [Row.line_eq, Row.line_eq, hheader, htail, hliteral]
  simp only [List.length_append, List.length_cons, List.length_nil]
  omega

/-- Two rows may be stripped in either order exactly when the first one does not announce the
second. -/
theorem stripQuotes_linesAround_comm_iff (hm : IsInert settings m) (hn : IsInert settings n)
    (hmn : n.name ≠ m.name)
    (hbefore : ∀ nv ∈ before, IsInert settings nv ∧ m.name ≠ nv.name ∧ n.name ≠ nv.name)
    (hbetween : ∀ nv ∈ between, IsInert settings nv ∧ n.name ≠ nv.name) {block rest : Text}
    (hblock : block = linesAround settings width before between rest (plainRow settings m)
      (plainRow settings n)) :
    (stripQuotes settings false m.name block >>= stripQuotes settings false n.name) =
      (stripQuotes settings false n.name block >>= stripQuotes settings false m.name) ↔
        ¬ Announces n.name m.text := by
  have hmname : IsName m.name := hm.isText.isName
  have hnname : IsName n.name := hn.isText.isName
  have hbeforeM : ∀ nv ∈ before, IsInert settings nv ∧ m.name ≠ nv.name := fun nv hnv =>
    ⟨(hbefore nv hnv).1, (hbefore nv hnv).2.1⟩
  have hbeforeN : ∀ nv ∈ before, IsInert settings nv ∧ n.name ≠ nv.name := fun nv hnv =>
    ⟨(hbefore nv hnv).1, (hbefore nv hnv).2.2⟩
  have hfirst (y : Row) : stripQuotes settings false m.name
      (linesAround settings width before between rest (plainRow settings m) y) =
        .ok (linesAround settings width before between rest (strippedRow settings m) y) :=
    stripQuotes_inertRow hblank hm _ (assignedRest?_inertRows hblank hmname hbeforeM _)
  have hquoted : stripQuotes settings false n.name
      (linesAround settings width before between rest (plainRow settings m) (plainRow settings n)) =
        .ok (linesAround settings width before between rest (plainRow settings m)
          (strippedRow settings n)) := by
    have hmrow : ∀ nv ∈ [m], IsInert settings nv ∧ n.name ≠ nv.name := by simp [hm, hmn]
    refine stripQuotes_laterRow hblank hn hbeforeN hbetween rest fun t _ => ?_
    simpa using assignedRest?_inertRows hblank hnname hmrow t
  change (stripQuotes settings false m.name _ >>= _) = _ ↔ _
  rw [hblock, hfirst, hquoted]
  change stripQuotes settings false n.name _ = stripQuotes settings false m.name _ ↔ _
  rw [hfirst]
  constructor
  · intro hcomm hannounces
    have hahead : ahead (linesOf settings width (between.map (plainRow settings)) ++
        ((plainRow settings n).line settings width ++ rest)) = .equals :=
      ahead_plainRows (fun nv hnv => (hbetween nv hnv).1.isText.isName) (ahead_line hnname)
    have hkeep : stripQuotes settings false n.name (linesAround settings width before between rest
        (strippedRow settings m) (plainRow settings n)) = .ok (linesAround settings width before
          between rest (strippedRow settings m) (plainRow settings n)) :=
      stripQuotes_of_announces hblank hnname hm hmn hannounces hahead
        (assignedRest?_inertRows hblank hnname hbeforeN)
    have hlength := congrArg List.length (Except.ok.inj (hkeep.symm.trans hcomm))
    simp only [linesAround, List.length_append, length_line_plainRow hn.isText] at hlength
    omega
  · intro hannounces
    refine stripQuotes_laterRow hblank hn hbeforeN hbetween rest fun t ht => ?_
    rw [assignedRest?_strippedRow hblank hnname hm hmn ht,
      (not_announces_iff hnname).mp hannounces, Option.map_none, Option.none_or]

end Rows

/-- **The order of two strippings.** In a block of texts without equals signs and semicolons, two
parameters may be stripped in either order exactly when the text of the row that comes first does
not announce the other parameter. -/
theorem stripQuotes_comm_iff (hblank : settings.lineTerminator.all isBlank)
    (hvalues : ∀ nv ∈ values, IsInert settings nv)
    (hsplit : printed settings (keyed values) = before ++ m :: (between ++ n :: after)) :
    WrittenWith { settings } (keyed values) fun block =>
      (stripQuotes settings false m.name block >>= stripQuotes settings false n.name) =
        (stripQuotes settings false n.name block >>= stripQuotes settings false m.name) ↔
          ¬ Announces n.name m.text := by
  have hsplit' : printed settings (keyed values) = (before ++ m :: between) ++ n :: after := by
    simpa using hsplit
  have hinert : ∀ nv ∈ before ++ m :: (between ++ n :: after), IsInert settings nv :=
    fun nv hnv => hvalues nv (mem_of_mem_printed (hsplit ▸ hnv)).1
  have hm : IsInert settings m := hinert m (by simp)
  have hn : IsInert settings n := hinert n (by simp)
  have hfirst : ∀ nv ∈ before, m.name ≠ nv.name := (name_ne_of_printed_eq hsplit).1
  have hother : ∀ nv ∈ before ++ m :: between, n.name ≠ nv.name := (name_ne_of_printed_eq hsplit').1
  have hbefore : ∀ nv ∈ before, IsInert settings nv ∧ m.name ≠ nv.name ∧ n.name ≠ nv.name :=
    fun nv hnv => ⟨hinert nv (by simp [hnv]), hfirst nv hnv, hother nv (by simp [hnv])⟩
  have hbetween : ∀ nv ∈ between, IsInert settings nv ∧ n.name ≠ nv.name := fun nv hnv =>
    ⟨hinert nv (by simp [hnv]), hother nv (by simp [hnv])⟩
  refine writtenWith_plainRow (fun nv hnv =>
    ⟨(hvalues nv hnv).isUncommented, (hvalues nv hnv).isText.literalFault?_eq_none⟩) ?_
  rw [hsplit, textOf_eq_linesOf]
  generalize nameWidth settings ((before ++ m :: (between ++ n :: after)).map (plainRow settings)) =
    width
  have hblock : linesOf settings width ((before ++ m :: (between ++ n :: after)).map
      (plainRow settings)) = linesAround settings width before between
        (linesOf settings width (after.map (plainRow settings))) (plainRow settings m)
          (plainRow settings n) := by
    simp [linesAround]
  exact stripQuotes_linesAround_comm_iff (List.all_eq_true.mp hblank) hm hn (hother m (by simp))
    hbefore hbetween hblock

/-- Two texts of which neither mentions the other parameter. -/
theorem stripQuotes_comm_pair :
    let a : NamedValue := { name := ['A'], value := .text "x y".toList }
    let b : NamedValue := { name := ['B'], value := .text ['z'] }
    WrittenWith {} (keyed [b, a]) fun block =>
      (stripQuotes .standard false ['A'] block >>= stripQuotes .standard false ['B']) =
        (stripQuotes .standard false ['B'] block >>= stripQuotes .standard false ['A']) ↔
          ¬ Announces ['B'] "x y".toList := by
  intro a b
  have hsurviving : surviving (keyed [b, a]) = keyed [a, b] :=
    surviving_eq_of_perm (.swap _ _ []) (by decide)
  have hsplit : printed .standard (keyed [b, a]) = [] ++ a :: ([] ++ b :: []) := by
    rw [printed, hsurviving]
    rfl
  exact stripQuotes_comm_iff (by decide) (by decide) hsplit

/-- A text that is stripped first hides the row that it mentions. -/
theorem stripQuotes_order_matters :
    let a : NamedValue := { name := ['A'], value := .text "x B y".toList }
    let b : NamedValue := { name := ['B'], value := .text ['z'] }
    ∃ block, (render {} (keyed [a, b])).outcome = .ok block ∧
      (stripQuotes .standard false ['A'] block >>= stripQuotes .standard false ['B']) =
        .ok (textOf .standard [strippedRow .standard a, plainRow .standard b]) ∧
      (stripQuotes .standard false ['B'] block >>= stripQuotes .standard false ['A']) =
        .ok (textOf .standard [strippedRow .standard a, strippedRow .standard b]) ∧
      textOf .standard [strippedRow .standard a, plainRow .standard b] ≠
        textOf .standard [strippedRow .standard a, strippedRow .standard b] := by
  intro a b
  have hsurviving : surviving (keyed [a, b]) = keyed [a, b] :=
    surviving_eq_of_perm (.refl _) (by decide)
  refine ⟨textOf .standard [plainRow .standard a, plainRow .standard b], ?_, ?_, ?_, ?_⟩
  · rw [render, commentsOf, printed, hsurviving]
    rfl
  · decide
  · decide
  · decide

end ResourceScript.Unquote
