import ResourceScript.Proofs.Stripping.EarlierRow

/-!
# The rows that stripping leaves alone

Stripping a parameter is meant to change its row only. With the default settings it does so unless
the statement that it strips reaches into another row: a comment without a semicolon at its end
keeps the statement open, and an earlier text or comment can pass for the assignment. Which quotes
are stripped then is decided by the first two quotes of the statement and by where it ends.

## Main definitions

* `Unquote.KeepsOthers`: stripping a name changes no row of another name.
* `Unquote.FindsWithin`: the search stops at a statement that strips one stretch of the text.

## Main results

* `Unquote.findsWithin`: the statement that is stripped begins at the own row or in a row before it.
* `Unquote.stripQuotes_frame_iff`: when the other rows stay as they are.
-/

namespace ResourceScript.Unquote

open Text (IsName isBlank escapeLead)
open Settings (standard)
open Block

/-- Stripping a name changes no row of another name. -/
def KeepsOthers (name : Text) : List Row → Prop
  | [] => True
  | r :: after =>
    if r.name = name then ¬ Overruns r after
    else
      match assignedRest? name false r.literal, assignedRest? name true (r.comment ++ ['=']) with
      | some mention, _ =>
        standard.statementEnd <:+: mention ∨ (r.IsClosed ∧ quotes r.comment = [])
      | none, some mention => KeepsBehindComment name r mention after
      | none, none => KeepsOthers name after

variable {r next : Row} {after : List Row} {width lo hi : Nat} {u t name : Text}

/-! ### Where the statement begins -/

/-- The search passes what follows a literal as it passes the comment with an equals sign behind
it. -/
theorem assignedRest?_tail (hname : IsName name) (r : Row) (ht : ahead t = .equals) :
    assignedRest? name false (r.tail standard ++ t) =
      ((assignedRest? name true (r.comment ++ ['='])).map (·.dropLast ++ '\r' :: '\n' :: t)).or
        (assignedRest? name true t) := by
  have hreturn : '\r' ∉ name := hname.notMem_of_isBlank (by decide)
  have hahead : ahead ('\r' :: '\n' :: t) = .equals := by
    rwa [ahead_cons_of_ne (by decide) (by decide), ahead_cons_of_ne (by decide) (by decide)]
  have hlineFeed : assignedRest? name true ('\n' :: t) = assignedRest? name true t :=
    assignedRest?_cons_of_notMem hname (hname.notMem_of_isBlank (by decide))
  have hcomment : assignedRest? name false (r.tail standard ++ t) =
      assignedRest? name true (r.comment ++ '\r' :: '\n' :: t) := by
    rw [Row.tail, lineTerminator_standard, List.cons_append,
      assignedRest?_cons_of_notMem hname hname.semicolon_notMem]
    cases r.comment with
    | nil =>
      change assignedRest? name false ('\r' :: '\n' :: t) =
        assignedRest? name true ('\r' :: '\n' :: t)
      rw [assignedRest?_cons_of_notMem hname hreturn, assignedRest?_cons_of_notMem hname hreturn]
    | cons c s =>
      have htext : ((if (c :: s).isEmpty then [] else ' ' :: c :: s) ++ ['\r', '\n']) ++ t =
          ' ' :: (c :: s ++ '\r' :: '\n' :: t) := by simp
      rw [htext, assignedRest?_cons_of_notMem hname hname.blank_notMem]
      rfl
  rw [hcomment, assignedRest?_append_cons hname.equals_notMem hreturn (by decide) hahead]
  exact congrArg _ hlineFeed

/-- The search passes a row as it passes its literal, and then its comment with an equals sign
behind it. -/
theorem assignedRest?_textRow (hname : IsName name) (hr : IsTextRow r) (hne : name ≠ r.name)
    (ht : ahead t = .equals) : assignedRest? name true (r.line standard width ++ t) =
      ((assignedRest? name false r.literal).map (· ++ (r.tail standard ++ t))).or
        (((assignedRest? name true (r.comment ++ ['='])).map (·.dropLast ++ '\r' :: '\n' :: t)).or
          (assignedRest? name true t)) := by
  obtain ⟨body, -, hliteral⟩ := hr.literal_eq
  have hquoted (z : Text) : assignedRest? name false (body ++ '\x22' :: z) =
      ((assignedRest? name false body).map (· ++ '\x22' :: z)).or (assignedRest? name false z) :=
    assignedRest?_append_quote hname
  rw [assignedRest?_line_of_ne hr.isName hname hne, hliteral, List.cons_append,
    assignedRest?_cons_of_notMem hname hname.quote_notMem,
    assignedRest?_cons_of_notMem hname hname.quote_notMem, List.append_assoc,
    List.singleton_append, show isBlank '\x22' = false by decide, hquoted, hquoted,
    assignedRest?_tail hname r ht, assignedRest?, Option.or_none, Option.map_map]
  refine congrArg (fun f => Option.or (Option.map f (assignedRest? name false body)) _) ?_
  funext y
  simp

/-- What follows a mention in a literal is sealed up to the closing quote. -/
theorem exists_of_assignedRest?_literal {mention : Text} (hname : IsName name) (hr : IsTextRow r)
    (hmention : assignedRest? name false r.literal = some mention) :
    ∃ w y, r.literal = w ++ mention ∧ mention = y ++ ['\x22'] ∧ IsSealed y ∧
      ∀ z, escapesNext false (z ++ w) = false := by
  obtain ⟨body, hbody, hliteral⟩ := hr.literal_eq
  obtain ⟨y, hy, rfl⟩ : ∃ y, assignedRest? name false body = some y ∧ y ++ ['\x22'] = mention := by
    rw [hliteral, assignedRest?_cons_of_notMem hname hname.quote_notMem,
      show isBlank '\x22' = false by decide, assignedRest?_append_quote hname, assignedRest?,
      Option.or_none] at hmention
    exact Option.map_eq_some_iff.mp hmention
  rcases eq_or_exists_of_assignedRest? hy with rfl | ⟨w, b, rfl, hb⟩
  · refine ⟨['\x22'], y, hliteral, rfl, hbody, fun z => ?_⟩
    rw [escapesNext_append]
    rfl
  · have hescapes (z : Text) : escapesNext false (z ++ (w ++ [b])) = false := by
      rw [← List.append_assoc]
      exact escapesNext_concat_of_isBlank hb
    refine ⟨'\x22' :: (w ++ [b]), y, by simp [hliteral], rfl, ?_, fun z => ?_⟩
    · rw [← List.singleton_append, ← List.append_assoc] at hbody
      exact hbody.of_append (hescapes [])
    · have hsplit : z ++ '\x22' :: (w ++ [b]) = z ++ ['\x22'] ++ (w ++ [b]) := by simp
      rw [hsplit, hescapes]

/-- In rows that stand behind `u` the search finds an assignment, and the statement that begins
there strips quotes of one stretch only, exactly when stripping changes no row of another name. -/
def FindsWithin (name : Text) (width : Nat) (u : Text) (rows : List Row) (lo hi : Nat) : Prop :=
  ∃ v x, linesOf standard width rows = v ++ x ∧
    assignedRest? name true (linesOf standard width rows) = some x ∧
    escapesNext false (u ++ v) = false ∧ (StripsWithin (u ++ v) x lo hi ↔ KeepsOthers name rows)

theorem findsWithin_ownRow (hu : escapesNext false u = false) (hr : IsTextRow r)
    (hafter : ∀ m ∈ after, IsTextRow m) (width : Nat) :
    FindsWithin r.name width u (r :: after) u.length
      (u.length + (r.line standard width).length) := by
  set t := linesOf standard width after with ht
  let x := r.header width ++ (r.literal ++ (r.tail standard ++ t))
  have hline : r.line standard width ++ t = standard.indent ++ x := by
    simp [x, Row.line_eq]
  have hindent : escapesNext false standard.indent = false := by decide
  have hquotes : quotesWithin false u.length standard.indent = [] :=
    (isSealed_of_notMem (by decide) (by decide)).quotesWithin_eq _
  have hlength : statementLength (standard.indent ++ x) =
      standard.indent.length + statementLength x := statementLength_append_of_notMem (by decide)
  refine ⟨standard.indent, x, hline, assignedRest?_line_self hr.isName, ?_, ?_⟩
  · rw [escapesNext_append, hu, hindent]
  · rw [← stripsWithin_append_iff hu hindent hquotes hlength, ← hline, ownRow_iff hu hr hafter,
      KeepsOthers, if_pos rfl]

theorem findsWithin_textStart {mention : Text} (hname : IsName name) (hr : IsTextRow r)
    (hne : name ≠ r.name) (hnext : IsTextRow next)
    (hmention : assignedRest? name false r.literal = some mention) (u : Text)
    (hlo : u.length + (r.line standard width).length ≤ lo) :
    FindsWithin name width u (r :: next :: after) lo hi := by
  obtain ⟨w, y, hliteral, rfl, hy, hw⟩ := exists_of_assignedRest?_literal hname hr hmention
  let v := lead width r ++ w
  have hlines : linesOf standard width (r :: next :: after) =
      v ++ (y ++ '\x22' :: (r.tail standard ++ linesOf standard width (next :: after))) := by
    rw [linesOf_cons, line_eq_lead, hliteral]
    simp [v]
  have hu : escapesNext false (u ++ v) = false := by
    rw [← List.append_assoc]
    exact hw _
  have hahead : ahead (linesOf standard width (next :: after)) = .equals :=
    ahead_line hnext.isName
  refine ⟨v, _, hlines, ?_, hu, ?_⟩
  · rw [linesOf_cons, assignedRest?_textRow hname hr hne hahead, hmention, Option.map_some,
      Option.some_or, List.append_assoc]
    rfl
  · have hlength := length_line width r
    rw [hliteral] at hlength
    rw [textStart_iff hu hy hr hnext, KeepsOthers, if_neg (Ne.symm hne), hmention]
    simp only [v, List.length_append, List.length_cons, List.length_nil] at hlength ⊢
    omega

theorem findsWithin_commentStart {mention : Text} (hname : IsName name) (hr : IsTextRow r)
    (hne : name ≠ r.name) (hnext : IsTextRow next) (hafter : ∀ m ∈ after, IsTextRow m)
    (hnone : assignedRest? name false r.literal = none)
    (hmention : assignedRest? name true (r.comment ++ ['=']) = some mention) (u : Text)
    (hown : next.name = name → lo = u.length + (r.line standard width).length ∧
      hi = lo + (next.line standard width).length)
    (hother : next.name ≠ name → u.length + (r.line standard width).length +
      (next.line standard width).length ≤ lo) :
    FindsWithin name width u (r :: next :: after) lo hi := by
  obtain ⟨w, y, hw, rfl, hy, hblank⟩ := exists_of_assignedRest?_concat_equals hname hmention
  have hcomment : r.comment ≠ [] := by simp [hw, hy]
  have htail : r.tail standard = ';' :: ' ' :: w ++ (y ++ ['\r', '\n']) := by
    rw [Row.tail, lineTerminator_standard, List.isEmpty_eq_false_iff.mpr hcomment, hw]
    simp
  let v := lead width r ++ (r.literal ++ ';' :: ' ' :: w)
  have hlines : linesOf standard width (r :: next :: after) =
      v ++ (y ++ '\r' :: '\n' :: linesOf standard width (next :: after)) := by
    rw [linesOf_cons, line_eq_lead, htail]
    simp [v]
  have hu : escapesNext false (u ++ v) = false := by
    rcases hblank with rfl | ⟨w, b, rfl, hb⟩
    · have hv : u ++ v = u ++ lead width r ++ r.literal ++ [';'] ++ [' '] := by simp [v]
      rw [hv]
      exact escapesNext_concat_of_isBlank (by decide)
    · have hv : u ++ v = u ++ lead width r ++ r.literal ++ ';' :: ' ' :: w ++ [b] := by simp [v]
      rw [hv]
      exact escapesNext_concat_of_isBlank hb
  have hahead : ahead (linesOf standard width (next :: after)) = .equals :=
    ahead_line hnext.isName
  have hlast : r.IsClosed ↔ y.getLast? = some ';' := by
    rw [Row.IsClosed, or_iff_right hcomment, hw, List.getLast?_append_of_ne_nil w hy]
  have hlineFeed : '\n' ∉ y := fun h => hr.lineFeed_notMem (hw ▸ List.mem_append_right w h)
  have hlength : (r.line standard width).length = v.length + y.length + 2 := by
    rw [length_line, htail]
    simp only [v, List.length_append, List.length_cons, List.length_nil]
    omega
  refine ⟨v, _, hlines, ?_, hu, ?_⟩
  · rw [linesOf_cons, assignedRest?_textRow hname hr hne hahead, hnone, hmention, Option.map_none,
      Option.none_or, Option.map_some, Option.some_or, List.dropLast_concat]
  · rw [commentStart_iff hu hlineFeed hlast hnext hafter (fun heq => ?_) fun hneq => ?_,
      KeepsOthers, if_neg (Ne.symm hne), hnone, hmention]
    · obtain ⟨hlo, hhi⟩ := hown heq
      rw [List.length_append]
      omega
    · have := hother hneq
      rw [List.length_append]
      omega

/-- The search passes a row that does not mention the name. -/
theorem FindsWithin.cons {rows : List Row}
    (h : FindsWithin name width (u ++ r.line standard width) rows lo hi) (hname : IsName name)
    (hr : IsTextRow r) (hne : name ≠ r.name)
    (hahead : ahead (linesOf standard width rows) = .equals)
    (htext : assignedRest? name false r.literal = none)
    (hcomment : assignedRest? name true (r.comment ++ ['=']) = none) :
    FindsWithin name width u (r :: rows) lo hi := by
  obtain ⟨v, x, hv, hx, hu, hiff⟩ := h
  rw [List.append_assoc] at hu hiff
  refine ⟨r.line standard width ++ v, x, ?_, ?_, hu, ?_⟩
  · rw [linesOf_cons, hv, List.append_assoc]
  · rw [linesOf_cons, assignedRest?_textRow hname hr hne hahead, htext, hcomment,
      Option.map_none, Option.map_none, Option.none_or, Option.none_or, hx]
  · rw [hiff, KeepsOthers, if_neg (Ne.symm hne), htext, hcomment]

/-- The statement that is stripped begins at the own row or in a row before it. -/
theorem findsWithin {own : Row} {before : List Row}
    (hrows : ∀ r ∈ before ++ own :: after, IsTextRow r) (hne : ∀ r ∈ before, own.name ≠ r.name)
    (width : Nat) (hu : escapesNext false u = false) :
    FindsWithin own.name width u (before ++ own :: after)
      (u.length + (linesOf standard width before).length)
      (u.length + (linesOf standard width before).length + (own.line standard width).length) := by
  induction before generalizing u with
  | nil =>
    exact findsWithin_ownRow hu (hrows own (by simp)) (fun m hm => hrows m (by simp [hm])) width
  | cons r before ih =>
    have hr : IsTextRow r := hrows r (by simp)
    have hname : IsName own.name := (hrows own (by simp)).isName
    have hrest : ∀ m ∈ before ++ own :: after, IsTextRow m := fun m hm => hrows m (by simp_all)
    have hbefore : ∀ m ∈ before, own.name ≠ m.name := fun m hm => hne m (by simp [hm])
    have hother : own.name ≠ r.name := hne r (by simp)
    have hlength : u.length + (linesOf standard width (r :: before)).length =
        (u ++ r.line standard width).length + (linesOf standard width before).length := by
      simp [Nat.add_assoc]
    obtain ⟨next, rest, hcons⟩ : ∃ next rest, before ++ own :: after = next :: rest :=
      List.exists_cons_of_ne_nil (by simp)
    have hnext : IsTextRow next := hrest next (by simp [hcons])
    rw [List.cons_append, hlength, hcons]
    cases htext : assignedRest? own.name false r.literal with
    | some mention =>
      exact findsWithin_textStart hname hr hother hnext htext u (by simp)
    | none =>
      cases hcomment : assignedRest? own.name true (r.comment ++ ['=']) with
      | some mention =>
        have hafter : ∀ m ∈ rest, IsTextRow m := fun m hm => hrest m (by simp [hcons, hm])
        refine findsWithin_commentStart hname hr hother hnext hafter htext hcomment u
          (fun heq => ?_) fun hneq => ?_
        · cases before with
          | nil =>
            obtain ⟨rfl, rfl⟩ := List.cons.inj hcons
            simp
          | cons b before =>
            obtain ⟨rfl, -⟩ := List.cons.inj hcons
            exact absurd heq.symm (hbefore b (by simp))
        · cases before with
          | nil =>
            obtain ⟨rfl, -⟩ := List.cons.inj hcons
            exact absurd rfl hneq
          | cons b before =>
            obtain ⟨rfl, -⟩ := List.cons.inj hcons
            simp
      | none =>
        have hline : escapesNext false (u ++ r.line standard width) = false := by
          rw [escapesNext_append, hu, escapesNext_line]
        have hahead : ahead (linesOf standard width (next :: rest)) = .equals :=
          ahead_line hnext.isName
        exact (hcons ▸ ih hrest hbefore hline).cons hname hr hother hahead htext hcomment

/-! ### Stripping a written block -/

/-- Stripping a row of a block changes no other row exactly when its name keeps them. -/
theorem stripQuotes_linesOf_iff {own : Row} {before : List Row}
    (hrows : ∀ r ∈ before ++ own :: after, IsTextRow r) (hne : ∀ r ∈ before, own.name ≠ r.name) :
    (∃ line, stripQuotes standard false own.name (linesOf standard width (before ++ own :: after)) =
      .ok (linesOf standard width before ++ line ++ linesOf standard width after)) ↔
        KeepsOthers own.name (before ++ own :: after) := by
  obtain ⟨v, x, hv, hx, hu, hiff⟩ := findsWithin hrows hne width (u := []) rfl
  rw [List.nil_append] at hu hiff
  have hsplit : v ++ x = linesOf standard width before ++ own.line standard width ++
      linesOf standard width after := by
    rw [← hv]
    simp
  have hfind : findAssignment? own.name (v ++ x) = some v.length :=
    findAssignment?_eq_length (hv ▸ hx)
  have hhead : (own.line standard width).head? = some ' ' := by
    rw [Row.line_eq]
    rfl
  have hlast : (own.line standard width).getLast? = some '\n' := by
    rw [Row.line, List.getLast?_append_of_ne_nil _ standard.lineTerminator_ne_nil]
    rfl
  let positions := boundaries (v ++ x) v.length (statementStop standard (v ++ x) v.length) false
  have honly : Text.DeletesOnly isQuote 0 positions (linesOf standard width before ++
      own.line standard width ++ linesOf standard width after) :=
    hsplit ▸ deletesOnly_boundaries
  have hbound : ∀ p ∈ positions, p < (linesOf standard width before ++
      own.line standard width ++ linesOf standard width after).length := fun p hp => by
    rw [← hsplit, List.length_append]
    exact (stripsWithin_length hu p hp).2
  have hkeep := Text.exists_deleteAt_eq_iff (by decide) (by decide) hhead hlast honly hbound
  rw [hv, stripQuotes_eq_deleteAt hfind, ← hiff, StripsWithin, List.length_nil, Nat.zero_add]
  rw [← hsplit] at hkeep
  simpa only [Except.ok.injEq] using hkeep

/-- A named value has a comment, or is one, that stands on one line. -/
def HasInlineComment (nv : NamedValue) : Prop :=
  '\n' ∉ nv.comment.getD [] ∧ (isMetadata standard nv.name → '\n' ∉ nv.text)

instance (nv : NamedValue) : Decidable (HasInlineComment nv) :=
  inferInstanceAs (Decidable (_ ∧ _))

variable {values : List NamedValue} {before : List Row} {own : Row}

theorem isTextRow_of_mem_rowsOf (hvalues : ∀ nv ∈ values, nv.IsText ∧ HasInlineComment nv)
    (hr : r ∈ rowsOf {} (keyed values)) : IsTextRow r := by
  obtain ⟨nv, hnv, rfl⟩ := List.mem_map.mp hr
  obtain ⟨htext, hinline⟩ := hvalues nv (mem_of_mem_printed hnv).1
  refine ⟨htext.isName, ⟨_, isSealed_escape _ _, htext.literal_eq {}⟩, ?_⟩
  have hformed : ¬ HasFormlessComment {} (keyed values) :=
    not_hasFormlessComment fun nv hnv _ => (hvalues nv hnv).1.isSome_plainForm?
  obtain ⟨comments, hcomments⟩ := exists_commentsOf_eq_ok hformed
  rw [hcomments]
  change '\n' ∉ commentOn comments nv
  rcases commentOn_eq comments nv with hown | hempty | ⟨key, hmem⟩
  · rw [hown]
    exact hinline.1
  · rw [hempty]
    exact List.not_mem_nil
  · obtain ⟨m, hm, hkey, hform⟩ := exists_of_mem_commentsOf hcomments hmem
    obtain ⟨hmtext, -, hline⟩ := hvalues m hm
    rw [hmtext.value_eq, Value.plainForm?_text, Option.some.injEq] at hform
    exact hform ▸ hline hkey

/-- **The rows that stripping leaves alone.** With the default settings, stripping a row of a
written block of texts leaves the lines of all other rows as they were written exactly when
`KeepsOthers` holds of its name and the rows of the block. -/
theorem stripQuotes_frame_iff (hvalues : ∀ nv ∈ values, nv.IsText ∧ HasInlineComment nv)
    (hsplit : rowsOf {} (keyed values) = before ++ own :: after) :
    WrittenWith {} (keyed values) fun block =>
      (∃ line, stripQuotes standard false own.name block =
        .ok (linesOf standard (nameWidth standard (before ++ own :: after)) before ++ line ++
          linesOf standard (nameWidth standard (before ++ own :: after)) after)) ↔
            KeepsOthers own.name (before ++ own :: after) := by
  have hformed : ¬ HasFormlessComment {} (keyed values) := not_hasFormlessComment fun nv hnv _ =>
    (hvalues nv hnv).1.isSome_plainForm?
  have hrows : ∀ r ∈ before ++ own :: after, IsTextRow r := fun r hr =>
    isTextRow_of_mem_rowsOf hvalues (hsplit ▸ hr)
  have hnames : (before ++ own :: after).Pairwise (·.name ≠ ·.name) := by
    rw [← hsplit, rowsOf, List.pairwise_map]
    exact pairwise_name_printed standard values
  have hne : ∀ r ∈ before, own.name ≠ r.name := fun r hr =>
    ((List.pairwise_append.mp hnames).2.2 r hr own List.mem_cons_self).symm
  refine writtenWith hformed (fun nv hnv =>
    (hvalues nv (mem_of_mem_printed hnv).1).1.literalFault?_eq_none) ?_
  rw [hsplit]
  exact stripQuotes_linesOf_iff hrows hne

/-- Two rows of which the first has a comment that ends with a semicolon. -/
theorem stripQuotes_frame_closed :
    let a : NamedValue := { name := ['A'], value := .text ['x'], comment := some "note;".toList }
    let b : NamedValue := { name := ['B'], value := .text ['y'] }
    WrittenWith {} (keyed [a, b]) fun block =>
      (∃ line, stripQuotes standard false ['A'] block =
        .ok ([] ++ line ++ linesOf standard 20 [plainRow standard b])) ↔
          KeepsOthers ['A'] [rowOf {} [] a, plainRow standard b] := by
  intro a b
  have hsurviving : surviving (keyed [a, b]) = keyed [a, b] :=
    surviving_eq_of_perm (.refl _) (by decide)
  have hsplit : rowsOf {} (keyed [a, b]) = [] ++ rowOf {} [] a :: [plainRow standard b] := by
    rw [rowsOf, commentsOf, printed, hsurviving]
    rfl
  exact stripQuotes_frame_iff (by decide) hsplit

/-- A comment keeps the statement open, so that it runs into the next row and strips that too. -/
theorem stripQuotes_frame_overrun :
    let a : NamedValue := { name := ['A'], value := .text ['x'], comment := some "note".toList }
    let b : NamedValue := { name := ['B'], value := .text ['y'] }
    ∃ block stripped, (render {} (keyed [a, b])).outcome = .ok block ∧
      block = textOf standard [rowOf {} [] a, plainRow standard b] ∧
      stripQuotes standard false ['A'] block = .ok stripped ∧
      stripped = textOf standard
        [(rowOf {} [] a).withLiteral ['x'], (plainRow standard b).withLiteral ['y']] ∧
      ¬ ∃ line, stripped = [] ++ line ++ linesOf standard 20 [plainRow standard b] := by
  intro a b
  have hsurviving : surviving (keyed [a, b]) = keyed [a, b] :=
    surviving_eq_of_perm (.refl _) (by decide)
  refine ⟨_, _, ?_, rfl, ?_, rfl, ?_⟩
  · rw [render, commentsOf, printed, hsurviving]
    rfl
  · decide
  · rintro ⟨line, hline⟩
    have hsuffix : ¬ linesOf standard 20 [plainRow standard b] <:+ textOf standard
        [(rowOf {} [] a).withLiteral ['x'], (plainRow standard b).withLiteral ['y']] := by decide
    exact hsuffix ⟨_, hline.symm⟩

end ResourceScript.Unquote
