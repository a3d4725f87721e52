import ResourceScript.Proofs.Block.Failure
import ResourceScript.Proofs.Block.Line

/-!
# Metadata shows in comments only

Metadata takes part in the replacement of values with one key and in their order, and it may fail to
have a text form. Apart from that it does not show in a block but as a comment: the text of the
metadata on a row stands behind the semicolon of the row, if the row has no comment of its own.
Neither the rows nor their literals nor the width of their names depend on it, so a block without
its metadata has the same text except for these comments, records the same users and asks the same
questions.

## Main definitions

* `Block.withoutMetadata`: values without their metadata.
* `Block.metadataText?`: the text of the metadata on a name.
* `Block.Row.lineWith`: a line with a text behind its semicolon.
* `Block.metadataInsertion`: what metadata inserts into the line of a value.

## Main results

* `Block.surviving_withoutMetadata`: metadata replaces no other value.
* `Block.lookup_commentsOf`: the comments are the texts of the metadata.
* `Block.render_metadata`: metadata shows in comments only.
-/

namespace ResourceScript.Block

/-- The values without their metadata. -/
def withoutMetadata (settings : Settings) (values : List (Text × NamedValue)) :
    List (Text × NamedValue) :=
  values.filter (!isMetadata settings ·.1)

/-- The text of the metadata on a name: the text form of the last value under the metadata lead and
the name, unless that value is `null`. -/
def metadataText? (settings : Settings) (values : List (Text × NamedValue)) (name : Text) :
    Option Text :=
  ((lastUnder? values (settings.metadataLead ++ name)).filter (!·.value.isNull)).bind
    (·.value.plainForm?)

/-- The line of a row with a text inserted behind its semicolon. -/
def Row.lineWith (settings : Settings) (width : Nat) (inserted : Text) (r : Row) : Text :=
  settings.indent ++ (r.header width ++ (r.literal ++ ';' ::
    (inserted ++ ((if r.comment.isEmpty then [] else ' ' :: r.comment) ++
      settings.lineTerminator))))

/-- What metadata inserts into the line of a value: a blank and the text of the metadata on its
name, unless the value has a comment of its own or that text is empty. -/
def metadataInsertion (settings : Settings) (values : List (Text × NamedValue)) (nv : NamedValue) :
    Text :=
  match nv.comment, metadataText? settings values nv.name with
  | some (_ :: _), _ => []
  | _, some (c :: s) => ' ' :: c :: s
  | _, _ => []

/-- The text of a block that is written without metadata, with a text inserted into the line of each
value. -/
def textWith (ctx : Context) (values : List (Text × NamedValue)) (inserted : NamedValue → Text) :
    Text :=
  ((printed ctx.settings values).map fun nv => (rowOf ctx [] nv).lineWith ctx.settings
    (columnWidth ctx.settings ((printed ctx.settings values).map (·.name))) (inserted nv)).flatten

variable {ctx : Context} {settings : Settings} {values : List (Text × NamedValue)}
  {comments : List (Text × Text)} {width : Nat}

/-! ### Without metadata -/

/-- Metadata replaces no other value. -/
theorem lastUnder?_withoutMetadata (settings : Settings) (values : List (Text × NamedValue))
    (key : Text) : lastUnder? (withoutMetadata settings values) key =
      if isMetadata settings key then none else lastUnder? values key := by
  have hfind : (withoutMetadata settings values).reverse.find? (·.1 = key) =
      if isMetadata settings key then none else values.reverse.find? (·.1 = key) := by
    rw [withoutMetadata, ← List.filter_reverse, List.find?_filter]
    split
    · next hkey =>
      refine List.find?_eq_none.mpr fun e _ => ?_
      simp only [decide_eq_true_eq, Bool.not_eq_true', not_and]
      rintro h rfl
      simp [hkey] at h
    · next hkey =>
      congr 1
      funext e
      by_cases he : e.1 = key
      · simp [he, hkey]
      · simp [he]
  rw [lastUnder?, hfind, lastUnder?]
  split <;> rfl

theorem surviving_withoutMetadata (settings : Settings) (values : List (Text × NamedValue)) :
    surviving (withoutMetadata settings values) =
      (surviving values).filter (!isMetadata settings ·.1) := by
  refine eq_of_pairwise_of_mem_iff (pairwise_surviving _) ((pairwise_surviving values).filter _)
    fun key nv => ?_
  rw [List.mem_filter, mem_surviving_iff, mem_surviving_iff, lastUnder?_withoutMetadata]
  by_cases hkey : isMetadata settings key <;> simp [hkey]

theorem printed_withoutMetadata (settings : Settings) (values : List (Text × NamedValue)) :
    printed settings (withoutMetadata settings values) = printed settings values := by
  rw [printed, printed, surviving_withoutMetadata, List.filter_filter]
  simp only [Bool.and_self]

theorem commentsOf_withoutMetadata (ctx : Context) (values : List (Text × NamedValue)) :
    commentsOf ctx (withoutMetadata ctx.settings values) = .ok [] := by
  have hnil : ((surviving values).filter (!isMetadata ctx.settings ·.1)).filter
      (isMetadata ctx.settings ·.1) = [] := by
    rw [List.filter_filter]
    exact List.filter_eq_nil_iff.mpr fun e _ => by simp
  rw [commentsOf, surviving_withoutMetadata, hnil]
  split <;> rfl

/-! ### The comments -/

/-- Comments are looked up under the names that are behind the metadata lead. -/
private theorem lookup_mapM {es : Entries NamedValue} (hes : ∀ e ∈ es, isMetadata settings e.1)
    (h : es.mapM (fun (key, nv) => (Literal.plainForm nv.value).map fun s =>
      (key.drop settings.metadataLead.length, s)) = .ok comments) (name : Text) :
    comments.lookup name =
      (es.get? (settings.metadataLead ++ name)).bind (·.value.plainForm?) := by
  rw [mapM_eq_ok_iff] at h
  induction h with
  | nil => rfl
  | @cons e _ es _ hc _ ih =>
    obtain ⟨key, nv⟩ := e
    obtain ⟨hkey, htail⟩ := List.forall_mem_cons.mp hes
    obtain ⟨row, rfl⟩ := List.isPrefixOf_iff_prefix.mp hkey
    obtain ⟨form, hform, rfl⟩ := map_eq_ok_iff.mp hc
    rw [Literal.plainForm_eq_ok_iff] at hform
    rw [List.drop_left, List.lookup_cons, Entries.get?]
    by_cases hname : name = row
    · simp [hname, hform]
    · have hbeq : (name == row) = false := beq_eq_false_iff_ne.mpr hname
      simp [hbeq, Ne.symm hname, ih htail]

/-- The comment on a name is the text of the metadata on it. -/
theorem lookup_commentsOf (hexclude : ctx.excludeMetadata = false)
    (h : commentsOf ctx values = .ok comments) (name : Text) :
    comments.lookup name = metadataText? ctx.settings values name := by
  rw [commentsOf, if_neg (by simp [hexclude])] at h
  rw [lookup_mapM (fun e he => (List.mem_filter.mp he).2) h, metadataText?]
  refine congrArg (Option.bind · _) (Option.ext fun nv => ?_)
  have hnodup : (Entries.keys ((surviving values).filter (isMetadata ctx.settings ·.1))).Nodup :=
    List.pairwise_map.mpr (((pairwise_surviving values).filter _).imp And.right)
  have hkey : isMetadata ctx.settings (ctx.settings.metadataLead ++ name) :=
    List.isPrefixOf_iff_prefix.mpr (List.prefix_append ..)
  rw [← Entries.mem_iff_get?_eq_some hnodup, List.mem_filter, mem_surviving_iff]
  simp [hkey, Option.filter_eq_some_iff]

/-! ### Lines with comments -/

theorem Row.lineWith_nil (settings : Settings) (width : Nat) (r : Row) :
    r.lineWith settings width [] = r.line settings width :=
  (Row.line_eq settings width r).symm

/-- A comment is inserted into the line that is written without metadata. -/
theorem line_rowOf (hcomments : ∀ name, comments.lookup name = metadataText? settings values name)
    (ctx : Context) (nv : NamedValue) :
    (rowOf ctx comments nv).line settings width =
      (rowOf ctx [] nv).lineWith settings width (metadataInsertion settings values nv) := by
  have hcomment : (if (commentOn comments nv).isEmpty then [] else ' ' :: commentOn comments nv) =
      metadataInsertion settings values nv ++
        if (commentOn [] nv).isEmpty then [] else ' ' :: commentOn [] nv := by
    rw [commentOn, commentOn, metadataInsertion, hcomments]
    -- only a row without a comment of its own takes the text of its metadata
    rcases nv.comment with _ | _ | ⟨c, s⟩
    · rcases metadataText? settings values nv.name with _ | _ | ⟨c, s⟩ <;> simp
    · rcases metadataText? settings values nv.name with _ | _ | ⟨c, s⟩ <;> simp
    · simp
  rw [Row.line_eq, Row.tail, Row.lineWith, ← List.append_assoc (metadataInsertion ..)]
  exact congrArg (fun u => settings.indent ++ ((rowOf ctx [] nv).header width ++
    ((rowOf ctx [] nv).literal ++ ';' :: (u ++ settings.lineTerminator)))) hcomment

/-! ### Blocks with and without metadata -/

/-- When metadata is excluded, it is as good as not there. -/
theorem render_of_excludeMetadata (ctx : Context) (values : List (Text × NamedValue)) :
    render { ctx with excludeMetadata := true } values =
      render ctx (withoutMetadata ctx.settings values) := by
  rw [render, render, commentsOf_withoutMetadata, printed_withoutMetadata]
  rfl

theorem rowsOf_withoutMetadata (ctx : Context) (values : List (Text × NamedValue)) :
    rowsOf ctx (withoutMetadata ctx.settings values) =
      (printed ctx.settings values).map (rowOf ctx []) := by
  rw [rowsOf, commentsOf_withoutMetadata, printed_withoutMetadata]
  rfl

/-- A block that is written with its metadata is written without it. -/
theorem exists_outcome_withoutMetadata {block : Text}
    (h : (render ctx values).outcome = .ok block) :
    ∃ bare, (render ctx (withoutMetadata ctx.settings values)).outcome = .ok bare := by
  -- the rows are the same, so none of them fails
  have hfirst : firstFailure? ctx.settings (withoutMetadata ctx.settings values) =
      firstFailure? ctx.settings values := by
    rw [firstFailure?, firstFailure?, printed_withoutMetadata]
    refine congrArg (List.findSome? · _) (funext fun nv => ?_)
    rw [rowFailure?, rowFailure?, printed_withoutMetadata]
  rw [outcome_render] at h ⊢
  rw [commentsOf_withoutMetadata, hfirst]
  split at h
  · exact absurd h (by simp)
  · exact absurd h (by simp)
  · next hnone => exact ⟨_, by rw [hnone]⟩

/-- The users and the questions of rows do not depend on the comments on them. -/
theorem renderingOf_map_rowOf (outcome : Except Failure Text) (nvs : List NamedValue) :
    renderingOf outcome (nvs.map (rowOf ctx comments)) =
      renderingOf outcome (nvs.map (rowOf ctx [])) := by
  rw [renderingOf, renderingOf, List.filterMap_map, List.filterMap_map, List.filterMap_map,
    List.filterMap_map]
  rfl

/-- The text of rows, by what their comments insert into the lines without comments. -/
theorem textOf_map_rowOf {inserted : NamedValue → Text}
    (h : ∀ width nv, (rowOf ctx comments nv).line ctx.settings width =
      (rowOf ctx [] nv).lineWith ctx.settings width (inserted nv)) :
    textOf ctx.settings ((printed ctx.settings values).map (rowOf ctx comments)) =
      textWith ctx values inserted := by
  have hnames : ((printed ctx.settings values).map (rowOf ctx comments)).map (·.name) =
      (printed ctx.settings values).map (·.name) := List.map_map
  rw [textOf, nameWidth_eq_columnWidth, hnames, List.map_map, textWith]
  exact congrArg List.flatten (List.map_congr_left fun nv _ => h _ nv)

/-- The rendering of a block without the metadata that it is written with. -/
theorem render_withoutMetadata {block : Text} (h : (render ctx values).outcome = .ok block) :
    render ctx (withoutMetadata ctx.settings values) =
      renderingOf (.ok (textWith ctx values fun _ => []))
        ((printed ctx.settings values).map (rowOf ctx [])) := by
  obtain ⟨bare, hbare⟩ := exists_outcome_withoutMetadata h
  rw [render_eq_of_outcome_eq_ok hbare, rowsOf_withoutMetadata,
    textOf_map_rowOf fun width nv => (Row.lineWith_nil ctx.settings width (rowOf ctx [] nv)).symm]

/-- The rendering of a block with its metadata. -/
theorem render_of_metadata (hexclude : ctx.excludeMetadata = false) {block : Text}
    (h : (render ctx values).outcome = .ok block) :
    render ctx values =
      renderingOf (.ok (textWith ctx values (metadataInsertion ctx.settings values)))
        ((printed ctx.settings values).map (rowOf ctx [])) := by
  have hformed : ¬ HasFormlessComment ctx values := fun hformless => by
    obtain ⟨e, he⟩ := outcome_of_hasFormlessComment hformless
    exact absurd (h.symm.trans he) (by simp)
  obtain ⟨comments, hcomments⟩ := exists_commentsOf_eq_ok hformed
  have hrows : rowsOf ctx values = (printed ctx.settings values).map (rowOf ctx comments) := by
    rw [rowsOf, hcomments]
    rfl
  rw [render_eq_of_outcome_eq_ok h, hrows, renderingOf_map_rowOf,
    textOf_map_rowOf fun width => line_rowOf (lookup_commentsOf hexclude hcomments) ctx]

/-- **Metadata shows in comments only.** A block from which metadata is excluded is the block that
is written without it. A block that is written with metadata records the same users and asks the
same questions, and its text differs only by what the metadata inserts: a blank and its text behind
the semicolon of the row that it is on, if that text is not empty and the row has no comment of its
own. Neither the order of the metadata nor metadata on no row makes a difference. -/
theorem render_metadata (ctx : Context) (values : List (Text × NamedValue)) :
    let bare := render ctx (withoutMetadata ctx.settings values)
    render { ctx with excludeMetadata := true } values = bare ∧
    ∀ block, (render { ctx with excludeMetadata := false } values).outcome = .ok block →
      bare.outcome = .ok (textWith ctx values fun _ => []) ∧
      render { ctx with excludeMetadata := false } values =
        { bare with
          outcome := .ok (textWith ctx values (metadataInsertion ctx.settings values)) } := by
  refine ⟨render_of_excludeMetadata ctx values, fun block hblock => ?_⟩
  -- without metadata it does not matter whether metadata is excluded
  have hbare : render ctx (withoutMetadata ctx.settings values) =
      renderingOf (.ok (textWith ctx values fun _ => []))
        ((printed ctx.settings values).map (rowOf ctx [])) :=
    (render_of_excludeMetadata ctx values).symm.trans
      ((render_of_excludeMetadata { ctx with excludeMetadata := false } values).trans
        (render_withoutMetadata hblock))
  rw [hbare]
  exact ⟨rfl, render_of_metadata rfl hblock⟩

/-- Metadata that stands before its row and is replaced after it, metadata on a row with a comment
of its own, empty metadata, metadata that is dropped in the end, and metadata on no row. -/
theorem render_metadata_replaced :
    let settings : Settings :=
      { lineTerminator := ['\n'], indent := [], minNameWidth := 1, metadataLead := ['_'] }
    let ctx : Context := { settings }
    let values := keyed [
      { name := "_A".toList, value := .text "old".toList },
      { name := ['D'], value := .int 4 },
      { name := ['A'], value := .int 1 },
      { name := ['B'], value := .int 2, comment := some "own".toList },
      { name := "_A".toList, value := .text "new".toList },
      { name := "_B".toList, value := .text "hidden".toList },
      { name := "_X".toList, value := .text "nowhere".toList },
      { name := ['C'], value := .int 3, comment := some [] },
      { name := "_C".toList, value := .text [] },
      { name := "_D".toList, value := .text "dropped".toList },
      { name := "_D".toList, value := .null }]
    let block := "A = 1; new\nB = 2; own\nC = 3;\nD = 4;\n".toList
    (render ctx values).outcome = .ok block ∧
      (render ctx (withoutMetadata ctx.settings values)).outcome =
        .ok "A = 1;\nB = 2; own\nC = 3;\nD = 4;\n".toList ∧
      render ctx values =
        { render ctx (withoutMetadata ctx.settings values) with outcome := .ok block } := by
  intro settings ctx values block
  let sorted := keyed [
    { name := ['A'], value := .int 1 },
    { name := ['B'], value := .int 2, comment := some "own".toList },
    { name := ['C'], value := .int 3, comment := some [] },
    { name := ['D'], value := .int 4 },
    { name := "_A".toList, value := .text "new".toList },
    { name := "_B".toList, value := .text "hidden".toList },
    { name := "_C".toList, value := .text [] },
    { name := "_X".toList, value := .text "nowhere".toList }]
  have hperm : [4, 3, 0, 1, 5, 7, 2, 6].Perm (List.range 8) := by decide
  have hsurviving : surviving values = sorted :=
    surviving_eq_of_perm (hperm.map (sorted.getD · ([], { name := [] }))) (by decide)
  have hblock : (render ctx values).outcome = .ok block := by
    rw [render, commentsOf, printed, hsurviving]
    rfl
  have hbare : textWith ctx values (fun _ => []) =
      "A = 1;\nB = 2; own\nC = 3;\nD = 4;\n".toList := by
    rw [textWith, printed, hsurviving]
    decide
  have hwith : textWith ctx values (metadataInsertion ctx.settings values) = block := by
    rw [textWith, printed, hsurviving]
    decide
  obtain ⟨-, hmetadata⟩ := render_metadata ctx values
  obtain ⟨houtcome, hrender⟩ := hmetadata block hblock
  rw [hbare] at houtcome
  rw [hwith] at hrender
  exact ⟨hblock, houtcome, hrender⟩

end ResourceScript.Block
