import ResourceScript.Block.Row
import ResourceScript.Proofs.Steps

/-!
# The literals of rows

A row is not asked about unless its value is a sequence without items, so its literal is that of its
value under the kind that it is declared with. Without a declared kind texts, truth values, integers
and lists of texts or of integers have the literals that are stated here. Whether a literal can be
put in its line depends on the value alone, not on what it is declared as and not on answers.

## Main definitions

* `Value.literalFault?`, `Value.isFormlessLiteral`: values that already are literals and have no
  text form.

## Main results

* `Block.rowLiteral_eq`: the literal of a row that is not asked about.
* `Block.literalUnder_of_isEmptySequence`: a sequence without items, whatever it is declared as.
* `Block.fault_rowLiteral`: the literals that cannot be put in their lines.
* `Literal.formatTextArray_map`, `Literal.formatIntArray_map`: arrays of texts and of integers.
* `NamedValue.literal_of_text`, `NamedValue.literal_of_texts`, `NamedValue.literal_of_ints`: the
  literals of undeclared values.
* `NamedValue.literal_of_nil`: a list without items, whatever is answered about it.
-/

namespace ResourceScript

namespace Value

/-- Why a value that already is a literal cannot be put in a line: what it consists of has no text
form. -/
def literalFault? : Value → Option FormError
  | .classified .verbatim payload =>
    match payload.plainForm? with
    | some _ => none
    | none => some (Literal.formError payload)
  | _ => none

/-- Whether a value that already is a literal has no text form. -/
def isFormlessLiteral : Value → Bool
  | .classified .verbatim payload => payload.plainForm?.isNone
  | _ => false

variable {v : Value}

theorem isSome_literalFault? (v : Value) : v.literalFault?.isSome = v.isFormlessLiteral := by
  rw [literalFault?.eq_def, isFormlessLiteral.eq_def]
  split
  · next payload => cases payload.plainForm? <;> rfl
  · rfl

theorem literalFault?_eq_none (h : ∀ payload, v ≠ .classified .verbatim payload) :
    v.literalFault? = none := by
  rw [literalFault?.eq_def]
  split
  · exact absurd rfl (h _)
  · rfl

theorem eq_of_isEmptySequence (h : v.isEmptySequence) : v = .list [] ∨ v = .tuple [] := by
  rw [isEmptySequence.eq_def] at h
  split at h
  · exact Or.inl rfl
  · exact Or.inr rfl
  · exact absurd h (by decide)

end Value

/-! ### Text that already is a literal -/

namespace Literal

variable {declared : Option Kind} {v : Value} {l : Literal}

theorem arrayKind_ne_verbatim (declared : Option Kind) (items : List Value) :
    arrayKind declared items ≠ .verbatim := by
  unfold arrayKind
  split <;> decide

theorem kind_absent_ne_verbatim (declared : Option Kind) : (absent declared).kind ≠ .verbatim := by
  rcases declared with _ | kind
  · decide
  · cases kind <;> decide

theorem exists_text_of_verbatim? (h : verbatim? v = .ok l) : ∃ s, l.payload = .text s := by
  rw [verbatim?] at h
  split at h
  · next s _ => exact ⟨s, congrArg payload (Except.ok.inj h).symm⟩
  · exact absurd h (by simp)

/-- What becomes a literal of its own text form was given as one, or it has that form. -/
theorem exists_text_of_classify (hv : ∀ payload, v ≠ .classified .verbatim payload)
    (h : classify declared v = .ok l) (hkind : l.kind = .verbatim) : ∃ s, l.payload = .text s := by
  cases v with
  | classified kind payload =>
    obtain rfl := Except.ok.inj h
    obtain rfl : kind = .verbatim := hkind
    exact absurd rfl (hv payload)
  | int n => exact exists_text_of_verbatim? (v := .int n) h
  | hugeInt n => exact exists_text_of_verbatim? (v := .hugeInt n) h
  | float x => exact exists_text_of_verbatim? (v := .float x) h
  | object typeName plain quoted =>
    exact exists_text_of_verbatim? (v := .object typeName plain quoted) h
  | null =>
    obtain rfl := Except.ok.inj h
    exact absurd hkind (kind_absent_ne_verbatim declared)
  | text s =>
    have htext : l.kind = .credential ∨ l.kind = .enumeration ∨ l.kind = .text := by
      rw [classify.eq_def] at h
      simp only at h
      split at h <;> simp [← Except.ok.inj h]
    simp [hkind] at htext
  | list items | tuple items =>
    obtain rfl := Except.ok.inj h
    exact absurd hkind (arrayKind_ne_verbatim declared items)
  | bool | mapping | credential | member =>
    obtain rfl := Except.ok.inj h
    cases hkind

end Literal

namespace Block

variable {ctx : Context} {nv : NamedValue}

/-- Values that tell their kind are not asked about. -/
theorem questionFor?_eq_none (h : nv.value.isEmptySequence = false) :
    questionFor? ctx nv = none := by
  rw [questionFor?]
  split
  · rw [h]
    rfl
  · rfl

theorem questionFor?_eq_none_of_resolver (h : ctx.resolver = none) :
    questionFor? ctx nv = none := by
  rw [questionFor?, h]
  split
  · next heq => exact absurd heq (by simp)
  · rfl

/-- The literal of a row that is not asked about. -/
theorem rowLiteral_eq (h : questionFor? ctx nv = none) :
    rowLiteral ctx nv = literalUnder ctx nv nv.kind := by
  rw [rowLiteral, h]

theorem question_literalUnder (ctx : Context) (nv : NamedValue) (kind : Option Kind) :
    (literalUnder ctx nv kind).question = none := by
  rw [literalUnder]
  split <;> rfl

/-- What is asked about a row, and whom. -/
theorem of_questionFor?_eq_some {resolver : Resolver} {resource parameter : Text}
    (h : questionFor? ctx nv = some (resolver, resource, parameter)) :
    ctx.resolver = some resolver ∧ nv.value.isEmptySequence ∧ resource = ctx.resource ∧
      parameter = nv.name := by
  rw [questionFor?] at h
  split at h
  · next hresolver =>
    split at h
    · next hempty =>
      obtain ⟨rfl, rfl, rfl⟩ : _ ∧ _ ∧ _ := by simpa using h
      exact ⟨hresolver, hempty, rfl, rfl⟩
    · exact absurd h (by simp)
  · exact absurd h (by simp)

/-- A literal of another kind can be put in its line, and so can one that has a text. -/
theorem faultOf?_eq_none {kind : Kind} {written : Except FormError Text}
    (h : kind = .verbatim → ∃ s, written = .ok s) : faultOf? kind written = none := by
  rw [faultOf?.eq_def]
  split
  · obtain ⟨s, hs⟩ := h rfl
    exact absurd hs (by simp)
  · rfl

/-- A sequence without items is written as an array without items, whatever it is declared as, and
names no user. -/
theorem literalUnder_of_isEmptySequence (h : nv.value.isEmptySequence) (kind : Option Kind) :
    literalUnder ctx nv kind = { literal := Literal.emptyArray } := by
  have hclassify : Literal.classify kind nv.value =
      .ok ⟨Literal.arrayKind kind [], .list []⟩ := by
    rcases Value.eq_of_isEmptySequence h with hv | hv <;>
    · rw [hv]
      rfl
  -- every kind of array is written in the same way when it has no items
  have hformat : Literal.format ⟨nv.name, nv.quoting, ctx.lead⟩
      ⟨Literal.arrayKind kind [], .list []⟩ = .ok Literal.emptyArray := by
    rcases kind with _ | kind
    · rfl
    · cases kind <;> rfl
  have huser (lead : Text) : userOf? lead ⟨Literal.arrayKind kind [], .list []⟩ = none := by
    rcases kind with _ | kind
    · rfl
    · cases kind <;> rfl
  have hfault : faultOf? (Literal.arrayKind kind []) (.ok Literal.emptyArray) = none :=
    faultOf?_eq_none fun _ => ⟨_, rfl⟩
  simp only [literalUnder, hclassify, hformat, hfault, huser]
  cases ctx.registryLead <;> rfl

/-- A row is asked about under its own name. -/
theorem eq_of_question_rowLiteral {question : Text × Text}
    (h : (rowLiteral ctx nv).question = some question) : question = (ctx.resource, nv.name) := by
  rw [rowLiteral] at h
  cases hquestion : questionFor? ctx nv with
  | none =>
    simp only [hquestion, question_literalUnder] at h
    exact absurd h (by simp)
  | some asked =>
    obtain ⟨resolver, resource, parameter⟩ := asked
    obtain ⟨-, -, rfl, rfl⟩ := of_questionFor?_eq_some hquestion
    simp only [hquestion, Option.some.injEq] at h
    exact h.symm

theorem fault_literalUnder (ctx : Context) (nv : NamedValue) (kind : Option Kind) :
    (literalUnder ctx nv kind).fault = nv.value.literalFault? := by
  by_cases hv : ∃ payload, nv.value = .classified .verbatim payload
  · obtain ⟨payload, hv⟩ := hv
    simp only [literalUnder, hv, Literal.classify, Literal.format, Literal.formatVerbatim,
      Literal.plainForm, Value.literalFault?]
    cases payload.plainForm? <;> rfl
  · rw [Value.literalFault?_eq_none (not_exists.mp hv), literalUnder]
    split
    · rfl
    · next l hclassify =>
      refine faultOf?_eq_none fun hkind => ?_
      obtain ⟨s, hs⟩ := Literal.exists_text_of_classify (not_exists.mp hv) hclassify hkind
      exact ⟨s, by rw [Literal.format, hkind, hs]; rfl⟩

/-- Whether a literal can be put in its line depends on the value alone. -/
theorem fault_rowLiteral (ctx : Context) (nv : NamedValue) :
    (rowLiteral ctx nv).fault = nv.value.literalFault? := by
  rw [rowLiteral]
  cases hquestion : questionFor? ctx nv with
  | none => exact fault_literalUnder ctx nv nv.kind
  | some question =>
    obtain ⟨resolver, resource, parameter⟩ := question
    simp only
    cases resolver resource parameter with
    | declared kind => exact fault_literalUnder ctx nv (some kind)
    | undeclared => exact fault_literalUnder ctx nv none
    | failed =>
      -- only sequences without items are asked about
      obtain ⟨-, hempty, -, -⟩ := of_questionFor?_eq_some hquestion
      rcases Value.eq_of_isEmptySequence hempty with hv | hv <;>
      · rw [hv]
        rfl

theorem literal_literalUnder {kind : Option Kind} {l : Literal} {s : Text}
    (hclassify : Literal.classify kind nv.value = .ok l)
    (hformat : Literal.format ⟨nv.name, nv.quoting, ctx.lead⟩ l = .ok s) :
    (literalUnder ctx nv kind).literal = s := by
  simp only [literalUnder, hclassify, hformat]

end Block

/-- A text that is escaped stands between double quotes. -/
theorem Quoting.quote_of_escaped {q : Quoting} (h : q.noEscape = false) (s : Text) :
    q.quote s = '\x22' :: (Text.escape q.allowVariables s ++ ['\x22']) := by
  rw [quote, body, h]
  rfl

namespace Literal

/-- Items that are written one by one, none of which is left out. -/
theorem formatItems_map {α : Type} {item : Value → Except FormError Text} {f : α → Value}
    {g : α → Text} (hitem : ∀ a, item (f a) = .ok (g a)) (hnull : ∀ a, (f a).isNull = false)
    (as : List α) : formatItems item (.list (as.map f)) = .ok (arrayOf [','] (as.map g)) := by
  have hfilter : (as.map f).filter (!·.isNull) = as.map f :=
    List.filter_eq_self.mpr fun v hv => by
      obtain ⟨a, -, rfl⟩ := List.mem_map.mp hv
      simp [hnull a]
  have hitems : (as.map f).mapM item = .ok (as.map g) := by
    rw [mapM_eq_ok_iff, List.forall₂_map_left_iff, List.forall₂_map_right_iff, List.forall₂_same]
    exact fun a _ => hitem a
  cases as with
  | nil => rfl
  | cons a as =>
    rw [formatItems]
    simp only [Value.isTruthy, Value.items?, hfilter, hitems]
    rfl

theorem formatTextArray_map (q : Quoting) (ts : List Text) :
    formatTextArray q (.list (ts.map .text)) = .ok (arrayOf [','] (ts.map q.quote)) :=
  formatItems_map (fun _ => rfl) (fun _ => rfl) ts

theorem formatIntArray_map (ns : List Int) :
    formatIntArray (.list (ns.map .int)) = .ok (arrayOf [','] (ns.map Text.ofInt)) :=
  formatItems_map (fun _ => rfl) (fun _ => rfl) ns

end Literal

namespace NamedValue

open Block

variable {ctx : Context} {nv : NamedValue}

section Undeclared

variable (hkind : nv.kind = none)

include hkind

theorem literal_of_text {s : Text} (hv : nv.value = .text s) :
    (rowLiteral ctx nv).literal = nv.quoting.quote s := by
  rw [rowLiteral_eq (questionFor?_eq_none (by rw [hv]; rfl)), hkind]
  exact literal_literalUnder (by rw [hv]; rfl) rfl

theorem literal_of_bool {b : Bool} (hv : nv.value = .bool b) :
    (rowLiteral ctx nv).literal = Literal.formatBool (.bool b) := by
  rw [rowLiteral_eq (questionFor?_eq_none (by rw [hv]; rfl)), hkind]
  exact literal_literalUnder (by rw [hv]; rfl) rfl

theorem literal_of_int {n : Int} (hv : nv.value = .int n) :
    (rowLiteral ctx nv).literal = Text.ofInt n := by
  rw [rowLiteral_eq (questionFor?_eq_none (by rw [hv]; rfl)), hkind]
  exact literal_literalUnder (by rw [hv]; rfl) rfl

theorem literal_of_texts (hquestion : questionFor? ctx nv = none) {ts : List Text}
    (hv : nv.value = .list (ts.map .text)) :
    (rowLiteral ctx nv).literal = Literal.arrayOf [','] (ts.map nv.quoting.quote) := by
  have harray : Literal.arrayKind none (ts.map Value.text) = .textArray := by
    cases ts <;> rfl
  have hclassify : Literal.classify none nv.value = .ok ⟨.textArray, .list (ts.map .text)⟩ := by
    rw [hv, Literal.classify, harray]
  rw [rowLiteral_eq hquestion, hkind]
  exact literal_literalUnder hclassify (Literal.formatTextArray_map nv.quoting ts)

theorem literal_of_ints {n : Int} {ns : List Int} (hv : nv.value = .list ((n :: ns).map .int)) :
    (rowLiteral ctx nv).literal = Literal.arrayOf [','] ((n :: ns).map Text.ofInt) := by
  have hclassify : Literal.classify none nv.value =
      .ok ⟨.intArray, .list ((n :: ns).map .int)⟩ := by
    rw [hv]
    rfl
  rw [rowLiteral_eq (questionFor?_eq_none (by rw [hv]; rfl)), hkind]
  exact literal_literalUnder hclassify (Literal.formatIntArray_map (n :: ns))

end Undeclared

/-- A list without items is written as an array without items, unless the question about it fails;
then its plain form stands for it. -/
theorem literal_of_nil (hv : nv.value = .list []) :
    (rowLiteral ctx nv).literal = Literal.arrayOf [','] [] ∨
      (rowLiteral ctx nv).literal = ['[', ']'] := by
  have hunder (kind : Option Kind) :
      (literalUnder ctx nv kind).literal = Literal.arrayOf [','] [] := by
    rw [literalUnder_of_isEmptySequence (by rw [hv]; rfl)]
    rfl
  have hfallback : fallback nv.value = ['[', ']'] := by
    rw [hv]
    decide
  rw [rowLiteral]
  cases questionFor? ctx nv with
  | none => exact Or.inl (hunder nv.kind)
  | some question =>
    obtain ⟨resolver, resource, parameter⟩ := question
    simp only
    cases resolver resource parameter with
    | declared kind => exact Or.inl (hunder (some kind))
    | undeclared => exact Or.inl (hunder none)
    | failed => exact Or.inr hfallback

end NamedValue

end ResourceScript
