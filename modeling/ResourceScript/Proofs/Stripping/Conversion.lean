import ResourceScript.Proofs.Block.Literal
import ResourceScript.Proofs.Stripping.Row
import ResourceScript.Proofs.Text.Delimiter

/-!
# Converting a written value

A block is written and then the quotes of one parameter are stripped. For texts, truth values,
integers and lists of texts the written literal delimits itself, so exactly the named row changes:
each text in it loses its two boundary quotes. Texts in the rows before it may mention the
parameter, but must not hold an equals sign.

## Main definitions

* `NamedValue.IsConvertible`: the named values whose literal delimits itself.
* `NamedValue.bareLiteral`: the literal without the boundary quotes of its texts.

## Main results

* `NamedValue.delimited_literal`: the literal is delimited.
* `Unquote.stripQuotes_render`: stripping changes the literal of the named row only.
-/

namespace ResourceScript

open Text (IsName isBlank escapeLead)

/-! ### Values -/

/-- Texts, truth values, integers and lists of texts. -/
def Value.isConvertible : Value → Bool
  | .text _ | .bool _ | .int _ => true
  | .list items => items.all (·.asText?.isSome)
  | _ => false

/-- The texts that a value holds. -/
def Value.texts : Value → List Text
  | .text s => [s]
  | .list items => items.filterMap Value.asText?
  | _ => []

namespace NamedValue

/-- A named text, truth value, integer or list of texts without a declared kind, of which texts
that are not escaped hold neither double quotes nor backticks. -/
structure IsConvertible (nv : NamedValue) : Prop where
  isName : IsName nv.name
  kind_eq : nv.kind = none
  isConvertible : nv.value.isConvertible
  unescaped : nv.quoting.noEscape → ∀ s ∈ nv.value.texts, '\x22' ∉ s ∧ escapeLead ∉ s

instance (nv : NamedValue) : Decidable nv.IsConvertible :=
  decidable_of_iff (IsName nv.name ∧ nv.kind = none ∧ nv.value.isConvertible ∧
    (nv.quoting.noEscape → ∀ s ∈ nv.value.texts, '\x22' ∉ s ∧ escapeLead ∉ s))
    ⟨fun ⟨hn, hk, hv, hu⟩ => ⟨hn, hk, hv, hu⟩, fun ⟨hn, hk, hv, hu⟩ => ⟨hn, hk, hv, hu⟩⟩

theorem IsConvertible.literalFault?_eq_none {nv : NamedValue} (h : nv.IsConvertible) :
    nv.value.literalFault? = none := by
  refine Value.literalFault?_eq_none fun payload hv => ?_
  have hconvertible := h.isConvertible
  rw [hv] at hconvertible
  exact absurd hconvertible Bool.false_ne_true

/-- The literal without the boundary quotes of its texts; a literal without texts stays as it is. -/
def bareLiteral (ctx : Block.Context) (nv : NamedValue) : Text :=
  match nv.value with
  | .text s => nv.quoting.body s
  | .list items => Literal.arrayOf [','] ((Value.list items).texts.map nv.quoting.body)
  | _ => (Block.rowLiteral ctx nv).literal

end NamedValue

/-! ### Bodies -/

namespace Quoting

variable {q : Quoting} {s p : Text}

theorem isSealed_body (h : q.noEscape → '\x22' ∉ s ∧ escapeLead ∉ s) :
    Unquote.IsSealed (q.body s) := by
  by_cases hq : q.noEscape
  · rw [body, if_pos hq]
    exact Unquote.isSealed_of_notMem (h hq).1 (h hq).2
  · rw [body, if_neg hq]
    exact Unquote.isSealed_escape q.allowVariables s

theorem equals_mem_body_iff : '=' ∈ q.body s ↔ '=' ∈ s := by
  by_cases hq : q.noEscape
  · rw [body, if_pos hq]
  · rw [body, if_neg hq, Text.mem_escape_iff (by decide)]

theorem infix_body_iff (hp : ∀ c ∈ p, Text.isSpecial q.allowVariables c = false) :
    p <:+: q.body s ↔ p <:+: s := by
  by_cases hq : q.noEscape
  · rw [body, if_pos hq]
  · rw [body, if_neg hq, Text.infix_escape_iff hp]

end Quoting

/-! ### Literals -/

namespace NamedValue

open Unquote

theorem isPlain_of_mem_ofInt {n : Int} {c : Char} (h : c ∈ Text.ofInt n) : isPlain c := by
  have hnumeral := Text.isNumeralChar_of_mem_ofInt h
  rw [Text.isNumeralChar, Bool.or_eq_true, beq_iff_eq] at hnumeral
  rcases hnumeral with hdigit | rfl
  · have hrange : c.toNat ∈ List.range' 48 10 := by
      rw [List.mem_range'_1]
      simpa [Char.isDigit, UInt32.le_iff_toNat_le, Nat.lt_succ_iff] using hdigit
    have hall : ∀ k ∈ List.range' 48 10, isPlain (Char.ofNat k) := by decide
    rw [← Char.ofNat_toNat c]
    exact hall _ hrange
  · decide

theorem delimited_joinWith : ∀ {bodies : List Text}, (∀ body ∈ bodies, IsSealed body) →
    Delimited bodies (Text.joinWith [','] (bodies.map fun body => '\x22' :: (body ++ ['\x22'])))
      (Text.joinWith [','] bodies)
  | [], _ => .nil
  | [body], h => by
    simpa [Text.joinWith] using Delimited.of_isSealed (h body List.mem_cons_self)
  | body :: body' :: bodies, h => by
    have hrest := delimited_joinWith fun b hb => h b (List.mem_cons_of_mem body hb)
    have hcomma : isPlain ',' := by decide
    exact (Delimited.of_isSealed (h body List.mem_cons_self)).append (hrest.plain hcomma)

/-- An array literal of quoted texts is delimited. -/
theorem delimited_arrayOf {bodies : List Text} (h : ∀ body ∈ bodies, IsSealed body) :
    Delimited bodies
      (Literal.arrayOf [','] (bodies.map fun body => '\x22' :: (body ++ ['\x22'])))
      (Literal.arrayOf [','] bodies) := by
  have hclose : Delimited [] [')'] [')'] := .plain (by decide) .nil
  have hitems := (delimited_joinWith h).append hclose
  rw [List.append_nil] at hitems
  exact (hitems.plain (by decide)).plain (by decide)

variable {settings : Settings} {nv : NamedValue}

theorem texts_list_map (ts : List Text) : (Value.list (ts.map .text)).texts = ts := by
  rw [Value.texts, List.filterMap_map]
  exact List.filterMap_some

/-- **Literals delimit themselves.** The bodies are the texts that the value holds, as they are
written between quotes. -/
theorem delimited_literal (h : nv.IsConvertible) (ctx : Block.Context)
    (hresolver : ctx.resolver = none) :
    Delimited (nv.value.texts.map nv.quoting.body) (Block.rowLiteral ctx nv).literal
      (nv.bareLiteral ctx) := by
  have hsealed : ∀ body ∈ nv.value.texts.map nv.quoting.body, IsSealed body := by
    intro body hbody
    obtain ⟨s, hs, rfl⟩ := List.mem_map.mp hbody
    exact Quoting.isSealed_body fun hq => h.unescaped hq s hs
  have hvalue := h.isConvertible
  rw [bareLiteral]
  cases hv : nv.value with
  | text s =>
    rw [hv] at hsealed
    rw [literal_of_text h.kind_eq hv]
    exact Delimited.of_isSealed (hsealed _ List.mem_cons_self)
  | bool b =>
    rw [literal_of_bool h.kind_eq hv]
    exact Delimited.of_isPlain (List.all_eq_true.mp (by cases b <;> decide))
  | int n =>
    rw [literal_of_int h.kind_eq hv]
    exact Delimited.of_isPlain fun c hc => isPlain_of_mem_ofInt hc
  | list items =>
    rw [hv] at hsealed hvalue
    obtain ⟨ts, rfl⟩ := Value.exists_map_of_all (fun _ _ => Value.eq_text_of_asText?) hvalue
    have harray := delimited_arrayOf hsealed
    rw [texts_list_map, List.map_map] at harray
    rw [literal_of_texts h.kind_eq (Block.questionFor?_eq_none_of_resolver hresolver) hv]
    simp only [texts_list_map]
    exact harray
  | _ => simp [hv, Value.isConvertible] at hvalue

/-- Without texts there are no boundary quotes to lose: the literals of truth values, of integers
and of lists without items stay as they are. -/
theorem bareLiteral_eq_literal (h : nv.IsConvertible) (htexts : nv.value.texts = [])
    (ctx : Block.Context) (hresolver : ctx.resolver = none) :
    nv.bareLiteral ctx = (Block.rowLiteral ctx nv).literal := by
  have hliteral := delimited_literal h ctx hresolver
  rw [htexts] at hliteral
  exact hliteral.bare_eq

end NamedValue

/-! ### Writing, then stripping -/

namespace Unquote

open Block

variable {settings : Settings} {values before after : List NamedValue} {nv : NamedValue}

/-- **Converting a written value.** Stripping the quotes of a parameter of a written block changes
the literal of its row only, which loses the boundary quotes of its texts. -/
theorem stripQuotes_render (hblank : settings.lineTerminator.all isBlank)
    (hvalues : ∀ nv ∈ values, nv.IsConvertible ∧ nv.IsUncommented settings)
    (hsplit : printed settings (keyed values) = before ++ nv :: after)
    (hbefore : ∀ m ∈ before, ∀ s ∈ m.value.texts, '=' ∉ s)
    (hend : ∀ s ∈ nv.value.texts, ¬ settings.statementEnd <:+: s) :
    WrittenWith { settings } (keyed values) fun block =>
      block = textOf settings (before.map (plainRow settings) ++
        plainRow settings nv :: after.map (plainRow settings)) ∧
      stripQuotes settings false nv.name block =
        .ok (textOf settings (before.map (plainRow settings) ++
          (plainRow settings nv).withLiteral (nv.bareLiteral { settings }) ::
            after.map (plainRow settings))) := by
  have hblank' : ∀ c ∈ settings.lineTerminator, isBlank c := List.all_eq_true.mp hblank
  have hconv : ∀ m ∈ before ++ nv :: after, m.IsConvertible ∧ m.IsUncommented settings :=
    fun m hm => hvalues m (mem_of_mem_printed (hsplit ▸ hm)).1
  obtain ⟨hne, -⟩ := name_ne_of_printed_eq hsplit
  obtain ⟨hnv, hnvc⟩ := hconv nv (by simp)
  have hpass : ∀ r ∈ before.map (plainRow settings), ∀ width t,
      assignedRest? nv.name true (r.line settings width ++ t) = assignedRest? nv.name true t := by
    intro r hr width t
    obtain ⟨m, hm, rfl⟩ := List.mem_map.mp hr
    obtain ⟨hmv, hmc⟩ := hconv m (by simp [hm])
    refine assignedRest?_line hblank' hnv.isName hmv.isName (hne m hm) (comment_plainRow hmc)
      (NamedValue.delimited_literal hmv _ rfl) fun body hbody => ?_
    obtain ⟨s, hs, rfl⟩ := List.mem_map.mp hbody
    exact assignedRest?_eq_none_of_notMem (mt Quoting.equals_mem_body_iff.mp (hbefore m hm s hs))
  have hbodies : ∀ body ∈ nv.value.texts.map nv.quoting.body,
      ¬ settings.statementEnd <:+: body := by
    intro body hbody
    obtain ⟨s, hs, rfl⟩ := List.mem_map.mp hbody
    refine mt (Quoting.infix_body_iff fun c hc => ?_).mp (hend s hs)
    rcases List.mem_cons.mp hc with rfl | hc
    · cases nv.quoting.allowVariables <;> decide
    · exact Text.isSpecial_eq_false_of_isBlank (hblank' c hc)
  have hwidth : nameWidth settings (before.map (plainRow settings) ++
      (plainRow settings nv).withLiteral (nv.bareLiteral { settings }) ::
        after.map (plainRow settings)) =
      nameWidth settings (before.map (plainRow settings) ++
        plainRow settings nv :: after.map (plainRow settings)) :=
    nameWidth_map_eq (by simp [Row.withLiteral])
  refine writtenWith_plainRow
    (fun m hm => ⟨(hvalues m hm).2, (hvalues m hm).1.literalFault?_eq_none⟩) ?_
  rw [hsplit, List.map_append, List.map_cons]
  refine ⟨rfl, ?_⟩
  rw [textOf_eq_linesOf, textOf_eq_linesOf, hwidth, linesOf_append, linesOf_cons,
    linesOf_append, linesOf_cons]
  exact stripQuotes_row hblank' hnv.isName (comment_plainRow hnvc)
    (NamedValue.delimited_literal hnv _ rfl) hbodies
    (assignedRest?_linesOf (fun r hr => hpass r hr _) _)

/-- A text that mentions the parameter, and a list with a double quote in it. -/
theorem stripQuotes_render_mention :
    let a : NamedValue := { name := ['A'], value := .text ['B', ' ', '\x22'] }
    let b : NamedValue := { name := ['B'], value := .list [.text ['p'], .text ['q', '\x22']] }
    WrittenWith {} (keyed [b, a]) fun block =>
      block = textOf .standard [plainRow .standard a, plainRow .standard b] ∧
      stripQuotes .standard false ['B'] block = .ok (textOf .standard [plainRow .standard a,
        (plainRow .standard b).withLiteral "@(p,q\x60\x22)".toList]) := by
  intro a b
  have hsurviving : surviving (keyed [b, a]) = keyed [a, b] :=
    surviving_eq_of_perm (.swap _ _ []) (by decide)
  have hsplit : printed .standard (keyed [b, a]) = [a] ++ b :: [] := by
    rw [printed, hsurviving]
    rfl
  have hbare : b.bareLiteral {} = "@(p,q\x60\x22)".toList := by decide
  have h := stripQuotes_render (by decide) (by decide) hsplit (by decide) (by decide)
  rw [hbare] at h
  exact h

end Unquote

end ResourceScript
