import ResourceScript.Literal.Format
import ResourceScript.Proofs.Unquote.Parity

/-!
# The two ends of an escaped literal

Escaping works forwards: it writes a backtick before each quote of a text and before each backtick.
Quotes are searched backwards: the backticks before each of them are counted. Both agree on where a
literal ends, whatever text it holds and whatever follows it. It is only the text before the literal
that can make them disagree, by an odd number of backticks at its end.

## Main results

* `Unquote.nextQuote?_opening`, `Unquote.nextQuote?_closing`: the quotes around a sealed text.
* `Unquote.nextQuote?_formatText`: the quotes of a literal are found at its two ends.
-/

namespace ResourceScript.Unquote

open Text (escapeLead)

variable {p s t : Text}

/-- A text escapes no quote behind it if it does not end in an odd number of backticks. -/
theorem escapesNext_eq_false_of_not_odd (hp : ¬ Odd (p.rtakeWhile (· == escapeLead)).length) :
    escapesNext false p = false :=
  Bool.eq_false_iff.mpr fun h => hp (escapesNext_eq_true_iff.mp h)

section Quoted

variable (hp : escapesNext false p = false) (hs : IsSealed s)

include hp hs

/-- The quotes from an opening quote on: the two around a sealed text come first. -/
theorem quotesFrom_quoted : quotesFrom (p ++ '\x22' :: (s ++ '\x22' :: t)) p.length =
    p.length :: (p.length + 1 + s.length) ::
      quotesWithin false (p.length + 1 + s.length + 1) t := by
  rw [quotesFrom_append, hp, hs.quotesWithin_quoted]

theorem nextQuote?_opening :
    nextQuote? (p ++ '\x22' :: (s ++ '\x22' :: t)) p.length = some p.length := by
  rw [nextQuote?, quotesFrom_quoted hp hs, List.head?_cons]

theorem nextQuote?_closing : nextQuote? (p ++ '\x22' :: (s ++ '\x22' :: t)) (p.length + 1) =
    some (p.length + 1 + s.length) := by
  have hopened : escapesNext false (p ++ ['\x22']) = false := by
    rw [escapesNext_append, hp]
    rfl
  have hnext := nextQuote?_append (p ++ ['\x22']) (s ++ '\x22' :: t)
  rw [hopened, hs.quotesWithin_append, List.append_assoc, List.length_append] at hnext
  exact hnext

/-- Between the two quotes every quote is escaped. -/
theorem isEscaped_between {i : Nat} (hfirst : p.length < i) (hlast : i < p.length + 1 + s.length)
    (hquote : (p ++ '\x22' :: (s ++ '\x22' :: t))[i]? = some '\x22') :
    isEscaped (p ++ '\x22' :: (s ++ '\x22' :: t)) i := by
  by_contra hescaped
  have hmem : i ∈ quotesFrom (p ++ '\x22' :: (s ++ '\x22' :: t)) p.length :=
    mem_quotesFrom_iff.mpr ⟨hfirst.le, mem_quotes_iff.mpr ⟨hquote, by simpa using hescaped⟩⟩
  rw [quotesFrom_quoted hp hs, List.mem_cons, List.mem_cons] at hmem
  rcases hmem with rfl | rfl | hmem
  · exact Nat.lt_irrefl _ hfirst
  · exact Nat.lt_irrefl _ hlast
  · have := (of_mem_quotesWithin hmem).1
    omega

end Quoted

/-- **The two ends of an escaped literal.** The literal of a text is written with escaping, behind a
text that does not end in an odd number of backticks. Then the next unescaped quote from its
beginning on is its first character, the next one is its last character, and every double quote
between them is escaped. -/
theorem nextQuote?_formatText (allowVariables : Bool) (p s t : Text)
    (hp : ¬ Odd (p.rtakeWhile (· == escapeLead)).length) :
    ∃ literal, Literal.formatText { allowVariables } (.text s) = .ok literal ∧
      nextQuote? (p ++ (literal ++ t)) p.length = some p.length ∧
      nextQuote? (p ++ (literal ++ t)) (p.length + 1) = some (p.length + literal.length - 1) ∧
      ∀ i, p.length < i → i < p.length + literal.length - 1 →
        (p ++ (literal ++ t))[i]? = some '\x22' → isEscaped (p ++ (literal ++ t)) i := by
  have hp' : escapesNext false p = false := escapesNext_eq_false_of_not_odd hp
  have hbody : IsSealed (Text.escape allowVariables s) := isSealed_escape allowVariables s
  refine ⟨Quoting.quote { allowVariables } s, rfl, ?_⟩
  have hquote : Quoting.quote { allowVariables } s =
      '\x22' :: (Text.escape allowVariables s ++ ['\x22']) := rfl
  have hlast : p.length + (Quoting.quote { allowVariables } s).length - 1 =
      p.length + 1 + (Text.escape allowVariables s).length := by
    rw [hquote, List.length_cons, List.length_append, List.length_singleton]
    omega
  rw [hlast, hquote, List.cons_append, List.append_assoc, List.singleton_append]
  exact ⟨nextQuote?_opening hp' hbody, nextQuote?_closing hp' hbody,
    fun i => isEscaped_between hp' hbody⟩

/-- A text that begins and ends in a backtick, behind a text that ends in two and before a quote. -/
theorem nextQuote?_formatText_backticks :
    let p := "A = ``".toList
    let s := "`\"`".toList
    let block := "A = ``\"```\"``\"\";".toList
    ¬ Odd (p.rtakeWhile (· == escapeLead)).length ∧
      Literal.formatText {} (.text s) = .ok "\"```\"``\"".toList ∧
      nextQuote? block 6 = some 6 ∧ nextQuote? block 7 = some 13 ∧ isEscaped block 10 := by
  intro p s block
  have hp : ¬ Odd (p.rtakeWhile (· == escapeLead)).length := by decide
  obtain ⟨literal, hliteral, hfirst, hlast, hinside⟩ :=
    nextQuote?_formatText false p s ['\x22', ';'] hp
  have hformat : Literal.formatText {} (.text s) = .ok "\"```\"``\"".toList := by rfl
  obtain rfl := Except.ok.inj (hliteral.symm.trans hformat)
  exact ⟨hp, hformat, hfirst, hlast, hinside 10 (by decide) (by decide) (by decide)⟩

end ResourceScript.Unquote
