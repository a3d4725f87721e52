import Mathlib.Order.Bounds.Basic
import ResourceScript.Proofs.Unquote.Removal

/-!
# Reading backticks forwards

Whether a double quote is escaped is found out by counting the backticks before it backwards. A
lexer reads the other way: it begins at the start of the text, steps over each backtick together
with the character after it, and takes every other character by itself. Both agree on every text.
The lexer carries the parity of the backticks along, so it steps over a character exactly if the
text before that character escapes it, and counting backwards finds the same parity out afterwards.

The next unescaped quote is searched from one double quote to the next for as long as they are
escaped. The search may begin in the middle of a pair that the lexer steps over as one, and still
it finds the next quote that the lexer visits.

## Main definitions

* `Unquote.searchQuote?`: the search from one double quote to the next.

## Main results

* `Unquote.mem_visited_iff`: the lexer visits exactly the unescaped characters.
* `Unquote.searchQuote?_eq_nextQuote?`: the search finds the first of the unescaped quotes.
* `Unquote.nextQuote?_isLeast_visited`: the next unescaped quote is the next quote that the lexer
  visits.
-/

namespace ResourceScript.Unquote

open Text (escapeLead)

variable {s : Text} {c : Char} {pos q : Nat}

/-! ### What the lexer visits -/

theorem visited_lead_cons (pos : Nat) (c : Char) (s : Text) :
    visited pos (escapeLead :: c :: s) = pos :: visited (pos + 2) s := by
  rw [visited, if_pos rfl]

theorem visited_cons_of_ne (h : c ≠ escapeLead) (pos : Nat) (s : Text) :
    visited pos (c :: s) = pos :: visited (pos + 1) s := by
  cases s with
  | nil => rfl
  | cons d s => rw [visited, if_neg h]

theorem mem_visited_cons (pos : Nat) (c : Char) (s : Text) : pos ∈ visited pos (c :: s) := by
  cases s with
  | nil => exact List.mem_cons_self
  | cons d s => rw [visited]; split <;> exact List.mem_cons_self

theorem le_of_mem_visited (h : q ∈ visited pos s) : pos ≤ q := by
  fun_induction visited pos s with
  | case1 => exact absurd h List.not_mem_nil
  | case2 pos c => exact (List.mem_singleton.mp h).ge
  | case3 pos d s ih =>
    rcases List.mem_cons.mp h with rfl | h
    · exact Nat.le_refl q
    · exact Nat.le_of_add_right_le (ih h)
  | case4 pos c d s hc ih =>
    rcases List.mem_cons.mp h with rfl | h
    · exact Nat.le_refl q
    · exact Nat.le_of_add_right_le (ih h)

/-- The lexer visits the character behind a part of a text exactly if that part does not escape it.
The induction follows the lexer, so a backtick goes with the character after it: those two leave the
parity as it was. -/
theorem add_length_mem_visited_iff (c : Char) (v : Text) : ∀ (pos : Nat) (u : Text),
    pos + u.length ∈ visited pos (u ++ c :: v) ↔ escapesNext false u = false
  | pos, [] => iff_of_true (mem_visited_cons pos c v) rfl
  | pos, [d] => by
    by_cases hd : d = escapeLead
    · subst hd
      -- the character itself is the one that the lexer steps over
      refine iff_of_false (fun h => ?_) (by decide)
      rw [List.singleton_append, visited_lead_cons, List.length_singleton, List.mem_cons] at h
      rcases h with h | h
      · omega
      · have := le_of_mem_visited h
        omega
    · refine iff_of_true ?_ (by simpa [escapesNext] using hd)
      rw [List.singleton_append, visited_cons_of_ne hd]
      exact List.mem_cons_of_mem _ (mem_visited_cons _ c v)
  | pos, d :: e :: u => by
    have hne (n : Nat) : pos + (n + 1) ≠ pos := by omega
    by_cases hd : d = escapeLead
    · subst hd
      have ih := add_length_mem_visited_iff c v (pos + 2) u
      have hpos : pos + 2 + u.length = pos + (u.length + 1 + 1) := by omega
      rw [hpos] at ih
      rw [List.cons_append, List.cons_append, visited_lead_cons, List.mem_cons, List.length_cons,
        List.length_cons, or_iff_right (hne _), ih]
      simp [escapesNext]
    · have ih := add_length_mem_visited_iff c v (pos + 1) (e :: u)
      have hpos : pos + 1 + (e :: u).length = pos + ((e :: u).length + 1) := by omega
      rw [hpos] at ih
      rw [List.cons_append, visited_cons_of_ne hd, List.mem_cons, List.length_cons,
        or_iff_right (hne _), ih]
      simp [escapesNext, beq_eq_false_iff_ne.mpr hd]

/-- **The lexer visits exactly the unescaped characters.** -/
theorem mem_visited_iff (h : s[q]? = some c) : q ∈ visited 0 s ↔ isEscaped s q = false := by
  obtain ⟨u, v, rfl, rfl⟩ := Text.exists_append_of_getElem? h
  rw [isEscaped_append_length, ← add_length_mem_visited_iff c v 0 u, Nat.zero_add]

/-- An unescaped quote is a double quote that the lexer visits. -/
theorem mem_quotes_iff_visited : q ∈ quotes s ↔ s[q]? = some '\x22' ∧ q ∈ visited 0 s := by
  rw [mem_quotes_iff]
  exact and_congr_right fun h => (mem_visited_iff h).symm

/-! ### The search -/

theorem nextQuote?_eq_some_iff :
    nextQuote? s pos = some q ↔ IsLeast {q | pos ≤ q ∧ q ∈ quotes s} q := by
  have hpairwise := pairwise_quotesFrom s pos
  simp only [nextQuote?, ← mem_quotesFrom_iff]
  cases hquotes : quotesFrom s pos with
  | nil => simp [IsLeast]
  | cons first rest =>
    have hfirst : IsLeast {p | p ∈ first :: rest} first := by
      refine ⟨List.mem_cons_self, fun p hp => ?_⟩
      rcases List.mem_cons.mp hp with rfl | hp
      · exact Nat.le_refl p
      · exact ((List.pairwise_cons.mp (hquotes ▸ hpairwise)).1 p hp).le
    rw [List.head?_cons, Option.some.injEq]
    exact ⟨fun h => h ▸ hfirst, fun h => hfirst.unique h⟩

theorem nextQuote?_eq_none_iff : nextQuote? s pos = none ↔ ∀ q, pos ≤ q → q ∉ quotes s := by
  simp only [nextQuote?, List.head?_eq_none_iff, List.eq_nil_iff_forall_not_mem,
    mem_quotesFrom_iff, not_and]

/-- The search for the next unescaped quote goes from one double quote to the next for as long as
they are escaped. -/
def searchQuote? (s : Text) (pos : Nat) : Option Nat :=
  match h : Text.findFrom? ['\x22'] s pos with
  | none => none
  | some q => if isEscaped s q then searchQuote? s (q + 1) else some q
termination_by s.length - pos
decreasing_by
  obtain ⟨hle, hget⟩ := Text.getElem?_of_findFrom? h
  have hlt := (List.getElem?_eq_some_iff.mp hget).1
  omega

theorem nextQuote?_of_findFrom?_eq_none (h : Text.findFrom? ['\x22'] s pos = none) :
    nextQuote? s pos = none := by
  refine nextQuote?_eq_none_iff.mpr fun q hle hq => ?_
  obtain ⟨j, -, hfind⟩ := Text.exists_findFrom?_le hle (getElem?_of_mem_quotes hq)
  simp [h] at hfind

/-- **One step of the search.** The next double quote is the next unescaped one, unless it is
escaped: then the search goes on behind it. -/
theorem nextQuote?_of_findFrom? (h : Text.findFrom? ['\x22'] s pos = some q) :
    nextQuote? s pos = if isEscaped s q then nextQuote? s (q + 1) else some q := by
  obtain ⟨hle, hget⟩ := Text.getElem?_of_findFrom? h
  have hfirst (p : Nat) (hp : p ∈ quotes s) (hle : pos ≤ p) : q ≤ p := by
    obtain ⟨j, hj, hfind⟩ := Text.exists_findFrom?_le hle (getElem?_of_mem_quotes hp)
    obtain rfl : q = j := Option.some.inj (h.symm.trans hfind)
    exact hj
  cases hescaped : isEscaped s q with
  | true =>
    rw [if_pos rfl, nextQuote?, nextQuote?, quotesFrom, quotesFrom]
    refine congrArg List.head? (List.filter_congr fun p hp => ?_)
    rw [decide_eq_decide]
    refine ⟨fun hpos => lt_of_le_of_ne (hfirst p hp hpos) ?_, fun hlt => by omega⟩
    rintro rfl
    simp [(mem_quotes_iff.mp hp).2] at hescaped
  | false =>
    rw [if_neg (by simp)]
    exact nextQuote?_eq_some_iff.mpr
      ⟨⟨hle, mem_quotes_iff.mpr ⟨hget, hescaped⟩⟩, fun p hp => hfirst p hp.2 hp.1⟩

/-- **The whole search** finds the first unescaped quote. -/
theorem searchQuote?_eq_nextQuote? (s : Text) (pos : Nat) :
    searchQuote? s pos = nextQuote? s pos := by
  fun_induction searchQuote? s pos with
  | case1 pos h => exact (nextQuote?_of_findFrom?_eq_none h).symm
  | case2 pos q h hescaped ih => rw [ih, nextQuote?_of_findFrom? h, if_pos hescaped]
  | case3 pos q h hescaped => rw [nextQuote?_of_findFrom? h, if_neg hescaped]

/-- **Counting backwards equals reading forwards.** A double quote is unescaped exactly if the lexer
visits it. So from any position on the search finds the next double quote that the lexer visits,
and it fails exactly if there is none. -/
theorem nextQuote?_isLeast_visited (s : Text) :
    (∀ q, s[q]? = some '\x22' → (isEscaped s q = false ↔ q ∈ visited 0 s)) ∧
      ∀ pos, searchQuote? s pos = nextQuote? s pos ∧
        (∀ q, nextQuote? s pos = some q ↔
          IsLeast {q | pos ≤ q ∧ s[q]? = some '\x22' ∧ q ∈ visited 0 s} q) ∧
        (nextQuote? s pos = none ↔ ∀ q, pos ≤ q → s[q]? = some '\x22' → q ∉ visited 0 s) := by
  refine ⟨fun q hq => (mem_visited_iff hq).symm, fun pos => ?_⟩
  refine ⟨searchQuote?_eq_nextQuote? s pos, fun q => ?_, ?_⟩
  · simp only [nextQuote?_eq_some_iff, mem_quotes_iff_visited]
  · simp only [nextQuote?_eq_none_iff, mem_quotes_iff_visited, not_and]

/-- The text has runs of two and of three backticks. The search from the middle of the second run on
begins inside of a pair that the lexer steps over. -/
theorem nextQuote?_isLeast_visited_insidePair :
    let s := "x``\"y```\"\"".toList
    s[3]? = some '\x22' ∧ isEscaped s 3 = false ∧ s[8]? = some '\x22' ∧ isEscaped s 8 = true ∧
      searchQuote? s 6 = some 9 ∧ searchQuote? s 10 = none := by
  intro s
  obtain ⟨hescaped, hnext⟩ := nextQuote?_isLeast_visited s
  have hvisited : visited 0 s = [0, 1, 3, 4, 5, 7, 9] := by decide
  have hthird : isEscaped s 3 = false := (hescaped 3 (by decide)).mpr (by simp [hvisited])
  have heighth : isEscaped s 8 ≠ false := mt (hescaped 8 (by decide)).mp (by simp [hvisited])
  have hleast : IsLeast {q | 6 ≤ q ∧ s[q]? = some '\x22' ∧ q ∈ visited 0 s} 9 := by
    refine ⟨⟨by decide, by decide, by simp [hvisited]⟩, fun q hq => ?_⟩
    obtain ⟨hle, hquote, hmem⟩ := hq
    simp only [hvisited, List.mem_cons, List.not_mem_nil, or_false] at hmem
    have hseventh : q ≠ 7 := fun h => absurd (h ▸ hquote) (by decide)
    omega
  have hnone : ∀ q, 10 ≤ q → s[q]? = some '\x22' → q ∉ visited 0 s := fun q hle _ hmem => by
    simp only [hvisited, List.mem_cons, List.not_mem_nil, or_false] at hmem
    omega
  obtain ⟨hsearch, hsome, -⟩ := hnext 6
  obtain ⟨hsearch', -, hfail⟩ := hnext 10
  exact ⟨by decide, hthird, by decide, Bool.eq_true_of_not_eq_false heighth,
    hsearch.trans ((hsome 9).mpr hleast), hsearch'.trans (hfail.mpr hnone)⟩

end ResourceScript.Unquote
