import ResourceScript.Proofs.Unquote.Pairing

/-!
# Exactly which quotes go

Stripping a plain value deletes the unescaped double quotes of its statement. They are deleted in
pairs, so one of an odd number is left over. It stays, unless no unescaped double quote follows it
in the whole text and a single quote follows it in the statement: then these two go as well.

## Main definitions

* `Unquote.quotesBetween`: the unescaped double quotes between two positions.
* `Unquote.removedQuotes`: the positions of a statement that stripping deletes.

## Main results

* `Unquote.boundaries_eq_removedQuotes`: the paired quotes are these.
* `Unquote.stripQuotes_eq_removedQuotes`: stripping deletes these positions and nothing else.
-/

namespace ResourceScript.Unquote

/-- The unescaped double quotes from `start` on that stand before `stop`. -/
def quotesBetween (s : Text) (start stop : Nat) : List Nat :=
  (quotes s).filter fun q => start ≤ q ∧ q < stop

/-- A left-over double quote and the first single quote behind it, if that stands before `stop` and
no unescaped double quote follows in the text. -/
def closedBySingleQuote (s : Text) (stop q : Nat) : List Nat :=
  match Text.findFrom? ['\x27'] s (q + 1) with
  | some single => if (∀ q' ∈ quotes s, q' ≤ q) ∧ single < stop then [q, single] else []
  | none => []

/-- The positions that stripping deletes from the statement between `start` and `stop`. -/
def removedQuotes (s : Text) (start stop : Nat) : List Nat :=
  let qs := quotesBetween s start stop
  if Even qs.length then qs
  else qs.dropLast ++ (qs.getLast?.elim [] (closedBySingleQuote s stop))

variable {settings : Settings} {s name : Text} {start stop pos q : Nat} {odd : Bool}

/-! ### Unescaped quotes in order -/

theorem pairwise_quotesWithin (odd : Bool) (pos : Nat) (s : Text) :
    (quotesWithin odd pos s).Pairwise (· < ·) := by
  induction s generalizing odd pos with
  | nil => exact List.Pairwise.nil
  | cons c s ih =>
    rw [quotesWithin]
    split
    · refine List.pairwise_cons.mpr ⟨fun q hq => ?_, ih _ _⟩
      exact (of_mem_quotesWithin hq).1
    · exact ih _ _

theorem pairwise_quotes (s : Text) : (quotes s).Pairwise (· < ·) :=
  quotes_eq_quotesWithin s ▸ pairwise_quotesWithin false 0 s

theorem pairwise_quotesFrom (s : Text) (pos : Nat) : (quotesFrom s pos).Pairwise (· < ·) :=
  (pairwise_quotes s).filter _

theorem getElem?_of_mem_quotes (h : q ∈ quotes s) : s[q]? = some '\x22' :=
  (mem_quotes_iff.mp h).1

/-- The quotes from a position on are those before another position and those from there on. -/
theorem quotesFrom_eq_append (s : Text) (start stop : Nat) :
    quotesFrom s start = quotesBetween s start stop ++ (quotesFrom s start).filter (stop ≤ ·) := by
  have hsplit {l : List Nat} (h : l.Pairwise (· < ·)) :
      l = l.filter (· < stop) ++ l.filter (stop ≤ ·) := by
    induction l with
    | nil => rfl
    | cons q l ih =>
      obtain ⟨hq, hl⟩ := List.pairwise_cons.mp h
      by_cases hlt : q < stop
      · simpa [hlt, Nat.not_le.mpr hlt] using ih hl
      · have hall : ∀ q' ∈ l, ¬ q' < stop := fun q' hq' => by
          have := hq q' hq'
          omega
        have hge : ∀ q' ∈ l, stop ≤ q' := fun q' hq' => Nat.le_of_not_lt (hall q' hq')
        rw [List.filter_cons_of_neg (by simpa using hlt),
          List.filter_cons_of_pos (by simpa using hlt),
          List.filter_eq_nil_iff.mpr (by simpa using hge),
          List.filter_eq_self.mpr (by simpa using hge)]
        rfl
  have hbetween : quotesBetween s start stop = (quotesFrom s start).filter (· < stop) := by
    simp [quotesBetween, quotesFrom, List.filter_filter, Bool.and_comm]
  rw [hbetween]
  exact hsplit (pairwise_quotesFrom s start)

/-! ### The pairs of a statement -/

/-- Where a statement ends, no quote stands. -/
theorem not_isQuote_of_getElem?_statementStop {c : Char}
    (h : s[statementStop settings s start]? = some c) : ¬ isQuote c := by
  rw [statementStop] at h
  cases hfind : Text.findFrom? settings.statementEnd s start with
  | none => simp [hfind] at h
  | some n =>
    obtain ⟨-, hget⟩ := Text.getElem?_of_findFrom? hfind
    rw [hfind, Option.getD_some, hget] at h
    obtain rfl := Option.some.inj h
    decide

/-- What becomes of a double quote that is left over. -/
theorem boundariesFrom_leftOver (hstop : ∀ c ∈ s[stop]?, ¬ isQuote c) {init beyond : List Nat}
    (hquotes : quotesFrom s start = init ++ q :: beyond) (hq : q < stop)
    (hbeyond : ∀ q' ∈ beyond, stop ≤ q') :
    boundariesFrom s stop false .outside (q :: beyond) = closedBySingleQuote s stop q := by
  have hpairwise : (init ++ q :: beyond).Pairwise (· < ·) :=
    hquotes ▸ pairwise_quotesFrom s start
  have hmem {q' : Nat} : q' ∈ init ++ q :: beyond ↔ start ≤ q' ∧ q' ∈ quotes s :=
    hquotes ▸ mem_quotesFrom_iff
  rw [closedBySingleQuote]
  cases beyond with
  | nil =>
    have hlast : ∀ q' ∈ quotes s, q' ≤ q := fun q' hq' => by
      by_cases hle : start ≤ q'
      · have hinit := (List.pairwise_append.mp hpairwise).2.2
        rcases List.mem_append.mp (hmem.mpr ⟨hle, hq'⟩) with hq' | hq'
        · exact (hinit q' hq' q (by simp)).le
        · exact (List.mem_singleton.mp hq').le
      · have := (hmem.mp (List.mem_append_right init List.mem_cons_self)).1
        omega
    have hsingle (single : Nat) (hfind : Text.findFrom? ['\x27'] s (q + 1) = some single) :
        single ≤ stop ↔ single < stop := by
      refine ⟨fun hle => lt_of_le_of_ne hle ?_, Nat.le_of_lt⟩
      rintro rfl
      exact hstop _ (Text.getElem?_of_findFrom? hfind).2 rfl
    simp only [boundariesFrom, hq, List.isEmpty_nil, if_true, closingSingleQuote?]
    cases hfind : Text.findFrom? ['\x27'] s (q + 1) with
    | none => rfl
    | some single => simp only [hsingle single hfind, and_iff_right hlast]
  | cons next beyond =>
    have hnext : next ∈ quotes s := (hmem.mp (by simp)).2
    have hlt : stop < next := by
      refine lt_of_le_of_ne (hbeyond next List.mem_cons_self) ?_
      rintro rfl
      exact hstop _ (getElem?_of_mem_quotes hnext) rfl
    have hnot : ¬ ∀ q' ∈ quotes s, q' ≤ q := fun hall => by
      have := hall next hnext
      omega
    rw [boundariesFrom_eq_nil_of_lt hlt]
    cases Text.findFrom? ['\x27'] s (q + 1) with
    | none => rfl
    | some single => simp [hnot]

/-- **The pairs of a statement.** The quotes of a plain value that are paired are those that were
described. -/
theorem boundaries_eq_removedQuotes (hstop : ∀ c ∈ s[stop]?, ¬ isQuote c) (start : Nat) :
    boundaries s start stop false = removedQuotes s start stop := by
  have hquotes := quotesFrom_eq_append s start stop
  have hbeyond : ∀ q ∈ (quotesFrom s start).filter (stop ≤ ·), stop ≤ q := fun q hq => by
    simpa using (List.mem_filter.mp hq).2
  have hlt : ∀ q ∈ quotesBetween s start stop, q < stop := fun q hq => by
    simp only [quotesBetween, List.mem_filter, decide_eq_true_eq] at hq
    exact hq.2.2
  generalize (quotesFrom s start).filter (stop ≤ ·) = beyond at hquotes hbeyond
  rw [boundaries, removedQuotes, hquotes]
  rcases List.eq_nil_or_concat' (quotesBetween s start stop) with hnil | ⟨init, q, hinit⟩
  · simp only [hnil]
    exact boundariesFrom_eq_nil_of_le fun q hq => hbeyond q (List.mem_of_mem_head? hq)
  · rw [hinit] at hquotes hlt
    simp only [hinit]
    by_cases heven : Even (init ++ [q]).length
    · rw [if_pos heven, boundariesFrom_append heven hlt, boundariesFrom_eq_nil_of_le,
        List.append_nil]
      exact fun q hq => hbeyond q (List.mem_of_mem_head? hq)
    · have hinitEven : Even init.length := by
        simpa [Nat.even_add_one] using heven
      rw [List.append_assoc, List.singleton_append] at hquotes
      rw [if_neg heven, List.append_assoc, List.singleton_append,
        boundariesFrom_append hinitEven fun p hp => hlt p (by simp [hp]),
        boundariesFrom_leftOver hstop hquotes (hlt q (by simp)) hbeyond]
      simp

/-- **Exactly which quotes go.** Where a parameter is assigned, its block loses the described
positions of the statement and nothing else; where it is not, the block stays as it is. -/
theorem stripQuotes_eq_removedQuotes (settings : Settings) (name block : Text) :
    stripQuotes settings false name block = .ok ((findAssignment? name block).elim block fun start =>
      Text.deleteAt (removedQuotes block start (statementStop settings block start)) block) := by
  cases hfind : findAssignment? name block with
  | none => exact stripQuotes_of_not_assigned hfind
  | some start =>
    have hstop : ∀ c ∈ block[statementStop settings block start]?, ¬ isQuote c := fun c hc =>
      not_isQuote_of_getElem?_statementStop hc
    rw [stripQuotes_eq_deleteAt hfind, boundaries_eq_removedQuotes hstop]
    rfl

/-- A single quote closes the only double quote of a statement. -/
example : removedQuotes "A = \"x';".toList 0 7 = [4, 6] := by decide

end ResourceScript.Unquote
