import Mathlib.Algebra.Group.Nat.Even
import ResourceScript.Proofs.Unquote.Assignment
import ResourceScript.Proofs.Unquote.Parity
import ResourceScript.Unquote.Strip

/-!
# Pairs of quotes

The quotes of a plain value are paired from left to right, and the pairing ends with the first pair
that is not complete where the statement ends. So a part with an even number of quotes loses all of
them, and what is deleted elsewhere depends on the first two quotes behind that part only.

## Main results

* `Unquote.boundariesFrom_append`: an even number of quotes before the statement end is paired up.
* `Unquote.deletesOnly_boundaries`: only quotes are deleted.
* `Unquote.stripQuotes_of_even`: a statement with an even number of quotes loses all of them.
-/

namespace ResourceScript.Unquote

variable {settings : Settings} {s u v w name : Text} {start stop last p : Nat} {ps qs : List Nat}

/-! ### Pairs before the statement end -/

theorem boundariesFrom_pair (hstart : start < stop) (hlast : last ≤ stop) :
    boundariesFrom s stop false .outside (start :: last :: ps) =
      start :: last :: boundariesFrom s stop false .outside ps := by
  simp [boundariesFrom, hstart, hlast]

/-- An even number of quotes before the statement end is paired up. -/
theorem boundariesFrom_append : ∀ {ps : List Nat}, Even ps.length → (∀ p ∈ ps, p < stop) →
    boundariesFrom s stop false .outside (ps ++ qs) =
      ps ++ boundariesFrom s stop false .outside qs
  | [], _, _ => rfl
  | [_], heven, _ => absurd heven (by simp)
  | start :: last :: ps, heven, hlt => by
    have hps : Even ps.length := by simpa [Nat.even_add_one] using heven
    have hstart : start < stop := hlt start (by simp)
    have hlast : last ≤ stop := Nat.le_of_lt (hlt last (by simp))
    rw [List.cons_append, List.cons_append, boundariesFrom_pair hstart hlast,
      boundariesFrom_append hps fun p hp => hlt p (by simp [hp])]
    rfl

theorem boundariesFrom_eq_nil_of_le (h : ∀ p ∈ ps.head?, stop ≤ p) :
    boundariesFrom s stop false .outside ps = [] := by
  cases ps with
  | nil => rfl
  | cons start ps =>
    have : ¬ start < stop := Nat.not_lt.mpr (h start rfl)
    simp [boundariesFrom, this]

theorem boundariesFrom_eq_nil_of_lt (h : stop < last) :
    boundariesFrom s stop false .outside (start :: last :: ps) = [] := by
  simp [boundariesFrom, Nat.not_le.mpr h]

/-- Behind an odd number of quotes before the statement end the next quote is paired too. -/
theorem mem_boundariesFrom_of_odd {q : Nat} : ∀ {ps : List Nat}, ¬ Even ps.length →
    (∀ p ∈ ps, p < stop) → q ≤ stop → q ∈ boundariesFrom s stop false .outside (ps ++ q :: qs)
  | [], hodd, _, _ => absurd Even.zero hodd
  | [start], _, hlt, hq => by
    rw [List.singleton_append, boundariesFrom_pair (hlt start (by simp)) hq]
    exact List.mem_cons_of_mem _ List.mem_cons_self
  | start :: last :: ps, hodd, hlt, hq => by
    have hps : ¬ Even ps.length := by simpa [Nat.even_add_one] using hodd
    have hstart : start < stop := hlt start (by simp)
    have hlast : last ≤ stop := Nat.le_of_lt (hlt last (by simp))
    rw [List.cons_append, List.cons_append, boundariesFrom_pair hstart hlast]
    exact List.mem_cons_of_mem _ (List.mem_cons_of_mem _
      (mem_boundariesFrom_of_odd hps (fun p hp => hlt p (by simp [hp])) hq))

/-! ### What is paired -/

/-- Paired quotes do not lie behind the statement end, and all but a closing single quote are among
the given ones. -/
theorem of_mem_boundariesFrom : ∀ {ps : List Nat}, p ∈ boundariesFrom s stop false .outside ps →
    p ≤ stop ∧ (p ∈ ps ∨ (s[p]? = some '\x27' ∧ ∃ q ∈ ps, q < p))
  | [], h => absurd h List.not_mem_nil
  | [start], h => by
    by_cases hstart : start < stop
    · cases hlast : closingSingleQuote? s start with
      | none => simp [boundariesFrom, hlast] at h
      | some last =>
        by_cases hle : last ≤ stop
        · simp only [boundariesFrom, hstart, List.isEmpty_nil, hlast, hle, if_true, List.mem_cons,
            List.not_mem_nil, or_false] at h
          rcases h with rfl | rfl
          · exact ⟨hstart.le, Or.inl List.mem_cons_self⟩
          · obtain ⟨hlt, hget⟩ := Text.getElem?_of_findFrom? hlast
            exact ⟨hle, Or.inr ⟨hget, start, List.mem_cons_self, hlt⟩⟩
        · simp [boundariesFrom, hlast, hle] at h
    · simp [boundariesFrom, hstart] at h
  | start :: last :: ps, h => by
    by_cases hlt : start < stop ∧ last ≤ stop
    · rw [boundariesFrom_pair hlt.1 hlt.2, List.mem_cons, List.mem_cons] at h
      rcases h with rfl | rfl | h
      · exact ⟨hlt.1.le, Or.inl (by simp)⟩
      · exact ⟨hlt.2, Or.inl (by simp)⟩
      · obtain ⟨hle, hp⟩ := of_mem_boundariesFrom h
        refine ⟨hle, hp.imp (fun hp => by simp [hp]) fun ⟨hget, q, hq, hlt⟩ => ?_⟩
        exact ⟨hget, q, by simp [hq], hlt⟩
    · rcases not_and_or.mp hlt with hstart | hlast
      · rw [boundariesFrom_eq_nil_of_le (by simpa using hstart)] at h
        exact absurd h List.not_mem_nil
      · rw [boundariesFrom_eq_nil_of_lt (by simpa using hlast)] at h
        exact absurd h List.not_mem_nil

theorem lt_length_of_mem_boundariesFrom {n : Nat} (hps : ∀ q ∈ ps, n ≤ q ∧ q < s.length)
    (h : p ∈ boundariesFrom s stop false .outside ps) : n ≤ p ∧ p < s.length := by
  rcases (of_mem_boundariesFrom h).2 with hp | ⟨hget, q, hq, hlt⟩
  · exact hps p hp
  · have := (hps q hq).1
    exact ⟨by omega, (List.getElem?_eq_some_iff.mp hget).1⟩

/-- The opening quote behind which the pairing stands, if it stands behind one. -/
def Phase.opening? : Phase → Option Nat
  | .outside => none
  | .opened start | .nested start => some start

/-- The quotes of both kinds. -/
def isQuote (c : Char) : Bool := c == '\x22' || c == '\x27'

/-- What holds of the opening quote, of the given quotes and of every single quote holds of all
paired quotes. -/
theorem forall_mem_boundariesFrom {composite : Bool} {P : Nat → Prop}
    (hsingle : ∀ q, s[q]? = some '\x27' → P q) : ∀ {phase : Phase} {ps : List Nat},
    (∀ q ∈ phase.opening?, P q) → (∀ q ∈ ps, P q) →
      ∀ q ∈ boundariesFrom s stop composite phase ps, P q
  | _, [], _, _ => by simp [boundariesFrom]
  | .outside, start :: ps, _, hps => by
    obtain ⟨hstart, hrest⟩ := List.forall_mem_cons.mp hps
    rw [boundariesFrom]
    split_ifs
    · cases hlast : closingSingleQuote? s start with
      | none => simp
      | some last =>
        have hsingle' : P last := hsingle last (Text.getElem?_of_findFrom? hlast).2
        by_cases hle : last ≤ stop <;> simp [hle, hstart, hsingle']
    · exact forall_mem_boundariesFrom hsingle (by simpa [Phase.opening?] using hstart) hrest
    · simp
  | .opened start, last :: ps, hphase, hps => by
    obtain ⟨hlast, hrest⟩ := List.forall_mem_cons.mp hps
    rw [boundariesFrom]
    split_ifs
    · exact forall_mem_boundariesFrom hsingle hphase hrest
    · have hstart : P start := hphase start rfl
      exact List.forall_mem_cons.mpr ⟨hstart, List.forall_mem_cons.mpr
        ⟨hlast, forall_mem_boundariesFrom hsingle (by simp [Phase.opening?]) hrest⟩⟩
    · simp
  | .nested start, _ :: ps, hphase, hps => by
    rw [boundariesFrom]
    exact forall_mem_boundariesFrom hsingle hphase (List.forall_mem_cons.mp hps).2

/-- Only quotes are deleted. -/
theorem deletesOnly_boundaries {composite : Bool} :
    Text.DeletesOnly isQuote 0 (boundaries s start stop composite) s := fun i c hi hp => by
  rw [Nat.zero_add] at hp
  refine forall_mem_boundariesFrom (P := fun q => ∀ d, s[q]? = some d → isQuote d)
    (fun q hq d hd => ?_) (by simp [Phase.opening?]) (fun q hq d hd => ?_) i hp c hi
  · obtain rfl := Option.some.inj (hq.symm.trans hd)
    rfl
  · have hmem : q ∈ quotesWithin false 0 s :=
      quotes_eq_quotesWithin s ▸ List.mem_of_mem_filter hq
    have hget := (of_mem_quotesWithin hmem).2.2
    rw [Nat.sub_zero] at hget
    obtain rfl := Option.some.inj (hget.symm.trans hd)
    rfl

/-! ### Stripping -/

/-- The statement ends at the first statement end behind its beginning. -/
theorem statementStop_append (u v : Text) : statementStop settings (u ++ v) u.length =
    u.length + (Text.find? settings.statementEnd v).getD v.length := by
  rw [statementStop, Text.findFrom?, List.drop_left', List.length_append]
  · cases Text.find? settings.statementEnd v with
    | none => rfl
    | some n => exact Nat.add_comm n u.length
  · rfl

theorem findAssignment?_eq_length (h : assignedRest? name true (u ++ v) = some v) :
    findAssignment? name (u ++ v) = some u.length := by
  rw [findAssignment?_eq, h, Option.map_some, List.length_append, Nat.add_sub_cancel]

/-- The boundary quotes of a plain value are deleted. -/
theorem stripQuotes_eq_deleteAt (h : findAssignment? name s = some start) :
    stripQuotes settings false name s =
      .ok (Text.deleteAt (boundaries s start (statementStop settings s start) false) s) := by
  rw [stripQuotes, h]
  cases hps : boundaries s start (statementStop settings s start) false with
  | nil =>
    simp only [hps]
    rw [Text.deleteAt_eq_deleteFrom, Text.deleteFrom_of_forall_notMem (by simp)]
  | cons p ps => simp [hps]

/-- Deleting the unescaped quotes of a part. -/
theorem deleteAt_quotesWithin (odd : Bool) (u v w : Text) :
    Text.deleteAt (quotesWithin odd u.length v) (u ++ (v ++ w)) =
      u ++ (dropQuotes odd v ++ w) := by
  rw [Text.deleteAt_eq_deleteFrom, Text.deleteFrom_append, Text.deleteFrom_append, Nat.zero_add,
    deleteFrom_eq_dropQuotes fun _ _ _ => Iff.rfl, Text.deleteFrom_of_forall_notMem (s := u),
    Text.deleteFrom_of_forall_notMem (s := w)]
  · intro p hp hle
    have := (of_mem_quotesWithin hp).2.1
    omega
  · intro p hp _
    have := (of_mem_quotesWithin hp).1
    omega

/-- **Stripping a statement.** A statement with an even number of unescaped quotes loses all of
them, and the rest of the text stays as it is. -/
theorem stripQuotes_of_even (hassign : assignedRest? name true (u ++ (v ++ w)) = some (v ++ w))
    (hend : Text.find? settings.statementEnd (v ++ w) = some v.length)
    (hu : escapesNext false u = false) (heven : Even (quotesWithin false u.length v).length) :
    stripQuotes settings false name (u ++ (v ++ w)) = .ok (u ++ (dropQuotes false v ++ w)) := by
  have hpaired : boundaries (u ++ (v ++ w)) u.length (u.length + v.length) false =
      quotesWithin false u.length v := by
    rw [boundaries, quotesFrom_append, hu, quotesWithin_append, boundariesFrom_append heven,
      boundariesFrom_eq_nil_of_le, List.append_nil]
    · exact fun p hp => (of_mem_quotesWithin (List.mem_of_mem_head? hp)).1
    · exact fun p hp => (of_mem_quotesWithin hp).2.1
  rw [stripQuotes_eq_deleteAt (findAssignment?_eq_length hassign), statementStop_append, hend,
    Option.getD_some, hpaired, deleteAt_quotesWithin]

end ResourceScript.Unquote
