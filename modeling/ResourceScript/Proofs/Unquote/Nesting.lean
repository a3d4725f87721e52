import ResourceScript.Proofs.Unquote.Composite
import ResourceScript.Proofs.Text.Join

/-!
# Nested literals

In a composite value a quote behind an equals sign is passed over together with the quote that
follows it. Both quotes of a nested field are passed over in this way, so a value in which only such
fields are quoted loses its first and its last quote. The quotes of the texts of an array come in
pairs as well, but there the closing quote is the one that may be mistaken for an opening one:
behind each closing quote that is not, the pairing stands between two texts, and a mistaken quote is
never paired, whatever the texts around it are.

## Main definitions

* `Unquote.OpensField`: the texts behind which a quote opens a nested literal.
* `Unquote.withFields`: a body with nested quoted fields.
* `Unquote.pairEnds`: the ends of pairs of positions.

## Main results

* `Unquote.boundariesFrom_opened_withFields`: nested fields are passed over.
* `Unquote.boundariesFrom_pairEnds`, `Unquote.notMem_boundariesFrom_pairEnds`: which closing quotes
  are paired.
* `Unquote.exists_quotesWithin_joinWith`: the quotes of the texts of an array.
-/

namespace ResourceScript.Unquote

open Text (escapeLead)

/-- A quote behind the text opens a nested literal: an equals sign stands before the quote, directly
or with one blank between. -/
def OpensField (s : Text) : Prop := ['='] <:+ s ∨ ['=', ' '] <:+ s

instance (s : Text) : Decidable (OpensField s) := inferInstanceAs (Decidable (_ ∨ _))

/-- A body in which each field stands between quotes, behind a text of its own. -/
def withFields : List (Text × Text) → Text → Text
  | [], rest => rest
  | (lead, field) :: fields, rest => lead ++ '\x22' :: (field ++ '\x22' :: withFields fields rest)

/-- The ends of pairs of positions one after the other. -/
def pairEnds (pairs : List (Nat × Nat)) : List Nat := pairs.flatMap fun p => [p.1, p.2]

variable {s t u w rest : Text} {stop start q : Nat} {ps : List Nat} {pairs : List (Nat × Nat)}
  {fields : List (Text × Text)}

theorem opensField_append_quote_cons_iff : OpensField (u ++ '\x22' :: t) ↔ OpensField t := by
  rw [OpensField, Text.suffix_append_cons_iff (by decide), Text.suffix_append_cons_iff (by decide)]
  rfl

/-- A quote opens a nested literal exactly if the text between it and the quote before it says
so. -/
theorem opensNested_between_iff : opensNested (u ++ '\x22' :: (t ++ '\x22' :: w))
    (u.length + 1 + t.length) ↔ OpensField t := by
  have hsplit : u ++ '\x22' :: (t ++ '\x22' :: w) = (u ++ '\x22' :: t) ++ '\x22' :: w := by simp
  have hlength : u.length + 1 + t.length = (u ++ '\x22' :: t).length := by simp; omega
  rw [hsplit, hlength, opensNested_append_length]
  exact opensField_append_quote_cons_iff

theorem pairEnds_cons (p : Nat × Nat) (pairs : List (Nat × Nat)) :
    pairEnds (p :: pairs) = p.1 :: p.2 :: pairEnds pairs := rfl

/-! ### Nested fields -/

/-- A quote before the statement end opens a value that some quote closes. -/
theorem boundariesFrom_outside_eq {composite : Bool} (hstart : start < stop)
    (h : boundariesFrom s stop composite (.opened start) ps ≠ []) :
    boundariesFrom s stop composite .outside (start :: ps) =
      boundariesFrom s stop composite (.opened start) ps := by
  cases ps with
  | nil => exact absurd (by simp [boundariesFrom]) h
  | cons last ps =>
    rw [boundariesFrom, if_pos hstart]
    rfl

/-- **Nested fields are passed over.** Behind an opening quote the first quote that does not open a
field closes the value. -/
theorem boundariesFrom_opened_withFields (hrest : IsSealed rest) (hend : ¬ OpensField rest)
    (hfields : ∀ f ∈ fields, IsSealed f.1 ∧ OpensField f.1 ∧ IsSealed f.2)
    (hstop : u.length + 1 + (withFields fields rest).length ≤ stop) :
    let s := u ++ '\x22' :: (withFields fields rest ++ '\x22' :: w)
    let last := u.length + 1 + (withFields fields rest).length
    boundariesFrom s stop true (.opened start)
        (quotesWithin false (u.length + 1) (withFields fields rest ++ '\x22' :: w)) =
      start :: last :: boundariesFrom s stop true .outside (quotesWithin false (last + 1) w) := by
  intro s last
  -- the text before the fields grows with each field that is passed over
  induction fields generalizing u with
  | nil =>
    have hnested : opensNested s (u.length + 1 + rest.length) = false :=
      Bool.eq_false_iff.mpr (mt opensNested_between_iff.mp hend)
    have hle : u.length + 1 + rest.length ≤ stop := hstop
    have hquotes : quotesWithin false (u.length + 1) (rest ++ '\x22' :: w) =
        (u.length + 1 + rest.length) :: quotesWithin false (u.length + 1 + rest.length + 1) w := by
      rw [hrest.quotesWithin_append]
      simp [quotesWithin]
    change boundariesFrom s stop true (.opened start)
      (quotesWithin false (u.length + 1) (rest ++ '\x22' :: w)) = _
    rw [hquotes, boundariesFrom]
    simp only [hnested, Bool.and_false, Bool.false_eq_true, if_false, if_pos hle]
    rfl
  | cons f fields ih =>
    obtain ⟨lead, field⟩ := f
    obtain ⟨⟨hlead, hopens, hfield⟩, hfields⟩ := List.forall_mem_cons.mp hfields
    set body := withFields fields rest with hbody
    have hs : s = (u ++ '\x22' :: (lead ++ '\x22' :: field)) ++
        '\x22' :: (body ++ '\x22' :: w) := by
      simp [s, withFields, hbody]
    have hnested : opensNested s (u.length + 1 + lead.length) := by
      have hs' : s = u ++ '\x22' ::
          (lead ++ '\x22' :: (field ++ '\x22' :: (body ++ '\x22' :: w))) := by
        simp [s, withFields, hbody]
      exact hs' ▸ opensNested_between_iff.mpr hopens
    have hlength : (u ++ '\x22' :: (lead ++ '\x22' :: field)).length =
        u.length + 1 + lead.length + 1 + field.length := by simp; omega
    have hlast : last = (u ++ '\x22' :: (lead ++ '\x22' :: field)).length + 1 + body.length := by
      simp only [last, withFields, ← hbody, List.length_append, List.length_cons]
      omega
    have hquotes : quotesWithin false (u.length + 1)
        (withFields ((lead, field) :: fields) rest ++ '\x22' :: w) =
          (u.length + 1 + lead.length) :: (u.length + 1 + lead.length + 1 + field.length) ::
            quotesWithin false (u.length + 1 + lead.length + 1 + field.length + 1)
              (body ++ '\x22' :: w) := by
      rw [withFields, List.append_assoc, List.cons_append, List.append_assoc, List.cons_append,
        hlead.quotesWithin_append, hfield.quotesWithin_quoted]
    rw [hquotes, boundariesFrom, if_pos (by simpa using hnested), boundariesFrom, ← hlength, hlast,
      hs]
    exact ih hfields (hlast ▸ hstop)

/-! ### Pairs of quotes -/

/-- Pairs before the statement end are found when no closing quote seems to open a field. -/
theorem boundariesFrom_pairEnds
    (h : ∀ p ∈ pairs, p.1 < stop ∧ p.2 ≤ stop ∧ ¬ opensNested s p.2) :
    boundariesFrom s stop true .outside (pairEnds pairs) = pairEnds pairs := by
  induction pairs with
  | nil => rfl
  | cons p pairs ih =>
    obtain ⟨⟨hfirst, hlast, hnested⟩, hpairs⟩ := List.forall_mem_cons.mp h
    rw [pairEnds_cons]
    simp [boundariesFrom, hfirst, hlast, hnested, ih hpairs]

/-- A closing quote that seems to open a field is not paired. -/
theorem notMem_boundariesFrom_pairEnds (hnested : opensNested s q) (hpairs : ∀ p ∈ pairs, p.1 ≠ q) :
    q ∉ boundariesFrom s stop true .outside (pairEnds pairs) ∧
      ∀ start ≠ q, q ∉ boundariesFrom s stop true (.nested start) (pairEnds pairs) := by
  induction pairs with
  | nil => simp [pairEnds, boundariesFrom]
  | cons p pairs ih =>
    obtain ⟨hfirst, hpairs⟩ := List.forall_mem_cons.mp hpairs
    obtain ⟨houtside, hinside⟩ := ih hpairs
    -- before a closing quote the pairing always stands behind an opening one
    have hopened : ∀ start ≠ q,
        q ∉ boundariesFrom s stop true (.opened start) (p.2 :: pairEnds pairs) := by
      intro start hstart
      rw [boundariesFrom]
      by_cases hp : opensNested s p.2
      · simpa [hp] using hinside start hstart
      · have hlast : p.2 ≠ q := by
          rintro rfl
          exact hp hnested
        simp only [hp, Bool.and_false, Bool.false_eq_true, if_false]
        split
        · simp [hstart.symm, hlast.symm, houtside]
        · exact List.not_mem_nil
    rw [pairEnds_cons]
    refine ⟨?_, fun start hstart => ?_⟩
    · rw [boundariesFrom]
      split
      · exact hopened p.1 hfirst
      · exact List.not_mem_nil
    · rw [boundariesFrom]
      exact hopened start hstart

/-! ### Arrays of texts -/

/-- **The quotes of an array.** Each text has a pair of quotes. The first one opens no field, and
the second one seems to exactly if the text ends that way. -/
theorem exists_quotesWithin_joinWith : ∀ {ts : List Text} {u : Text}, (∀ t ∈ ts, IsSealed t) →
    ¬ OpensField u → ∀ w,
      let items := Text.joinWith [','] (ts.map fun t => '\x22' :: (t ++ ['\x22']))
      ∃ pairs, quotesWithin false u.length items = pairEnds pairs ∧
        (∀ p ∈ pairs, ¬ opensNested (u ++ (items ++ w)) p.1) ∧
        ((∀ p ∈ pairs, ¬ opensNested (u ++ (items ++ w)) p.2) ↔ ∀ t ∈ ts, ¬ OpensField t)
  | [], _, _, _, _ => ⟨[], rfl, by simp, by simp⟩
  | [t], u, hts, hu, w => by
    have ht : IsSealed t := hts t List.mem_cons_self
    refine ⟨[(u.length, u.length + 1 + t.length)], ?_, ?_, ?_⟩
    · simp [ht.quotesWithin_quoted, quotesWithin, pairEnds]
    · exact List.forall_mem_singleton.mpr (mt (opensNested_append_length u _).mp hu)
    · rw [List.forall_mem_singleton, List.forall_mem_singleton]
      simpa using not_congr opensNested_between_iff
  | t :: t' :: ts, u, hts, hu, w => by
    have ht : IsSealed t := hts t List.mem_cons_self
    let rest := Text.joinWith [','] ((t' :: ts).map fun t => '\x22' :: (t ++ ['\x22']))
    let v := u ++ '\x22' :: (t ++ ['\x22', ','])
    have hcomma : ¬ OpensField v := by
      have hsplit : v = u ++ '\x22' :: (t ++ '\x22' :: [',']) := by simp [v]
      rw [hsplit, opensField_append_quote_cons_iff, opensField_append_quote_cons_iff]
      decide
    obtain ⟨pairs, hquotes, hfirst, hlast⟩ :=
      exists_quotesWithin_joinWith (fun t ht => hts t (List.mem_cons_of_mem _ ht)) hcomma w
    intro items
    have hitems : items = '\x22' :: (t ++ '\x22' :: ',' :: rest) := by
      simp [items, rest, Text.joinWith_cons_cons]
    have hlength : v.length = u.length + 1 + t.length + 1 + 1 := by
      simp [v]
      omega
    have hown : u ++ (items ++ w) = u ++ '\x22' :: (t ++ '\x22' :: (',' :: rest ++ w)) := by
      simp [hitems]
    have hothers : u ++ (items ++ w) = v ++ (rest ++ w) := by simp [hitems, v]
    refine ⟨(u.length, u.length + 1 + t.length) :: pairs, ?_, ?_, ?_⟩
    · rw [pairEnds_cons, ← hquotes, hlength, hitems, ht.quotesWithin_quoted]
      simp [quotesWithin, rest, escapeLead]
    · refine List.forall_mem_cons.mpr ⟨mt (opensNested_append_length u _).mp hu, ?_⟩
      rw [hothers]
      exact hfirst
    · rw [List.forall_mem_cons, List.forall_mem_cons, ← hlast]
      refine and_congr ?_ ?_
      · rw [hown]
        exact not_congr opensNested_between_iff
      · rw [hothers]

end ResourceScript.Unquote
