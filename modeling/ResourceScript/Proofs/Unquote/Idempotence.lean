import ResourceScript.Proofs.Unquote.Removal

/-!
# Stripping twice

A block whose parameter was stripped is not changed when the parameter is stripped again. The quotes
that go stand behind the equals sign of the assignment, so the same assignment is found again. Each
of them is unescaped, so the parity of the backticks behind it stays, and no quote that was escaped
becomes unescaped. What is left are the quotes behind the last pair. They were not paired because
one of the first two of them does not stand before the statement end, and this stays so: the
statement ends where it ended before, or earlier.

This holds when double quotes are closed by double quotes. A single quote that closes a double quote
may stand between two backticks, which are joined when it goes.

## Main definitions

* `Unquote.openings`: the opening quotes that the pairing comes to.
* `Unquote.ClosesWithDoubleQuotes`: no single quote is needed to close one of them.
* `Unquote.IsUnpaired`: quotes that do not begin with a pair.

## Main results

* `Unquote.mem_openings_iff`: which quotes these are.
* `Unquote.assignedRest?_dropQuotes`: the same assignment is found again.
* `Unquote.statementStop_append_le`: the statement does not end later.
* `Unquote.stripQuotes_idempotent`: stripping twice is stripping once.
-/

namespace ResourceScript.Unquote

/-- The opening quotes that the pairing of a plain value comes to, among the given ones: each stands
before the statement end, and the quotes before it were paired. -/
def openings (stop : Nat) : List Nat → List Nat
  | [] => []
  | [start] => if start < stop then [start] else []
  | start :: last :: rest =>
    if start < stop then start :: (if last ≤ stop then openings stop rest else []) else []

/-- Each opening quote that the stripping of a plain value comes to has an unescaped double quote
behind it somewhere in the block, so no single quote is looked for. -/
def ClosesWithDoubleQuotes (settings : Settings) (name block : Text) : Prop :=
  ∀ start ∈ findAssignment? name block,
    ∀ q ∈ openings (statementStop settings block start) (quotesFrom block start),
      ∃ q' ∈ quotes block, q < q'

instance (settings : Settings) (name block : Text) :
    Decidable (ClosesWithDoubleQuotes settings name block) :=
  inferInstanceAs (Decidable (∀ start ∈ findAssignment? name block,
    ∀ q ∈ openings (statementStop settings block start) (quotesFrom block start),
      ∃ q' ∈ quotes block, q < q'))

/-- The given quotes do not begin with a pair that ends before `stop`. -/
def IsUnpaired (stop : Nat) : List Nat → Prop
  | [] => True
  | [start] => stop ≤ start
  | start :: last :: _ => stop ≤ start ∨ stop < last

variable {settings : Settings} {s u v x y name block : Text} {start stop stop' k k' : Nat}
  {ps : List Nat} {odd : Bool}

/-! ### Quotes that are left over -/

private theorem exists_getElem?_cons {q : Nat} {l : List Nat} :
    (∃ i, (start :: l)[2 * i]? = some q) ↔ start = q ∨ ∃ i, l.tail[2 * i]? = some q := by
  constructor
  · rintro ⟨_ | i, h⟩
    · exact Or.inl (Option.some.inj h)
    · exact Or.inr ⟨i, List.getElem?_tail.trans h⟩
  · rintro (rfl | ⟨i, h⟩)
    · exact ⟨0, rfl⟩
    · rw [List.getElem?_tail] at h
      exact ⟨i + 1, h⟩

/-- The opening quotes that the pairing comes to are every second quote before the statement end. -/
theorem mem_openings_iff {q : Nat} : ∀ {ps : List Nat}, ps.Pairwise (· < ·) →
    (q ∈ openings stop ps ↔ q < stop ∧ ∃ i, ps[2 * i]? = some q)
  | [], _ => by simp [openings]
  | [start], _ => by
    have hnone : ¬ ∃ i, ([] : List Nat)[2 * i]? = some q := by simp
    rw [exists_getElem?_cons, List.tail_nil, or_iff_left hnone, openings]
    split_ifs with hstart
    · rw [List.mem_singleton]
      exact ⟨fun h => ⟨h ▸ hstart, h.symm⟩, fun h => h.2.symm⟩
    · exact iff_of_false List.not_mem_nil fun h => hstart (h.2 ▸ h.1)
  | start :: last :: ps, hps => by
    obtain ⟨hfirst, htail⟩ := List.pairwise_cons.mp hps
    obtain ⟨hsecond, hps⟩ := List.pairwise_cons.mp htail
    have hlt := hfirst last List.mem_cons_self
    -- behind a quote that stands too far there is no opening quote
    have hbehind : (∃ i, ps[2 * i]? = some q) → last < q := fun ⟨i, h⟩ =>
      hsecond q (List.mem_of_getElem? h)
    rw [exists_getElem?_cons, openings, List.tail_cons]
    split_ifs with hstart hlast
    · rw [List.mem_cons, mem_openings_iff hps]
      grind
    · grind
    · grind

theorem mem_of_mem_openings {q : Nat} (hps : ps.Pairwise (· < ·)) (h : q ∈ openings stop ps) :
    q ∈ ps := by
  obtain ⟨-, i, hget⟩ := (mem_openings_iff hps).mp h
  exact List.mem_of_getElem? hget

theorem boundariesFrom_of_isUnpaired (h : IsUnpaired stop ps) :
    boundariesFrom s stop false .outside ps = [] := by
  match ps, h with
  | [], _ => rfl
  | [start], h =>
    have hle : stop ≤ start := h
    exact boundariesFrom_eq_nil_of_le (by simpa using hle)
  | start :: last :: _, .inl h => exact boundariesFrom_eq_nil_of_le (by simpa using h)
  | start :: last :: _, .inr h => exact boundariesFrom_eq_nil_of_lt h

theorem IsUnpaired.exists_le (h : IsUnpaired stop ps) (hne : ps ≠ []) : ∃ q ∈ ps, stop ≤ q := by
  match ps, h with
  | [start], h => exact ⟨start, List.mem_cons_self, h⟩
  | start :: last :: _, .inl h => exact ⟨start, List.mem_cons_self, h⟩
  | start :: last :: _, .inr h => exact ⟨last, by simp, h.le⟩

/-- Quotes that are not paired stay so when they move and the statement end moves as far. -/
theorem IsUnpaired.map_add (h : IsUnpaired stop (ps.map (· + k)))
    (hstop : ps ≠ [] → stop' + k ≤ stop + k') : IsUnpaired stop' (ps.map (· + k')) := by
  match ps, h with
  | [], _ => trivial
  | [start], h =>
    have hle : stop ≤ start + k := h
    have := hstop (by simp)
    show stop' ≤ start + k'
    omega
  | start :: last :: _, h =>
    have hle : stop ≤ start + k ∨ stop < last + k := h
    have := hstop (by simp)
    show stop' ≤ start + k' ∨ stop' < last + k'
    omega

/-- Behind the pairs of a statement the quotes do not begin with a pair, if every opening quote has
a quote behind it. -/
theorem exists_isUnpaired (s : Text) : ∀ {ps : List Nat}, ps.Pairwise (· < ·) →
    (∀ q ∈ openings stop ps, ∃ q' ∈ ps, q < q') →
      ∃ rest, ps = boundariesFrom s stop false .outside ps ++ rest ∧ IsUnpaired stop rest
  | [], _, _ => ⟨[], rfl, trivial⟩
  | [start], _, hclosed => by
    have hunpaired : IsUnpaired stop [start] := by
      by_contra hlt
      simp [openings, Nat.not_le.mp hlt] at hclosed
    refine ⟨[start], ?_, hunpaired⟩
    rw [boundariesFrom_of_isUnpaired hunpaired, List.nil_append]
  | start :: last :: ps, hps, hclosed => by
    by_cases hpair : start < stop ∧ last ≤ stop
    · obtain ⟨hstart, hlast⟩ := hpair
      obtain ⟨hfirst, htail⟩ := List.pairwise_cons.mp hps
      obtain ⟨hsecond, hps⟩ := List.pairwise_cons.mp htail
      have hrest : ∀ q ∈ openings stop ps, ∃ q' ∈ ps, q < q' := fun q hq => by
        obtain ⟨q', hq', hlt⟩ := hclosed q (by simp [openings, hstart, hlast, hq])
        have := hfirst q (List.mem_cons_of_mem _ (mem_of_mem_openings hps hq))
        have := hsecond q (mem_of_mem_openings hps hq)
        rcases List.mem_cons.mp hq' with rfl | hq'
        · omega
        rcases List.mem_cons.mp hq' with rfl | hq'
        · omega
        · exact ⟨q', hq', hlt⟩
      obtain ⟨rest, heq, hunpaired⟩ := exists_isUnpaired s hps hrest
      refine ⟨rest, ?_, hunpaired⟩
      rw [boundariesFrom_pair hstart hlast, List.cons_append, List.cons_append, ← heq]
    · have hunpaired : IsUnpaired stop (start :: last :: ps) := by
        show stop ≤ start ∨ stop < last
        omega
      refine ⟨start :: last :: ps, ?_, hunpaired⟩
      rw [boundariesFrom_of_isUnpaired hunpaired, List.nil_append]

/-! ### The second run -/

/-- **The same assignment is found again.** Without some of the unescaped quotes behind it, a name
is still assigned where it was. -/
theorem assignedRest?_dropQuotes (hequals : '=' ∉ name)
    (h : assignedRest? name true (u ++ (x ++ y)) = some (x ++ y)) :
    assignedRest? name true (u ++ (dropQuotes odd x ++ y)) = some (dropQuotes odd x ++ y) := by
  by_cases hquote : '\x22' ∈ x
  · obtain ⟨a, z, hsplit, ha⟩ :=
      ahead_eq_equals_iff.mp (beginsAssignment_of_assignedRest? h).2
    -- the equals sign stands before the quotes of the part
    obtain ⟨w, rfl⟩ : ∃ w, x = a ++ '=' :: w := by
      rcases List.append_eq_append_iff.mp hsplit with ⟨w, rfl, -⟩ | ⟨w, rfl, hw⟩
      · exact absurd (List.mem_append_left w hquote) ha
      · cases w with
        | nil => exact absurd (List.append_nil a ▸ hquote) ha
        | cons d w => exact ⟨w, by rw [(List.cons.inj hw).1]⟩
    have hdrop : dropQuotes odd (a ++ '=' :: w) =
        a ++ '=' :: dropQuotes false w := by
      rw [dropQuotes_append, dropQuotes_of_notMem ha]
      rfl
    rw [List.append_assoc, List.cons_append, ← List.append_assoc] at h
    rw [hdrop, List.append_assoc, List.cons_append, ← List.append_assoc]
    exact assignedRest?_append_equals_congr hequals h _
  · rwa [dropQuotes_of_notMem hquote]

/-- **The statement does not end later.** A statement end that stands behind a part stands there
also when the part is replaced. -/
theorem statementStop_append_le (x' : Text)
    (hle : u.length + x.length ≤ statementStop settings (u ++ (x ++ y)) u.length)
    (hlt : statementStop settings (u ++ (x ++ y)) u.length < (u ++ (x ++ y)).length) :
    statementStop settings (u ++ (x' ++ y)) u.length + x.length ≤
      statementStop settings (u ++ (x ++ y)) u.length + x'.length := by
  have hne : settings.statementEnd ≠ [] := List.cons_ne_nil _ _
  simp only [statementStop_append] at hle hlt ⊢
  cases hfind : Text.find? settings.statementEnd (x ++ y) with
  | none => simp [hfind] at hlt
  | some n =>
    rw [hfind, Option.getD_some] at hle
    obtain ⟨a, t, hsplit, rfl⟩ := Text.exists_append_of_find? hne hfind
    obtain ⟨z, rfl, rfl⟩ : ∃ z, a = x ++ z ∧ y = z ++ (settings.statementEnd ++ t) := by
      rcases List.append_eq_append_iff.mp hsplit with ⟨z, rfl, hy⟩ | ⟨z, rfl, hy⟩
      · exact ⟨z, rfl, hy⟩
      · rw [List.length_append] at hle
        obtain rfl : z = [] := List.eq_nil_of_length_eq_zero (by omega)
        exact ⟨[], by simp, hy.symm⟩
    obtain ⟨m, hm, hfind'⟩ := Text.exists_find?_append_le hne (x' ++ z) t
    rw [List.append_assoc] at hfind'
    rw [hfind', Option.getD_some, Option.getD_some]
    rw [List.length_append] at hm ⊢
    omega

/-- No unescaped quote stands where a statement ends. -/
theorem lt_statementStop {q : Nat} (hq : q ∈ quotes s) (hle : q ≤ statementStop settings s start) :
    q < statementStop settings s start := by
  refine lt_of_le_of_ne hle ?_
  rintro rfl
  exact not_isQuote_of_getElem?_statementStop (getElem?_of_mem_quotes hq) rfl

/-- Where the left-over quotes of a statement do not begin with a pair, nothing is stripped. -/
theorem stripQuotes_of_isUnpaired (hfind : findAssignment? name s = some start)
    (h : IsUnpaired (statementStop settings s start) (quotesFrom s start)) :
    stripQuotes settings false name s = .ok s := by
  rw [stripQuotes_eq_deleteAt hfind, boundaries, boundariesFrom_of_isUnpaired h,
    Text.deleteAt_eq_deleteFrom, Text.deleteFrom_of_forall_notMem (by simp)]

/-! ### Both runs -/

/-- **The first run.** The text is cut behind the last quote that goes: up to there it loses its
unescaped quotes, and the quotes behind do not begin with a pair. -/
theorem exists_stripQuotes_eq (hfind : findAssignment? name block = some start)
    (hclosed : ClosesWithDoubleQuotes settings name block) :
    ∃ u x y, block = u ++ (x ++ y) ∧ u.length = start ∧
      assignedRest? name true (u ++ (x ++ y)) = some (x ++ y) ∧
      stripQuotes settings false name block =
        .ok (u ++ (dropQuotes (escapesNext false u) x ++ y)) ∧
      u.length + x.length ≤ statementStop settings block start ∧
      IsUnpaired (statementStop settings block start)
        (quotesWithin (escapesNext false (u ++ x)) (u.length + x.length) y) := by
  obtain ⟨u, v, rfl, rfl, hassigned⟩ := exists_of_findAssignment? hfind
  have hpairwise : (quotesFrom (u ++ v) u.length).Pairwise (· < ·) := pairwise_quotesFrom _ _
  have hbehind : ∀ q ∈ openings (statementStop settings (u ++ v) u.length)
      (quotesFrom (u ++ v) u.length), ∃ q' ∈ quotesFrom (u ++ v) u.length, q < q' := by
    intro q hq
    obtain ⟨q', hq', hlt⟩ := hclosed u.length hfind q hq
    have hle : u.length ≤ q := (mem_quotesFrom_iff.mp (mem_of_mem_openings hpairwise hq)).1
    exact ⟨q', mem_quotesFrom_iff.mpr ⟨hle.trans hlt.le, hq'⟩, hlt⟩
  obtain ⟨rest, hsplit, hunpaired⟩ : ∃ rest, quotesFrom (u ++ v) u.length =
      boundaries (u ++ v) u.length (statementStop settings (u ++ v) u.length) false ++ rest ∧
        IsUnpaired (statementStop settings (u ++ v) u.length) rest :=
    exists_isUnpaired (u ++ v) hpairwise hbehind
  have hquotes : ∀ q ∈ boundaries (u ++ v) u.length
      (statementStop settings (u ++ v) u.length) false, q ∈ quotes (u ++ v) := fun q hq =>
    (mem_quotesFrom_iff.mp (hsplit ▸ List.mem_append_left rest hq)).2
  rw [quotesFrom_append] at hsplit
  obtain ⟨x, y, rfl, hx, rfl, hlast⟩ := exists_append_of_quotesWithin_eq hsplit
  refine ⟨u, x, y, rfl, rfl, hassigned, ?_, ?_, ?_⟩
  · rw [stripQuotes_eq_deleteAt hfind, ← hx, deleteAt_quotesWithin]
  · rcases hlast with rfl | ⟨q, hq, hend⟩
    · rw [statementStop_append]
      exact Nat.le_add_right ..
    · have := lt_statementStop (hquotes q hq) (of_mem_boundariesFrom hq).1
      omega
  · rwa [escapesNext_append]

/-- **Stripping twice is stripping once.** A parameter whose name holds no equals sign is stripped
as a plain value, and no single quote is needed to close a double quote. Then there is a stripped
block, and stripping the parameter again does not change it. -/
theorem stripQuotes_idempotent (settings : Settings) {name block : Text} (hequals : '=' ∉ name)
    (hclosed : ClosesWithDoubleQuotes settings name block) :
    ∃ stripped, stripQuotes settings false name block = .ok stripped ∧
      stripQuotes settings false name stripped = .ok stripped := by
  cases hfind : findAssignment? name block with
  | none => exact ⟨block, stripQuotes_of_not_assigned hfind, stripQuotes_of_not_assigned hfind⟩
  | some start =>
    obtain ⟨u, x, y, rfl, rfl, hassigned, hstripped, hle, hunpaired⟩ :=
      exists_stripQuotes_eq hfind hclosed
    refine ⟨_, hstripped, stripQuotes_of_isUnpaired
      (findAssignment?_eq_length (assignedRest?_dropQuotes hequals hassigned)) ?_⟩
    rw [quotesFrom_append, quotesWithin_append, quotesWithin_dropQuotes, List.nil_append,
      escapesNext_dropQuotes, ← escapesNext_append, quotesWithin_add]
    rw [quotesWithin_add] at hunpaired
    refine hunpaired.map_add fun hne => statementStop_append_le _ hle ?_
    obtain ⟨q, hq, hstop⟩ := hunpaired.exists_le (by simpa using hne)
    rw [← quotesWithin_add] at hq
    have := (of_mem_quotesWithin hq).2.1
    rw [List.length_append, List.length_append]
    omega

/-- Four quotes, of which the first two go. Without them the statement ends earlier. -/
theorem stripQuotes_idempotent_earlierEnd :
    let block := "A = \"x;\"\r\n\"y;\r\n\"".toList
    let stripped := "A = x;\r\n\"y;\r\n\"".toList
    '=' ∉ ['A'] ∧ ClosesWithDoubleQuotes .standard ['A'] block ∧
      stripQuotes .standard false ['A'] block = .ok stripped ∧
      stripQuotes .standard false ['A'] stripped = .ok stripped := by
  intro block stripped
  have hequals : '=' ∉ ['A'] := by decide
  have hclosed : ClosesWithDoubleQuotes .standard ['A'] block := by decide
  obtain ⟨s, hs, hagain⟩ := stripQuotes_idempotent .standard hequals hclosed
  have hstripped : stripQuotes .standard false ['A'] block = .ok stripped := by rfl
  obtain rfl := Except.ok.inj (hs.symm.trans hstripped)
  exact ⟨hequals, hclosed, hs, hagain⟩

/-- A single quote that goes joins two backticks, so that the double quote behind them is not
escaped any more. -/
example : let block := "A = \"x`'`\"'".toList
    ¬ ClosesWithDoubleQuotes .standard ['A'] block ∧
      stripQuotes .standard false ['A'] block = .ok "A = x``\"'".toList ∧
      stripQuotes .standard false ['A'] "A = x``\"'".toList = .ok "A = x``".toList :=
  ⟨by decide, by rfl, by rfl⟩

end ResourceScript.Unquote
