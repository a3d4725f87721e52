import Mathlib.Data.List.TakeWhile
import ResourceScript.Proofs.Text.Escape
import ResourceScript.Proofs.Text.Replacement
import ResourceScript.Proofs.Text.Template
import ResourceScript.Unquote.Tidy

/-!
# Stray separators

Tidying drops the separators that the parts of a composite value leave behind: a comma or a
semicolon that stands alone on a line, and a comma between a closing brace and the end of its line.
Each is replaced by a shorter text, so nothing changes exactly where there are none. A line that
ends a statement parts the text: the semicolon at its end could only be the lone separator itself,
so that no stray separator reaches from this line into a following one.

## Main definitions

* `Unquote.IsLoneSeparator`: a line with a separator only.
* `Unquote.IsStray`, `Unquote.IsTidy`: the separators that tidying drops, and the texts without
  them.
* `Unquote.openedAt`, `Unquote.dropSeparators`: a block with an opened statement, and a text without
  its stray separators.
* `Unquote.BeginsAfresh`: a text into which no lone separator reaches.

## Main results

* `Unquote.loneSeparatorLength_eq_zero_iff`: where a lone separator begins.
* `Unquote.dropSeparators_eq_self_iff`: nothing is dropped exactly from the tidy texts.
* `Unquote.dropSeparators_append`: the text up to the end of a statement and the text behind it are
  tidied on their own.
-/

namespace ResourceScript.Unquote

open Text (isBlank)

/-- A line with a separator only, together with the line terminators around it. -/
def IsLoneSeparator (terminator p : Text) : Prop :=
  ∃ blanks c, p = terminator ++ (blanks ++ c :: terminator) ∧ (∀ d ∈ blanks, isBlank d) ∧
    (c = ',' ∨ c = ';')

/-- A separator that tidying drops, together with what it is recognised by. -/
def IsStray (terminator p : Text) : Prop :=
  IsLoneSeparator terminator p ∨ p = '\x7d' :: ',' :: terminator

/-- A text without separators that tidying drops. -/
def IsTidy (terminator s : Text) : Prop := ∀ p, IsStray terminator p → ¬ p <:+: s

/-- A block in which the statement that begins at a position is opened. -/
def openedAt (settings : Settings) (block : Text) (start : Nat) : Text :=
  let stop := statementStop settings block start
  block.take start ++ openStatement settings ((block.take stop).drop start) ++ block.drop stop

/-- A text without its stray separators. -/
def dropSeparators (terminator s : Text) : Text :=
  dropCommaAfterBrace terminator
    (Text.substituteMatches (loneSeparatorLength terminator) (fun _ => terminator) s)

variable {terminator lead p s t x : Text} {c e z : Char}

/-! ### Lone separators -/

private theorem dropIfPrefix?_append (p s : Text) : Text.dropIfPrefix? p (p ++ s) = some s := by
  rw [Text.dropIfPrefix?, if_pos (List.isPrefixOf_iff_prefix.mpr (List.prefix_append ..)),
    List.drop_left']
  rfl

theorem isBlank_separator (hc : c = ',' ∨ c = ';') : isBlank c = false := by
  rcases hc with rfl | rfl <;> decide

theorem loneSeparatorLength_append (h : IsLoneSeparator terminator p) (t : Text) :
    loneSeparatorLength terminator (p ++ t) = p.length := by
  obtain ⟨blanks, c, rfl, hblanks, hc⟩ := h
  have hline : (blanks ++ c :: (terminator ++ t)).dropWhile isBlank = c :: (terminator ++ t) := by
    rw [List.dropWhile_append_of_pos hblanks, List.dropWhile_cons_of_neg]
    simp [isBlank_separator hc]
  have htext : terminator ++ (blanks ++ c :: terminator) ++ t =
      terminator ++ (blanks ++ c :: (terminator ++ t)) := by simp
  rw [htext, loneSeparatorLength, dropIfPrefix?_append]
  simp only [hline, hc, List.isPrefixOf_iff_prefix, List.prefix_append, and_self, if_true,
    List.length_append, List.length_cons]
  omega

theorem exists_of_loneSeparatorLength (h : loneSeparatorLength terminator s ≠ 0) :
    ∃ p, IsLoneSeparator terminator p ∧ p <+: s := by
  by_cases hp : terminator.isPrefixOf s
  swap
  · exact absurd (by simp [loneSeparatorLength, Text.dropIfPrefix?, hp]) h
  obtain ⟨line, rfl⟩ := List.isPrefixOf_iff_prefix.mp hp
  rw [loneSeparatorLength, dropIfPrefix?_append] at h
  cases hrest : line.dropWhile isBlank with
  | nil => simp [hrest] at h
  | cons c rest =>
    simp only [hrest] at h
    split_ifs at h with hc
    · obtain ⟨hseparator, hnext⟩ := hc
      obtain ⟨u, rfl⟩ := List.isPrefixOf_iff_prefix.mp hnext
      refine ⟨_, ⟨line.takeWhile isBlank, c, rfl, fun d hd => List.mem_takeWhile_imp hd,
        hseparator⟩, u, ?_⟩
      conv_rhs => rw [← List.takeWhile_append_dropWhile (p := isBlank) (l := line), hrest]
      simp
    · exact absurd rfl h

/-- **Where a lone separator begins.** The search for them looks at the first separator only, and
no separator is blank. -/
theorem loneSeparatorLength_eq_zero_iff :
    loneSeparatorLength terminator s = 0 ↔ ∀ p, IsLoneSeparator terminator p → ¬ p <+: s := by
  constructor
  · rintro h p hp ⟨t, rfl⟩
    rw [loneSeparatorLength_append hp, List.length_eq_zero_iff] at h
    obtain ⟨blanks, c, rfl, -⟩ := hp
    simp at h
  · intro h
    by_contra hne
    obtain ⟨p, hp, hbegin⟩ := exists_of_loneSeparatorLength hne
    exact h p hp hbegin

theorem isLoneSeparator_take (h : loneSeparatorLength terminator s ≠ 0) :
    IsLoneSeparator terminator (s.take (loneSeparatorLength terminator s)) := by
  obtain ⟨p, hp, t, rfl⟩ := exists_of_loneSeparatorLength h
  rwa [loneSeparatorLength_append hp, List.take_left' rfl]

theorem IsLoneSeparator.length_lt (h : IsLoneSeparator terminator p) :
    terminator.length < p.length := by
  obtain ⟨blanks, c, rfl, -⟩ := h
  simp only [List.length_append, List.length_cons]
  omega

theorem IsLoneSeparator.getLast?_eq (h : IsLoneSeparator terminator p)
    (hterminator : terminator ≠ []) : p.getLast? = terminator.getLast? := by
  obtain ⟨blanks, c, rfl, -⟩ := h
  rw [List.getLast?_append_of_ne_nil _ (by simp), List.getLast?_append_of_ne_nil _ (by simp),
    List.getLast?_cons_of_ne_nil hterminator]

/-! ### Tidy texts -/

/-- Lone separators are found from where they begin on. -/
theorem isTidy_iff : IsTidy terminator s ↔
    (∀ x, x <:+ s → x ≠ [] → loneSeparatorLength terminator x = 0) ∧
      ¬ '\x7d' :: ',' :: terminator <:+: s := by
  simp only [loneSeparatorLength_eq_zero_iff]
  constructor
  · refine fun h => ⟨fun x hx _ p hp hbegin => ?_, h _ (Or.inr rfl)⟩
    exact h p (Or.inl hp) (hbegin.isInfix.trans hx.isInfix)
  · rintro ⟨hlone, hbrace⟩ p (hp | rfl)
    · rintro ⟨u, v, rfl⟩
      refine hlone (p ++ v) (List.append_assoc u p v ▸ List.suffix_append ..) ?_ p hp
        (List.prefix_append ..)
      have := hp.length_lt
      exact List.append_ne_nil_of_left_ne_nil (List.length_pos_iff.mp (by omega)) v
    · exact hbrace

instance (terminator s : Text) : Decidable (IsTidy terminator s) :=
  decidable_of_iff ((∀ x ∈ s.tails, x ≠ [] → loneSeparatorLength terminator x = 0) ∧
    ¬ '\x7d' :: ',' :: terminator <:+: s) (by simp only [List.mem_tails, isTidy_iff])

/-- A text without the first character of a line terminator is tidy. -/
theorem isTidy_of_notMem (hhead : terminator.head? = some c) (hc : c ∉ s) :
    IsTidy terminator s := by
  have hmem : c ∈ terminator := List.mem_of_mem_head? hhead
  rintro p (⟨blanks, separator, rfl, -⟩ | rfl) h <;> exact hc (h.subset (by simp [hmem]))

/-- Whether a character stands in no stray separator. -/
def isForeign (c : Char) : Bool := !isBlank c && c != ',' && c != ';' && c != '\x7d'

section Blank

variable (hblank : ∀ c ∈ terminator, isBlank c)

include hblank

theorem IsStray.not_isForeign (h : IsStray terminator p) : ∀ d ∈ p, isForeign d = false := by
  have hterminator : ∀ d ∈ terminator, isForeign d = false := fun d hd => by
    simp [isForeign, hblank d hd]
  rcases h with ⟨blanks, separator, rfl, hblanks, hseparator⟩ | rfl
  · intro d hd
    simp only [List.mem_append, List.mem_cons] at hd
    rcases hd with hd | hd | rfl | hd
    · exact hterminator d hd
    · simp [isForeign, hblanks d hd]
    · rcases hseparator with rfl | rfl <;> decide
    · exact hterminator d hd
  · simp only [List.forall_mem_cons]
    exact ⟨by decide, by decide, hterminator⟩

/-- A foreign character cuts a text into two that are tidy on their own. -/
theorem isTidy_append_cons_iff (hc : isForeign c) :
    IsTidy terminator (s ++ c :: t) ↔ IsTidy terminator s ∧ IsTidy terminator t := by
  have hcut : ∀ p, IsStray terminator p → (¬ p <:+: s ++ c :: t ↔ ¬ p <:+: s ∧ ¬ p <:+: t) := by
    intro p hp
    have hne : p ≠ [] := by
      rcases hp with ⟨blanks, separator, rfl, -⟩ | rfl <;> simp
    have hmem : c ∉ p := fun hm => by simp [hp.not_isForeign hblank c hm] at hc
    rw [Text.infix_append_cons_iff hne hmem, not_or]
  constructor
  · exact fun h => ⟨fun p hp => ((hcut p hp).mp (h p hp)).1,
      fun p hp => ((hcut p hp).mp (h p hp)).2⟩
  · exact fun ⟨hs, ht⟩ p hp => (hcut p hp).mpr ⟨hs p hp, ht p hp⟩

/-- Escaping neither hides nor makes a stray separator. -/
theorem isTidy_escape_iff {allowVariables : Bool} :
    IsTidy terminator (Text.escape allowVariables s) ↔ IsTidy terminator s := by
  refine forall₂_congr fun p hp => not_congr (Text.infix_escape_iff fun d hd => ?_)
  have hd := hp.not_isForeign hblank d hd
  simp only [isForeign, Bool.and_eq_false_iff, Bool.not_eq_false', bne_eq_false_iff_eq] at hd
  rcases hd with ((hd | rfl) | rfl) | rfl
  · exact Text.isSpecial_eq_false_of_isBlank hd
  all_goals cases allowVariables <;> decide

end Blank

/-! ### Dropping stray separators -/

private theorem shorter_loneSeparator (s : Text) (h : loneSeparatorLength terminator s ≠ 0) :
    terminator.length < (s.take (loneSeparatorLength terminator s)).length :=
  (isLoneSeparator_take h).length_lt

private theorem shorter_brace (terminator : Text) :
    ('\x7d' :: terminator).length < ('\x7d' :: ',' :: terminator).length := by
  simp

theorem length_dropSeparators_le (terminator s : Text) :
    (dropSeparators terminator s).length ≤ s.length :=
  (Text.length_replaceAll_le (shorter_brace terminator) _).trans
    (Text.length_substituteMatches_le shorter_loneSeparator s)

theorem dropSeparators_of_isTidy (h : IsTidy terminator s) : dropSeparators terminator s = s := by
  obtain ⟨hlone, hbrace⟩ := isTidy_iff.mp h
  rw [dropSeparators, Text.substituteMatches_eq_self hlone]
  exact Text.replaceAll_eq_self hbrace

/-- **Tidy texts.** Each stray separator makes way for a shorter text, so exactly the tidy texts
stay as they are. -/
theorem dropSeparators_eq_self_iff : dropSeparators terminator s = s ↔ IsTidy terminator s := by
  refine ⟨fun h => ?_, dropSeparators_of_isTidy⟩
  have hlength := congrArg List.length h
  have hbrace := Text.length_replaceAll_le (shorter_brace terminator)
    (Text.substituteMatches (loneSeparatorLength terminator) (fun _ => terminator) s)
  rw [dropSeparators, dropCommaAfterBrace] at hlength
  have hle : s.length ≤
      (Text.substituteMatches (loneSeparatorLength terminator) (fun _ => terminator) s).length := by
    omega
  have hlone := Text.forall_eq_zero_of_length_le shorter_loneSeparator hle
  rw [Text.substituteMatches_eq_self hlone] at hlength
  exact isTidy_iff.mpr ⟨hlone,
    Text.not_infix_of_length_le_replaceAll (shorter_brace terminator) hlength.ge⟩

theorem getLast?_substitute_loneSeparators (hterminator : terminator ≠ []) (s : Text) :
    (Text.substituteMatches (loneSeparatorLength terminator) (fun _ => terminator) s).getLast? =
      s.getLast? :=
  Text.getLast?_substituteMatches
    (fun _ h => ((isLoneSeparator_take h).getLast?_eq hterminator).symm) s

/-- Dropping stray separators keeps the last character. -/
theorem getLast?_dropSeparators (hterminator : terminator ≠ []) (s : Text) :
    (dropSeparators terminator s).getLast? = s.getLast? := by
  rw [dropSeparators, dropCommaAfterBrace, Text.getLast?_replaceAll,
    getLast?_substitute_loneSeparators hterminator]
  rw [List.getLast?_cons_of_ne_nil hterminator, List.getLast?_cons_of_ne_nil (by simp),
    List.getLast?_cons_of_ne_nil hterminator]

/-! ### Tidying a block -/

/-- Lines with a separator only are replaced by the line terminator itself, if it is verbatim as a
template. -/
theorem dropLoneSeparators_of_isVerbatim (h : Template.IsVerbatim terminator) (s : Text) :
    dropLoneSeparators terminator s =
      .ok (Text.substituteMatches (loneSeparatorLength terminator) (fun _ => terminator) s) := by
  have hexpand : Template.expand (terminator.map .char) = fun _ => terminator :=
    funext fun found => Template.expand_map_char terminator found
  rw [dropLoneSeparators, Template.parse_of_isVerbatim h, ← hexpand]
  rfl

/-- A blank line terminator holds no escape sequence. -/
theorem dropLoneSeparators_eq (hblank : ∀ c ∈ terminator, isBlank c) (s : Text) :
    dropLoneSeparators terminator s =
      .ok (Text.substituteMatches (loneSeparatorLength terminator) (fun _ => terminator) s) :=
  dropLoneSeparators_of_isVerbatim
    (Template.isVerbatim_of_notMem fun hm => absurd (hblank _ hm) (by decide)) s

/-- Tidying opens the statement and drops the stray separators of the whole block. -/
theorem tidy_eq {settings : Settings} (hblank : ∀ c ∈ settings.lineTerminator, isBlank c)
    (block : Text) (start : Nat) : tidy settings block start =
      .ok (dropSeparators settings.lineTerminator (openedAt settings block start)) := by
  rw [tidy, dropLoneSeparators_eq hblank]
  rfl

/-! ### Two parts of a text -/

/-- A text without the first character of a line terminator is passed over, if it ends with a
character that stands behind no brace. -/
theorem dropSeparators_append_of_notMem (hhead : terminator.head? = some c) (hc : c ∉ lead)
    (hlast : lead.getLast? = some e) (he : e ∉ '\x7d' :: ',' :: terminator) (t : Text) :
    dropSeparators terminator (lead ++ t) = lead ++ dropSeparators terminator t := by
  obtain ⟨rest, rfl⟩ := List.head?_eq_some_iff.mp hhead
  have hlone : ∀ x, x <:+ lead → x ≠ [] → loneSeparatorLength (c :: rest) (x ++ t) = 0 := by
    intro x hx hne
    obtain ⟨d, y, rfl⟩ := List.exists_cons_of_ne_nil hne
    refine loneSeparatorLength_eq_zero_iff.mpr ?_
    rintro p ⟨blanks, separator, rfl, -⟩ hbegin
    have hdc : c = d := (List.cons_prefix_cons.mp hbegin).1
    exact hc (hx.subset (hdc ▸ List.mem_cons_self))
  have hbrace : ¬ '\x7d' :: ',' :: c :: rest <:+: lead := fun h =>
    hc (h.subset (by simp))
  have he' : e ∉ ('\x7d' :: ',' :: c :: rest).dropLast := fun h => he (List.mem_of_mem_dropLast h)
  rw [dropSeparators, Text.substituteMatches_append_of_forall_eq_zero hlone, dropCommaAfterBrace,
    Text.replaceAll_append he' hlast, Text.replaceAll_eq_self hbrace]
  rfl

/-- No line with a separator only reaches into the text from a line terminator before it. -/
def BeginsAfresh (terminator t : Text) : Prop :=
  ∀ x, x <:+ terminator → x ≠ [] → loneSeparatorLength terminator (x ++ t) = 0

section Blank

variable (hblank : ∀ c ∈ terminator, isBlank c)

include hblank

theorem semicolon_notMem_terminator : ';' ∉ terminator := fun h => absurd (hblank _ h) (by decide)

/-- A lone separator that begins a text does not reach over the end of a statement. -/
theorem IsLoneSeparator.prefix_of_prefix_append (hp : IsLoneSeparator terminator p)
    (h : p <+: s ++ ';' :: terminator ++ t) : p <+: s ++ ';' :: terminator := by
  refine (List.prefix_or_prefix_of_prefix h (List.prefix_append ..)).elim id ?_
  rintro ⟨w, hw⟩
  obtain ⟨blanks, c, rfl, hblanks, -⟩ := hp
  -- the semicolon that ends the statement is the separator itself
  have hsemicolon : ';' ∉ terminator ++ blanks := fun hm =>
    (List.mem_append.mp hm).elim (semicolon_notMem_terminator hblank)
      fun hm => absurd (hblanks _ hm) (by decide)
  have hcut : terminator ++ blanks ++ c :: terminator = s ++ ';' :: (terminator ++ w) := by
    rw [List.append_assoc, ← hw]
    simp
  obtain ⟨-, -, hend⟩ := (List.append_cons_inj_of_notMem hsemicolon
    (semicolon_notMem_terminator hblank)).mp hcut
  obtain rfl : w = [] := by simpa using hend
  exact ⟨[], by simpa using hw.symm⟩

/-- A lone separator that begins before the end of a statement also ends there. -/
theorem loneSeparatorLength_append_of_suffix (ht : BeginsAfresh terminator t)
    (hx : x <:+ s ++ ';' :: terminator) (hne : x ≠ []) :
    loneSeparatorLength terminator (x ++ t) = loneSeparatorLength terminator x ∧
      loneSeparatorLength terminator x ≤ x.length := by
  have hborder : ∀ p, IsLoneSeparator terminator p → p <+: x ++ t → p <+: x := by
    intro p hp hbegin
    rcases List.suffix_or_suffix_of_suffix hx (List.suffix_append s (';' :: terminator)) with h | h
    · rcases List.suffix_cons_iff.mp h with rfl | h
      · exact hp.prefix_of_prefix_append hblank (s := []) hbegin
      · exact absurd hbegin (loneSeparatorLength_eq_zero_iff.mp (ht x h hne) p hp)
    · obtain ⟨y, rfl⟩ := h
      exact hp.prefix_of_prefix_append hblank hbegin
  by_cases hzero : loneSeparatorLength terminator x = 0
  · have hiff := loneSeparatorLength_eq_zero_iff.mp hzero
    rw [hzero, loneSeparatorLength_eq_zero_iff]
    exact ⟨fun p hp hbegin => hiff p hp (hborder p hp hbegin), Nat.zero_le _⟩
  · obtain ⟨p, hp, v, rfl⟩ := exists_of_loneSeparatorLength hzero
    rw [List.append_assoc, loneSeparatorLength_append hp, loneSeparatorLength_append hp,
      List.length_append]
    exact ⟨rfl, Nat.le_add_right _ _⟩

/-- **Tidying in two parts.** The text up to the end of a statement and a text that begins afresh
behind it are tidied on their own. -/
theorem dropSeparators_append (hlast : terminator.getLast? = some z) (hz : z ∉ terminator.dropLast)
    (ht : BeginsAfresh terminator t) (s : Text) :
    dropSeparators terminator (s ++ ';' :: terminator ++ t) =
      dropSeparators terminator (s ++ ';' :: terminator) ++ dropSeparators terminator t := by
  have hne : terminator ≠ [] := by
    rintro rfl
    simp at hlast
  have hbrace : z ∉ ('\x7d' :: ',' :: terminator).dropLast := by
    have hzblank := hblank z (List.mem_of_getLast? hlast)
    rw [List.dropLast_cons_of_ne_nil (by simp), List.dropLast_cons_of_ne_nil hne, List.mem_cons,
      List.mem_cons]
    rintro (rfl | rfl | h)
    · exact absurd hzblank (by decide)
    · exact absurd hzblank (by decide)
    · exact hz h
  simp only [dropSeparators, dropCommaAfterBrace]
  rw [Text.substituteMatches_append fun x hx hx' =>
      loneSeparatorLength_append_of_suffix hblank ht hx hx',
    Text.replaceAll_append hbrace]
  rw [getLast?_substitute_loneSeparators hne, List.getLast?_append_of_ne_nil _ (by simp),
    List.getLast?_cons_of_ne_nil hne, hlast]

theorem isTidy_append_iff (hlast : terminator.getLast? = some z) (hz : z ∉ terminator.dropLast)
    (ht : BeginsAfresh terminator t) (s : Text) :
    IsTidy terminator (s ++ ';' :: terminator ++ t) ↔
      IsTidy terminator (s ++ ';' :: terminator) ∧ IsTidy terminator t := by
  simp only [← dropSeparators_eq_self_iff]
  rw [dropSeparators_append hblank hlast hz ht]
  constructor
  · intro h
    have hlength := congrArg List.length h
    have hs := length_dropSeparators_le terminator (s ++ ';' :: terminator)
    have ht := length_dropSeparators_le terminator t
    rw [List.length_append, List.length_append] at hlength
    exact List.append_inj h (by omega)
  · rintro ⟨hs, ht⟩
    rw [hs, ht]

end Blank

end ResourceScript.Unquote
