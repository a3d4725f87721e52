import ResourceScript.Proofs.Unquote.Pairing
import ResourceScript.Proofs.Unquote.Separators

/-!
# The content of a block

Stripping the quotes of a parameter changes how a block is laid out and punctuated, and nothing
else. Stripping itself deletes quotes. Tidying a composite value takes away backticks, lines with a
separator only and commas behind braces, and it puts a line terminator and an indentation before a
closing parenthesis. With a blank line terminator none of this touches the other characters, the
*content* of the block: none is lost or written twice, and their order stays.

## Main definitions

* `Unquote.isContent`, `Unquote.content`: the characters that are neither blank nor punctuation.
* `Unquote.KeptByTidying`: the classes of characters that tidying leaves alone.

## Main results

* `Unquote.KeptByTidying.filter_tidy`: tidying keeps the characters of such a class.
* `Unquote.content_stripQuotes`: stripping succeeds and keeps the content.
-/

namespace ResourceScript.Unquote

open Text (isBlank escapeLead)

/-- Whether a character is neither blank nor one of the signs that stripping may take away: the
quotes of both kinds, the backtick, the comma and the semicolon. -/
def isContent (c : Char) : Bool :=
  !isBlank c && !isQuote c && c != escapeLead && c != ',' && c != ';'

/-- The content of a text. -/
def content (s : Text) : Text := s.filter isContent

variable {settings : Settings} {terminator s t : Text} {start stop : Nat}

@[simp] theorem content_append (s t : Text) : content (s ++ t) = content s ++ content t :=
  List.filter_append s t

/-- Deleting quotes keeps the content. -/
theorem content_deleteAt_boundaries {composite : Bool} :
    content (Text.deleteAt (boundaries s start stop composite) s) = content s :=
  deletesOnly_boundaries.filter_deleteFrom fun c hc => by simp [isContent, hc]

/-! ### Tidying -/

/-- Tidying neither adds nor takes away characters of a class that has no blanks and none of the
backtick, the comma and the semicolon. -/
structure KeptByTidying (q : Char → Bool) : Prop where
  blank : ∀ c, isBlank c → q c = false
  escapeLead_eq : q escapeLead = false
  comma_eq : q ',' = false
  semicolon_eq : q ';' = false

theorem keptByTidying_isContent : KeptByTidying isContent where
  blank c hc := by simp [isContent, hc]
  escapeLead_eq := by decide
  comma_eq := by decide
  semicolon_eq := by decide

/-- The statement that begins at a position is what stands between the rest of the block before it
and behind it. -/
theorem take_append_statement_append_drop (settings : Settings) (s : Text) (start : Nat) :
    s.take start ++ (s.take (statementStop settings s start)).drop start ++
      s.drop (statementStop settings s start) = s := by
  by_cases hle : start ≤ statementStop settings s start
  · have hbefore : (s.take (statementStop settings s start)).take start = s.take start := by
      rw [List.take_take, Nat.min_eq_left hle]
    rw [← hbefore, List.take_append_drop, List.take_append_drop]
  · -- the search begins behind the end of the block, where nothing is found
    have hstop : statementStop settings s start = s.length := by
      rw [statementStop, Text.findFrom?] at hle ⊢
      cases hfind : Text.find? settings.statementEnd (s.drop start) with
      | none => rfl
      | some n =>
        rw [hfind] at hle
        exact absurd (Nat.le_add_left start n) hle
    rw [hstop] at hle ⊢
    rw [List.drop_length, List.take_length, List.append_nil, List.take_append_drop]

namespace KeptByTidying

variable {q : Char → Bool} (hq : KeptByTidying q)

include hq

theorem filter_eq_nil (h : ∀ c ∈ s, isBlank c) : s.filter q = [] :=
  List.filter_eq_nil_iff.mpr fun c hc => by simp [hq.blank c (h c hc)]

/-- Unescaping the quotes of a statement and moving its closing parenthesis. -/
theorem filter_openStatement (hblank : ∀ c ∈ settings.lineTerminator, isBlank c) (s : Text) :
    (openStatement settings s).filter q = s.filter q := by
  have hplain : (Text.replaceAll [escapeLead, '\x22'] ['\x22'] s).filter q = s.filter q :=
    Text.filter_replaceAll (by simp [hq.escapeLead_eq]) s
  have hindent : settings.indent.filter q = [] :=
    hq.filter_eq_nil (List.all_eq_true.mp settings.indent_blank)
  rw [openStatement]
  split
  · next hend =>
    obtain ⟨init, hinit⟩ := List.isSuffixOf_iff_suffix.mp hend
    have hlast : (init ++ ['\x22', ')']).dropLast = init ++ ['\x22'] := by simp
    have hcut : ['\x22', ')'] = ['\x22'] ++ [')'] := rfl
    rw [← hplain, ← hinit, hlast, hcut]
    simp only [List.filter_append, hindent, hq.filter_eq_nil hblank, List.nil_append,
      List.append_assoc]
  · exact hplain

section Separators

variable (hblank : ∀ c ∈ terminator, isBlank c)

include hblank

/-- A line with a separator only holds no character of the class. -/
theorem filter_take_loneSeparatorLength (s : Text) :
    (s.take (loneSeparatorLength terminator s)).filter q = [] := by
  by_cases h : loneSeparatorLength terminator s = 0
  · rw [h, List.take_zero]
    rfl
  · obtain ⟨blanks, c, htake, hblanks, hseparator⟩ := isLoneSeparator_take h
    have hc : q c = false := by
      rcases hseparator with rfl | rfl
      exacts [hq.comma_eq, hq.semicolon_eq]
    simp [htake, hq.filter_eq_nil hblank, hq.filter_eq_nil hblanks, hc]

/-- Dropping the lines with a separator only. -/
theorem filter_substitute_loneSeparators (s : Text) :
    (Text.substituteMatches (loneSeparatorLength terminator) (fun _ => terminator) s).filter q =
      s.filter q := by
  refine Text.filter_substituteMatches (fun t _ => ?_) s
  exact (hq.filter_eq_nil hblank).trans (hq.filter_take_loneSeparatorLength hblank t).symm

omit hblank in
/-- Dropping the comma behind a brace. -/
theorem filter_dropCommaAfterBrace (s : Text) :
    (dropCommaAfterBrace terminator s).filter q = s.filter q :=
  Text.filter_replaceAll (by simp [List.filter_cons, hq.comma_eq]) s

/-- Dropping stray separators. -/
theorem filter_dropSeparators (s : Text) :
    (dropSeparators terminator s).filter q = s.filter q := by
  rw [dropSeparators, hq.filter_dropCommaAfterBrace, hq.filter_substitute_loneSeparators hblank]

end Separators

/-- Tidying a block. -/
theorem filter_tidy (hblank : ∀ c ∈ settings.lineTerminator, isBlank c) (s : Text) (start : Nat) :
    ∃ tidied, tidy settings s start = .ok tidied ∧ tidied.filter q = s.filter q := by
  refine ⟨_, tidy_eq hblank s start, ?_⟩
  rw [hq.filter_dropSeparators hblank]
  simp only [openedAt, List.filter_append, hq.filter_openStatement hblank]
  rw [← List.filter_append, ← List.filter_append, take_append_statement_append_drop]

end KeptByTidying

/-- Dropping stray separators keeps the content. -/
theorem content_dropSeparators (hblank : ∀ c ∈ terminator, isBlank c) (s : Text) :
    content (dropSeparators terminator s) = content s :=
  keptByTidying_isContent.filter_dropSeparators hblank s

/-- Tidying keeps the content. -/
theorem content_tidy (hblank : ∀ c ∈ settings.lineTerminator, isBlank c) (s : Text) (start : Nat) :
    ∃ tidied, tidy settings s start = .ok tidied ∧ content tidied = content s :=
  keptByTidying_isContent.filter_tidy hblank s start

/-- **Stripping keeps the content.** Stripping the quotes of any name from any text succeeds, and
besides blanks, quotes, backticks, commas and semicolons no character is lost, added or moved past
another one. -/
theorem content_stripQuotes (hblank : settings.lineTerminator.all isBlank) (composite : Bool)
    (name block : Text) :
    ∃ stripped, stripQuotes settings composite name block = .ok stripped ∧
      content stripped = content block := by
  rw [stripQuotes]
  cases findAssignment? name block with
  | none => exact ⟨block, rfl, rfl⟩
  | some start =>
    simp only
    cases hpaired : boundaries block start (statementStop settings block start) composite with
    | nil => exact ⟨block, rfl, rfl⟩
    | cons p ps =>
      have hdelete : content (Text.deleteAt (p :: ps) block) = content block :=
        hpaired ▸ content_deleteAt_boundaries
      simp only
      split
      · rw [← hdelete]
        exact content_tidy (List.all_eq_true.mp hblank) _ start
      · exact ⟨_, rfl, hdelete⟩

/-- A composite value with a nested literal, of which the outer quotes, a line with a comma only and
the comma behind the brace go. -/
theorem content_stripQuotes_composite :
    let block := "A = \"@(P\x7b k = \"v\" \x7d,\r\n ,\r\nQ)\";\r\n".toList
    let stripped := "A = @(P\x7b k = \"v\" \x7d\r\nQ);\r\n".toList
    Settings.standard.lineTerminator.all isBlank ∧
      stripQuotes .standard true ['A'] block = .ok stripped ∧ content stripped = content block := by
  intro block stripped
  have hblank : Settings.standard.lineTerminator.all isBlank := by decide
  have hstripped : stripQuotes .standard true ['A'] block = .ok stripped := by decide
  obtain ⟨s, hs, hcontent⟩ := content_stripQuotes hblank true ['A'] block
  obtain rfl : stripped = s := Except.ok.inj (hstripped.symm.trans hs)
  exact ⟨hblank, hstripped, hcontent⟩

end ResourceScript.Unquote
