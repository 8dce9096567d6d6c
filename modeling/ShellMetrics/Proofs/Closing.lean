import ShellMetrics.Proofs.LineEnds
import ShellMetrics.Proofs.Positions
import ShellMetrics.Proofs.Reader
import Mathlib.Data.Nat.Find

/-!
# Closing a body

Inside a function every line goes to the open body, and the line closes the body if it has a
closing brace and no quote mark reaches to one.  In a line without newlines a quote mark reaches to
everything behind it, so that it is enough to look at two positions: the last closing brace has to
come before the first quote mark.
-/

namespace ShellMetrics

namespace Line

/-- A quote mark of either kind stands at position `i`. -/
def IsQuoteAt (text : Text) (i : ℕ) : Prop := text[i]? = some '\'' ∨ text[i]? = some '"'

instance (text : Text) (i : ℕ) : Decidable (IsQuoteAt text i) := inferInstanceAs (Decidable (_ ∨ _))

/-- A closing brace stands at position `j`. -/
def IsBraceAt (text : Text) (j : ℕ) : Prop := text[j]? = some '}'

instance (text : Text) (j : ℕ) : Decidable (IsBraceAt text j) := inferInstanceAs (Decidable (_ = _))

/-- The first quote mark of either kind stands at position `i`. -/
def IsFirstQuote (text : Text) (i : ℕ) : Prop := IsQuoteAt text i ∧ ∀ k < i, ¬ IsQuoteAt text k

/-- The last closing brace stands at position `j`. -/
def IsLastBrace (text : Text) (j : ℕ) : Prop := IsBraceAt text j ∧ ∀ k, j < k → ¬ IsBraceAt text k

/-- Where there is a quote mark, there is a first one. -/
theorem exists_isFirstQuote_le {text : Text} {i : ℕ} (h : IsQuoteAt text i) :
    ∃ first ≤ i, IsFirstQuote text first := by
  have hexists : ∃ k, IsQuoteAt text k := ⟨i, h⟩
  refine ⟨Nat.find hexists, Nat.find_min' hexists h, Nat.find_spec hexists, ?_⟩
  intro k hk
  exact Nat.find_min hexists hk

theorem mem_of_isBraceAt {text : Text} {j : ℕ} (h : IsBraceAt text j) : '}' ∈ text :=
  List.mem_of_getElem? h

/-- Where there is a closing brace, there is a last one. -/
theorem exists_isLastBrace {text : Text} (h : '}' ∈ text) : ∃ j, IsLastBrace text j := by
  obtain ⟨i, hi⟩ : ∃ i, IsBraceAt text i := List.mem_iff_getElem?.1 h
  have hbound {k : ℕ} (hk : IsBraceAt text k) : k ≤ text.length :=
    (List.getElem?_eq_some_iff.1 hk).1.le
  refine ⟨Nat.findGreatest (IsBraceAt text) text.length, Nat.findGreatest_spec (hbound hi) hi, ?_⟩
  intro k hk hbrace
  exact Nat.findGreatest_is_greatest hk (hbound hbrace) hbrace

theorem isPrefixOf_brace_drop_iff (text : Text) (j : ℕ) :
    List.isPrefixOf ['}'] (text.drop j) = true ↔ IsBraceAt text j := by
  rw [IsBraceAt, List.isPrefixOf_iff_prefix, ← List.head?_drop]
  cases text.drop j with
  | nil => simp
  | cons c rest => simp [eq_comm]

/-- A line closes a body if it has a closing brace and no quote mark reaches to one. -/
theorem closes_iff (line : Text) :
    closes line = true ↔ '}' ∈ line ∧ ¬ ∃ i j, QuoteReaches line i j ∧ IsBraceAt line j := by
  have hquoted : behindQuote (List.isPrefixOf ['}']) line = true ↔
      ∃ i j, QuoteReaches line i j ∧ List.isPrefixOf ['}'] (line.drop j) = true :=
    behindQuote_iff rfl line
  simp only [isPrefixOf_brace_drop_iff] at hquoted
  rw [closes, Bool.and_eq_true, List.contains_iff_mem, Bool.not_eq_true', ← hquoted,
    Bool.not_eq_true]

/-- Within one line a quote mark reaches to every later position. -/
theorem quoteReaches_iff_of_notMem {text : Text} (h : '\n' ∉ text) (i j : ℕ) :
    QuoteReaches text i j ↔ i < j ∧ IsQuoteAt text i := by
  have hnone (k : ℕ) : text[k]? ≠ some '\n' := fun hk ↦ h (List.mem_of_getElem? hk)
  unfold QuoteReaches IsQuoteAt
  simp [hnone]

theorem IsQuoteAt.not_isBraceAt {text : Text} {i : ℕ} (h : IsQuoteAt text i) :
    ¬ IsBraceAt text i := by
  intro hbrace
  unfold IsBraceAt at hbrace
  rcases h with hquote | hquote <;> simp [hbrace] at hquote

/-- In a line without newlines only the last closing brace and the first quote mark matter. -/
theorem closes_iff_isLastBrace_lt {line : Text} (h : '\n' ∉ line) :
    closes line = true ↔ ∃ j, IsLastBrace line j ∧ ∀ i, IsFirstQuote line i → j < i := by
  rw [closes_iff]
  simp only [quoteReaches_iff_of_notMem h]
  constructor
  · rintro ⟨hbrace, hreaches⟩
    obtain ⟨j, hj⟩ := exists_isLastBrace hbrace
    refine ⟨j, hj, ?_⟩
    intro i hi
    by_contra hle
    have hne : i ≠ j := by
      rintro rfl
      exact hi.1.not_isBraceAt hj.1
    exact hreaches ⟨i, j, ⟨by omega, hi.1⟩, hj.1⟩
  · rintro ⟨j, hj, hfirst⟩
    refine ⟨mem_of_isBraceAt hj.1, ?_⟩
    rintro ⟨i, k, ⟨hik, hquote⟩, hbrace⟩
    obtain ⟨first, hle, hisFirst⟩ := exists_isFirstQuote_le hquote
    have hlast : k ≤ j := by
      by_contra hlt
      exact hj.2 k (by omega) hbrace
    have hlt := hfirst first hisFirst
    omega

end Line

namespace Reader

/-- The line that is read while a body is open closes it or leaves it open. -/
theorem active_feed_eq_none_iff {reader : Reader} {name : Text} (h : reader.active = some name)
    (line : Text) : (reader.feed line).active = none ↔ Line.closes line = true := by
  rw [feed_of_inside h]
  simp

/-- Inside a function a line closes the body if and only if it has a closing brace and no quote
mark reaches to one, which in a line without newlines means that its last closing brace comes
before its first quote mark.  Every other line, a declaration among them, leaves the same body
open.  In both cases the line is put at the end of the open body, and no other body changes. -/
theorem feed_inside_closes_iff {reader : Reader} {name : Text} (h : reader.active = some name)
    (line : Text) :
    ((reader.feed line).active = none ↔
        '}' ∈ line ∧ ¬ ∃ i j, Line.QuoteReaches line i j ∧ Line.IsBraceAt line j) ∧
      (∀ content, line ∈ Script.splitLines content → '\n' ∉ line) ∧
      ('\n' ∉ line →
        ((reader.feed line).active = none ↔
          ∃ j, Line.IsLastBrace line j ∧ ∀ i, Line.IsFirstQuote line i → j < i)) ∧
      ((reader.feed line).active ≠ none → (reader.feed line).active = some name) ∧
      (reader.feed line).bodies.find? name = some (reader.bodies.itemsAt name ++ [line]) ∧
      (∀ other, other ≠ name →
        (reader.feed line).bodies.find? other = reader.bodies.find? other) ∧
      reader.bodies.keys <+: (reader.feed line).bodies.keys := by
  have hactive := active_feed_eq_none_iff h line
  refine ⟨?_, ?_, ?_, ?_, ?_, ?_, ?_⟩
  · rw [hactive, Line.closes_iff]
  · intro content
    exact Script.newline_notMem_of_mem_splitLines
  · intro hline
    rw [hactive, Line.closes_iff_isLastBrace_lt hline]
  · intro hopen
    rw [feed_of_inside h] at hopen ⊢
    simpa using hopen
  · rw [feed_of_inside h, Ledger.push, Ledger.find?_alter, if_pos rfl]
    rfl
  · intro other hother
    rw [feed_of_inside h, Ledger.push, Ledger.find?_alter, if_neg hother]
  · rw [feed_of_inside h, Ledger.keys_push]
    split
    · exact List.prefix_rfl
    · exact List.prefix_append _ _

/-- A declaration inside a function is one more line of it, since a quote mark reaches to its brace.
A brace before the quote marks closes the function. -/
theorem feed_inside_declaration :
    let reader : Reader := ⟨Ledger.empty.push ['f'] ['x'], some ['f']⟩
    let nested := Text.lit "g() \x7b echo 'a'; \x7d"
    let closing := Text.lit "\x7d; echo 'a'"
    reader.active = some ['f'] ∧ Line.declares nested = true ∧
      (reader.feed nested).active = some ['f'] ∧
      (reader.feed nested).bodies.find? ['f'] = some [['x'], nested] ∧
      '\n' ∉ closing ∧ (reader.feed closing).active = none ∧
      ∃ j, Line.IsLastBrace closing j ∧ ∀ i, Line.IsFirstQuote closing i → j < i := by
  intro reader nested closing
  have hactive : reader.active = some ['f'] := rfl
  have hreaches : Line.QuoteReaches nested 11 16 := ⟨by decide, by decide, by decide⟩
  have hnewline : '\n' ∉ closing := by decide
  have hclosed : (reader.feed closing).active = none := by decide
  obtain ⟨hcloses, -, -, hopen, hbody, -⟩ := feed_inside_closes_iff hactive nested
  obtain ⟨-, -, hlast, -⟩ := feed_inside_closes_iff hactive closing
  have hstays : (reader.feed nested).active ≠ none := by
    intro hnone
    exact (hcloses.1 hnone).2 ⟨11, 16, hreaches, by decide⟩
  exact ⟨hactive, by decide, hopen hstays, hbody, hnewline, hclosed, (hlast hnewline).1 hclosed⟩

end Reader

end ShellMetrics
