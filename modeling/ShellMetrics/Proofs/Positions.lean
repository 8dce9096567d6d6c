import ShellMetrics.Line
import Mathlib.Data.List.Infix
import Mathlib.Data.List.TakeWhile

/-!
# Positions in a line

What is found by going over a line once can be said by positions.  A word stands at the start if
the line is that word and a rest, a word occurs if it stands somewhere in the line, and something
stands behind a quote if some earlier position holds a quote mark and no newline lies between the
two.
-/

namespace ShellMetrics

/-! ## What stands at the start -/

/-- What is left after a word is what stands behind it. -/
theorem Text.after?_eq_some_iff {word text rest : Text} :
    Text.after? word text = some rest ↔ text = word ++ rest := by
  fun_induction Text.after? word text with
  | case1 text => simp
  | case2 => simp
  | case3 word c text ih => simpa using ih
  | case4 w word c text hne =>
    have hne : ¬ c = w := fun heq ↦ hne heq.symm
    simp [hne]

theorem Text.dropWhile_append_cons {skip : Char → Bool} {before : Text}
    (hbefore : ∀ c ∈ before, skip c = true) {c : Char} (hc : skip c = false) (rest : Text) :
    (before ++ c :: rest).dropWhile skip = c :: rest := by
  rw [List.dropWhile_append_of_pos hbefore, List.dropWhile_cons_of_neg (by simp [hc])]

/-- What is left once characters have been skipped has only such characters before it. -/
theorem Text.exists_append_of_dropWhile {skip : Char → Bool} {text behind : Text}
    (h : text.dropWhile skip = behind) :
    ∃ before, (∀ c ∈ before, skip c = true) ∧ text = before ++ behind := by
  refine ⟨text.takeWhile skip, fun c ↦ List.mem_takeWhile_imp, ?_⟩
  rw [← h, List.takeWhile_append_dropWhile]

/-! ## Occurrences -/

theorem Text.occurs_iff_infix (word text : Text) :
    Text.occurs word text = true ↔ word <:+: text := by
  induction text with
  | nil => simp [occurs]
  | cons c rest ih => simp [occurs, ih, List.infix_cons_iff]

section Separator

variable {word : Text} {separator : Char} (hword : separator ∉ word)
include hword

/-- A word does not reach over a character that it does not have. -/
theorem Text.prefix_append_cons_iff (before after : Text) :
    word <+: before ++ separator :: after ↔ word <+: before := by
  constructor
  · intro h
    rcases Nat.lt_or_ge before.length word.length with hlong | hshort
    · have hbefore : before ++ [separator] <+: before ++ separator :: after := by simp
      have hlength : (before ++ [separator]).length ≤ word.length := by
        rw [List.length_append, List.length_singleton]
        omega
      have hsubset := (List.prefix_of_prefix_length_le hbefore h hlength).subset
      exact absurd (hsubset (by simp)) hword
    · exact List.prefix_of_prefix_length_le h (List.prefix_append before _) hshort
  · intro h
    exact h.trans (List.prefix_append before _)

/-- A word without the separator does not reach over it. -/
theorem Text.infix_append_cons_iff (before after : Text) :
    word <:+: before ++ separator :: after ↔ word <:+: before ∨ word <:+: after := by
  induction before with
  | nil =>
    have hnil := Text.prefix_append_cons_iff hword [] after
    rw [List.nil_append] at hnil ⊢
    rw [List.infix_cons_iff, hnil, List.infix_nil, List.prefix_nil]
  | cons c before ih =>
    rw [List.cons_append, List.infix_cons_iff, List.infix_cons_iff, ih, ← List.cons_append,
      Text.prefix_append_cons_iff hword, or_assoc]

end Separator

namespace Line

/-! ## Behind a quote -/

/-- A quote mark stands at position `i`, before `j`, and no newline stands between the two. -/
def QuoteReaches (text : Text) (i j : ℕ) : Prop :=
  i < j ∧ (text[i]? = some '\'' ∨ text[i]? = some '"') ∧ ∀ k < j, i < k → text[k]? ≠ some '\n'

/-- No newline stands before position `j`. -/
def NoNewlineBefore (text : Text) (j : ℕ) : Prop := ∀ k < j, text[k]? ≠ some '\n'

theorem noNewlineBefore_cons_succ (c : Char) (rest : Text) (j : ℕ) :
    NoNewlineBefore (c :: rest) (j + 1) ↔ c ≠ '\n' ∧ NoNewlineBefore rest j := by
  unfold NoNewlineBefore
  rw [Nat.forall_lt_succ_left]
  simp

/-- The first character reaches as far as there is no newline. -/
theorem quoteReaches_cons_zero (c : Char) (rest : Text) (j : ℕ) :
    QuoteReaches (c :: rest) 0 (j + 1) ↔ isQuote c = true ∧ NoNewlineBefore rest j := by
  unfold QuoteReaches NoNewlineBefore
  rw [Nat.forall_lt_succ_left]
  simp [isQuote]

theorem quoteReaches_cons_succ (c : Char) (rest : Text) (i j : ℕ) :
    QuoteReaches (c :: rest) (i + 1) (j + 1) ↔ QuoteReaches rest i j := by
  unfold QuoteReaches
  rw [Nat.forall_lt_succ_left]
  simp

/-- The scan finds what has a quote mark before it, in the text or, if the flag is set, before the
text. -/
theorem foundBehindQuote_iff {found : Text → Bool} (hnil : found [] = false) (seen : Bool)
    (text : Text) :
    foundBehindQuote found seen text = true ↔
      (∃ j, seen = true ∧ NoNewlineBefore text j ∧ found (text.drop j) = true) ∨
        ∃ i j, QuoteReaches text i j ∧ found (text.drop j) = true := by
  induction text generalizing seen with
  | nil => simp [foundBehindQuote, hnil]
  | cons c rest ih =>
    have hstep : (c ≠ '\n' && (seen || isQuote c)) = true ↔
        seen = true ∧ c ≠ '\n' ∨ isQuote c = true := by
      by_cases hc : isQuote c = true
      · have hne : c ≠ '\n' := by
          rintro rfl
          exact absurd hc (by decide)
        simp [hc, hne]
      · simp [hc, and_comm]
    rw [foundBehindQuote, Bool.or_eq_true, ih]
    simp only [hstep]
    constructor
    · rintro (h | ⟨j, ⟨hseen, hc⟩ | hquote, hclear, hfound⟩ | ⟨i, j, hreaches, hfound⟩)
      · obtain ⟨hseen, hfound⟩ := Bool.and_eq_true_iff.1 h
        exact .inl ⟨0, hseen, fun k hk ↦ absurd hk (by omega), hfound⟩
      · exact .inl ⟨j + 1, hseen, (noNewlineBefore_cons_succ c rest j).2 ⟨hc, hclear⟩, hfound⟩
      · exact .inr ⟨0, j + 1, (quoteReaches_cons_zero c rest j).2 ⟨hquote, hclear⟩, hfound⟩
      · exact .inr ⟨i + 1, j + 1, (quoteReaches_cons_succ c rest i j).2 hreaches, hfound⟩
    · rintro (⟨j, hseen, hclear, hfound⟩ | ⟨i, j, hreaches, hfound⟩)
      · cases j with
        | zero => exact .inl (Bool.and_eq_true_iff.2 ⟨hseen, hfound⟩)
        | succ j =>
          obtain ⟨hc, hclear⟩ := (noNewlineBefore_cons_succ c rest j).1 hclear
          exact .inr (.inl ⟨j, .inl ⟨hseen, hc⟩, hclear, hfound⟩)
      · cases j with
        | zero => exact absurd hreaches.1 (Nat.not_lt_zero i)
        | succ j =>
          cases i with
          | zero =>
            obtain ⟨hquote, hclear⟩ := (quoteReaches_cons_zero c rest j).1 hreaches
            exact .inr (.inl ⟨j, .inr hquote, hclear, hfound⟩)
          | succ i =>
            exact .inr (.inr ⟨i, j, (quoteReaches_cons_succ c rest i j).1 hreaches, hfound⟩)

/-- Something is found behind a quote if and only if a quote mark reaches to it. -/
theorem behindQuote_iff {found : Text → Bool} (hnil : found [] = false) (text : Text) :
    behindQuote found text = true ↔ ∃ i j, QuoteReaches text i j ∧ found (text.drop j) = true := by
  rw [behindQuote, foundBehindQuote_iff hnil]
  simp

/-- The scan for what does not reach over spaces does not see how many of them there are. -/
theorem foundBehindQuote_space_space {found : Text → Bool}
    (hfound : ∀ before after, found (before ++ ' ' :: after) = found before)
    (hnil : found [] = false) (seen : Bool) (before after : Text) :
    foundBehindQuote found seen (before ++ ' ' :: ' ' :: after) =
      foundBehindQuote found seen (before ++ ' ' :: after) := by
  induction before generalizing seen with
  | nil =>
    have hspace : found (' ' :: ' ' :: after) = false := by
      rw [← hnil, ← hfound [] (' ' :: after), List.nil_append]
    rw [List.nil_append, List.nil_append, foundBehindQuote, hspace]
    simp [isQuote]
  | cons c before ih =>
    rw [List.cons_append, List.cons_append, foundBehindQuote, foundBehindQuote, ih,
      ← List.cons_append, ← List.cons_append, hfound, hfound]

end Line

end ShellMetrics
