import ShellMetrics.Proofs.Counts
import ShellMetrics.Proofs.Positions
import Mathlib.Algebra.Order.BigOperators.Group.List
import Mathlib.Algebra.Order.Group.Nat
import Mathlib.Data.Finset.Prod
import Mathlib.Data.Finset.Union

/-!
# Complexity by positions

The complexity of a body is one plus a count over its lines, and the count of a line can be read
off its positions.  A line branches once if it holds a keyword and no opener has a quote before it,
and once more for each maximal run of characters other than spaces that holds an operator.  Since
the count of a body is a sum over its lines, neither their order nor the number of spaces between
words matters.
-/

namespace ShellMetrics.Branch

/-! ## Keywords -/

/-- The line holds a keyword, and no quote mark reaches to a place where an opener stands. -/
def IsBranching (line : Text) : Prop :=
  (∃ word ∈ [Text.lit "if", Text.lit "while", Text.lit "for", Text.lit ";;"], word <:+: line) ∧
    ¬ ∃ i j, Line.QuoteReaches line i j ∧
      ∃ word ∈ [Text.lit "if", Text.lit "while", Text.lit "for"], word <+: line.drop j

theorem startsWithOpener_iff (text : Text) :
    startsWithOpener text = true ↔
      ∃ word ∈ [Text.lit "if", Text.lit "while", Text.lit "for"], word <+: text := by
  simp only [startsWithOpener, List.any_eq_true, List.isPrefixOf_iff_prefix]
  rfl

theorem startsWithOpener_nil : startsWithOpener [] = false := by decide

theorem keywords_any_occurs_iff (line : Text) :
    keywords.any (Text.occurs · line) = true ↔
      ∃ word ∈ [Text.lit "if", Text.lit "while", Text.lit "for", Text.lit ";;"],
        word <:+: line := by
  simp only [List.any_eq_true, Text.occurs_iff_infix]
  rfl

theorem isBranching_iff (line : Text) :
    IsBranching line ↔
      (keywords.any (Text.occurs · line) && !Line.behindQuote startsWithOpener line) = true := by
  have hquoted := Line.behindQuote_iff startsWithOpener_nil line
  simp only [startsWithOpener_iff] at hquoted
  rw [IsBranching, ← hquoted, ← keywords_any_occurs_iff, Bool.and_eq_true, Bool.not_eq_true,
    Bool.not_eq_true']

instance : DecidablePred IsBranching := fun line ↦ decidable_of_iff _ (isBranching_iff line).symm

/-- A line counts once at most, however many keywords it holds. -/
theorem keyword_eq (line : Text) : keyword line = if IsBranching line then 1 else 0 := by
  unfold keyword
  exact if_congr (isBranching_iff line).symm rfl rfl

/-! ## Operators -/

/-- A maximal run of characters other than spaces, from position `i` up to position `j`. -/
def IsRun (text : Text) (i j : ℕ) : Prop :=
  i < j ∧ j ≤ text.length ∧ (∀ k < j, i ≤ k → text[k]? ≠ some ' ') ∧
    (i = 0 ∨ text[i - 1]? = some ' ') ∧ (j = text.length ∨ text[j]? = some ' ')

instance (text : Text) (i j : ℕ) : Decidable (IsRun text i j) := inferInstanceAs (Decidable (_ ∧ _))

/-- One of the conditional operators stands in the text. -/
def HoldsOperator (text : Text) : Prop := Text.lit "&&" <:+: text ∨ Text.lit "||" <:+: text

instance : DecidablePred HoldsOperator := fun _ ↦ inferInstanceAs (Decidable (_ ∨ _))

/-- The ends of the maximal runs without spaces that hold an operator. -/
def conditionRuns (line : Text) : Finset (ℕ × ℕ) :=
  (Finset.range (line.length + 1) ×ˢ Finset.range (line.length + 1)).filter fun ends ↦
    IsRun line ends.1 ends.2 ∧ HoldsOperator ((line.take ends.2).drop ends.1)

/-- The runs with an operator are found by their ends. -/
theorem mem_conditionRuns_iff {line : Text} {i j : ℕ} :
    (i, j) ∈ conditionRuns line ↔ IsRun line i j ∧ HoldsOperator ((line.take j).drop i) := by
  unfold conditionRuns
  rw [Finset.mem_filter, Finset.mem_product, Finset.mem_range, Finset.mem_range]
  constructor
  · intro h
    exact h.2
  · intro h
    obtain ⟨hlt, hle, -⟩ := h.1
    exact ⟨⟨by omega, by omega⟩, h⟩

section Space

variable (before after : Text)

theorem length_space :
    (before ++ ' ' :: after).length = before.length + 1 + after.length := by
  rw [List.length_append, List.length_cons]
  omega

theorem getElem?_before {k : ℕ} (h : k < before.length) :
    (before ++ ' ' :: after)[k]? = before[k]? := List.getElem?_append_left h

theorem getElem?_space : (before ++ ' ' :: after)[before.length]? = some ' ' := by
  simp

theorem getElem?_after (k : ℕ) : (before ++ ' ' :: after)[before.length + 1 + k]? = after[k]? := by
  rw [List.getElem?_append_right (by omega)]
  have hindex : before.length + 1 + k - before.length = k + 1 := by omega
  rw [hindex, List.getElem?_cons_succ]

/-- A run does not go over a space. -/
theorem IsRun.le_or_le {before after : Text} {i j : ℕ} (h : IsRun (before ++ ' ' :: after) i j) :
    j ≤ before.length ∨ before.length + 1 ≤ i := by
  obtain ⟨-, -, hspaces, -⟩ := h
  by_contra hcross
  exact hspaces before.length (by omega) (by omega) (getElem?_space before after)

/-- Nothing behind a space has a part in a run before it. -/
theorem isRun_before_iff {i j : ℕ} (hj : j ≤ before.length) :
    IsRun (before ++ ' ' :: after) i j ↔ IsRun before i j := by
  unfold IsRun
  rw [length_space]
  constructor
  · rintro ⟨hlt, -, hspaces, hleft, hright⟩
    refine ⟨hlt, hj, ?_, ?_, ?_⟩
    · intro k hk hik
      rw [← getElem?_before before after (by omega)]
      exact hspaces k hk hik
    · rwa [getElem?_before before after (by omega)] at hleft
    · rcases Nat.eq_or_lt_of_le hj with hend | hinside
      · exact .inl hend
      · rw [getElem?_before before after hinside] at hright
        exact .inr (hright.resolve_left (by omega))
  · rintro ⟨hlt, -, hspaces, hleft, hright⟩
    refine ⟨hlt, by omega, ?_, ?_, ?_⟩
    · intro k hk hik
      rw [getElem?_before before after (by omega)]
      exact hspaces k hk hik
    · rwa [getElem?_before before after (by omega)]
    · rcases Nat.eq_or_lt_of_le hj with rfl | hinside
      · exact .inr (getElem?_space before after)
      · rw [getElem?_before before after hinside]
        exact .inr (hright.resolve_left (by omega))

/-- Nothing before a space has a part in a run behind it. -/
theorem isRun_after_iff (i j : ℕ) :
    IsRun (before ++ ' ' :: after) (before.length + 1 + i) (before.length + 1 + j) ↔
      IsRun after i j := by
  have hleft : (before.length + 1 + i = 0 ∨
      (before ++ ' ' :: after)[before.length + 1 + i - 1]? = some ' ') ↔
        (i = 0 ∨ after[i - 1]? = some ' ') := by
    cases i with
    | zero => simp
    | succ i =>
      have hindex : before.length + 1 + (i + 1) - 1 = before.length + 1 + i := by omega
      rw [hindex, getElem?_after]
      simp
  have hspaces : (∀ k < before.length + 1 + j, before.length + 1 + i ≤ k →
      (before ++ ' ' :: after)[k]? ≠ some ' ') ↔ ∀ k < j, i ≤ k → after[k]? ≠ some ' ' := by
    constructor
    · intro h k hk hik
      rw [← getElem?_after before after]
      exact h _ (by omega) (by omega)
    · intro h k hk hik
      obtain ⟨k, rfl⟩ : ∃ m, k = before.length + 1 + m := ⟨k - (before.length + 1), by omega⟩
      rw [getElem?_after]
      exact h k (by omega) (by omega)
  unfold IsRun
  rw [length_space, hleft, hspaces, getElem?_after]
  simp only [Nat.add_lt_add_iff_left, Nat.add_le_add_iff_left, Nat.add_left_cancel_iff]

/-- The text of a run on either side of the space. -/
theorem take_drop_before {i j : ℕ} (hj : j ≤ before.length) :
    ((before ++ ' ' :: after).take j).drop i = (before.take j).drop i := by
  rw [List.take_append_of_le_length hj]

theorem take_drop_after (i j : ℕ) :
    ((before ++ ' ' :: after).take (before.length + 1 + j)).drop (before.length + 1 + i) =
      (after.take j).drop i := by
  have hdrop : (before ++ ' ' :: after).drop (before.length + 1 + i) = after.drop i := by
    rw [List.drop_append, List.drop_eq_nil_of_le (by omega), List.nil_append]
    have hindex : before.length + 1 + i - before.length = i + 1 := by omega
    rw [hindex, List.drop_succ_cons]
  rw [List.drop_take, List.drop_take, hdrop, Nat.add_sub_add_left]

/-- The positions of a run behind the space. -/
def behind (ends : ℕ × ℕ) : ℕ × ℕ := (before.length + 1 + ends.1, before.length + 1 + ends.2)

theorem behind_injective : Function.Injective (behind before) := by
  intro ends others h
  unfold behind at h
  rw [Prod.mk.injEq] at h
  exact Prod.ext (by omega) (by omega)

theorem behind_mem_conditionRuns_iff (ends : ℕ × ℕ) :
    behind before ends ∈ conditionRuns (before ++ ' ' :: after) ↔ ends ∈ conditionRuns after := by
  unfold behind
  rw [mem_conditionRuns_iff, mem_conditionRuns_iff, isRun_after_iff, take_drop_after]

/-- The runs of a line are those on the two sides of a space. -/
theorem conditionRuns_append :
    conditionRuns (before ++ ' ' :: after) =
      conditionRuns before ∪ (conditionRuns after).image (behind before) := by
  ext ⟨i, j⟩
  rw [Finset.mem_union, Finset.mem_image]
  constructor
  · intro h
    rcases (mem_conditionRuns_iff.1 h).1.le_or_le with hj | hi
    · rw [mem_conditionRuns_iff, isRun_before_iff before after hj,
        take_drop_before before after hj] at h
      exact .inl (mem_conditionRuns_iff.2 h)
    · have hlt : i < j := (mem_conditionRuns_iff.1 h).1.1
      have hends : behind before (i - (before.length + 1), j - (before.length + 1)) = (i, j) :=
        Prod.ext (by simp only [behind]; omega) (by simp only [behind]; omega)
      rw [← hends, behind_mem_conditionRuns_iff] at h
      exact .inr ⟨_, h, hends⟩
  · rintro (h | ⟨ends, hends, hbehind⟩)
    · have hj : j ≤ before.length := (mem_conditionRuns_iff.1 h).1.2.1
      rw [mem_conditionRuns_iff, isRun_before_iff before after hj,
        take_drop_before before after hj]
      exact mem_conditionRuns_iff.1 h
    · rw [← hbehind, behind_mem_conditionRuns_iff]
      exact hends

/-- A space parts the runs of a line. -/
theorem card_conditionRuns_append :
    (conditionRuns (before ++ ' ' :: after)).card =
      (conditionRuns before).card + (conditionRuns after).card := by
  have hdisjoint : Disjoint (conditionRuns before)
      ((conditionRuns after).image (behind before)) := by
    rw [Finset.disjoint_left]
    intro ends hbefore hafter
    obtain ⟨others, -, rfl⟩ := Finset.mem_image.1 hafter
    have hle : (behind before others).2 ≤ before.length := (mem_conditionRuns_iff.1 hbefore).1.2.1
    simp only [behind] at hle
    omega
  rw [conditionRuns_append, Finset.card_union_of_disjoint hdisjoint,
    Finset.card_image_of_injective _ (behind_injective before)]

theorem condition_append :
    condition (before ++ ' ' :: after) = condition before + condition after := by
  unfold condition
  rw [List.splitOn_append_cons_self, List.countP_append]

end Space

/-- A text without spaces is one run. -/
theorem isRun_iff_of_notMem {text : Text} (h : ' ' ∉ text) (i j : ℕ) :
    IsRun text i j ↔ i = 0 ∧ j = text.length ∧ 0 < text.length := by
  have hnone : ∀ k : ℕ, text[k]? ≠ some ' ' := fun k hk ↦ h (List.mem_of_getElem? hk)
  unfold IsRun
  simp only [hnone, or_false, ne_eq, not_false_eq_true, implies_true, true_and]
  omega

theorem holdsOperator_iff (word : Text) :
    HoldsOperator word ↔ operators.any (Text.occurs · word) = true := by
  simp [HoldsOperator, operators, Text.lit, Text.occurs_iff_infix]

theorem HoldsOperator.length_pos {word : Text} (h : HoldsOperator word) : 0 < word.length := by
  rcases h with h | h
  · exact lt_of_lt_of_le (by decide) h.length_le
  · exact lt_of_lt_of_le (by decide) h.length_le

/-- A line without spaces is a single run. -/
theorem conditionRuns_of_notMem {line : Text} (h : ' ' ∉ line) :
    conditionRuns line = if HoldsOperator line then {(0, line.length)} else ∅ := by
  ext ⟨i, j⟩
  rw [mem_conditionRuns_iff, isRun_iff_of_notMem h]
  by_cases hholds : HoldsOperator line
  · rw [if_pos hholds, Finset.mem_singleton, Prod.mk.injEq]
    constructor
    · rintro ⟨⟨hi, hj, -⟩, -⟩
      exact ⟨hi, hj⟩
    · rintro ⟨rfl, rfl⟩
      rw [List.take_length, List.drop_zero]
      exact ⟨⟨rfl, rfl, hholds.length_pos⟩, hholds⟩
  · rw [if_neg hholds]
    simp only [Finset.notMem_empty, iff_false]
    rintro ⟨⟨rfl, rfl, -⟩, hrun⟩
    rw [List.take_length, List.drop_zero] at hrun
    exact hholds hrun

/-- The words that hold an operator are the runs that do. -/
theorem condition_eq_card (line : Text) : condition line = (conditionRuns line).card := by
  induction hlength : line.length using Nat.strongRecOn generalizing line with
  | ind n ih =>
    by_cases h : ' ' ∈ line
    · obtain ⟨before, after, rfl⟩ := List.append_of_mem h
      have hsum : before.length + (after.length + 1) = n := by simpa using hlength
      rw [condition_append, card_conditionRuns_append, ih _ (by omega) before rfl,
        ih _ (by omega) after rfl]
    · rw [condition, List.splitOn_eq_singleton h, List.countP_singleton,
        conditionRuns_of_notMem h]
      simp only [← holdsOperator_iff]
      split <;> rfl

/-! ## Spaces -/

theorem startsWithOpener_append (before after : Text) :
    startsWithOpener (before ++ ' ' :: after) = startsWithOpener before := by
  have hopeners : ∀ word ∈ openers, ' ' ∉ word := by decide
  apply Bool.eq_iff_iff.2
  simp only [startsWithOpener, List.any_eq_true, List.isPrefixOf_iff_prefix]
  apply exists_congr
  intro word
  apply and_congr_right
  intro hword
  exact Text.prefix_append_cons_iff (hopeners word hword) before after

/-- A word without spaces occurs as well if a space is doubled. -/
theorem any_occurs_space_space {words : List Text} (hwords : ∀ word ∈ words, ' ' ∉ word)
    (before after : Text) :
    words.any (Text.occurs · (before ++ ' ' :: ' ' :: after)) =
      words.any (Text.occurs · (before ++ ' ' :: after)) := by
  apply Bool.eq_iff_iff.2
  simp only [List.any_eq_true, Text.occurs_iff_infix]
  apply exists_congr
  intro word
  apply and_congr_right
  intro hword
  have hsplit := Text.infix_append_cons_iff (hwords word hword)
  have hspace : word <:+: ' ' :: after ↔ word <:+: [] ∨ word <:+: after := hsplit [] after
  have hnil : word <:+: [] → word <:+: after := fun h ↦ h.trans (List.nil_infix)
  rw [hsplit, hsplit, hspace, or_iff_right_of_imp hnil]

theorem keyword_space_space (before after : Text) :
    keyword (before ++ ' ' :: ' ' :: after) = keyword (before ++ ' ' :: after) := by
  have hkeywords : ∀ word ∈ keywords, ' ' ∉ word := by decide
  have hquoted := Line.foundBehindQuote_space_space startsWithOpener_append startsWithOpener_nil
    false before after
  unfold keyword Line.behindQuote
  rw [hquoted, any_occurs_space_space hkeywords]

theorem condition_space_space (before after : Text) :
    condition (before ++ ' ' :: ' ' :: after) = condition (before ++ ' ' :: after) := by
  have hspace : condition (' ' :: after) = condition after := by
    calc
      condition (' ' :: after) = condition [] + condition after := condition_append [] after
      _ = condition after := by simp [condition, operators, Text.occurs]
  rw [condition_append, condition_append, hspace]

/-- A space more or less between words does not count. -/
theorem ofLine_space_space (before after : Text) :
    ofLine (before ++ ' ' :: ' ' :: after) = ofLine (before ++ ' ' :: after) := by
  rw [ofLine, ofLine, keyword_space_space, condition_space_space]

/-- A space can be replaced by any number of spaces. -/
theorem ofLine_replicate_space (before after : Text) (n : ℕ) :
    ofLine (before ++ List.replicate (n + 1) ' ' ++ after) = ofLine (before ++ ' ' :: after) := by
  induction n with
  | zero => simp
  | succ n ih =>
    have hspaces := ofLine_space_space before (List.replicate n ' ' ++ after)
    rw [← ih]
    simpa only [List.replicate_succ, List.append_assoc, List.cons_append] using hspaces

/-! ## Bodies -/

/-- Joined bodies have the branches of both, and one path without any. -/
theorem complexity_append (body more : List Text) :
    complexity (body ++ more) + 1 = complexity body + complexity more := by
  simp only [complexity_eq, ofLines, List.map_append, List.sum_append]
  omega

/-- The order of lines does not count. -/
theorem complexity_perm {body other : List Text} (h : body.Perm other) :
    complexity other = complexity body := by
  rw [complexity_eq, complexity_eq, ofLines, ofLines, (h.map ofLine).sum_eq]

theorem complexity_le_of_sublist {body longer : List Text} (h : body.Sublist longer) :
    complexity body ≤ complexity longer := by
  have hsum := (h.map ofLine).sum_le_sum fun count _ ↦ Nat.zero_le count
  rw [complexity_eq, complexity_eq]
  exact Nat.add_le_add_left hsum 1

/-- The complexity of a body is one plus the number of its lines that branch and the number of
their runs that hold an operator.  Hence it adds up over parts of a body, does not depend on the
order of the lines, does not go down when lines are inserted and does not depend on the number of
spaces between words. -/
theorem complexity_eq_count (body : List Text) :
    complexity body =
        1 + (body.map fun line ↦
          (if IsBranching line then 1 else 0) + (conditionRuns line).card).sum ∧
      (∀ more, (complexity (body ++ more) : ℤ) = complexity body + complexity more - 1) ∧
      (∀ other, body.Perm other → complexity other = complexity body) ∧
      (∀ longer, body.Sublist longer → complexity body ≤ complexity longer) ∧
      ∀ (start rest : List Text) (before after : Text) (n : ℕ),
        body = start ++ (before ++ ' ' :: after) :: rest →
          complexity (start ++ (before ++ List.replicate (n + 1) ' ' ++ after) :: rest) =
            complexity body := by
  refine ⟨?_, ?_, ?_, ?_, ?_⟩
  · rw [complexity_eq, ofLines]
    congr 2
    apply List.map_congr_left
    intro line _
    rw [ofLine, keyword_eq, condition_eq_card]
  · intro more
    have h := complexity_append body more
    omega
  · intro other h
    exact complexity_perm h
  · intro longer h
    exact complexity_le_of_sublist h
  · rintro start rest before after n rfl
    simp only [complexity_eq, ofLines, List.map_append, List.map_cons, ofLine_replicate_space]

/-- Two lines in the other order, with a line before them, and with a space of the first widened. -/
theorem complexity_eq_count_of_two_lines :
    let first := Text.lit "if a && b"
    let second := Text.lit "c 'for' || d"
    let wide := Text.lit "if" ++ List.replicate 3 ' ' ++ Text.lit "a && b"
    [first, second].Perm [second, first] ∧
      [first, second].Sublist [Text.lit "e) f;;", first, second] ∧
      complexity [first, second] = 4 ∧ complexity [second, first] = 4 ∧
      4 ≤ complexity [Text.lit "e) f;;", first, second] ∧ complexity [wide, second] = 4 := by
  intro first second wide
  have hperm : [first, second].Perm [second, first] := .swap second first []
  have hsublist : [first, second].Sublist [Text.lit "e) f;;", first, second] :=
    List.sublist_cons_self _ _
  have hcomplexity : complexity [first, second] = 4 := by decide
  obtain ⟨-, -, hother, hlonger, hspaces⟩ := complexity_eq_count [first, second]
  rw [hcomplexity] at hother hlonger hspaces
  exact ⟨hperm, hsublist, hcomplexity, hother _ hperm, hlonger _ hsublist,
    hspaces [] [second] (Text.lit "if") (Text.lit "a && b") 2 rfl⟩

end ShellMetrics.Branch
