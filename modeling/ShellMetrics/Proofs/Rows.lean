import ShellMetrics.Summary
import Mathlib.Data.List.Count
import Mathlib.Data.List.Sort

/-!
# Rows in order

The rows of a summary are the functions of its reports, each together with the report it comes
from and as often as it stands there.  An order that is asked for changes nothing but their places.
Sorted rows go down, and rows that are equal in what they are sorted by stay in file order.  The
largest complexity of a summary is that of the first row, if rows are sorted by complexity.
-/

namespace ShellMetrics

/-! ## Sorting down -/

section SortedDown

variable {α : Type} {measure : α → ℤ}

/-- The second list has the items of the first one, greater measures first, and among the items of
one measure the order of the first list. -/
structure IsSortedDown (measure : α → ℤ) (source sorted : List α) : Prop where
  perm : sorted.Perm source
  descending : sorted.Pairwise fun former latter ↦ measure latter ≤ measure former
  stable : ∀ value, sorted.filter (measure · = value) = source.filter (measure · = value)

/-- Sorting down is the merge sort that takes two items as they stand unless the second is
greater. -/
theorem isSortedDown_mergeSort (measure : α → ℤ) (source : List α) :
    IsSortedDown measure source
      (source.mergeSort fun former latter ↦ measure latter ≤ measure former) := by
  have htrans : ∀ a b c : α, decide (measure b ≤ measure a) = true →
      decide (measure c ≤ measure b) = true → decide (measure c ≤ measure a) = true := by
    intro a b c hab hbc
    simp only [decide_eq_true_eq] at hab hbc ⊢
    exact hbc.trans hab
  have htotal : ∀ a b : α,
      (decide (measure b ≤ measure a) || decide (measure a ≤ measure b)) = true := by
    intro a b
    simpa using le_total (measure b) (measure a)
  have hperm := List.mergeSort_perm source fun former latter ↦ measure latter ≤ measure former
  refine ⟨hperm, ?_, ?_⟩
  · apply (List.pairwise_mergeSort htrans htotal source).imp
    intro former latter h
    exact of_decide_eq_true h
  · intro value
    -- Items of one measure are sorted already, so the sort keeps them as they are.
    have hsorted : (source.filter (measure · = value)).Pairwise fun former latter ↦
        decide (measure latter ≤ measure former) = true := by
      apply List.pairwise_of_forall_mem_list
      intro former hformer latter hlatter
      have hformer : measure former = value := by simpa using (List.mem_filter.1 hformer).2
      have hlatter : measure latter = value := by simpa using (List.mem_filter.1 hlatter).2
      exact decide_eq_true (hlatter.trans hformer.symm).le
    have hkept := (List.sublist_mergeSort htrans htotal hsorted List.filter_sublist).filter
      (measure · = value)
    simp only [List.filter_filter, Bool.and_self] at hkept
    exact (hkept.eq_of_length (hperm.filter _).length_eq.symm).symm

theorem IsSortedDown.le_head {source sorted : List α} (h : IsSortedDown measure source sorted)
    {first : α} (hfirst : sorted.head? = some first) :
    ∀ item ∈ source, measure item ≤ measure first := by
  intro item hitem
  obtain ⟨rest, rfl⟩ := List.head?_eq_some_iff.1 hfirst
  rcases List.mem_cons.1 (h.perm.mem_iff.2 hitem) with rfl | hrest
  · exact le_rfl
  · exact (List.pairwise_cons.1 h.descending).1 item hrest

end SortedDown

namespace SortKey

theorem ofText_of_other {text : Text} (hcomplexity : text ≠ Text.lit "ccn")
    (hcode : text ≠ Text.lit "code") : ofText text = name := by
  have hcomplexity : complexity.word ≠ text := hcomplexity.symm
  have hcode : code.word ≠ text := hcode.symm
  unfold ofText ofWord? all
  by_cases hname : name.word = text
  · simp [hname]
  · simp [hname, hcomplexity, hcode]

end SortKey

/-! ## The largest complexity -/

/-- The largest number is within a limit if all are. -/
theorem largest_le_iff {numbers : List Int} {limit : Int} (hlimit : 0 ≤ limit) :
    largest numbers ≤ limit ↔ ∀ number ∈ numbers, number ≤ limit := by
  unfold largest
  cases hmax : numbers.max? with
  | none =>
    rw [List.max?_eq_none_iff.1 hmax]
    simpa using hlimit
  | some greatest => exact List.max?_le_iff hmax

namespace Summary

/-- The largest complexity is within a limit if all functions of all reports are. -/
theorem maxComplexity_le_iff {summary : Summary} {limit : Int} (hlimit : 0 ≤ limit) :
    summary.maxComplexity ≤ limit ↔
      ∀ report ∈ summary.reports, ∀ function ∈ report.functions, function.complexity ≤ limit := by
  simp only [maxComplexity, Report.maxComplexity, largest_le_iff hlimit, List.forall_mem_map]

/-! ## Rows -/

/-- Every order has the same rows. -/
theorem rows_perm (summary : Summary) (key : SortKey) :
    (summary.rows key).Perm summary.fileRows := by
  cases key with
  | name => exact .rfl
  | complexity => exact List.mergeSort_perm _ _
  | code => exact List.mergeSort_perm _ _

theorem mem_fileRows_iff {summary : Summary} {row : Row} :
    row ∈ summary.fileRows ↔
      row.report ∈ summary.reports ∧ row.function ∈ row.report.functions := by
  unfold fileRows
  rw [List.mem_flatMap]
  constructor
  · rintro ⟨report, hreport, hrow⟩
    obtain ⟨function, hfunction, rfl⟩ := List.mem_map.1 hrow
    exact ⟨hreport, hfunction⟩
  · rintro ⟨hreport, hfunction⟩
    exact ⟨row.report, hreport, List.mem_map.2 ⟨row.function, hfunction, rfl⟩⟩

theorem mem_rows_iff {summary : Summary} {key : SortKey} {row : Row} :
    row ∈ summary.rows key ↔
      row.report ∈ summary.reports ∧ row.function ∈ row.report.functions := by
  rw [(summary.rows_perm key).mem_iff, mem_fileRows_iff]

/-- A function is there as often as it stands in its report, for each time that the report is
there. -/
theorem count_fileRows (summary : Summary) (report : Report) (function : FunctionCounts) :
    summary.fileRows.count ⟨report, function⟩ =
      summary.reports.count report * report.functions.count function := by
  unfold fileRows
  induction summary.reports with
  | nil => simp
  | cons other rest ih =>
    rw [List.flatMap_cons, List.count_append, ih]
    by_cases h : other = report
    · have hinjective : Function.Injective (Row.mk other) := fun _ _ heq ↦ (Row.mk.inj heq).2
      have hcount := List.count_map_of_injective other.functions (Row.mk other) hinjective function
      rw [h] at hcount ⊢
      rw [hcount, List.count_cons_self, Nat.add_mul, Nat.one_mul, Nat.add_comm]
    · have hnone : (⟨report, function⟩ : Row) ∉ other.functions.map (Row.mk other) := by
        intro hmem
        obtain ⟨_, -, heq⟩ := List.mem_map.1 hmem
        exact h (Row.mk.inj heq).1
      rw [List.count_eq_zero_of_not_mem hnone, List.count_cons_of_ne h, Nat.zero_add]

/-- A row is beyond a limit if and only if the largest complexity is. -/
theorem lt_maxComplexity_iff {summary : Summary} {limit : ℤ} (hlimit : 0 ≤ limit) :
    limit < summary.maxComplexity ↔ ∃ row ∈ summary.fileRows, limit < row.function.complexity := by
  rw [← not_le, maxComplexity_le_iff hlimit]
  push Not
  constructor
  · rintro ⟨report, hreport, function, hfunction, hlt⟩
    exact ⟨⟨report, function⟩, mem_fileRows_iff.2 ⟨hreport, hfunction⟩, hlt⟩
  · rintro ⟨row, hrow, hlt⟩
    obtain ⟨hreport, hfunction⟩ := mem_fileRows_iff.1 hrow
    exact ⟨row.report, hreport, row.function, hfunction, hlt⟩

/-- A row that no other one exceeds has the largest complexity. -/
theorem complexity_eq_maxComplexity {summary : Summary} {first : Row}
    (hfirst : first ∈ summary.fileRows) (hpositive : 1 ≤ first.function.complexity)
    (h : ∀ row ∈ summary.fileRows, row.function.complexity ≤ first.function.complexity) :
    first.function.complexity = summary.maxComplexity := by
  have hnonneg : 0 ≤ first.function.complexity := by omega
  have hpred : 0 ≤ first.function.complexity - 1 := by omega
  apply le_antisymm
  · have hlt := (lt_maxComplexity_iff hpred).2 ⟨first, hfirst, by omega⟩
    omega
  · rw [← not_lt, lt_maxComplexity_iff hnonneg]
    push Not
    exact h

/-- Whatever text asks for an order, the rows are those of the file order, each function with its
own report and as often as it stands there.  By complexity and by code they are sorted down, and
any other text leaves them in file order.  If every row has at least one path, the first row by
complexity has the largest complexity of the summary, which is beyond a limit if and only if that
of some row is. -/
theorem rows_ofText_sorted (summary : Summary) (text : Text) :
    let rows := summary.rows (.ofText text)
    rows.Perm summary.fileRows ∧
      (∀ report function, rows.count ⟨report, function⟩ =
        summary.reports.count report * report.functions.count function) ∧
      (text = Text.lit "ccn" → IsSortedDown (·.function.complexity) summary.fileRows rows) ∧
      (text = Text.lit "code" → IsSortedDown (·.function.code) summary.fileRows rows) ∧
      (text ≠ Text.lit "ccn" → text ≠ Text.lit "code" → rows = summary.fileRows) ∧
      (text = Text.lit "ccn" → summary.fileRows ≠ [] →
        (∀ row ∈ summary.fileRows, 1 ≤ row.function.complexity) →
          ∃ first, rows.head? = some first ∧
            first.function.complexity = summary.maxComplexity) ∧
      ∀ limit : ℤ, 0 ≤ limit →
        (limit < summary.maxComplexity ↔
          ∃ row ∈ summary.fileRows, limit < row.function.complexity) := by
  intro rows
  have hperm : rows.Perm summary.fileRows := summary.rows_perm _
  have hcomplexity : text = Text.lit "ccn" →
      IsSortedDown (·.function.complexity) summary.fileRows rows := by
    rintro rfl
    exact isSortedDown_mergeSort _ _
  refine ⟨hperm, ?_, hcomplexity, ?_, ?_, ?_, ?_⟩
  · intro report function
    rw [hperm.count_eq, count_fileRows]
  · rintro rfl
    exact isSortedDown_mergeSort _ _
  · intro hnotComplexity hnotCode
    change summary.rows (.ofText text) = _
    rw [SortKey.ofText_of_other hnotComplexity hnotCode]
    rfl
  · intro htext hne hpositive
    have hrows : rows ≠ [] := by
      intro hnil
      rw [hnil] at hperm
      exact hne hperm.symm.eq_nil
    obtain ⟨first, hfirst⟩ := Option.ne_none_iff_exists'.1 (List.head?_eq_none_iff.not.2 hrows)
    have hmem := hperm.mem_iff.1 (List.mem_of_mem_head? hfirst)
    exact ⟨first, hfirst,
      complexity_eq_maxComplexity hmem (hpositive first hmem) ((hcomplexity htext).le_head hfirst)⟩
  · intro limit hlimit
    exact lt_maxComplexity_iff hlimit

/-- Two rows of equal complexity in one file, and a more complex one in the next. -/
theorem rows_ofText_two_equal :
    let counts : FileCounts := ⟨[], 0, 0, 0, 0, 0⟩
    let former : Report := ⟨['a'], counts, [⟨['f'], 1, 2⟩, ⟨['g'], 3, 2⟩]⟩
    let latter : Report := ⟨['b'], counts, [⟨['h'], 2, 5⟩]⟩
    let summary : Summary := ⟨[former, latter], ∅⟩
    let rows := summary.rows (.ofText (Text.lit "ccn"))
    summary.fileRows ≠ [] ∧ (∀ row ∈ summary.fileRows, 1 ≤ row.function.complexity) ∧
      (∃ first, rows.head? = some first ∧ first.function.complexity = 5) ∧
      rows.filter (·.function.complexity = 2) =
        [⟨former, ⟨['f'], 1, 2⟩⟩, ⟨former, ⟨['g'], 3, 2⟩⟩] := by
  intro counts former latter summary rows
  have hne : summary.fileRows ≠ [] := by decide
  have hpositive : ∀ row ∈ summary.fileRows, 1 ≤ row.function.complexity := by decide
  obtain ⟨-, -, hsorted, -, -, hfirst, -⟩ := rows_ofText_sorted summary (Text.lit "ccn")
  refine ⟨hne, hpositive, hfirst rfl hne hpositive, ?_⟩
  rw [(hsorted rfl).stable]
  decide

end Summary

end ShellMetrics
