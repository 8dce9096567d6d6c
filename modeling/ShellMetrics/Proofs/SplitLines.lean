import ShellMetrics.Script
import Mathlib.Data.List.Basic

/-!
# Lines of a text

A newline cuts a text in two: the lines before it and the lines after it are found separately.
Hence a text that ends in a newline can be put in front of any other text without joining a line
of the one to a line of the other.
-/

namespace ShellMetrics.Script

@[simp] theorem splitLines_nil : splitLines [] = [] := rfl

/-- The piece before a newline is a line also when it is empty. -/
theorem splitLines_append_newline (before after : Text) :
    splitLines (before ++ '\n' :: after) =
      (before.splitOn '\n').map dropReturn ++ splitLines after := by
  have hne : after.splitOn '\n' ≠ [] := List.splitOn_ne_nil '\n' after
  unfold splitLines
  rw [List.splitOn_append_cons_self]
  simp only [List.getLast?_append_of_ne_nil _ hne, List.dropLast_append_of_ne_nil hne]
  split <;> simp

/-- Lines of texts put one after the other, if no line runs from the first into the second. -/
theorem splitLines_append {first : Text} (h : first = [] ∨ first.getLast? = some '\n')
    (second : Text) : splitLines (first ++ second) = splitLines first ++ splitLines second := by
  rcases h with rfl | hlast
  · rw [splitLines_nil, List.nil_append, List.nil_append]
  · obtain ⟨before, rfl⟩ := List.getLast?_eq_some_iff.1 hlast
    rw [splitLines_append_newline, List.append_assoc, List.singleton_append,
      splitLines_append_newline, splitLines_nil, List.append_nil]

theorem splitLines_ne_nil {content : Text} (h : content.getLast? = some '\n') :
    splitLines content ≠ [] := by
  obtain ⟨before, rfl⟩ := List.getLast?_eq_some_iff.1 h
  rw [splitLines_append_newline, splitLines_nil, List.append_nil]
  simp

end ShellMetrics.Script
