import ShellMetrics.Report
import ShellMetrics.Proofs.Reader
import Mathlib.Data.List.TakeWhile

/-!
# Counts of lines and of rows

A line is blank, a comment or code, and never two of these.  Positions matter in one place only:
a comment at the top of the file counts as code, although it is no code line.  The number of such
comments, which is zero or one, is all that separates the counts of the file from sums over its
lines.  The rows of a report are the bodies, each measured by a sum over its lines.
-/

namespace ShellMetrics

namespace Line

/-- No line is both blank and a comment. -/
theorem isComment_eq_false_of_isBlank {line : Text} (h : isBlank line = true) :
    isComment line = false := by
  have hnil : line.dropWhile isAsciiSpace = [] := by
    rw [List.dropWhile_eq_nil_iff]
    intro c hc
    have hspace : c = ' ' := by simpa using List.all_eq_true.1 h c hc
    simp [isAsciiSpace, hspace]
  unfold isComment
  rw [hnil]

/-- The number of comments at position zero. -/
def leadingComments (lines : List Text) : ℕ := if lines.head?.any isComment then 1 else 0

/-- Behind the first line the position does not matter. -/
theorem isCommentAt_of_mem_zipIdx {lines : List Text} {start : ℕ} (hstart : 0 < start)
    {entry : Text × ℕ} (h : entry ∈ lines.zipIdx start) :
    isCommentAt entry.2 entry.1 = isComment entry.1 := by
  have hindex : start ≤ entry.2 := List.le_snd_of_mem_zipIdx h
  have hne : entry.2 ≠ 0 := by omega
  simp [isCommentAt, hne]

/-- Counting by line and by whether a comment stands there needs no positions behind the first
line. -/
theorem countP_zipIdx_isCommentAt (keep : Text → Bool → Bool) (lines : List Text) {start : ℕ}
    (hstart : 0 < start) :
    (lines.zipIdx start).countP (fun entry ↦ keep entry.1 (isCommentAt entry.2 entry.1)) =
      lines.countP fun line ↦ keep line (isComment line) := by
  calc
    _ = (lines.zipIdx start).countP (fun entry ↦ keep entry.1 (isComment entry.1)) := by
      apply List.countP_congr
      intro entry hentry
      rw [isCommentAt_of_mem_zipIdx hstart hentry]
    _ = ((lines.zipIdx start).map Prod.fst).countP fun line ↦ keep line (isComment line) := by
      rw [List.countP_map]
      rfl
    _ = _ := by rw [List.zipIdx_map_fst]

/-- The lines that are code by their position: neither blank nor a comment there. -/
def codeCountAt (lines : List Text) : ℕ :=
  lines.zipIdx.countP fun entry ↦ !isBlank entry.1 && !isCommentAt entry.2 entry.1

theorem length_codeLines (lines : List Text) :
    (codeLines lines).length = lines.countP fun line ↦ !isBlank line && !isComment line := by
  rw [codeLines, List.countP_eq_length_filter]

/-- A comment at position zero is counted as code but not read as such. -/
theorem codeCountAt_eq (lines : List Text) :
    codeCountAt lines = (codeLines lines).length + leadingComments lines := by
  rw [length_codeLines]
  unfold codeCountAt leadingComments
  cases lines with
  | nil => rfl
  | cons line rest =>
    have hrest := countP_zipIdx_isCommentAt (fun line comment ↦ !isBlank line && !comment) rest
      Nat.one_pos
    rw [List.zipIdx_cons, List.countP_cons, Nat.zero_add, hrest, List.countP_cons]
    -- Only the first line is left: a comment there is code by position but no code line.
    cases hblank : isBlank line with
    | true => simp [isComment_eq_false_of_isBlank hblank]
    | false => cases hcomment : isComment line <;> simp [isCommentAt, hcomment]

/-- Every line is blank, a comment, or a code line. -/
theorem countP_isBlank_add_countP_isComment (lines : List Text) :
    lines.countP isBlank + lines.countP isComment + (codeLines lines).length = lines.length := by
  rw [length_codeLines]
  induction lines with
  | nil => rfl
  | cons line rest ih =>
    simp only [List.countP_cons, List.length_cons]
    cases hblank : isBlank line with
    | true =>
      simp [isComment_eq_false_of_isBlank hblank]
      omega
    | false =>
      cases hcomment : isComment line <;> simp <;> omega

end Line

namespace Branch

def ofLines (lines : List Text) : ℕ := (lines.map ofLine).sum

theorem complexity_eq (body : List Text) : complexity body = 1 + ofLines body := rfl

end Branch

namespace Script

theorem commentCount_add_leadingComments (script : Script) :
    script.commentCount + Line.leadingComments script.lines =
      script.lines.countP Line.isComment := by
  unfold commentCount Line.leadingComments
  cases script.lines with
  | nil => rfl
  | cons line rest =>
    have hrest := Line.countP_zipIdx_isCommentAt (fun _ comment ↦ comment) rest Nat.one_pos
    rw [List.zipIdx_cons, List.countP_cons, Nat.zero_add, hrest, List.countP_cons]
    cases hcomment : Line.isComment line <;> simp [Line.isCommentAt, hcomment]

/-- Every line of the file is blank, a comment or code at its position. -/
theorem length_lines_eq (script : Script) :
    script.lines.length =
      script.blankCount + script.commentCount + Line.codeCountAt script.lines := by
  have hcomments := script.commentCount_add_leadingComments
  have hparts := Line.countP_isBlank_add_countP_isComment script.lines
  rw [Line.codeCountAt_eq, blankCount]
  omega

theorem fileCounts_code (script : Script) :
    script.fileCounts.code = (Line.codeCountAt script.lines : ℤ) := by
  have h := script.length_lines_eq
  unfold fileCounts
  dsimp only
  omega

/-! ## Rows -/

def row (entry : Text × List Text) : FunctionCounts where
  name := entry.1
  code := entry.2.length
  complexity := Branch.complexity entry.2

theorem functionCounts_eq (script : Script) :
    script.functionCounts = script.functionBodies.entries.map row := rfl

/-- There is one row for each name, in the order of the names. -/
theorem map_name_functionCounts (script : Script) :
    script.functionCounts.map (·.name) = script.functionBodies.keys := by
  rw [functionCounts_eq, List.map_map]
  rfl

/-- A row measures the lines that its name owns. -/
theorem mem_functionCounts {script : Script} {function : FunctionCounts}
    (h : function ∈ script.functionCounts) :
    function = row (function.name,
        Reader.start.linesOf (some function.name) (Line.codeLines script.lines)) ∧
      Reader.start.linesOf (some function.name) (Line.codeLines script.lines) ≠ [] := by
  rw [functionCounts_eq, List.mem_map] at h
  obtain ⟨⟨name, body⟩, hentry, rfl⟩ := h
  have hbody := body_eq_linesOf hentry
  have hne := ne_nil_of_mem_bodies hentry
  rw [hbody] at hne
  exact ⟨by rw [hbody]; rfl, hne⟩

/-- A sum over the rows of a count of lines is a sum over the filed lines. -/
theorem sum_map_row (script : Script) (weight : Text → ℕ) (measure : FunctionCounts → ℤ)
    (h : ∀ entry, measure (row entry) = ((entry.2.map weight).sum : ℕ)) :
    (script.functionCounts.map measure).sum +
        (((Reader.start.declarations (Line.codeLines script.lines)).map weight).sum : ℕ) =
      (((Line.codeLines script.lines).map weight).sum : ℕ) := by
  have hmap : script.functionCounts.map measure =
      (script.functionBodies.entries.map fun entry ↦ (entry.2.map weight).sum).map
        fun n : ℕ ↦ (n : ℤ) := by
    rw [functionCounts_eq, List.map_map, List.map_map]
    apply List.map_congr_left
    intro entry _
    exact h entry
  have htotal : (script.functionCounts.map measure).sum =
      (script.functionBodies.total weight : ℕ) := by
    rw [hmap, ← Nat.cast_list_sum, Ledger.total]
  have hfiled : script.functionBodies.total weight =
      ((Reader.start.filed (Line.codeLines script.lines)).map fun item ↦ weight item.2).sum := by
    rw [functionBodies, bodies_eq_pushAll, Ledger.total_pushAll]
    exact Nat.zero_add _
  have hlines := Reader.sum_filed_add_sum_declarations weight Reader.start
    (Line.codeLines script.lines)
  rw [htotal, hfiled]
  exact_mod_cast hlines

end Script

end ShellMetrics
