import ShellMetrics.Proofs.Counts
import ShellMetrics.Proofs.SplitLines

/-!
# Reports of texts put one after the other

If the first text ends in a newline and leaves no function open, the report of both together can
be read off the two reports.  Counts add up, except that a comment at the top of the second text
is no longer at the top.  Rows of the same name become one row, which counts the one path without
branches only once.
-/

namespace ShellMetrics

/-- The row followed by the row of the same name among the others, if there is one.  Lines and
branches add up, and the path without branches is counted once. -/
def FunctionCounts.joined (others : List FunctionCounts) (function : FunctionCounts) :
    FunctionCounts :=
  match others.find? (·.name = function.name) with
  | some other =>
    { name := function.name
      code := function.code + other.code
      complexity := function.complexity + other.complexity - 1 }
  | none => function

/-- The rows of the first list, joined with those of the second, and then the rows of the second
with a new name. -/
def joinRows (first second : List FunctionCounts) : List FunctionCounts :=
  first.map (FunctionCounts.joined second) ++
    second.filter fun function ↦ function.name ∉ first.map (·.name)

namespace Script

theorem row_append (name : Text) (first second : List Text) :
    row (name, first ++ second) =
      { name := name
        code := (row (name, first)).code + (row (name, second)).code
        complexity := (row (name, first)).complexity + (row (name, second)).complexity - 1 } := by
  have hlength : ((first ++ second).length : ℤ) = first.length + second.length := by
    rw [List.length_append]
    push_cast
    rfl
  have hcomplexity : (Branch.complexity (first ++ second) : ℤ) =
      Branch.complexity first + Branch.complexity second - 1 := by
    simp only [Branch.complexity_eq, Branch.ofLines, List.map_append, List.sum_append]
    omega
  simp only [row, hlength, hcomplexity]

/-- The row of a merged entry is the joined row. -/
theorem row_append_itemsAt (others : Ledger Text (List Text)) (entry : Text × List Text) :
    row (entry.1, entry.2 ++ others.itemsAt entry.1) =
      (row entry).joined (others.entries.map row) := by
  have hfind : (others.entries.map row).find? (·.name = (row entry).name) =
      (others.entries.find? (·.1 = entry.1)).map row := by
    rw [List.find?_map]
    rfl
  unfold FunctionCounts.joined Ledger.itemsAt Ledger.find?
  rw [hfind]
  cases hother : others.entries.find? (·.1 = entry.1) with
  | none => simp
  | some other =>
    simp only [Option.map_some, Option.getD_some]
    rw [row_append]
    rfl

/-- The rows of merged ledgers are the rows of both, joined by name. -/
theorem map_row_mergeEntries (first second : Ledger Text (List Text)) :
    (first.merge second).entries.map row =
      joinRows (first.entries.map row) (second.entries.map row) := by
  have hnames : (first.entries.map row).map (·.name) = first.keys := by
    rw [List.map_map]
    rfl
  unfold joinRows
  rw [hnames, List.filter_map, Ledger.entries_merge, List.map_append, List.map_map, List.map_map]
  congr 1
  apply List.map_congr_left
  intro entry _
  exact row_append_itemsAt second entry

/-- Bodies of two lists of lines, if no body is open between them. -/
theorem bodies_append {first : List Text} (h : (Reader.start.feedAll first).active = none)
    (second : List Text) : bodies (first ++ second) = (bodies first).merge (bodies second) := by
  unfold bodies
  rw [Reader.feedAll_append, Reader.bodies_feedAll_eq_merge, h]
  rfl

theorem codeLines_append (first second : List Text) :
    Line.codeLines (first ++ second) = Line.codeLines first ++ Line.codeLines second :=
  List.filter_append ..

/-- If no body is open at the seam, the rows of the two parts are joined by name. -/
theorem functionCounts_append (name : Text) {first : List Text}
    (h : (Reader.start.feedAll (Line.codeLines first)).active = none) (second : List Text) :
    (Script.mk name (first ++ second)).functionCounts =
      joinRows (Script.mk name first).functionCounts (Script.mk name second).functionCounts := by
  simp only [functionCounts_eq, functionBodies]
  rw [codeLines_append, bodies_append h, map_row_mergeEntries]

theorem leadingComments_append {first : List Text} (h : first ≠ []) (second : List Text) :
    Line.leadingComments (first ++ second) = Line.leadingComments first := by
  unfold Line.leadingComments
  rw [List.head?_append_of_ne_nil _ h]

/-- A comment that came first is counted once there is something before it. -/
theorem commentCount_append (name : Text) {first : List Text} (h : first ≠ [])
    (second : List Text) :
    (Script.mk name (first ++ second)).commentCount =
      (Script.mk name first).commentCount + (Script.mk name second).commentCount +
        Line.leadingComments second := by
  have hfirst := commentCount_add_leadingComments (Script.mk name first)
  have hsecond := commentCount_add_leadingComments (Script.mk name second)
  have hboth := commentCount_add_leadingComments (Script.mk name (first ++ second))
  simp only [leadingComments_append h, List.countP_append] at hfirst hsecond hboth
  omega

theorem codeCountAt_append {first : List Text} (h : first ≠ []) (second : List Text) :
    Line.codeCountAt (first ++ second) + Line.leadingComments second =
      Line.codeCountAt first + Line.codeCountAt second := by
  simp only [Line.codeCountAt_eq, codeLines_append, leadingComments_append h, List.length_append]
  omega

/-- The counts of the parts add up, but a comment at the top of the second part is code there and
a comment in the whole. -/
theorem fileCounts_append (name : Text) {first : List Text} (h : first ≠ [])
    (second : List Text) :
    (Script.mk name (first ++ second)).fileCounts =
      let former := (Script.mk name first).fileCounts
      let latter := (Script.mk name second).fileCounts
      { name := name
        lines := former.lines + latter.lines
        code := former.code + latter.code - Line.leadingComments second
        comments := former.comments + latter.comments + Line.leadingComments second
        blanks := former.blanks + latter.blanks
        functions := former.functions + latter.functions } := by
  have hcode := codeCountAt_append h second
  have hcomments := commentCount_append name h second
  rw [FileCounts.mk.injEq]
  refine ⟨rfl, ?_, ?_, ?_, ?_, ?_⟩
  · simp [fileCounts]
  · simp only [fileCounts_code]
    omega
  · simp only [fileCounts, hcomments]
    push_cast
    rfl
  · simp [fileCounts, blankCount]
  · simp [fileCounts, functionCount]

/-- The report of two texts put one after the other, where the first ends in a newline and leaves
no function open. -/
theorem report_splitLines_append (name path : Text) (first second : Text)
    (hend : first.getLast? = some '\n')
    (hclosed : (Reader.start.feedAll (Line.codeLines (splitLines first))).active = none) :
    let report := fun content ↦ (Script.mk name (splitLines content)).report path
    let leading : ℤ := Line.leadingComments (splitLines second)
    report (first ++ second) =
      { path := path
        file :=
          { name := name
            lines := (report first).file.lines + (report second).file.lines
            code := (report first).file.code + (report second).file.code - leading
            comments := (report first).file.comments + (report second).file.comments + leading
            blanks := (report first).file.blanks + (report second).file.blanks
            functions := (report first).file.functions + (report second).file.functions }
        functions := joinRows (report first).functions (report second).functions } := by
  intro report leading
  have hlines := splitLines_append (.inr hend) second
  have hcounts := fileCounts_append name (splitLines_ne_nil hend) (splitLines second)
  have hrows := functionCounts_append name hclosed (splitLines second)
  simp only [report, leading, Script.report, hlines, hrows, hcounts]

/-- A function declared in both texts, where the second text starts with a comment. -/
theorem report_append_declared_twice :
    let first : Text := "x\nf() \x7b\nif a\n\x7d\n"
    let second : Text := "# y\nf() \x7b\nb && c\n\x7d\ng() \x7b\n\x7d\n"
    let report := fun content ↦ (Script.mk [] (splitLines content)).report []
    first.getLast? = some '\n' ∧
      (Reader.start.feedAll (Line.codeLines (splitLines first))).active = none ∧
      (report (first ++ second)).functions =
        [⟨Reader.bareCode, 1, 1⟩, ⟨['f'], 4, 3⟩, ⟨['g'], 1, 1⟩] ∧
      (report (first ++ second)).file = ⟨[], 10, 9, 1, 0, 3⟩ := by
  intro first second report
  have hend : first.getLast? = some '\n' := by decide
  have hclosed : (Reader.start.feedAll (Line.codeLines (splitLines first))).active = none := by
    decide
  have h := report_splitLines_append [] [] first second hend hclosed
  refine ⟨hend, hclosed, ?_, ?_⟩
  · rw [congrArg Report.functions h]
    decide
  · rw [congrArg Report.file h]
    decide

end Script

end ShellMetrics
