import ShellMetrics.Proofs.Concatenation

/-!
# Blank lines and comments

A blank line or a comment may be put anywhere into a script, also into the middle of a function,
and the rows of the report stay as they are.  Behind the first line of the script it moves nothing
but its own counts.  At the top it would also take away the place that a comment needs to count as
code, so the counts are described for insertions behind the first line only.
-/

namespace ShellMetrics

namespace Line

theorem isBlank_eq_false_of_isComment {line : Text} (h : isComment line = true) :
    isBlank line = false := by
  cases hblank : isBlank line with
  | false => rfl
  | true =>
    rw [isComment_eq_false_of_isBlank hblank] at h
    cases h

/-- Lines are code or not wherever others stand. -/
theorem codeLines_insert (before : List Text) (line : Text) (after : List Text) :
    codeLines (before ++ [line] ++ after) =
      codeLines before ++ codeLines [line] ++ codeLines after := by
  rw [Script.codeLines_append, Script.codeLines_append]

/-- Blank lines and comments are no code lines. -/
theorem codeLines_singleton_of_idle {line : Text}
    (h : isBlank line = true ∨ isComment line = true) : codeLines [line] = [] := by
  apply List.filter_eq_nil_iff.2
  intro other hother
  rw [List.mem_singleton.1 hother]
  rcases h with hblank | hcomment
  · simp [hblank]
  · simp [hcomment]

end Line

namespace Script

/-- Rows are made from the code lines alone. -/
theorem functionCounts_congr (name : Text) {first second : List Text}
    (h : Line.codeLines first = Line.codeLines second) :
    (Script.mk name first).functionCounts = (Script.mk name second).functionCounts := by
  simp only [functionCounts_eq, functionBodies, h]

/-- A comment that does not come first is counted. -/
theorem commentCount_insert (name : Text) {before : List Text} (h : before ≠ []) (line : Text)
    (after : List Text) :
    (Script.mk name (before ++ [line] ++ after)).commentCount =
      (Script.mk name (before ++ after)).commentCount +
        if Line.isComment line then 1 else 0 := by
  have hlonger := commentCount_add_leadingComments (Script.mk name (before ++ [line] ++ after))
  have hshorter := commentCount_add_leadingComments (Script.mk name (before ++ after))
  rw [List.append_assoc] at hlonger ⊢
  simp only [leadingComments_append h, List.countP_append, List.countP_singleton]
    at hlonger hshorter
  omega

theorem codeCountAt_insert {before : List Text} (h : before ≠ []) (line : Text)
    (after : List Text) :
    Line.codeCountAt (before ++ [line] ++ after) =
      Line.codeCountAt (before ++ after) + (Line.codeLines [line]).length := by
  have hleading : Line.leadingComments (before ++ [line] ++ after) =
      Line.leadingComments (before ++ after) := by
    rw [List.append_assoc, leadingComments_append h, leadingComments_append h]
  rw [Line.codeCountAt_eq, Line.codeCountAt_eq, hleading, Line.codeLines_insert,
    codeLines_append, List.length_append, List.length_append, List.length_append]
  omega

/-- A line put behind the first one counts for itself and changes the kind of no other line. -/
theorem fileCounts_insert (name : Text) {before : List Text} (h : before ≠ []) (line : Text)
    (after : List Text) :
    (Script.mk name (before ++ [line] ++ after)).fileCounts =
      let counts := (Script.mk name (before ++ after)).fileCounts
      { name := name
        lines := counts.lines + 1
        code := counts.code + (Line.codeLines [line]).length
        comments := counts.comments + if Line.isComment line then 1 else 0
        blanks := counts.blanks + if Line.isBlank line then 1 else 0
        functions := counts.functions + if Line.declares line then 1 else 0 } := by
  have hcode := codeCountAt_insert h line after
  have hcomments := commentCount_insert name h line after
  rw [FileCounts.mk.injEq]
  refine ⟨rfl, ?_, ?_, ?_, ?_, ?_⟩
  · simp only [fileCounts, List.length_append, List.length_singleton]
    omega
  · simp only [fileCounts_code]
    omega
  · simp only [fileCounts, hcomments]
    push_cast
    rfl
  · simp only [fileCounts, blankCount, List.countP_append, List.countP_singleton]
    push_cast
    omega
  · simp only [fileCounts, functionCount, List.countP_append, List.countP_singleton]
    push_cast
    omega

/-- A blank line or a comment that is put into a script leaves the rows of its report alone.  Behind
the first line it leaves the code count alone as well, and adds one to the lines, one to either
the blank lines or the comments, and one to the functions if it looks like a declaration. -/
theorem report_insert_idle (name path : Text) (before after : List Text) {line : Text}
    (hline : Line.isBlank line = true ∨ Line.isComment line = true) :
    let longer := (Script.mk name (before ++ [line] ++ after)).report path
    let shorter := (Script.mk name (before ++ after)).report path
    longer.functions = shorter.functions ∧
      (before ≠ [] →
        longer.file.code = shorter.file.code ∧
        longer.file.lines = shorter.file.lines + 1 ∧
        (longer.file.blanks = shorter.file.blanks + 1 ∧
            longer.file.comments = shorter.file.comments ∨
          longer.file.blanks = shorter.file.blanks ∧
            longer.file.comments = shorter.file.comments + 1) ∧
        longer.file.functions = shorter.file.functions + if Line.declares line then 1 else 0) := by
  intro longer shorter
  have hidle := Line.codeLines_singleton_of_idle hline
  constructor
  · apply functionCounts_congr
    rw [Line.codeLines_insert, hidle, List.append_nil, codeLines_append]
  · intro hbefore
    have hfile : longer.file = _ := fileCounts_insert name hbefore line after
    rw [hidle] at hfile
    rw [hfile]
    refine ⟨?_, rfl, ?_, rfl⟩
    · exact Int.add_zero _
    · rcases hline with hblank | hcomment
      · have hcomment := Line.isComment_eq_false_of_isBlank hblank
        exact .inl (by simp [hblank, hcomment, shorter, report])
      · have hblank := Line.isBlank_eq_false_of_isComment hcomment
        exact .inr (by simp [hblank, hcomment, shorter, report])

/-- A declaration in a comment, put into the middle of a function. -/
theorem report_insert_commented_declaration :
    let before := [Text.lit "f() \x7b", Text.lit "if a"]
    let line := Text.lit " # g() \x7b"
    let after := [Text.lit "\x7d"]
    let longer := (Script.mk [] (before ++ [line] ++ after)).report []
    (Line.isBlank line = true ∨ Line.isComment line = true) ∧ before ≠ [] ∧
      longer.functions = [⟨['f'], 2, 2⟩] ∧ longer.file.code = 3 ∧ longer.file.functions = 2 := by
  intro before line after longer
  have hline : Line.isBlank line = true ∨ Line.isComment line = true := .inr (by decide)
  have hbefore : before ≠ [] := by decide
  obtain ⟨hrows, hcounts⟩ := report_insert_idle [] [] before after hline
  obtain ⟨hcode, -, -, hfunctions⟩ := hcounts hbefore
  refine ⟨hline, hbefore, ?_, ?_, ?_⟩
  · rw [hrows]
    decide
  · rw [hcode]
    decide
  · rw [hfunctions]
    decide

end Script

end ShellMetrics
