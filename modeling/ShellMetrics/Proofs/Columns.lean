import ShellMetrics.Render.Columns
import ShellMetrics.Proofs.Decimal
import ShellMetrics.Proofs.Rows
import Mathlib.Data.List.DropRight
import Mathlib.Data.List.Forall2

/-!
# Reading plain columns back

A line of the plain report is read from its end.  The numbers hold no spaces, so each of them is
the last word of what is left, and what stands before all of them is the name with spaces behind
it.  This works for every name and every number, since what is too long for its column pushes the
rest to the right and the space between two columns stays.
-/

namespace ShellMetrics.Render.Columns

/-! ## A reader -/

/-- The text without the spaces at its end. -/
def trim (text : Text) : Text := text.rdropWhile (· = ' ')

/-- The last word of a line. -/
def lastWord (line : Text) : Text := (trim line).rtakeWhile (· ≠ ' ')

/-- What stands before the last word of a line, without the spaces at its end. -/
def beforeLastWord (line : Text) : Text := trim ((trim line).rdropWhile (· ≠ ' '))

/-- What stands before the last `count` words of a line, without the spaces at its end, and these
words. -/
def readWords : ℕ → Text → Text × List Text
  | 0, line => (trim line, [])
  | count + 1, line =>
    let (before, words) := readWords count (beforeLastWord line)
    (before, words ++ [lastWord line])

/-- The lines of a text, each of which has to end in a newline. -/
def lines? (text : Text) : Option (List Text) :=
  let pieces := text.splitOn '\n'
  if pieces.getLast? = some [] then some pieces.dropLast else none

/-! ## Words -/

/-- A text that is read as one word. -/
def IsWord (word : Text) : Prop := word ≠ [] ∧ ' ' ∉ word

/-- A number is read as one word. -/
theorem isWord_ofInt (n : ℤ) : IsWord (Text.ofInt n) := by
  have hdecimal := Text.isDecimal_ofInt n
  refine ⟨hdecimal.ne_nil, ?_⟩
  intro hspace
  exact absurd (hdecimal.isDigit_or_eq_minus hspace) (by decide)

theorem trim_trim (line : Text) : trim (trim line) = trim line :=
  List.rdropWhile_idempotent _ line

theorem trim_append_spaces (line : Text) (n : ℕ) :
    trim (line ++ List.replicate n ' ') = trim line := by
  unfold trim List.rdropWhile
  rw [List.reverse_append, List.dropWhile_append_of_pos]
  simp

theorem trim_append_word (before : Text) {word : Text} (h : IsWord word) :
    trim (before ++ word) = before ++ word := by
  obtain ⟨rest, c, rfl⟩ : ∃ rest c, word = rest ++ [c] := by
    exact ⟨_, _, (List.dropLast_append_getLast h.1).symm⟩
  have hc : c ≠ ' ' := by
    rintro rfl
    exact h.2 (by simp)
  unfold trim
  rw [← List.append_assoc]
  exact List.rdropWhile_concat_neg _ _ c (by simpa using hc)

section LastWord

variable (before : Text) {word : Text} (h : IsWord word)
include h

theorem ne_space_of_mem_reverse {c : Char} (hc : c ∈ word.reverse) :
    decide (c ≠ ' ') = true := by
  apply decide_eq_true
  intro hspace
  rw [hspace, List.mem_reverse] at hc
  exact h.2 hc

/-- The word behind the last space is the last one. -/
theorem lastWord_append : lastWord (before ++ ' ' :: word) = word := by
  have hreverse : (before ++ ' ' :: word).reverse = word.reverse ++ ' ' :: before.reverse := by simp
  have htrim := trim_append_word (before ++ [' ']) h
  rw [List.append_assoc, List.singleton_append] at htrim
  unfold lastWord
  rw [htrim, List.rtakeWhile, hreverse,
    List.takeWhile_append_of_pos fun c ↦ ne_space_of_mem_reverse h,
    List.takeWhile_cons_of_neg (by simp), List.append_nil, List.reverse_reverse]

theorem beforeLastWord_append : beforeLastWord (before ++ ' ' :: word) = trim before := by
  have hreverse : (before ++ ' ' :: word).reverse = word.reverse ++ ' ' :: before.reverse := by simp
  have htrim := trim_append_word (before ++ [' ']) h
  rw [List.append_assoc, List.singleton_append] at htrim
  have hspace : trim (before ++ [' ']) = trim before := trim_append_spaces before 1
  unfold beforeLastWord
  rw [htrim, List.rdropWhile, hreverse,
    List.dropWhile_append_of_pos fun c ↦ ne_space_of_mem_reverse h,
    List.dropWhile_cons_of_neg (by simp), List.reverse_cons, List.reverse_reverse, hspace]

end LastWord

theorem readWords_trim (count : ℕ) (line : Text) :
    readWords count (trim line) = readWords count line := by
  cases count with
  | zero => rw [readWords, readWords, trim_trim]
  | succ count => simp only [readWords, beforeLastWord, lastWord, trim_trim]

/-! ## Rows -/

/-- The columns of a row behind the first. -/
def cellsText (other : ℕ) (cells : List Text) : Text :=
  cells.flatMap fun cell ↦ ' ' :: Text.padLeft other cell

def rowLine (first other : ℕ) (name : Text) (cells : List Text) : Text :=
  Text.padRight first name ++ cellsText other cells

/-- A row is one line. -/
theorem row_eq_rowLine (first other : ℕ) (name : Text) (cells : List Text) :
    row first other name cells = rowLine first other name cells ++ ['\n'] := rfl

theorem padLeft_eq (other : ℕ) (cell : Text) :
    ' ' :: Text.padLeft other cell =
      List.replicate (other - cell.length) ' ' ++ ' ' :: cell := by
  calc
    ' ' :: Text.padLeft other cell =
        List.replicate (other - cell.length + 1) ' ' ++ cell := rfl
    _ = List.replicate (other - cell.length) ' ' ++ ' ' :: cell := by
      rw [List.replicate_succ', List.append_assoc, List.singleton_append]

/-- The cells of a row are read back from its end, and what is left is its name. -/
theorem readWords_rowLine (first other : ℕ) (name : Text) {cells : List Text}
    (h : ∀ cell ∈ cells, IsWord cell) :
    readWords cells.length (rowLine first other name cells) = (trim name, cells) := by
  induction cells using List.reverseRecOn with
  | nil =>
    have hpad : rowLine first other name [] = name ++ List.replicate (first - name.length) ' ' :=
      List.append_nil _
    rw [List.length_nil, readWords, hpad, trim_append_spaces]
  | append_singleton cells cell ih =>
    have hcell : IsWord cell := h cell (by simp)
    have hcells : ∀ cell ∈ cells, IsWord cell := fun cell hmem ↦ h cell (by simp [hmem])
    have hline : rowLine first other name (cells ++ [cell]) =
        rowLine first other name cells ++ List.replicate (other - cell.length) ' ' ++
          ' ' :: cell := by
      simp only [rowLine, cellsText, List.flatMap_append, List.flatMap_singleton, padLeft_eq,
        List.append_assoc]
    rw [List.length_append, List.length_singleton, readWords, hline,
      beforeLastWord_append _ hcell, lastWord_append _ hcell, trim_append_spaces, readWords_trim,
      ih hcells]

/-- A row is as wide as its columns, or wider where a cell does not fit. -/
theorem length_cellsText (other : ℕ) (cells : List Text) :
    (other + 1) * cells.length ≤ (cellsText other cells).length ∧
      ((cellsText other cells).length = (other + 1) * cells.length ↔
        ∀ cell ∈ cells, cell.length ≤ other) := by
  induction cells with
  | nil => simp [cellsText]
  | cons cell cells ih =>
    obtain ⟨hle, heq⟩ := ih
    have hlength : (cellsText other (cell :: cells)).length =
        max other cell.length + 1 + (cellsText other cells).length := by
      rw [cellsText, List.flatMap_cons, List.length_append, List.length_cons, Text.padLeft,
        List.length_leftpad]
      rfl
    have hproduct : (other + 1) * (cell :: cells).length =
        other + 1 + (other + 1) * cells.length := by
      rw [List.length_cons, Nat.mul_add, Nat.mul_one, Nat.add_comm]
    rw [hlength, hproduct, List.forall_mem_cons, ← heq]
    generalize (other + 1) * cells.length = width at hle ⊢
    omega

/-- A row is as wide as its columns, and wider if and only if something is too long for its
column. -/
theorem length_rowLine (first other : ℕ) (name : Text) (cells : List Text) :
    first + (other + 1) * cells.length ≤ (rowLine first other name cells).length ∧
      ((rowLine first other name cells).length = first + (other + 1) * cells.length ↔
        name.length ≤ first ∧ ∀ cell ∈ cells, cell.length ≤ other) := by
  obtain ⟨hle, heq⟩ := length_cellsText other cells
  have hlength : (rowLine first other name cells).length =
      max first name.length + (cellsText other cells).length := by
    rw [rowLine, List.length_append, Text.padRight, List.length_rightpad]
  rw [hlength, ← heq]
  generalize (other + 1) * cells.length = width at hle ⊢
  omega

def numberLine (first other : ℕ) (name : Text) (numbers : List ℤ) : Text :=
  rowLine first other name (numbers.map Text.ofInt)

/-- The numbers of a row are read back with its name up to the spaces at its end, and the width of
the row tells whether all of them have found room in their columns. -/
theorem numberLine_reads_back (first other : ℕ) (name : Text) (numbers : List ℤ) :
    readWords numbers.length (numberLine first other name numbers) =
        (trim name, numbers.map Text.ofInt) ∧
      first + (other + 1) * numbers.length ≤ (numberLine first other name numbers).length ∧
      ((numberLine first other name numbers).length = first + (other + 1) * numbers.length ↔
        name.length ≤ first ∧ ∀ n ∈ numbers, (Text.ofInt n).length ≤ other) := by
  have hwords : ∀ cell ∈ numbers.map Text.ofInt, IsWord cell := by
    intro cell hcell
    obtain ⟨n, -, rfl⟩ := List.mem_map.1 hcell
    exact isWord_ofInt n
  have hread := readWords_rowLine first other name hwords
  have hlength := length_rowLine first other name (numbers.map Text.ofInt)
  rw [List.length_map] at hread hlength
  rw [List.forall_mem_map] at hlength
  exact ⟨hread, hlength⟩

theorem newline_notMem_numberLine (first other : ℕ) {name : Text} (h : '\n' ∉ name)
    (numbers : List ℤ) : '\n' ∉ numberLine first other name numbers := by
  unfold numberLine rowLine cellsText Text.padRight Text.padLeft List.rightpad List.leftpad
  simp only [List.mem_append, List.mem_flatMap, List.mem_cons, List.mem_replicate, List.mem_map,
    not_or, not_exists, not_and]
  refine ⟨⟨h, fun _ ↦ by decide⟩, ?_⟩
  rintro cell ⟨n, -, rfl⟩
  refine ⟨by decide, fun _ ↦ by decide, ?_⟩
  intro hnewline
  exact absurd ((Text.isDecimal_ofInt n).isDigit_or_eq_minus hnewline) (by decide)

/-! ## Lines -/

/-- Lines without newlines are read back from their text. -/
theorem lines?_flatMap {lines : List Text} (h : ∀ line ∈ lines, '\n' ∉ line) :
    lines? (lines.flatMap (· ++ ['\n'])) = some lines := by
  have hsplit : (lines.flatMap (· ++ ['\n'])).splitOn '\n' = lines ++ [[]] := by
    induction lines with
    | nil => rfl
    | cons line lines ih =>
      obtain ⟨hline, hlines⟩ := List.forall_mem_cons.1 h
      rw [List.flatMap_cons, List.append_assoc, List.singleton_append,
        List.splitOn_append_cons_self, List.splitOn_eq_singleton hline, ih hlines]
      rfl
  simp [lines?, hsplit]

/-- The line that separates the parts of a block. -/
def rule : Text := List.replicate 80 '-'

def fileTitle : Text :=
  Text.lit "Name                      Lines       Code   Comments     Blanks  Functions"

def functionTitle : Text :=
  Text.lit "Name                                           Code                  CCN"

def fileNumbers (file : FileCounts) : List ℤ :=
  [file.lines, file.code, file.comments, file.blanks, file.functions]

def functionNumbers (function : FunctionCounts) : List ℤ := [function.code, function.complexity]

def fileLine (report : Report) : Text := numberLine 20 10 report.file.name (fileNumbers report.file)

def functionLine (entry : Row) : Text :=
  numberLine 30 20 entry.qualifiedName (functionNumbers entry.function)

def reportLines (summary : Summary) (key : SortKey) : List Text :=
  [rule, fileTitle, rule] ++ summary.reports.map fileLine ++ [rule, rule, functionTitle, rule] ++
    (summary.rows key).map functionLine ++ [rule]

theorem separator_eq : separator = rule ++ ['\n'] := rfl

theorem fileHeader_eq : fileHeader = [rule, fileTitle, rule].flatMap (· ++ ['\n']) := by
  have htitle : fileRow "Name" ["Lines", "Code", "Comments", "Blanks", "Functions"] =
      fileTitle ++ ['\n'] := by decide +kernel
  unfold fileHeader
  rw [htitle, separator_eq]
  simp only [List.flatMap_cons, List.flatMap_nil, List.append_nil, List.append_assoc]

theorem functionHeader_eq :
    functionHeader = [rule, functionTitle, rule].flatMap (· ++ ['\n']) := by
  have htitle : functionRow "Name" ["Code", "CCN"] = functionTitle ++ ['\n'] := by decide +kernel
  unfold functionHeader
  rw [htitle, separator_eq]
  simp only [List.flatMap_cons, List.flatMap_nil, List.append_nil, List.append_assoc]

/-- The report is made of its lines. -/
theorem render_eq_flatMap (summary : Summary) (key : SortKey) :
    render summary key = (reportLines summary key).flatMap (· ++ ['\n']) := by
  have hfiles : (fun report : Report ↦ ofFile report.file) =
      fun report ↦ fileLine report ++ ['\n'] := by
    funext report
    exact row_eq_rowLine 20 10 _ _
  have hfunctions : ofRow = fun entry ↦ functionLine entry ++ ['\n'] := by
    funext entry
    exact row_eq_rowLine 30 20 _ _
  unfold render reportLines
  rw [fileHeader_eq, functionHeader_eq, hfiles, hfunctions, separator_eq]
  simp only [List.flatMap_append, List.flatMap_map, List.flatMap_cons, List.flatMap_nil,
    List.append_nil, List.append_assoc]

theorem length_reportLines (summary : Summary) (key : SortKey) :
    (reportLines summary key).length =
      8 + summary.reports.length + (summary.rows key).length := by
  simp only [reportLines, List.length_append, List.length_map, List.length_cons, List.length_nil]
  omega

/-! ## Reports -/

theorem newline_notMem_qualifiedName {entry : Row} (hfile : '\n' ∉ entry.report.file.name)
    (hfunction : '\n' ∉ entry.function.name) : '\n' ∉ entry.qualifiedName := by
  unfold Row.qualifiedName FunctionCounts.qualifiedName
  simp [hfile, hfunction]

/-- If no name holds a newline, no line of the report does. -/
theorem newline_notMem_reportLines {summary : Summary} (key : SortKey)
    (hfiles : ∀ report ∈ summary.reports, '\n' ∉ report.file.name)
    (hfunctions : ∀ report ∈ summary.reports, ∀ function ∈ report.functions,
      '\n' ∉ function.name) :
    ∀ line ∈ reportLines summary key, '\n' ∉ line := by
  have hrule : '\n' ∉ rule := by decide
  have hfileTitle : '\n' ∉ fileTitle := by decide
  have hfunctionTitle : '\n' ∉ functionTitle := by decide
  have hfileLines : ∀ line ∈ summary.reports.map fileLine, '\n' ∉ line := by
    intro line hline
    obtain ⟨report, hreport, rfl⟩ := List.mem_map.1 hline
    exact newline_notMem_numberLine 20 10 (hfiles report hreport) _
  have hfunctionLines : ∀ line ∈ (summary.rows key).map functionLine, '\n' ∉ line := by
    intro line hline
    obtain ⟨entry, hentry, rfl⟩ := List.mem_map.1 hline
    obtain ⟨hreport, hfunction⟩ := Summary.mem_rows_iff.1 hentry
    apply newline_notMem_numberLine 30 20
    exact newline_notMem_qualifiedName (hfiles _ hreport) (hfunctions _ hreport _ hfunction)
  have hhead : ∀ line ∈ [rule, fileTitle, rule], '\n' ∉ line :=
    List.forall_mem_cons.2 ⟨hrule, List.forall_mem_cons.2 ⟨hfileTitle, by simpa using hrule⟩⟩
  have hmiddle : ∀ line ∈ [rule, rule, functionTitle, rule], '\n' ∉ line :=
    List.forall_mem_cons.2 ⟨hrule, List.forall_mem_cons.2 ⟨hrule,
      List.forall_mem_cons.2 ⟨hfunctionTitle, by simpa using hrule⟩⟩⟩
  unfold reportLines
  simp only [List.forall_mem_append]
  exact ⟨⟨⟨⟨hhead, hfileLines⟩, hmiddle⟩, hfunctionLines⟩, by simpa using hrule⟩

/-- A plain report is made of lines, with the rules and the titles in their places.  From the line
of each file and of each function its numbers are read back, and its name up to the spaces at its
end.  A line is as wide as its columns, and wider if and only if the name or a number is too long
for its column. -/
theorem lines_render_read_back (summary : Summary) (key : SortKey)
    (hfiles : ∀ report ∈ summary.reports, '\n' ∉ report.file.name)
    (hfunctions : ∀ report ∈ summary.reports, ∀ function ∈ report.functions,
      '\n' ∉ function.name) :
    ∃ lines fileLines functionLines : List Text,
      lines? (render summary key) = some lines ∧
      lines.length = 8 + summary.reports.length + (summary.rows key).length ∧
      lines = [rule, fileTitle, rule] ++ fileLines ++ [rule, rule, functionTitle, rule] ++
        functionLines ++ [rule] ∧
      List.Forall₂ (fun report line ↦
        readWords 5 line = (trim report.file.name, (fileNumbers report.file).map Text.ofInt) ∧
          75 ≤ line.length ∧
          (line.length = 75 ↔ report.file.name.length ≤ 20 ∧
            ∀ n ∈ fileNumbers report.file, (Text.ofInt n).length ≤ 10))
        summary.reports fileLines ∧
      List.Forall₂ (fun entry line ↦
        readWords 2 line =
            (trim entry.qualifiedName, (functionNumbers entry.function).map Text.ofInt) ∧
          72 ≤ line.length ∧
          (line.length = 72 ↔ entry.qualifiedName.length ≤ 30 ∧
            ∀ n ∈ functionNumbers entry.function, (Text.ofInt n).length ≤ 20))
        (summary.rows key) functionLines ∧
      ∀ n : ℤ, Text.IsDecimal n (Text.ofInt n) := by
  refine ⟨reportLines summary key, summary.reports.map fileLine,
    (summary.rows key).map functionLine, ?_, length_reportLines summary key, rfl, ?_, ?_,
    Text.isDecimal_ofInt⟩
  · rw [render_eq_flatMap]
    exact lines?_flatMap (newline_notMem_reportLines key hfiles hfunctions)
  · rw [List.forall₂_map_right_iff, List.forall₂_same]
    intro report _
    exact numberLine_reads_back 20 10 report.file.name (fileNumbers report.file)
  · rw [List.forall₂_map_right_iff, List.forall₂_same]
    intro entry _
    exact numberLine_reads_back 30 20 entry.qualifiedName (functionNumbers entry.function)

/-- A name of several words with spaces at its end, and a number that is too long for its column. -/
theorem lines_render_of_wide_number :
    let file : FileCounts := ⟨Text.lit "two words 7  ", -12345678901, 0, 0, 0, 1⟩
    let summary : Summary := ⟨[⟨[], file, [⟨Text.lit "f", 3, 2⟩]⟩], ∅⟩
    (∀ report ∈ summary.reports, '\n' ∉ report.file.name) ∧
      (∀ report ∈ summary.reports, ∀ function ∈ report.functions, '\n' ∉ function.name) ∧
      ∃ fileLine functionLine : Text,
        lines? (render summary .name) =
            some [rule, fileTitle, rule, fileLine, rule, rule, functionTitle, rule, functionLine,
              rule] ∧
          readWords 5 fileLine = (Text.lit "two words 7",
            [Text.lit "-12345678901", ['0'], ['0'], ['0'], ['1']]) ∧
          fileLine.length ≠ 75 ∧
          readWords 2 functionLine = (Text.lit "f@two words 7", [['3'], ['2']]) ∧
          functionLine.length = 72 := by
  intro file summary
  have hfiles : ∀ report ∈ summary.reports, '\n' ∉ report.file.name := by decide
  have hfunctions : ∀ report ∈ summary.reports, ∀ function ∈ report.functions,
      '\n' ∉ function.name := by decide
  obtain ⟨lines, fileLines, functionLines, hlines, -, rfl, hfileLines, hfunctionLines, -⟩ :=
    lines_render_read_back summary .name hfiles hfunctions
  obtain ⟨fileLine, rest, ⟨hfile, -, hfileLength⟩, hrest, rfl⟩ :=
    List.forall₂_cons_left_iff.1 hfileLines
  obtain rfl := List.forall₂_nil_left_iff.1 hrest
  obtain ⟨functionLine, others, ⟨hfunction, -, hfunctionLength⟩, hothers, rfl⟩ :=
    List.forall₂_cons_left_iff.1 hfunctionLines
  obtain rfl := List.forall₂_nil_left_iff.1 hothers
  refine ⟨hfiles, hfunctions, fileLine, functionLine, hlines, hfile, ?_, hfunction, ?_⟩
  · rw [Ne, hfileLength]
    decide
  · rw [hfunctionLength]
    decide

end ShellMetrics.Render.Columns
