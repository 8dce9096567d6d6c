import ShellMetrics.Proofs.Counts
import Mathlib.Data.List.Perm.Subperm

/-!
# Balance of a report

The counts of a file and the counts of its functions account for the same lines and the same
branches.  A line of the file is blank, a comment, stored in one body, or a declaration; the one
exception is a comment at the top, which the file counts as code and no function has.  Branches
are kept in the same way: what is missing from the functions stands on declarations, on blank
lines or on comments.
-/

namespace ShellMetrics

/-- Lines are kept only under declared names and under that for lines outside every function. -/
theorem keys_bodies_subset (lines : List Text) :
    (bodies lines).keys ⊆
      Reader.bareCode :: (Reader.start.declarations lines).map Line.declaredName := by
  intro name hname
  rw [bodies_eq_pushAll, Ledger.keys_pushAll_empty, List.mem_eraseDups, List.mem_map] at hname
  obtain ⟨item, hitem, rfl⟩ := hname
  rcases Reader.mem_filed hitem with hactive | hbare | hdeclared
  · cases hactive
  · exact List.mem_cons.2 (.inl hbare)
  · exact List.mem_cons_of_mem _ hdeclared

/-- There is at most one body for each declaration, and one of bare code. -/
theorem length_keys_bodies_le (lines : List Text) :
    (bodies lines).keys.length ≤ (Reader.start.declarations lines).length + 1 := by
  have h := (List.subperm_of_subset (bodies lines).nodup_keys_list
    (keys_bodies_subset lines)).length_le
  simpa using h

namespace Script

/-- A declaration that opens a body is a line that declares a function. -/
theorem length_declarations_le (script : Script) :
    (Reader.start.declarations (Line.codeLines script.lines)).length ≤ script.functionCount := by
  have hsub : (Reader.start.declarations (Line.codeLines script.lines)).Sublist script.lines := by
    rw [Reader.declarations_eq_linesOf]
    exact (Reader.linesOf_sublist _ _ _).trans List.filter_sublist
  have hall : (Reader.start.declarations (Line.codeLines script.lines)).countP Line.declares =
      (Reader.start.declarations (Line.codeLines script.lines)).length := by
    rw [List.countP_eq_length]
    intro line hline
    exact Reader.declares_of_mem_declarations hline
  rw [← hall]
  exact hsub.countP_le

/-- There is at most one row for each line that declares a function, and one for the rest. -/
theorem length_functionCounts_le (script : Script) :
    script.functionCounts.length ≤ script.functionCount + 1 := by
  have hkeys := length_keys_bodies_le (Line.codeLines script.lines)
  have hdeclared := script.length_declarations_le
  have hlength : script.functionCounts.length = script.functionBodies.keys.length := by
    rw [← map_name_functionCounts, List.length_map]
  rw [hlength]
  exact hkeys.trans (Nat.add_le_add_right hdeclared 1)

/-- The code of the file is the code of its functions, their declarations, and a comment at the
top. -/
theorem fileCounts_code_eq_sum (script : Script) :
    script.fileCounts.code =
      (script.functionCounts.map (·.code)).sum +
        (Reader.start.declarations (Line.codeLines script.lines)).length +
          Line.leadingComments script.lines := by
  have hsum := script.sum_map_row (fun _ ↦ 1) (·.code) (by intro entry; simp [row])
  have hcode := script.fileCounts_code
  rw [Line.codeCountAt_eq] at hcode
  simp only [List.map_const', List.sum_replicate, Nat.nsmul_eq_mul, mul_one] at hsum
  push_cast at hcode
  omega

/-- No line of a file is lost or counted twice. -/
theorem report_counts_balance (name path : Text) (lines : List Text) :
    let report := (Script.mk name lines).report path
    let file := report.file
    let declarations := Reader.start.declarations (Line.codeLines lines)
    file.lines = lines.length ∧
      file.lines = file.code + file.comments + file.blanks ∧
      (0 ≤ file.lines ∧ 0 ≤ file.code ∧ 0 ≤ file.comments ∧ 0 ≤ file.blanks) ∧
      file.code = (lines.zipIdx.countP fun entry ↦
        !Line.isBlank entry.1 && !Line.isCommentAt entry.2 entry.1 : ℕ) ∧
      file.code = (report.functions.map (·.code)).sum + declarations.length +
        Line.leadingComments lines ∧
      declarations.length ≤ file.functions ∧
      (report.functions.map (·.name)).Nodup ∧
      (∀ function ∈ report.functions, 1 ≤ function.code ∧ 1 ≤ function.complexity) ∧
      report.functions.length ≤ file.functions + 1 := by
  intro report file declarations
  let script := Script.mk name lines
  have hcode : file.code = Line.codeCountAt lines := script.fileCounts_code
  have hlength : lines.length = script.blankCount + script.commentCount + Line.codeCountAt lines :=
    script.length_lines_eq
  have hlines : file.lines = lines.length := rfl
  have hcomments : file.comments = script.commentCount := rfl
  have hblanks : file.blanks = script.blankCount := rfl
  refine ⟨rfl, by omega, by omega, hcode, script.fileCounts_code_eq_sum, ?_, ?_, ?_, ?_⟩
  · exact Int.ofNat_le.2 script.length_declarations_le
  · rw [show report.functions = script.functionCounts from rfl, map_name_functionCounts]
    exact script.functionBodies.nodup_keys_list
  · intro function hfunction
    have hmem : function ∈ script.functionCounts := hfunction
    obtain ⟨hrow, hne⟩ := mem_functionCounts hmem
    have hpos := List.length_pos_of_ne_nil hne
    rw [hrow]
    simp only [row, Branch.complexity_eq]
    omega
  · have h := Int.ofNat_le.2 script.length_functionCounts_le
    exact h

/-! ## Branches -/

/-- The branches of the rows, with those of the declarations that open bodies, are the branches of
all code lines. -/
theorem sum_complexity_sub_one (script : Script) :
    (script.functionCounts.map fun function ↦ function.complexity - 1).sum +
        (Branch.ofLines (Reader.start.declarations (Line.codeLines script.lines)) : ℤ) =
      Branch.ofLines (Line.codeLines script.lines) := by
  apply script.sum_map_row Branch.ofLine
  intro entry
  simp only [row, Branch.complexity_eq, Branch.ofLines]
  omega

theorem complexity_sub_one_of_mem {script : Script} {function : FunctionCounts}
    (h : function ∈ script.functionCounts) :
    function.complexity - 1 =
      Branch.ofLines (Reader.start.linesOf (some function.name) (Line.codeLines script.lines)) := by
  rw [congrArg FunctionCounts.complexity (mem_functionCounts h).1]
  simp only [row, Branch.complexity_eq]
  omega

/-- The code lines have all branches but those of blank lines and of comments. -/
theorem ofLines_codeLines_add (lines : List Text) :
    Branch.ofLines (Line.codeLines lines) +
        Branch.ofLines (lines.filter fun line ↦ Line.isBlank line || Line.isComment line) =
      Branch.ofLines lines := by
  unfold Branch.ofLines Line.codeLines
  induction lines with
  | nil => rfl
  | cons line rest ih =>
    cases hblank : Line.isBlank line <;> cases hcomment : Line.isComment line <;>
      simp [hblank, hcomment] <;> omega

/-- No branch of a file is lost or given to two functions.  Each code line has one owner, the
rows measure the lines they own, and the lines without an owner are declarations. -/
theorem report_branches_balance (name : Text) (lines : List Text) :
    let functions := (Script.mk name lines).functionCounts
    let code := Line.codeLines lines
    let kept : ℤ := (functions.map fun function ↦ function.complexity - 1).sum
    let declared := Branch.ofLines (Reader.start.declarations code)
    let dropped := Branch.ofLines
      (lines.filter fun line ↦ Line.isBlank line || Line.isComment line)
    kept + declared = Branch.ofLines code ∧
      kept + declared + dropped = Branch.ofLines lines ∧
      (Reader.start.labelled code).map Prod.snd = code ∧
      (functions.map (·.name)).Nodup ∧
      (∀ function ∈ functions, function.complexity - 1 =
        Branch.ofLines (Reader.start.linesOf (some function.name) code)) ∧
      Reader.start.linesOf none code = Reader.start.declarations code := by
  intro functions code kept declared dropped
  let script := Script.mk name lines
  have hcode : kept + declared = Branch.ofLines code := script.sum_complexity_sub_one
  have hall : Branch.ofLines code + dropped = Branch.ofLines lines := ofLines_codeLines_add lines
  refine ⟨hcode, ?_, Reader.start.map_snd_labelled code, ?_, ?_,
    (Reader.start.declarations_eq_linesOf code).symm⟩
  · rw [hcode]
    exact_mod_cast hall
  · rw [show functions = script.functionCounts from rfl, map_name_functionCounts]
    exact script.functionBodies.nodup_keys_list
  · intro function hfunction
    have hmem : function ∈ script.functionCounts := hfunction
    exact complexity_sub_one_of_mem hmem

end Script

end ShellMetrics
