import ShellMetrics.Proofs.SplitLines
import ShellMetrics.Report

/-!
# Line ends

Splitting a text undoes putting lines together, whether a line ends in a newline or in a carriage
return and a newline.  A text has as many lines as newlines, and one more if something stands
behind the last of them.  All of this is shown by going from newline to newline: a text is a last
line without newline, or a line, a newline and a further text.
-/

namespace ShellMetrics

/-- Induction over the pieces that a separator cuts a list into. -/
@[elab_as_elim]
theorem induction_on_pieces {α : Type} (separator : α) {motive : List α → Prop}
    (last : ∀ piece, separator ∉ piece → motive piece)
    (next : ∀ piece rest, separator ∉ piece → motive rest → motive (piece ++ separator :: rest))
    (items : List α) : motive items := by
  induction hlength : items.length using Nat.strongRecOn generalizing items with
  | ind n ih =>
    by_cases h : separator ∈ items
    · obtain ⟨piece, rest, rfl, hpiece⟩ := List.eq_append_cons_of_mem h
      have hshorter : rest.length < n := by
        rw [← hlength, List.length_append, List.length_cons]
        omega
      exact next piece rest hpiece (ih rest.length hshorter rest rfl)
    · exact last items h

/-- The number of separators, and one more if the list is not empty and does not end in one. -/
def pieceCount {α : Type} [DecidableEq α] (separator : α) (items : List α) : ℕ :=
  items.count separator + if items ≠ [] ∧ items.getLast? ≠ some separator then 1 else 0

section PieceCount

variable {α : Type} [DecidableEq α] {separator : α}

theorem pieceCount_nil : pieceCount separator [] = 0 := by
  unfold pieceCount
  simp

theorem pieceCount_of_notMem {piece : List α} (h : separator ∉ piece) (hne : piece ≠ []) :
    pieceCount separator piece = 1 := by
  have hlast : piece.getLast? ≠ some separator := by
    intro hlast
    exact h (List.mem_of_getLast? hlast)
  unfold pieceCount
  rw [List.count_eq_zero_of_not_mem h, if_pos ⟨hne, hlast⟩]

/-- The piece before a separator is counted also when it is empty. -/
theorem pieceCount_append_cons {piece : List α} (h : separator ∉ piece) (rest : List α) :
    pieceCount separator (piece ++ separator :: rest) = pieceCount separator rest + 1 := by
  have hcount : (piece ++ separator :: rest).count separator = rest.count separator + 1 := by
    rw [List.count_append, List.count_eq_zero_of_not_mem h, List.count_cons_self, Nat.zero_add]
  unfold pieceCount
  rw [hcount]
  cases rest with
  | nil => simp
  | cons item rest => simp [Nat.add_right_comm]

end PieceCount

namespace Script

/-! ## One line -/

/-- A line without newline whose end is not taken for a part of its line end. -/
def IsLine (line : Text) : Prop := '\n' ∉ line ∧ line.getLast? ≠ some '\r'

instance (line : Text) : Decidable (IsLine line) := inferInstanceAs (Decidable (_ ∧ _))

theorem dropReturn_of_getLast?_ne {line : Text} (h : line.getLast? ≠ some '\r') :
    dropReturn line = line := by
  unfold dropReturn
  rw [if_neg h]

theorem dropReturn_append_return (line : Text) : dropReturn (line ++ ['\r']) = line := by
  unfold dropReturn
  rw [List.getLast?_concat, if_pos rfl, List.dropLast_concat]

theorem notMem_dropReturn {c : Char} {line : Text} (h : c ∉ line) : c ∉ dropReturn line := by
  unfold dropReturn
  split
  · intro hmem
    exact h (List.dropLast_subset line hmem)
  · exact h

theorem splitLines_of_notMem {line : Text} (h : '\n' ∉ line) (hne : line ≠ []) :
    splitLines line = [dropReturn line] := by
  unfold splitLines
  rw [List.splitOn_eq_singleton h]
  simp [hne]

/-- The first line ends at the first newline. -/
theorem splitLines_line_append {line : Text} (h : '\n' ∉ line) (rest : Text) :
    splitLines (line ++ '\n' :: rest) = dropReturn line :: splitLines rest := by
  rw [splitLines_append_newline, List.splitOn_eq_singleton h]
  rfl

theorem splitLines_of_isLine {line : Text} (h : IsLine line) (hne : line ≠ []) :
    splitLines line = [line] := by
  rw [splitLines_of_notMem h.1 hne, dropReturn_of_getLast?_ne h.2]

/-! ## Lines with their ends -/

inductive LineEnd where
  | newline
  | returnNewline
  deriving DecidableEq

def LineEnd.text : LineEnd → Text
  | newline => ['\n']
  | returnNewline => ['\r', '\n']

def joinLines (lines : List (Text × LineEnd)) : Text :=
  lines.flatMap fun line ↦ line.1 ++ line.2.text

/-- A line is read without its line end, of whatever kind it is. -/
theorem splitLines_terminated {line : Text} (h : IsLine line) (lineEnd : LineEnd) (rest : Text) :
    splitLines (line ++ lineEnd.text ++ rest) = line :: splitLines rest := by
  cases lineEnd with
  | newline =>
    calc
      splitLines (line ++ ['\n'] ++ rest) = splitLines (line ++ '\n' :: rest) := by simp
      _ = dropReturn line :: splitLines rest := splitLines_line_append h.1 rest
      _ = line :: splitLines rest := by rw [dropReturn_of_getLast?_ne h.2]
  | returnNewline =>
    have hline : '\n' ∉ line ++ ['\r'] := by simpa using h.1
    calc
      splitLines (line ++ ['\r', '\n'] ++ rest) = splitLines (line ++ ['\r'] ++ '\n' :: rest) := by
        simp
      _ = dropReturn (line ++ ['\r']) :: splitLines rest := splitLines_line_append hline rest
      _ = line :: splitLines rest := by rw [dropReturn_append_return]

/-- Lines with ends of their own are read back, by induction on the lines. -/
theorem splitLines_joinLines_append {lines : List (Text × LineEnd)}
    (h : ∀ line ∈ lines, IsLine line.1) (rest : Text) :
    splitLines (joinLines lines ++ rest) = lines.map Prod.fst ++ splitLines rest := by
  induction lines with
  | nil => rfl
  | cons line lines ih =>
    obtain ⟨hline, hlines⟩ := List.forall_mem_cons.1 h
    unfold joinLines at ih ⊢
    rw [List.flatMap_cons, List.append_assoc, splitLines_terminated hline, ih hlines]
    rfl

/-! ## Any text -/

theorem newline_notMem_of_mem_splitLines {text line : Text} (h : line ∈ splitLines text) :
    '\n' ∉ line := by
  induction text using induction_on_pieces '\n' with
  | last piece hpiece =>
    by_cases hne : piece = []
    · rw [hne, splitLines_nil] at h
      cases h
    · rw [splitLines_of_notMem hpiece hne, List.mem_singleton] at h
      rw [h]
      exact notMem_dropReturn hpiece
  | next piece rest hpiece ih =>
    rw [splitLines_line_append hpiece] at h
    rcases List.mem_cons.1 h with rfl | hrest
    · exact notMem_dropReturn hpiece
    · exact ih hrest

/-- There are as many lines as newlines, and one more if something follows the last of them. -/
theorem length_splitLines (text : Text) : (splitLines text).length = pieceCount '\n' text := by
  induction text using induction_on_pieces '\n' with
  | last piece hpiece =>
    by_cases hne : piece = []
    · rw [hne, splitLines_nil, pieceCount_nil]
      rfl
    · rw [splitLines_of_notMem hpiece hne, pieceCount_of_notMem hpiece hne]
      rfl
  | next piece rest hpiece ih =>
    rw [splitLines_line_append hpiece, pieceCount_append_cons hpiece, List.length_cons, ih]

/-! ## Carriage returns -/

/-- The text with a carriage return put before every newline. -/
def withReturns (text : Text) : Text :=
  text.flatMap fun c ↦ if c = '\n' then ['\r', '\n'] else [c]

theorem withReturns_of_notMem {line : Text} (h : '\n' ∉ line) : withReturns line = line := by
  induction line with
  | nil => rfl
  | cons c rest ih =>
    obtain ⟨hc, hrest⟩ : c ≠ '\n' ∧ '\n' ∉ rest := by simpa [eq_comm] using h
    unfold withReturns at ih ⊢
    rw [List.flatMap_cons, if_neg hc, ih hrest]
    rfl

theorem withReturns_line_append {line : Text} (h : '\n' ∉ line) (rest : Text) :
    withReturns (line ++ '\n' :: rest) =
      line ++ LineEnd.returnNewline.text ++ withReturns rest := by
  have hline := withReturns_of_notMem h
  unfold withReturns at hline ⊢
  rw [List.flatMap_append, List.flatMap_cons, if_pos rfl, hline, List.append_assoc]
  rfl

theorem getLast?_ne_return {line rest : Text} (h : ¬ ['\r', '\n'] <:+: line ++ '\n' :: rest) :
    line.getLast? ≠ some '\r' := by
  intro hlast
  obtain ⟨before, rfl⟩ := List.getLast?_eq_some_iff.1 hlast
  apply h
  exact ⟨before, rest, by simp⟩

/-- A carriage return before each newline is not seen. -/
theorem splitLines_withReturns {text : Text} (h : ¬ ['\r', '\n'] <:+: text) :
    splitLines (withReturns text) = splitLines text := by
  induction text using induction_on_pieces '\n' with
  | last piece hpiece => rw [withReturns_of_notMem hpiece]
  | next piece rest hpiece ih =>
    have hline : IsLine piece := ⟨hpiece, getLast?_ne_return h⟩
    have hrest : ¬ ['\r', '\n'] <:+: rest := by
      intro hinside
      apply h
      exact hinside.trans ((List.suffix_cons '\n' rest).trans (List.suffix_append piece _)).isInfix
    rw [withReturns_line_append hpiece, splitLines_terminated hline, ih hrest,
      splitLines_line_append hpiece, dropReturn_of_getLast?_ne hline.2]

/-- Splitting undoes joining, whatever each line ends in and whether or not the last line is
ended; the lines of any text are counted by its newlines and hold none; texts that end in a
newline are split apart from what follows; and a carriage return put before every newline changes
neither the lines nor the report. -/
theorem splitLines_inverts_joining :
    (∀ lines : List (Text × LineEnd), (∀ line ∈ lines, IsLine line.1) →
      splitLines (joinLines lines) = lines.map Prod.fst ∧
        ∀ last, IsLine last → last ≠ [] →
          splitLines (joinLines lines ++ last) = lines.map Prod.fst ++ [last]) ∧
      (∀ text : Text,
        (splitLines text).length =
            text.count '\n' + (if text ≠ [] ∧ text.getLast? ≠ some '\n' then 1 else 0) ∧
          ∀ line ∈ splitLines text, '\n' ∉ line) ∧
      (∀ first second : Text, first = [] ∨ first.getLast? = some '\n' →
        splitLines (first ++ second) = splitLines first ++ splitLines second) ∧
      ∀ text : Text, ¬ ['\r', '\n'] <:+: text →
        splitLines (withReturns text) = splitLines text ∧
          ∀ name path, (Script.mk name (splitLines (withReturns text))).report path =
            (Script.mk name (splitLines text)).report path := by
  refine ⟨?_, ?_, ?_, ?_⟩
  · intro lines hlines
    constructor
    · have h := splitLines_joinLines_append hlines []
      rwa [List.append_nil, splitLines_nil, List.append_nil] at h
    · intro last hlast hne
      rw [splitLines_joinLines_append hlines, splitLines_of_isLine hlast hne]
  · intro text
    exact ⟨length_splitLines text, fun line ↦ newline_notMem_of_mem_splitLines⟩
  · intro first second h
    exact splitLines_append h second
  · intro text h
    have hlines := splitLines_withReturns h
    refine ⟨hlines, ?_⟩
    intro name path
    rw [hlines]

/-- Both line ends in one text, with an empty line and a last line that is not ended, and a text
with a carriage return that no newline follows. -/
theorem splitLines_of_mixed_ends :
    let lines : List (Text × LineEnd) :=
      [(Text.lit "a", .returnNewline), ([], .newline), (Text.lit "\rb", .returnNewline)]
    let text := Text.lit "a\n\nb\r"
    (∀ line ∈ lines, IsLine line.1) ∧ IsLine (Text.lit "c") ∧
      splitLines (joinLines lines ++ Text.lit "c") = [['a'], [], ['\r', 'b'], ['c']] ∧
      ¬ ['\r', '\n'] <:+: text ∧
      splitLines (withReturns text) = splitLines text := by
  intro lines text
  have hlines : ∀ line ∈ lines, IsLine line.1 := by decide
  have hlast : IsLine (Text.lit "c") := by decide
  have htext : ¬ ['\r', '\n'] <:+: text := by decide
  obtain ⟨hjoin, -, -, hreturns⟩ := splitLines_inverts_joining
  exact ⟨hlines, hlast, (hjoin lines hlines).2 _ hlast (by decide), htext, (hreturns text htext).1⟩

end Script

end ShellMetrics
