import ShellMetrics.Proofs.Positions

/-!
# Declarations outside quotes

Whether a line declares a function can be read off its positions.  A character counts if it is no
quote mark and has an even number of quote marks before it, single and double ones alike.  The line
declares a function if and only if the characters that count, put together, hold an empty pair of
parentheses and an opening brace with nothing but white space between them.
-/

namespace ShellMetrics.Line

/-! ## Text outside quotes -/

/-- The number of quote marks of either kind before a position. -/
def quotesBefore (line : Text) (position : ℕ) : ℕ := (line.take position).countP isQuote

/-- The characters that are no quote marks and have an even number of quote marks before them, if
`opened` more of them stand before the line. -/
def outsideFrom (opened : ℕ) (line : Text) : Text :=
  (line.zipIdx.filter fun entry ↦
    !isQuote entry.1 && (opened + quotesBefore line entry.2) % 2 = 0).map Prod.fst

/-- The characters that are no quote marks and have an even number of quote marks before them. -/
def outsideQuotes (line : Text) : Text :=
  (line.zipIdx.filter fun entry ↦
    !isQuote entry.1 && quotesBefore line entry.2 % 2 = 0).map Prod.fst

theorem quotesBefore_cons_succ (c : Char) (rest : Text) (position : ℕ) :
    quotesBefore (c :: rest) (position + 1) =
      (if isQuote c then 1 else 0) + quotesBefore rest position := by
  unfold quotesBefore
  rw [List.take_succ_cons, List.countP_cons, Nat.add_comm]

theorem outsideFrom_cons (opened : ℕ) (c : Char) (rest : Text) :
    outsideFrom opened (c :: rest) =
      (if isQuote c = false ∧ opened % 2 = 0 then [c] else []) ++
        outsideFrom (opened + if isQuote c then 1 else 0) rest := by
  unfold outsideFrom
  have hfirst : quotesBefore (c :: rest) 0 = 0 := rfl
  rw [List.zipIdx_cons, List.zipIdx_succ, List.filter_cons, List.filter_map]
  simp only [quotesBefore_cons_succ, Function.comp_def, ← Nat.add_assoc, hfirst, Nat.add_zero]
  by_cases h : isQuote c = false ∧ opened % 2 = 0
  · simp [h, Function.comp_def]
  · simp [h, Function.comp_def]

/-- Dropping quoted text keeps the characters with an even number of quote marks before them. -/
theorem dropQuoted_unifyQuotes (opened : ℕ) (line : Text) :
    dropQuoted (opened % 2 = 1) (unifyQuotes line) = outsideFrom opened line := by
  induction line generalizing opened with
  | nil => rfl
  | cons c rest ih =>
    have hcons : unifyQuotes (c :: rest) =
        (if c = '"' then '\'' else c) :: unifyQuotes rest := rfl
    rw [outsideFrom_cons, hcons, dropQuoted]
    by_cases hquote : isQuote c = true
    · have hmark : (if c = '"' then '\'' else c) = '\'' := by
        simp only [isQuote, Bool.or_eq_true, decide_eq_true_eq] at hquote
        split <;> simp_all
      have hflip : (!decide (opened % 2 = 1)) = decide ((opened + 1) % 2 = 1) := by
        simp only [← decide_not, decide_eq_decide]
        omega
      rw [if_pos hmark, hflip, ih]
      simp [hquote]
    · obtain ⟨hsingle, hdouble⟩ : c ≠ '\'' ∧ c ≠ '"' := by simpa [isQuote] using hquote
      have hparity : opened % 2 = 0 ∨ opened % 2 = 1 := by omega
      rcases hparity with heven | hodd
      · simp [hsingle, hdouble, hquote, heven, ← ih]
      · simp [hsingle, hdouble, hquote, hodd, ← ih]

/-- A text without quote marks stays as it is. -/
theorem dropQuoted_eq_self {text : Text} (h : '\'' ∉ text) : dropQuoted false text = text := by
  induction text with
  | nil => rfl
  | cons c rest ih =>
    obtain ⟨hc, hrest⟩ : c ≠ '\'' ∧ '\'' ∉ rest := by simpa [eq_comm] using h
    simp [dropQuoted, hc, ih hrest]

/-- Text without quote marks need not be treated apart. -/
theorem bare_eq_unquoted (line : Text) : bare line = unquoted (unifyQuotes line) := by
  unfold bare
  by_cases h : '\'' ∈ unifyQuotes line
  · simp [h]
  · simp [h, unquoted, dropQuoted_eq_self h]

/-- What is left of a line are the characters that stand behind an even number of quote marks. -/
theorem bare_eq_outsideQuotes (line : Text) : bare line = outsideQuotes line := by
  calc
    bare line = unquoted (unifyQuotes line) := bare_eq_unquoted line
    _ = outsideFrom 0 line := dropQuoted_unifyQuotes 0 line
    _ = outsideQuotes line := by simp only [outsideFrom, outsideQuotes, Nat.zero_add]

/-! ## Parameter lists -/

/-- White space may stand before the closing parenthesis and before the brace. -/
theorem closesAndOpens_iff (text : Text) :
    closesAndOpens text = true ↔
      ∃ inner gap after, (∀ c ∈ inner, isAsciiSpace c = true) ∧
        (∀ c ∈ gap, isAsciiSpace c = true) ∧ text = inner ++ ')' :: (gap ++ '{' :: after) := by
  have hclose : isAsciiSpace ')' = false := by decide
  have hopen : isAsciiSpace '{' = false := by decide
  constructor
  · intro h
    unfold closesAndOpens at h
    split at h
    · next rest hrest =>
      obtain ⟨inner, hinner, rfl⟩ := Text.exists_append_of_dropWhile hrest
      split at h
      · next after hafter =>
        obtain ⟨gap, hgap, rfl⟩ := Text.exists_append_of_dropWhile hafter
        exact ⟨inner, gap, after, hinner, hgap, rfl⟩
      · contradiction
    · contradiction
  · rintro ⟨inner, gap, after, hinner, hgap, rfl⟩
    simp only [closesAndOpens, Text.dropWhile_append_cons hinner hclose,
      Text.dropWhile_append_cons hgap hopen]

/-- A parameter list is found wherever it stands. -/
theorem hasParameterList_iff (text : Text) :
    hasParameterList text = true ↔
      ∃ before rest, closesAndOpens rest = true ∧ text = before ++ '(' :: rest := by
  induction text with
  | nil => simp [hasParameterList]
  | cons c rest ih =>
    rw [hasParameterList, Bool.or_eq_true, ih]
    constructor
    · intro h
      rcases h with h | ⟨before, behind, hbehind, rfl⟩
      · obtain ⟨rfl, hrest⟩ : c = '(' ∧ closesAndOpens rest = true := by simpa using h
        exact ⟨[], rest, hrest, rfl⟩
      · exact ⟨c :: before, behind, hbehind, rfl⟩
    · rintro ⟨before, behind, hbehind, htext⟩
      rcases List.cons_eq_append_iff.1 htext with ⟨rfl, hhead⟩ | ⟨before, rfl, rfl⟩
      · obtain ⟨rfl, rfl⟩ : '(' = c ∧ behind = rest := by simpa using hhead
        simp [hbehind]
      · exact .inr ⟨before, behind, hbehind, rfl⟩

/-- A line declares a function if and only if the characters with an even number of quote marks
before them, quote marks left out, hold an empty pair of parentheses and an opening brace with
nothing but white space between.  Dropping quoted text from a line without quotes changes nothing,
so it need not be asked whether there is any. -/
theorem declares_iff_outsideQuotes (line : Text) :
    (declares line = true ↔
      ∃ before inner gap after, (∀ c ∈ inner, isAsciiSpace c = true) ∧
        (∀ c ∈ gap, isAsciiSpace c = true) ∧
        outsideQuotes line = before ++ '(' :: (inner ++ ')' :: (gap ++ '{' :: after))) ∧
      declares line = hasParameterList (unquoted (unifyQuotes line)) := by
  constructor
  · rw [declares, bare_eq_outsideQuotes, hasParameterList_iff]
    constructor
    · rintro ⟨before, rest, hrest, hline⟩
      obtain ⟨inner, gap, after, hinner, hgap, rfl⟩ := (closesAndOpens_iff rest).1 hrest
      exact ⟨before, inner, gap, after, hinner, hgap, hline⟩
    · rintro ⟨before, inner, gap, after, hinner, hgap, hline⟩
      have hrest := (closesAndOpens_iff _).2 ⟨inner, gap, after, hinner, hgap, rfl⟩
      exact ⟨before, _, hrest, hline⟩
  · rw [declares, bare_eq_unquoted]

/-- Quoted text between the parentheses is dropped, a quote that stays open takes the brace. -/
example : declares (Text.lit "f(\"x\" ) \x7b") = true ∧
    declares (Text.lit "f() ' \x7b") = false := by decide

end ShellMetrics.Line
