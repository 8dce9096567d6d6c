import ShellMetrics.Glob
import Mathlib.Data.Char

/-!
# Character sets in globs

The text between brackets is read from left to right.  A hyphen between two characters makes a
range, everything else stands for itself, and a range whose end lies below its start holds nothing.
An exclamation mark at the front negates the set.  It does so as well where it is not written at the
front but gets there because the ranges before it hold nothing.
-/

namespace ShellMetrics.Glob

/-- A single character, or the characters from one to another. -/
inductive Element where
  | one (c : Char)
  | range (first last : Char)
  deriving DecidableEq

namespace Element

/-- The character is one of the element. -/
def Holds (c : Char) : Element → Prop
  | one d => c = d
  | range first last => first ≤ c ∧ c ≤ last

/-- The end of a range lies below its start, so that it holds nothing. -/
def isReversed : Element → Bool
  | one _ => false
  | range first last => last < first

def ends : Element → Char × Char
  | one c => (c, c)
  | range first last => (first, last)

def pieces : Element → List Piece
  | one c => [.char c]
  | range first last => [.char first, .join, .char last]

theorem holds_iff {c : Char} {element : Element} :
    element.Holds c ↔ element.ends.1 ≤ c ∧ c ≤ element.ends.2 := by
  cases element with
  | one d =>
    change c = d ↔ d ≤ c ∧ c ≤ d
    rw [eq_comm, le_antisymm_iff]
  | range => exact Iff.rfl

/-- A reversed range holds nothing. -/
theorem not_holds_of_isReversed {c : Char} {element : Element} (h : element.isReversed = true) :
    ¬ element.Holds c := by
  cases element with
  | one => exact absurd h nofun
  | range first last =>
    rintro ⟨hfirst, hlast⟩
    exact absurd (le_trans hfirst hlast) (not_le.2 (of_decide_eq_true h))

end Element

def elements : Text → List Element
  | [] => []
  | first :: '-' :: last :: rest => .range first last :: elements rest
  | c :: rest => .one c :: elements rest

/-- Takes an exclamation mark off the front.  If it starts a range, the hyphen and the end of that
range are left as elements of their own. -/
def takeMark : List Element → Bool × List Element
  | .one '!' :: rest => (true, rest)
  | .range '!' last :: rest => (true, .one '-' :: .one last :: rest)
  | rest => (false, rest)

/-- Whether a set is negated, and its elements.  Ranges that hold nothing are dropped before a mark
is looked for. -/
def readSet : Text → Bool × List Element
  | '!' :: rest => (true, elements rest)
  | body => takeMark ((elements body).dropWhile Element.isReversed)

/-- A set takes the characters of its elements, and all others if it is negated. -/
def SetTakes (body : Text) (c : Char) : Prop :=
  (readSet body).1 = false ↔ ∃ element ∈ (readSet body).2, element.Holds c

/-! ## Chunks and elements -/

def joined (chunks : List Text) : List Piece :=
  [Piece.join].intercalate (chunks.map (·.map Piece.char))

theorem joined_append_cons (before chunk : Text) (later : List Text) :
    joined ((before ++ chunk) :: later) = before.map .char ++ joined (chunk :: later) := by
  cases later <;> simp [joined, List.intercalate]

theorem joined_cons_cons (chunk next : Text) (later : List Text) :
    joined (chunk :: next :: later) = chunk.map .char ++ .join :: joined (next :: later) := by
  simp [joined, List.intercalate]

/-- Where no hyphen makes a range, the next character is passed over like any other. -/
theorem chunks_zero_eq {text : Text} (h : ∀ last rest, text ≠ '-' :: last :: rest) (chunk : Text) :
    chunks 0 chunk text = chunks 1 chunk text := by
  cases text with
  | nil => rfl
  | cons c rest =>
    by_cases hc : c = '-'
    · cases rest with
      | nil => simp [hc, chunks]
      | cons last rest => exact absurd (by rw [hc]) (h last rest)
    · simp [chunks, hc]

/-- The pieces of the elements that hold something. -/
def keptPieces (elements : List Element) : List Piece :=
  (elements.filter (!Element.isReversed ·)).flatMap Element.pieces

/-- Chunks that are joined across the ranges that hold nothing make the pieces of the elements.  The
chunk that is open when the text is read stays at the front. -/
theorem exists_dropReversed_chunks (text chunk : Text) :
    ∃ first later, dropReversed (chunks 1 chunk text) = (chunk ++ first) :: later ∧
      joined (first :: later) = keptPieces (elements text) := by
  induction text using elements.induct generalizing chunk with
  | case1 => exact ⟨[], [], by simp [chunks, dropReversed], rfl⟩
  | case2 start last rest ih =>
    obtain ⟨first, later, hdrop, hjoined⟩ := ih [last]
    have hchunks : chunks 1 chunk (start :: '-' :: last :: rest) =
        (chunk ++ [start]) :: chunks 1 [last] rest := by
      simp [chunks]
    rw [hchunks, dropReversed, hdrop]
    by_cases hreversed : last < start
    · refine ⟨first, later, by simp [isReversed, hreversed], ?_⟩
      rw [hjoined]
      simp [keptPieces, elements, Element.isReversed, hreversed]
    · refine ⟨[start], ([last] ++ first) :: later, by simp [isReversed, hreversed], ?_⟩
      rw [joined_cons_cons, joined_append_cons, hjoined]
      simp [keptPieces, elements, Element.isReversed, Element.pieces, hreversed]
  | case3 c rest hrange ih =>
    obtain ⟨first, later, hdrop, hjoined⟩ := ih (chunk ++ [c])
    have hchunks : chunks 1 chunk (c :: rest) = chunks 1 (chunk ++ [c]) rest :=
      chunks_zero_eq hrange (chunk ++ [c])
    refine ⟨[c] ++ first, later, by rw [hchunks, hdrop]; simp, ?_⟩
    rw [joined_append_cons, hjoined]
    simp [keptPieces, elements, Element.isReversed, Element.pieces]

/-- The exclamation mark at the front does not become part of a range. -/
theorem joined_of_mark (rest : Text) :
    joined (dropReversed (chunks 2 [] ('!' :: rest))) =
      .char '!' :: keptPieces (elements rest) := by
  obtain ⟨first, later, hdrop, hjoined⟩ := exists_dropReversed_chunks rest ['!']
  have hchunks : chunks 2 [] ('!' :: rest) = chunks 1 ['!'] rest := rfl
  rw [hchunks, hdrop, joined_append_cons, hjoined]
  rfl

theorem joined_of_no_mark (body : Text) :
    joined (dropReversed (chunks 1 [] body)) = keptPieces (elements body) := by
  obtain ⟨first, later, hdrop, hjoined⟩ := exists_dropReversed_chunks body []
  rw [hdrop, List.nil_append, hjoined]

/-! ## Ranges and elements -/

theorem rangesOf_char_cons {c : Char} {pieces : List Piece} (h : pieces.head? ≠ some .join) :
    rangesOf (.char c :: pieces) = (c, c) :: rangesOf pieces := by
  match pieces with
  | [] => rfl
  | .char d :: rest => simp [rangesOf, Piece.toChar]
  | .join :: rest => exact absurd rfl h

theorem head?_flatMap_pieces (elements : List Element) :
    (elements.flatMap Element.pieces).head? ≠ some .join := by
  cases elements with
  | nil => exact nofun
  | cons element => cases element <;> exact nofun

/-- Elements are read back from their pieces. -/
theorem rangesOf_flatMap_pieces (elements : List Element) :
    rangesOf (elements.flatMap Element.pieces) = elements.map Element.ends := by
  induction elements with
  | nil => rfl
  | cons element elements ih =>
    rw [List.flatMap_cons, List.map_cons, ← ih]
    cases element with
    | one c => exact rangesOf_char_cons (head?_flatMap_pieces elements)
    | range => rfl

theorem rangesOf_keptPieces (elements : List Element) :
    rangesOf (keptPieces elements) =
      (elements.filter (!Element.isReversed ·)).map Element.ends :=
  rangesOf_flatMap_pieces _

/-- Ranges that hold nothing leave no pieces, wherever they are dropped. -/
theorem keptPieces_dropWhile (elements : List Element) :
    keptPieces (elements.dropWhile Element.isReversed) = keptPieces elements := by
  induction elements with
  | nil => rfl
  | cons element elements ih =>
    cases h : element.isReversed with
    | true => simpa [keptPieces, h] using ih
    | false => simp [h]

/-- The set of pieces, the first of which may be an exclamation mark. -/
def setOfPieces : List Piece → Item
  | .char '!' :: pieces => .set true (rangesOf pieces)
  | pieces => .set false (rangesOf pieces)

theorem setOf_eq_setOfPieces (body : Text) :
    setOf body = setOfPieces
      (joined (dropReversed (chunks (if body.head? = some '!' then 2 else 1) [] body))) :=
  rfl

theorem setOfPieces_of_ne {pieces : List Piece} (h : pieces.head? ≠ some (.char '!')) :
    setOfPieces pieces = .set false (rangesOf pieces) := by
  unfold setOfPieces
  split
  · exact absurd rfl h
  · rfl

theorem takeMark_of_ne {element : Element} {rest : List Element} (h : element.ends.1 ≠ '!') :
    takeMark (element :: rest) = (false, element :: rest) := by
  unfold takeMark
  split
  · next heq => exact absurd (congrArg (·.ends.1) (List.cons.inj heq).1) h
  · next heq => exact absurd (congrArg (·.ends.1) (List.cons.inj heq).1) h
  · rfl

/-- The mark is taken off the pieces as it is taken off the elements, unless the first of them is a
range that holds nothing. -/
theorem setOfPieces_keptPieces {elements : List Element}
    (h : ∀ element ∈ elements.head?, element.isReversed = false) :
    setOfPieces (keptPieces elements) = .set (takeMark elements).1
      (((takeMark elements).2.filter (!Element.isReversed ·)).map Element.ends) := by
  cases elements with
  | nil => rfl
  | cons element rest =>
    have hkept : element.isReversed = false := h element rfl
    have hpieces : keptPieces (element :: rest) = element.pieces ++ keptPieces rest := by
      simp [keptPieces, hkept]
    by_cases hmark : element.ends.1 = '!'
    · rw [hpieces]
      cases element with
      | one c =>
        obtain rfl : c = '!' := hmark
        change Item.set true (rangesOf (keptPieces rest)) = _
        rw [rangesOf_keptPieces]
        rfl
      | range first last =>
        obtain rfl : first = '!' := hmark
        have hhead : (keptPieces rest).head? ≠ some .join := head?_flatMap_pieces _
        change Item.set true (('-', '-') :: rangesOf (.char last :: keptPieces rest)) = _
        rw [rangesOf_char_cons hhead, rangesOf_keptPieces]
        rfl
    · have hhead : (keptPieces (element :: rest)).head? ≠ some (.char '!') := by
        rw [hpieces]
        cases element <;> simpa [Element.pieces, Element.ends] using hmark
      rw [setOfPieces_of_ne hhead, takeMark_of_ne hmark, rangesOf_keptPieces]

theorem readSet_of_no_mark {body : Text} (h : body.head? ≠ some '!') :
    readSet body = takeMark ((elements body).dropWhile Element.isReversed) := by
  unfold readSet
  split
  · exact absurd rfl h
  · rfl

/-- A set is that of its elements, read from left to right. -/
theorem setOf_eq (body : Text) :
    setOf body = .set (readSet body).1
      (((readSet body).2.filter (!Element.isReversed ·)).map Element.ends) := by
  rw [setOf_eq_setOfPieces]
  by_cases hmark : body.head? = some '!'
  · obtain ⟨rest, rfl⟩ := List.head?_eq_some_iff.1 hmark
    rw [if_pos hmark, joined_of_mark]
    change Item.set true (rangesOf (keptPieces (elements rest))) = _
    rw [rangesOf_keptPieces]
    rfl
  · rw [if_neg hmark, joined_of_no_mark, ← keptPieces_dropWhile, readSet_of_no_mark hmark]
    apply setOfPieces_keptPieces
    intro element helement
    have hnot := List.head?_dropWhile_not Element.isReversed (elements body)
    rw [helement] at hnot
    simpa using hnot

/-- A set takes a character if it is negated or one of the elements holds it, but not both. -/
theorem accepts_set_iff {negated : Bool} {elements : List Element} {c : Char} :
    (Item.set negated (elements.map Element.ends)).accepts c = true ↔
      (negated = false ↔ ∃ element ∈ elements, element.Holds c) := by
  have hany : ((elements.map Element.ends).any fun range ↦ range.1 ≤ c && c ≤ range.2) = true ↔
      ∃ element ∈ elements, element.Holds c := by
    simp [Element.holds_iff]
  rw [← hany]
  unfold Item.accepts
  cases negated <;> simp

/-- A set is read as its elements, and takes what they say. -/
theorem accepts_setOf_iff (body : Text) (c : Char) :
    (setOf body).accepts c = true ↔ SetTakes body c := by
  have hkept : (∃ element ∈ (readSet body).2.filter (!Element.isReversed ·), element.Holds c) ↔
      ∃ element ∈ (readSet body).2, element.Holds c := by
    constructor
    · rintro ⟨element, helement, hholds⟩
      exact ⟨element, (List.mem_filter.1 helement).1, hholds⟩
    · rintro ⟨element, helement, hholds⟩
      have hnot : ¬ element.isReversed = true := fun h ↦ Element.not_holds_of_isReversed h hholds
      exact ⟨element, List.mem_filter.2 ⟨helement, by simpa using hnot⟩, hholds⟩
  rw [setOf_eq, accepts_set_iff, hkept, SetTakes]

end ShellMetrics.Glob
