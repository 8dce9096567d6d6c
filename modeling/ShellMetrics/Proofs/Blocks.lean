import ShellMetrics.Proofs.Reader

/-!
# Blocks

A list of lines falls into blocks: a bare line, a function from its declaration to the line that
closes it, and at the very end perhaps a function that is never closed.  Blocks carry the proof
that they have this form, and there is exactly one way to cut a list of lines into them.  The
bodies that the reader collects are the blocks in order, each stored under its name without its
declaration.
-/

namespace ShellMetrics

/-- A declaration and the lines after it, up to a place where the body is still open. -/
structure Opening where
  declaration : Text
  interior : List Text
  declares : Line.declares declaration = true
  open_interior : ∀ line ∈ interior, Line.closes line = false

namespace Opening

def name (opening : Opening) : Text := Line.declaredName opening.declaration

def lines (opening : Opening) : List Text := opening.declaration :: opening.interior

def ofDeclaration (line : Text) (h : Line.declares line = true) : Opening where
  declaration := line
  interior := []
  declares := h
  open_interior := by simp

/-- The body with one more line that does not close it. -/
def extend (opening : Opening) (line : Text) (h : Line.closes line = false) : Opening where
  declaration := opening.declaration
  interior := opening.interior ++ [line]
  declares := opening.declares
  open_interior := by
    intro other hother
    rcases List.mem_append.1 hother with hold | hnew
    · exact opening.open_interior other hold
    · rw [List.mem_singleton.1 hnew, h]

theorem lines_extend (opening : Opening) (line : Text) (h : Line.closes line = false) :
    (opening.extend line h).lines = opening.lines ++ [line] := rfl

end Opening

/-- A stretch of lines: one outside every function, a complete function, or a function that is
not closed. -/
inductive Block where
  | bare (line : Text) (h : Line.declares line = false)
  | closed (opening : Opening) (closing : Text) (h : Line.closes closing = true)
  | unclosed (opening : Opening)

namespace Block

def lines : Block → List Text
  | bare line _ => [line]
  | closed opening closing _ => opening.lines ++ [closing]
  | unclosed opening => opening.lines

def name : Block → Text
  | bare _ _ => Reader.bareCode
  | closed opening _ _ => opening.name
  | unclosed opening => opening.name

/-- The lines that are stored: all but the declaration. -/
def stored : Block → List Text
  | bare line _ => [line]
  | closed opening closing _ => opening.interior ++ [closing]
  | unclosed opening => opening.interior

def isComplete : Block → Bool
  | unclosed _ => false
  | _ => true

def deposits (block : Block) : List (Text × Text) := block.stored.map (block.name, ·)

def store (ledger : Ledger Text (List Text)) (block : Block) : Ledger Text (List Text) :=
  ledger.pushAll block.deposits

end Block

/-- The blocks are the lines cut into pieces, and only the last one may be unclosed. -/
structure IsCut (lines : List Text) (blocks : List Block) : Prop where
  flatMap_lines : blocks.flatMap Block.lines = lines
  isComplete : ∀ block ∈ blocks.dropLast, block.isComplete = true

/-- Cuts lines into blocks.  The opening is what has been read of a function so far. -/
def cutFrom : Option Opening → List Text → List Block
  | none, [] => []
  | some opening, [] => [.unclosed opening]
  | none, line :: rest =>
    if h : Line.declares line = true then cutFrom (some (.ofDeclaration line h)) rest
    else .bare line (eq_false_of_ne_true h) :: cutFrom none rest
  | some opening, line :: rest =>
    if h : Line.closes line = true then .closed opening line h :: cutFrom none rest
    else cutFrom (some (opening.extend line (eq_false_of_ne_true h))) rest

/-! ## There is a cut -/

/-- Nothing is lost: the blocks together are the opening and the lines. -/
theorem flatMap_lines_cutFrom (opening : Option Opening) (lines : List Text) :
    (cutFrom opening lines).flatMap Block.lines =
      (opening.map Opening.lines).getD [] ++ lines := by
  fun_induction cutFrom opening lines with
  | case1 => rfl
  | case2 opening => simp [Block.lines]
  | case3 line rest h ih => simpa [Opening.ofDeclaration, Opening.lines] using ih
  | case4 line rest h ih => simpa [Block.lines] using ih
  | case5 opening line rest h ih => simpa [Block.lines] using ih
  | case6 opening line rest h ih => simpa [Opening.lines_extend] using ih

theorem mem_dropLast_cons {block head : Block} {rest : List Block}
    (h : block ∈ (head :: rest).dropLast) : block = head ∨ block ∈ rest.dropLast := by
  cases rest with
  | nil => simp at h
  | cons next later => simpa using h

/-- Only the last block can be left open. -/
theorem isComplete_cutFrom (opening : Option Opening) (lines : List Text) :
    ∀ block ∈ (cutFrom opening lines).dropLast, block.isComplete = true := by
  fun_induction cutFrom opening lines with
  | case1 => simp
  | case2 opening => simp
  | case3 line rest h ih => exact ih
  | case4 line rest h ih =>
    intro block hblock
    rcases mem_dropLast_cons hblock with rfl | hrest
    · rfl
    · exact ih block hrest
  | case5 opening line rest h ih =>
    intro block hblock
    rcases mem_dropLast_cons hblock with rfl | hrest
    · rfl
    · exact ih block hrest
  | case6 opening line rest h ih => exact ih

theorem isCut_cutFrom (lines : List Text) : IsCut lines (cutFrom none lines) where
  flatMap_lines := by simpa using flatMap_lines_cutFrom none lines
  isComplete := isComplete_cutFrom none lines

/-! ## There is no other -/

/-- Cutting goes through an opening and stands where it is still open. -/
theorem cutFrom_lines_append (opening : Opening) (rest : List Text) :
    cutFrom none (opening.lines ++ rest) = cutFrom (some opening) rest := by
  obtain ⟨declaration, interior, declares, hopen⟩ := opening
  induction interior using List.reverseRecOn generalizing rest with
  | nil => simp [Opening.lines, cutFrom, declares, Opening.ofDeclaration]
  | append_singleton interior line ih =>
    have hline : Line.closes line = false := hopen line (by simp)
    have hinterior : ∀ other ∈ interior, Line.closes other = false :=
      fun other hother ↦ hopen other (List.mem_append_left _ hother)
    have h := ih (line :: rest) hinterior
    simp only [Opening.lines, List.cons_append, List.append_assoc, List.nil_append] at h ⊢
    rw [h]
    simp [cutFrom, hline, Opening.extend]

/-- Cutting finds every block again that lines have been cut into. -/
theorem cutFrom_flatMap_lines (blocks : List Block)
    (h : ∀ block ∈ blocks.dropLast, block.isComplete = true) :
    cutFrom none (blocks.flatMap Block.lines) = blocks := by
  induction blocks with
  | nil => rfl
  | cons block rest ih =>
    have hrest : cutFrom none (rest.flatMap Block.lines) = rest := by
      apply ih
      intro other hother
      apply h
      cases rest with
      | nil => cases hother
      | cons next later => exact List.mem_cons_of_mem _ hother
    rw [List.flatMap_cons]
    cases block with
    | bare line hline => simp [Block.lines, cutFrom, hline, hrest]
    | closed opening closing hclosing =>
      simp only [Block.lines, List.append_assoc, List.singleton_append]
      rw [cutFrom_lines_append]
      simp [cutFrom, hclosing, hrest]
    | unclosed opening =>
      -- An unclosed block that is not the last would have to be complete.
      cases rest with
      | nil =>
        simp only [Block.lines, List.flatMap_nil]
        rw [cutFrom_lines_append]
        rfl
      | cons next later => simpa [Block.isComplete] using h (.unclosed opening)

/-- Lines can be cut in one way only. -/
theorem IsCut.eq_cutFrom {lines : List Text} {blocks : List Block} (h : IsCut lines blocks) :
    blocks = cutFrom none lines := by
  rw [← h.flatMap_lines, cutFrom_flatMap_lines blocks h.isComplete]

/-! ## What the reader stores -/

/-- The lines of a list of blocks that are stored under a name. -/
def Block.storedUnder (name : Text) (blocks : List Block) : List Text :=
  (blocks.filter (·.name = name)).flatMap Block.stored

/-- A reader that stands inside an opening files the lines as the blocks store them. -/
theorem filed_eq_flatMap_deposits (opening : Option Opening) (lines : List Text)
    (reader : Reader) (h : reader.active = opening.map Opening.name) :
    (opening.map fun o ↦ o.interior.map (o.name, ·)).getD [] ++ reader.filed lines =
      (cutFrom opening lines).flatMap Block.deposits := by
  -- Along the lines the open body of the reader keeps the name of the opening.
  fun_induction cutFrom opening lines generalizing reader with
  | case1 => rfl
  | case2 opening => simp [Block.deposits, Block.stored, Block.name]
  | case3 line rest hline ih =>
    have hactive : reader.active = none := h
    have hnext : (reader.feed line).active = some (Line.declaredName line) := by
      rw [Reader.feed_of_declares hactive hline]
    rw [← ih (reader.feed line) hnext]
    simp [Reader.owner?_of_outside hactive, hline, Opening.ofDeclaration]
  | case4 line rest hline ih =>
    have hactive : reader.active = none := h
    have hbare := eq_false_of_ne_true hline
    have hnext : (reader.feed line).active = none := by
      rw [Reader.feed_of_bare hactive hbare]
    rw [List.flatMap_cons, ← ih (reader.feed line) hnext]
    simp [Reader.owner?_of_outside hactive, hbare, Block.deposits, Block.stored, Block.name]
  | case5 opening line rest hline ih =>
    have hactive : reader.active = some opening.name := h
    have hnext : (reader.feed line).active = none := by
      rw [Reader.feed_of_inside hactive, if_pos hline]
    rw [List.flatMap_cons, ← ih (reader.feed line) hnext]
    simp [Reader.owner?_of_inside hactive, Block.deposits, Block.stored, Block.name]
  | case6 opening line rest hline ih =>
    have hactive : reader.active = some opening.name := h
    have hnext : (reader.feed line).active = some opening.name := by
      rw [Reader.feed_of_inside hactive, if_neg hline]
    rw [← ih (reader.feed line) hnext]
    simp [Reader.owner?_of_inside hactive, Opening.extend, Opening.name]

/-- What a run files are the deposits of its blocks. -/
theorem filed_start_eq (lines : List Text) :
    Reader.start.filed lines = (cutFrom none lines).flatMap Block.deposits := by
  simpa using filed_eq_flatMap_deposits none lines Reader.start rfl

theorem foldl_store (ledger : Ledger Text (List Text)) (blocks : List Block) :
    blocks.foldl Block.store ledger = ledger.pushAll (blocks.flatMap Block.deposits) := by
  induction blocks generalizing ledger with
  | nil => rfl
  | cons block rest ih =>
    rw [List.foldl_cons, ih, List.flatMap_cons, Ledger.pushAll_append, Block.store]

theorem map_fst_deposits (blocks : List Block) :
    (blocks.flatMap Block.deposits).map Prod.fst =
      blocks.flatMap fun block ↦ block.stored.map fun _ ↦ block.name := by
  simp [List.map_flatMap, Block.deposits, Function.comp_def]

/-- What is deposited under a name are the lines that the blocks store under it. -/
theorem pairedWith_deposits (name : Text) (blocks : List Block) :
    Ledger.pairedWith name (blocks.flatMap Block.deposits) = Block.storedUnder name blocks := by
  unfold Ledger.pairedWith Block.storedUnder
  induction blocks with
  | nil => rfl
  | cons block rest ih =>
    by_cases h : block.name = name <;>
      simp [Block.deposits, h, ih, List.filter_map, Function.comp_def]

theorem IsCut.bodies_eq {lines : List Text} {blocks : List Block} (h : IsCut lines blocks) :
    bodies lines = (∅ : Ledger Text (List Text)).pushAll (blocks.flatMap Block.deposits) := by
  rw [bodies_eq_pushAll, filed_start_eq, ← h.eq_cutFrom]

/-- The names of bodies come in the order of the first stored line of each. -/
theorem IsCut.keys_bodies {lines : List Text} {blocks : List Block} (h : IsCut lines blocks) :
    (bodies lines).keys =
      (blocks.flatMap fun block ↦ block.stored.map fun _ ↦ block.name).eraseDups := by
  rw [h.bodies_eq, Ledger.keys_pushAll_empty, map_fst_deposits]

/-- All blocks of one name share a body, also those named like the bare code. -/
theorem IsCut.find?_bodies {lines : List Text} {blocks : List Block} (h : IsCut lines blocks)
    (name : Text) :
    (bodies lines).find? name =
      if Block.storedUnder name blocks = [] then none
      else some (Block.storedUnder name blocks) := by
  rw [h.bodies_eq, Ledger.find?_pushAll_empty, pairedWith_deposits]

theorem existsUnique_isCut (lines : List Text) : ∃! blocks, IsCut lines blocks :=
  ⟨cutFrom none lines, isCut_cutFrom lines, fun _ h ↦ h.eq_cutFrom⟩

/-- Lines can be cut into blocks in exactly one way, and the bodies are those blocks stored in
order.  The keys stand in the order of their first stored line, no body is empty, and each body
has its lines in the order of the input. -/
theorem bodies_eq_foldl_store_of_unique_cut (lines : List Text) :
    (∃! blocks, IsCut lines blocks) ∧
      ∃ blocks, IsCut lines blocks ∧
        bodies lines = blocks.foldl Block.store ∅ ∧
        (bodies lines).keys.Nodup ∧
        (bodies lines).keys =
          (blocks.flatMap fun block ↦ block.stored.map fun _ ↦ block.name).eraseDups ∧
        (∀ name, (bodies lines).find? name =
          if Block.storedUnder name blocks = [] then none
          else some (Block.storedUnder name blocks)) ∧
        ∀ entry ∈ (bodies lines).entries, entry.2 ≠ [] ∧ entry.2.Sublist lines := by
  refine ⟨existsUnique_isCut lines, cutFrom none lines, isCut_cutFrom lines, ?_, ?_,
    (isCut_cutFrom lines).keys_bodies, (isCut_cutFrom lines).find?_bodies, ?_⟩
  · rw [foldl_store, (isCut_cutFrom lines).bodies_eq]
  · exact (bodies lines).nodup_keys_list
  · intro entry hentry
    refine ⟨ne_nil_of_mem_bodies hentry, ?_⟩
    rw [body_eq_linesOf hentry]
    exact Reader.linesOf_sublist _ _ _

end ShellMetrics
