import ShellMetrics.Render.Csv
import ShellMetrics.Proofs.Decimal

/-!
# Reading comma separated values back

A reader of comma separated values goes over the characters of a document once.  Outside quotes a
comma ends a field, and a carriage return with a newline ends a record.  Inside quotes every
character stands for itself, except that two quote marks stand for one and a single one closes the
field.  All else is refused.  Reading a report gives back its header and the row of each function.
-/

namespace ShellMetrics.Render.Csv

/-! ## A reader -/

/-- Where a reader stands: before a field, in a field without quotes, between quotes, behind a
quote mark that closes a field or is the first of two, or behind the carriage return of a record
end. -/
inductive Mode where
  | fresh
  | bare
  | quoted
  | closed
  | returned
  deriving DecidableEq

/-- What has been read: whole records, whole fields of the next record, and the characters of its
next field. -/
structure Reading where
  records : List (List Text)
  fields : List Text
  current : Text
  mode : Mode

namespace Reading

def start : Reading := ⟨[], [], [], .fresh⟩

def take (reading : Reading) (c : Char) (mode : Mode) : Reading :=
  { reading with current := reading.current ++ [c], mode }

def endField (reading : Reading) (mode : Mode) : Reading :=
  ⟨reading.records, reading.fields ++ [reading.current], [], mode⟩

def endRecord (reading : Reading) : Reading :=
  ⟨reading.records ++ [reading.fields], [], [], .fresh⟩

/-- A character behind a field that may end there. -/
def leave (reading : Reading) (c : Char) : Option Reading :=
  if c = ',' then some (reading.endField .fresh)
  else if c = '\r' then some (reading.endField .returned)
  else none

def step (reading : Reading) (c : Char) : Option Reading :=
  match reading.mode with
  | .fresh =>
    if c = '"' then some { reading with mode := .quoted }
    else if needsQuotes c then reading.leave c else some (reading.take c .bare)
  | .bare => if needsQuotes c then reading.leave c else some (reading.take c .bare)
  | .quoted =>
    if c = '"' then some { reading with mode := .closed } else some (reading.take c .quoted)
  | .closed => if c = '"' then some (reading.take c .quoted) else reading.leave c
  | .returned => if c = '\n' then some reading.endRecord else none

/-- The records at the end of the document.  The last of them may lack its line end. -/
def finish (reading : Reading) : Option (List (List Text)) :=
  match reading.mode with
  | .quoted | .returned => none
  | .bare | .closed => some (reading.endField .fresh).endRecord.records
  | .fresh =>
    if reading.fields = [] then some reading.records
    else some (reading.endField .fresh).endRecord.records

def run (reading : Reading) (text : Text) : Option Reading := text.foldlM step reading

end Reading

def read (document : Text) : Option (List (List Text)) :=
  Reading.start.run document >>= Reading.finish

/-! ## Fields -/

namespace Reading

/-- A text is read in two parts as it is in one. -/
theorem run_append {reading next : Reading} {text : Text} (h : reading.run text = some next)
    (rest : Text) : reading.run (text ++ rest) = next.run rest := by
  rw [run, List.foldlM_append]
  exact congrArg (· >>= fun next ↦ next.run rest) h

theorem run_cons {reading next : Reading} {c : Char} (h : reading.step c = some next)
    (rest : Text) : reading.run (c :: rest) = next.run rest := by
  rw [run, List.foldlM_cons, h]
  rfl

variable (records : List (List Text)) (fields : List Text)

/-- Characters that need no quotes go on a field without quotes. -/
theorem run_bare {text : Text} (h : text.any needsQuotes = false) (current : Text) :
    run ⟨records, fields, current, .bare⟩ text =
      some ⟨records, fields, current ++ text, .bare⟩ := by
  induction text generalizing current with
  | nil => simp [run]
  | cons c rest ih =>
    obtain ⟨hc, hrest⟩ : needsQuotes c = false ∧ rest.any needsQuotes = false := by
      simpa using h
    have hstep : step ⟨records, fields, current, .bare⟩ c =
        some ⟨records, fields, current ++ [c], .bare⟩ := by
      simp [step, hc, take]
    rw [run_cons hstep, ih hrest, List.append_assoc]
    rfl

/-- Between quotes every text is read, its quote marks being doubled. -/
theorem run_doubleQuotes (text current : Text) :
    run ⟨records, fields, current, .quoted⟩ (doubleQuotes text) =
      some ⟨records, fields, current ++ text, .quoted⟩ := by
  induction text generalizing current with
  | nil => simp [doubleQuotes, run]
  | cons c rest ih =>
    have hc : run ⟨records, fields, current, .quoted⟩ (if c = '"' then ['"', '"'] else [c]) =
        some ⟨records, fields, current ++ [c], .quoted⟩ := by
      by_cases hmark : c = '"' <;> simp [run, step, take, hmark]
    have hcons : doubleQuotes (c :: rest) =
        (if c = '"' then ['"', '"'] else [c]) ++ doubleQuotes rest := List.flatMap_cons
    rw [hcons, run_append hc, ih, List.append_assoc]
    rfl

/-- A field may end in this mode. -/
def MayEnd (mode : Mode) : Prop := mode = .fresh ∨ mode = .bare ∨ mode = .closed

/-- A field that was written is read up to a place where it may end. -/
theorem run_field (text : Text) :
    ∃ mode, MayEnd mode ∧
      run ⟨records, fields, [], .fresh⟩ (field text) = some ⟨records, fields, text, mode⟩ := by
  unfold field
  split
  · refine ⟨.closed, .inr (.inr rfl), ?_⟩
    have hopen : step ⟨records, fields, [], .fresh⟩ '"' = some ⟨records, fields, [], .quoted⟩ := rfl
    have hclose : run ⟨records, fields, text, .quoted⟩ ['"'] =
        some ⟨records, fields, text, .closed⟩ := rfl
    rw [List.cons_append, run_cons hopen, run_append (run_doubleQuotes records fields text [])]
    exact hclose
  · next hquotes =>
    cases text with
    | nil => exact ⟨.fresh, .inl rfl, rfl⟩
    | cons c rest =>
      refine ⟨.bare, .inr (.inl rfl), ?_⟩
      obtain ⟨hc, hrest⟩ : needsQuotes c = false ∧ rest.any needsQuotes = false := by
        simpa using hquotes
      have hmark : c ≠ '"' := by
        rintro rfl
        exact absurd hc (by decide)
      have hstep : step ⟨records, fields, [], .fresh⟩ c = some ⟨records, fields, [c], .bare⟩ := by
        simp [step, hc, hmark, take]
      rw [run_cons hstep, run_bare records fields hrest]
      rfl

/-- Where a field may end, a comma ends it and a line end ends the record with it. -/
theorem run_comma {mode : Mode} (h : MayEnd mode) (text : Text) :
    run ⟨records, fields, text, mode⟩ [','] = some ⟨records, fields ++ [text], [], .fresh⟩ := by
  rcases h with rfl | rfl | rfl <;> rfl

/-- A line end closes the record wherever a field may end. -/
theorem run_lineEnd {mode : Mode} (h : MayEnd mode) (text : Text) :
    run ⟨records, fields, text, mode⟩ ['\r', '\n'] =
      some ⟨records ++ [fields ++ [text]], [], [], .fresh⟩ := by
  rcases h with rfl | rfl | rfl <;> rfl

/-! ## Records -/

theorem record_singleton (text : Text) : record [text] = field text ++ ['\r', '\n'] := by
  simp [record, Text.join]

theorem record_cons_cons (text next : Text) (rest : List Text) :
    record (text :: next :: rest) = field text ++ ([','] ++ record (next :: rest)) := by
  simp [record, Text.join, List.intercalate_cons_cons]

/-- A record is read whole, after the fields that have been read of it. -/
theorem run_record (text : Text) (rest : List Text) :
    run ⟨records, fields, [], .fresh⟩ (record (text :: rest)) =
      some ⟨records ++ [fields ++ text :: rest], [], [], .fresh⟩ := by
  induction rest generalizing text fields with
  | nil =>
    obtain ⟨mode, hmode, hfield⟩ := run_field records fields text
    rw [record_singleton, run_append hfield]
    exact run_lineEnd records fields hmode text
  | cons next rest ih =>
    obtain ⟨mode, hmode, hfield⟩ := run_field records fields text
    have hcomma := run_comma records fields hmode text
    rw [record_cons_cons, run_append hfield, run_append hcomma, ih, List.append_assoc]
    rfl

/-- Records that are not empty are read back one after the other. -/
theorem run_flatMap_record {rows : List (List Text)} (h : [] ∉ rows) :
    run ⟨records, [], [], .fresh⟩ (rows.flatMap record) =
      some ⟨records ++ rows, [], [], .fresh⟩ := by
  induction rows generalizing records with
  | nil => simp [run]
  | cons row rows ih =>
    obtain ⟨hrow, hrows⟩ : [] ≠ row ∧ [] ∉ rows := by simpa using h
    obtain ⟨text, rest, rfl⟩ := List.exists_cons_of_ne_nil hrow.symm
    have hrow := run_record records [] text rest
    rw [List.flatMap_cons, run_append hrow, ih _ hrows, List.append_assoc]
    rfl

end Reading

/-- Records that have fields are read back from their text. -/
theorem read_flatMap_record {rows : List (List Text)} (h : [] ∉ rows) :
    read (rows.flatMap record) = some rows := by
  have hrun := Reading.run_flatMap_record [] h
  rw [List.nil_append] at hrun
  rw [read, Reading.start, hrun]
  rfl

/-- The report is a header and one record for each function. -/
theorem render_eq_flatMap_record (summary : Summary) (key : SortKey) :
    render summary key = (header :: (summary.rows key).map fields).flatMap record := by
  rw [render, List.flatMap_cons, List.flatMap_map]
  rfl

/-! ## Reports -/

/-- Reading a report gives the header and, for each row in the order asked for, the path of the
script, the name of the function, and its size and complexity in decimal digits. -/
theorem read_render (summary : Summary) (key : SortKey) :
    read (render summary key) =
        some ([Text.lit "file", Text.lit "function", Text.lit "code", Text.lit "ccn"] ::
          (summary.rows key).map fun row ↦
            [row.report.path, row.function.name, Text.ofInt row.function.code,
              Text.ofInt row.function.complexity]) ∧
      ∀ n : Int, Text.IsDecimal n (Text.ofInt n) := by
  refine ⟨?_, Text.isDecimal_ofInt⟩
  rw [render_eq_flatMap_record, read_flatMap_record]
  · rfl
  · simp [header, fields]

/-- A field with all that needs quotes in it, and an empty one. -/
example : read (record [Text.lit "a,\"\r\n", []]) = some [[Text.lit "a,\"\r\n", []]] := by decide

end ShellMetrics.Render.Csv
