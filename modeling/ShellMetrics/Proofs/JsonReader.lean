import ShellMetrics.Proofs.JsonGrammar

/-!
# Reading JSON back

A reader of JSON goes over the characters of a text once.  It keeps the arrays and objects that are
still open, each with what has been read of it.  Every text of the grammar is read as the value that
it spells, so a text spells one value at most.  Hence reading a rendered report gives back its
files, its functions and its failures.
-/

namespace ShellMetrics.Render.Json

/-! ## Strings -/

/-- Where the reader of a string stands: between two characters, behind a backslash, among the
digits of an escape with `left` more to come behind the next, behind the first unit of a pair, and
behind the backslash of its second.  An escape that is the second of a pair knows the first. -/
inductive CharMode where
  | plain
  | escape
  | digits (high : Option Nat) (left value : Nat)
  | pair (high : Nat)
  | pairEscape (high : Nat)
  deriving DecidableEq

structure Chars where
  value : Text
  mode : CharMode

namespace Chars

def start : Chars := ⟨[], .plain⟩

def take (value : Text) (c : Char) : Chars := ⟨value ++ [c], .plain⟩

def endUnit (value : Text) (high : Option Nat) (unit : Nat) : Option Chars :=
  match high with
  | some high => if IsLow unit then some (take value (Char.ofNat (codePoint high unit))) else none
  | none =>
    if IsHigh unit then some ⟨value, .pair unit⟩
    else if IsLow unit then none
    else some (take value (Char.ofNat unit))

def step (chars : Chars) (c : Char) : Option Chars :=
  match chars.mode with
  | .plain =>
    if c = '\\' then some ⟨chars.value, .escape⟩
    else if c = '"' || c.toNat < 0x20 then none
    else some (take chars.value c)
  | .escape =>
    if c = 'u' then some ⟨chars.value, .digits none 3 0⟩ else (escaped? c).map (take chars.value)
  | .digits high left value =>
    match Toml.hexValue? c, left with
    | none, _ => none
    | some digit, 0 => endUnit chars.value high (value * 16 + digit)
    | some digit, left + 1 => some ⟨chars.value, .digits high left (value * 16 + digit)⟩
  | .pair high => if c = '\\' then some ⟨chars.value, .pairEscape high⟩ else none
  | .pairEscape high => if c = 'u' then some ⟨chars.value, .digits (some high) 3 0⟩ else none

def run (chars : Chars) (text : Text) : Option Chars := text.foldlM step chars

/-- The character is the quote mark that closes the string. -/
def closes (chars : Chars) (c : Char) : Bool := chars.mode = .plain && c = '"'

end Chars

/-! ## Values -/

/-- An array or an object that encloses the value which is read next, with what has been read of
it.  Of an object, the name of that value has been read as well. -/
inductive Frame where
  | array (items : List Json)
  | object (members : List (Text × Json)) (name : Text)

/-- Where a reader stands: before a value, behind the bracket or the brace that opens an array or
an object, before a name, in a string or in a name, behind a name, in a number, and behind a
value. -/
inductive Mode where
  | value
  | first
  | firstName
  | name (members : List (Text × Json))
  | string (chars : Chars)
  | nameString (members : List (Text × Json)) (chars : Chars)
  | colon (members : List (Text × Json)) (name : Text)
  | number (negative : Bool) (digits : Text)
  | done (value : Json)

/-- What has been read: the open arrays and objects, the innermost first, and where the reader
stands in the innermost. -/
structure Reading where
  frames : List Frame
  mode : Mode

/-- The number of a row of digits behind a minus sign or without one. -/
def wholeOf (negative : Bool) (digits : Text) : Int :=
  if negative then -(Numeral.digitsValue digits : Int) else Numeral.digitsValue digits

namespace Reading

def start : Reading := ⟨[], .value⟩

def beginValue (frames : List Frame) (c : Char) : Option Reading :=
  if c = '"' then some ⟨frames, .string .start⟩
  else if c = '[' then some ⟨frames, .first⟩
  else if c = '{' then some ⟨frames, .firstName⟩
  else if c = '-' then some ⟨frames, .number true []⟩
  else if c.isDigit then some ⟨frames, .number false [c]⟩
  else none

def beginName (frames : List Frame) (members : List (Text × Json)) (c : Char) : Option Reading :=
  if c = '"' then some ⟨frames, .nameString members .start⟩ else none

/-- A character behind a value. -/
def endValue (frames : List Frame) (value : Json) (c : Char) : Option Reading :=
  if isGapChar c then some ⟨frames, .done value⟩
  else
    match frames with
    | [] => none
    | .array items :: frames =>
      if c = ',' then some ⟨.array (items ++ [value]) :: frames, .value⟩
      else if c = ']' then some ⟨frames, .done (.array (items ++ [value]))⟩
      else none
    | .object members name :: frames =>
      if c = ',' then some ⟨frames, .name (members ++ [(name, value)])⟩
      else if c = '}' then some ⟨frames, .done (.object (members ++ [(name, value)]))⟩
      else none

def step (reading : Reading) (c : Char) : Option Reading :=
  match reading.mode with
  | .value => if isGapChar c then some reading else beginValue reading.frames c
  | .first =>
    if isGapChar c then some reading
    else if c = ']' then some ⟨reading.frames, .done (.array [])⟩
    else beginValue (.array [] :: reading.frames) c
  | .firstName =>
    if isGapChar c then some reading
    else if c = '}' then some ⟨reading.frames, .done (.object [])⟩
    else beginName reading.frames [] c
  | .name members => if isGapChar c then some reading else beginName reading.frames members c
  | .string chars =>
    if chars.closes c then some ⟨reading.frames, .done (.text chars.value)⟩
    else (chars.step c).map fun next ↦ ⟨reading.frames, .string next⟩
  | .nameString members chars =>
    if chars.closes c then some ⟨reading.frames, .colon members chars.value⟩
    else (chars.step c).map fun next ↦ ⟨reading.frames, .nameString members next⟩
  | .colon members name =>
    if isGapChar c then some reading
    else if c = ':' then some ⟨.object members name :: reading.frames, .value⟩
    else none
  | .number negative digits =>
    if c.isDigit then
      if digits = ['0'] then none else some ⟨reading.frames, .number negative (digits ++ [c])⟩
    else if digits = [] then none
    else endValue reading.frames (.whole (wholeOf negative digits)) c
  | .done value => endValue reading.frames value c

def run (reading : Reading) (text : Text) : Option Reading := text.foldlM step reading

def finish (reading : Reading) : Option Json :=
  match reading.frames, reading.mode with
  | [], .done value => some value
  | [], .number negative digits =>
    if digits = [] then none else some (.whole (wholeOf negative digits))
  | _, _ => none

end Reading

def read (text : Text) : Option Json := Reading.start.run text >>= Reading.finish

/-! ## Strings are read -/

namespace Chars

theorem run_append {chars next : Chars} {text : Text} (h : chars.run text = some next)
    (rest : Text) : chars.run (text ++ rest) = next.run rest := by
  rw [run, List.foldlM_append]
  exact congrArg (· >>= fun next ↦ next.run rest) h

theorem run_cons {chars next : Chars} {c : Char} (h : chars.step c = some next) (rest : Text) :
    chars.run (c :: rest) = next.run rest := by
  rw [run, List.foldlM_cons, h]
  rfl

/-- Four hexadecimal digits are read as the unit they spell. -/
theorem run_spellsUnit {digits : Text} {unit : Nat} (h : SpellsUnit digits unit) (value : Text)
    (high : Option Nat) :
    run ⟨value, .digits high 3 0⟩ digits = endUnit value high unit := by
  cases h with
  | digits ha hb hc hd => simp [run, step, ha, hb, hc, hd]

/-- Behind the letter that announces them, the digits of a unit are read to their end. -/
theorem run_escape_unit {digits : Text} {unit : Nat} (h : SpellsUnit digits unit) (value : Text) :
    run ⟨value, .plain⟩ ('\\' :: 'u' :: digits) = endUnit value none unit :=
  run_spellsUnit h value none

theorem run_pair_unit {digits : Text} {unit : Nat} (h : SpellsUnit digits unit) (value : Text)
    (high : Nat) :
    run ⟨value, .pair high⟩ ('\\' :: 'u' :: digits) = endUnit value (some high) unit :=
  run_spellsUnit h value (some high)

/-- A unit that is no half of a pair is a character. -/
theorem endUnit_toNat (value : Text) (c : Char) :
    endUnit value none c.toNat = some (take value c) := by
  have hcases := toNat_cases c
  have hhigh : ¬ IsHigh c.toNat := by
    unfold IsHigh
    omega
  have hlow : ¬ IsLow c.toNat := by
    unfold IsLow
    omega
  rw [endUnit, if_neg hhigh, if_neg hlow, Char.ofNat_toNat]

/-- A character is read back from each of its spellings. -/
theorem run_spellsChar {spelling : Text} {c : Char} (h : SpellsChar spelling c) (value : Text) :
    run ⟨value, .plain⟩ spelling = some (take value c) := by
  cases h with
  | plain hcontrol hquote hbackslash =>
    have hlimit : ¬ c.toNat < 0x20 := Nat.not_lt.2 hcontrol
    simp [run, step, hquote, hbackslash, hlimit]
  | @escape letter _ hletter =>
    have hnone : escaped? 'u' = none := by decide
    have hunit : letter ≠ 'u' := by
      rintro rfl
      simp [hnone] at hletter
    simp [run, step, hunit, hletter]
  | unit hdigits => rw [run_escape_unit hdigits, endUnit_toNat]
  | pair hfirst hsecond hhigh hlow hc =>
    have hpair : endUnit value none _ = some ⟨value, .pair _⟩ := if_pos hhigh
    rw [run_append ((run_escape_unit hfirst value).trans hpair), run_pair_unit hsecond, endUnit,
      if_pos hlow, ← hc, Char.ofNat_toNat]

/-- Characters are read back from each of their spellings. -/
theorem run_spellsChars {spelling chars : Text} (h : SpellsChars spelling chars) (value : Text) :
    run ⟨value, .plain⟩ spelling = some ⟨value ++ chars, .plain⟩ := by
  induction h generalizing value with
  | nil => simp [run]
  | cons hc hrest ih =>
    rw [run_append (run_spellsChar hc value), take, ih, List.append_assoc, List.singleton_append]

/-- What goes on with a string does not close it. -/
theorem closes_eq_false_of_step {chars next : Chars} {c : Char} (h : chars.step c = some next) :
    chars.closes c = false := by
  obtain ⟨value, mode⟩ := chars
  by_cases hmode : mode = .plain
  · subst hmode
    have hquote : c ≠ '"' := by
      rintro rfl
      simp [step] at h
    simp [closes, hquote]
  · simp [closes, hmode]

end Chars

/-! ## Values are read -/

namespace Reading

theorem run_append {reading next : Reading} {text : Text} (h : reading.run text = some next)
    (rest : Text) : reading.run (text ++ rest) = next.run rest := by
  rw [run, List.foldlM_append]
  exact congrArg (· >>= fun next ↦ next.run rest) h

theorem run_cons {reading next : Reading} {c : Char} (h : reading.step c = some next)
    (rest : Text) : reading.run (c :: rest) = next.run rest := by
  rw [run, List.foldlM_cons, h]
  rfl

theorem run_singleton (reading : Reading) (c : Char) : reading.run [c] = reading.step c := by
  rw [run, List.foldlM_cons]
  exact bind_pure _

/-- White space is passed over where each character of it is. -/
theorem run_gap {reading : Reading} (h : ∀ c, isGapChar c = true → reading.step c = some reading)
    {gap : Text} (hgap : IsGap gap) : reading.run gap = some reading := by
  induction gap with
  | nil => rfl
  | cons c gap ih =>
    obtain ⟨hc, hrest⟩ := List.forall_mem_cons.1 hgap
    rw [run_cons (h c hc), ih hrest]

/-- A value comes next, within the open arrays and objects `frames`. -/
inductive Awaits : Reading → List Frame → Prop where
  | value (frames : List Frame) : Awaits ⟨frames, .value⟩ frames
  | first (frames : List Frame) : Awaits ⟨frames, .first⟩ (.array [] :: frames)

/-- A name comes next, after the members that have been read of its object. -/
inductive AwaitsName : Reading → List Frame → List (Text × Json) → Prop where
  | name (frames : List Frame) (members : List (Text × Json)) :
      AwaitsName ⟨frames, .name members⟩ frames members
  | firstName (frames : List Frame) : AwaitsName ⟨frames, .firstName⟩ frames []

/-- A value has been read within the open arrays and objects `frames`.  A number may go on. -/
inductive StandsBehind : Reading → List Frame → Json → Prop where
  | done (frames : List Frame) (value : Json) : StandsBehind ⟨frames, .done value⟩ frames value
  | number (frames : List Frame) (negative : Bool) {digits : Text} (h : digits ≠ []) :
      StandsBehind ⟨frames, .number negative digits⟩ frames (.whole (wholeOf negative digits))

variable {reading : Reading} {frames : List Frame} {members : List (Text × Json)} {value : Json}

/-- White space before a value is passed over. -/
theorem Awaits.run_gap (h : Awaits reading frames) {gap : Text} (hgap : IsGap gap) :
    reading.run gap = some reading := by
  refine Reading.run_gap ?_ hgap
  intro c hc
  cases h <;> simp [step, hc]

theorem Awaits.step_eq (h : Awaits reading frames) {c : Char} (hgap : isGapChar c = false)
    (hbracket : c ≠ ']') : reading.step c = beginValue frames c := by
  cases h <;> simp [step, hgap, hbracket]

theorem AwaitsName.run_gap (h : AwaitsName reading frames members) {gap : Text}
    (hgap : IsGap gap) : reading.run gap = some reading := by
  refine Reading.run_gap ?_ hgap
  intro c hc
  cases h <;> simp [step, hc]

theorem AwaitsName.step_quote (h : AwaitsName reading frames members) :
    reading.step '"' = some ⟨frames, .nameString members .start⟩ := by
  cases h <;> rfl

theorem StandsBehind.step_eq (h : StandsBehind reading frames value) {c : Char}
    (hdigit : c.isDigit = false) : reading.step c = endValue frames value c := by
  cases h with
  | done => rfl
  | number _ _ hdigits => simp [step, hdigit, hdigits]

theorem endValue_gap (frames : List Frame) (value : Json) {c : Char} (hc : isGapChar c = true) :
    endValue frames value c = some ⟨frames, .done value⟩ := by
  unfold endValue
  exact if_pos hc

theorem isDigit_eq_false_of_isGapChar {c : Char} (hc : isGapChar c = true) : c.isDigit = false := by
  simp only [isGapChar, Bool.or_eq_true, decide_eq_true_eq] at hc
  rcases hc with ((rfl | rfl) | rfl) | rfl <;> rfl

/-- White space behind a value is passed over, which also ends a number. -/
theorem StandsBehind.run_gap (h : StandsBehind reading frames value) {gap : Text}
    (hgap : IsGap gap) : ∃ next, StandsBehind next frames value ∧ reading.run gap = some next := by
  cases gap with
  | nil => exact ⟨reading, h, rfl⟩
  | cons c gap =>
    obtain ⟨hc, hrest⟩ := List.forall_mem_cons.1 hgap
    have hstep : reading.step c = some ⟨frames, .done value⟩ := by
      rw [h.step_eq (isDigit_eq_false_of_isGapChar hc), endValue_gap frames value hc]
    have hstay : ∀ c, isGapChar c = true →
        step ⟨frames, .done value⟩ c = some ⟨frames, .done value⟩ := fun c hc ↦
      endValue_gap frames value hc
    refine ⟨⟨frames, .done value⟩, .done frames value, ?_⟩
    rw [run_cons hstep, Reading.run_gap hstay hrest]

theorem StandsBehind.finish_eq (h : StandsBehind reading [] value) :
    reading.finish = some value := by
  cases h with
  | done => rfl
  | number _ _ hdigits => simp [finish, hdigits]

/-! ## Strings and numbers in a text -/

/-- A string is read wherever a reader keeps one. -/
theorem run_chars (wrap : Chars → Reading)
    (hwrap : ∀ chars next c, chars.step c = some next → (wrap chars).step c = some (wrap next))
    {chars next : Chars} {text : Text} (h : chars.run text = some next) :
    (wrap chars).run text = some (wrap next) := by
  induction text generalizing chars with
  | nil =>
    obtain rfl : chars = next := Option.some.inj h
    rfl
  | cons c rest ih =>
    obtain ⟨middle, hmiddle⟩ : ∃ middle, chars.step c = some middle := by
      cases hstep : chars.step c with
      | none => simp [Chars.run, hstep] at h
      | some middle => exact ⟨middle, rfl⟩
    rw [Chars.run_cons hmiddle] at h
    rw [run_cons (hwrap chars middle c hmiddle), ih h]

/-- A string is read back with its quote marks. -/
theorem run_string (frames : List Frame) {chars value : Text} (h : SpellsChars chars value) :
    run ⟨frames, .string .start⟩ (chars ++ ['"']) = some ⟨frames, .done (.text value)⟩ := by
  have hchars : Chars.start.run chars = some ⟨value, .plain⟩ := Chars.run_spellsChars h []
  have hwrap : ∀ chars next c, Chars.step chars c = some next →
      step ⟨frames, .string chars⟩ c = some ⟨frames, .string next⟩ := by
    intro chars next c hstep
    simp [step, Chars.closes_eq_false_of_step hstep, hstep]
  rw [run_append (run_chars (fun chars ↦ ⟨frames, .string chars⟩) hwrap hchars)]
  rfl

theorem run_nameString (frames : List Frame) (members : List (Text × Json)) {chars name : Text}
    (h : SpellsChars chars name) :
    run ⟨frames, .nameString members .start⟩ (chars ++ ['"']) =
      some ⟨frames, .colon members name⟩ := by
  have hchars : Chars.start.run chars = some ⟨name, .plain⟩ := Chars.run_spellsChars h []
  have hwrap : ∀ chars next c, Chars.step chars c = some next →
      step ⟨frames, .nameString members chars⟩ c = some ⟨frames, .nameString members next⟩ := by
    intro chars next c hstep
    simp [step, Chars.closes_eq_false_of_step hstep, hstep]
  rw [run_append (run_chars (fun chars ↦ ⟨frames, .nameString members chars⟩) hwrap hchars)]
  rfl

/-- Digits go on with a number. -/
theorem run_digits (frames : List Frame) (negative : Bool) {before digits : Text}
    (hdigits : ∀ c ∈ digits, c.isDigit = true)
    (hzero : (before ++ digits).head? = some '0' → before ++ digits = ['0']) :
    run ⟨frames, .number negative before⟩ digits =
      some ⟨frames, .number negative (before ++ digits)⟩ := by
  induction digits generalizing before with
  | nil => simp [run]
  | cons c rest ih =>
    obtain ⟨hc, hrest⟩ := List.forall_mem_cons.1 hdigits
    have hbefore : before ≠ ['0'] := by
      rintro rfl
      simp at hzero
    have hstep : step ⟨frames, .number negative before⟩ c =
        some ⟨frames, .number negative (before ++ [c])⟩ := by
      simp [step, hc, hbefore]
    have hmoved : before ++ c :: rest = before ++ [c] ++ rest := by simp
    rw [hmoved] at hzero ⊢
    rw [run_cons hstep, ih hrest hzero]

theorem ne_of_isDigit {c other : Char} (hc : c.isDigit = true) (hother : other.isDigit = false) :
    c ≠ other := by
  rintro rfl
  exact Bool.false_ne_true (hother.symm.trans hc)

/-- A number without a minus sign starts with its first digit. -/
theorem Awaits.step_digit (h : Awaits reading frames) {c : Char} (hc : c.isDigit = true) :
    reading.step c = step ⟨frames, .number false []⟩ c := by
  have hgap : isGapChar c = false := by
    cases hcase : isGapChar c with
    | false => rfl
    | true => exact absurd hc (by simp [isDigit_eq_false_of_isGapChar hcase])
  rw [h.step_eq hgap (ne_of_isDigit hc (by decide)), beginValue,
    if_neg (ne_of_isDigit hc (by decide)), if_neg (ne_of_isDigit hc (by decide)),
    if_neg (ne_of_isDigit hc (by decide)), if_neg (ne_of_isDigit hc (by decide)), if_pos hc]
  simp [step, hc]

/-- A whole number is read where a value is awaited. -/
theorem Awaits.run_whole (h : Awaits reading frames) {digits : Text} {n : Int}
    (hdigits : SpellsWhole digits n) :
    ∃ next, StandsBehind next frames (.whole n) ∧ reading.run digits = some next := by
  cases hdigits with
  | @plain _ m hdigits =>
    obtain ⟨c, rest, rfl⟩ := List.exists_cons_of_ne_nil hdigits.ne_nil
    have hvalue : wholeOf false (c :: rest) = (m : Int) := by
      rw [wholeOf, hdigits.value]
      rfl
    have hstep := h.step_digit (hdigits.isDigit c List.mem_cons_self)
    have hrun : reading.run (c :: rest) = run ⟨frames, .number false []⟩ (c :: rest) := by
      rw [run, run, List.foldlM_cons, List.foldlM_cons, hstep]
    rw [← hvalue, hrun]
    exact ⟨_, .number frames false hdigits.ne_nil,
      run_digits frames false hdigits.isDigit hdigits.eq_zero⟩
  | @minus digits m hdigits =>
    have hvalue : wholeOf true digits = -(m : Int) := by
      rw [wholeOf, hdigits.value]
      rfl
    have hstep : reading.step '-' = some ⟨frames, .number true []⟩ :=
      h.step_eq (by decide) (by decide)
    rw [← hvalue, run_cons hstep]
    exact ⟨_, .number frames true hdigits.ne_nil,
      run_digits frames true hdigits.isDigit hdigits.eq_zero⟩

/-! ## Texts of the grammar -/

/-- How the reader goes over the text of a part.  Several values or members are read together with
the bracket or the brace that closes them. -/
def ReadsAs (text : Text) : Part → Prop
  | .value value => ∀ {reading frames}, Awaits reading frames →
      ∃ next, StandsBehind next frames value ∧ reading.run text = some next
  | .element value => ∀ {reading frames}, Awaits reading frames →
      ∃ next, StandsBehind next frames value ∧ reading.run text = some next
  | .elements values => ∀ {reading frames items}, Awaits reading (.array items :: frames) →
      reading.run (text ++ [']']) = some ⟨frames, .done (.array (items ++ values))⟩
  | .member name value => ∀ {reading frames members}, AwaitsName reading frames members →
      ∃ next, StandsBehind next (.object members name :: frames) value ∧
        reading.run text = some next
  | .members added => ∀ {reading frames members}, AwaitsName reading frames members →
      reading.run (text ++ ['}']) = some ⟨frames, .done (.object (members ++ added))⟩

/-- Every text of the grammar is read as what it spells. -/
theorem readsAs_of_spells {text : Text} {part : Part} (h : Spells text part) :
    ReadsAs text part := by
  induction h with
  | text hchars =>
    intro reading frames hawaits
    have hstep : reading.step '"' = some ⟨frames, .string .start⟩ :=
      hawaits.step_eq (by decide) (by decide)
    refine ⟨_, .done frames _, ?_⟩
    rw [List.cons_append, run_cons hstep, run_string frames hchars]
  | whole hdigits =>
    intro reading frames hawaits
    exact hawaits.run_whole hdigits
  | emptyArray hgap =>
    intro reading frames hawaits
    have hstep : reading.step '[' = some ⟨frames, .first⟩ :=
      hawaits.step_eq (by decide) (by decide)
    refine ⟨_, .done frames _, ?_⟩
    rw [List.cons_append, run_cons hstep, run_append ((Awaits.first frames).run_gap hgap)]
    rfl
  | array _ ih =>
    intro reading frames hawaits
    have hstep : reading.step '[' = some ⟨frames, .first⟩ :=
      hawaits.step_eq (by decide) (by decide)
    refine ⟨_, .done frames _, ?_⟩
    rw [List.cons_append, run_cons hstep]
    exact ih (Awaits.first frames)
  | emptyObject hgap =>
    intro reading frames hawaits
    have hstep : reading.step '{' = some ⟨frames, .firstName⟩ :=
      hawaits.step_eq (by decide) (by decide)
    refine ⟨_, .done frames _, ?_⟩
    rw [List.cons_append, run_cons hstep, run_append ((AwaitsName.firstName frames).run_gap hgap)]
    rfl
  | object _ ih =>
    intro reading frames hawaits
    have hstep : reading.step '{' = some ⟨frames, .firstName⟩ :=
      hawaits.step_eq (by decide) (by decide)
    refine ⟨_, .done frames _, ?_⟩
    rw [List.cons_append, run_cons hstep]
    exact ih (AwaitsName.firstName frames)
  | element hbefore _ hafter ih =>
    intro reading frames hawaits
    obtain ⟨middle, hmiddle, hinner⟩ := ih hawaits
    obtain ⟨next, hnext, hend⟩ := hmiddle.run_gap hafter
    refine ⟨next, hnext, ?_⟩
    rw [List.append_assoc, run_append (hawaits.run_gap hbefore), run_append hinner, hend]
  | lastElement _ ih =>
    intro reading frames items hawaits
    obtain ⟨next, hnext, hinner⟩ := ih hawaits
    rw [run_append hinner, run_singleton, hnext.step_eq (by decide)]
    rfl
  | @elements _ _ value values _ _ ih ihrest =>
    intro reading frames items hawaits
    obtain ⟨next, hnext, hinner⟩ := ih hawaits
    have hstep : next.step ',' = some ⟨.array (items ++ [value]) :: frames, .value⟩ :=
      hnext.step_eq (by decide)
    have hrest := ihrest (Awaits.value (.array (items ++ [value]) :: frames))
    rw [List.append_assoc, List.singleton_append] at hrest
    rw [List.append_assoc, run_append hinner, List.cons_append, run_cons hstep, hrest]
  | @member before chars after inner name _ hbefore hchars hafter _ ih =>
    intro reading frames members hawaits
    have htext : before ++ '"' :: chars ++ '"' :: after ++ ':' :: inner =
        before ++ '"' :: ((chars ++ ['"']) ++ (after ++ ':' :: inner)) := by simp
    have hcolon : ∀ c, isGapChar c = true →
        step ⟨frames, .colon members name⟩ c = some ⟨frames, .colon members name⟩ := fun c hc ↦
      if_pos hc
    have hstep : step ⟨frames, .colon members name⟩ ':' =
        some ⟨.object members name :: frames, .value⟩ := rfl
    rw [htext, run_append (hawaits.run_gap hbefore), run_cons hawaits.step_quote,
      run_append (run_nameString frames members hchars), run_append (run_gap hcolon hafter),
      run_cons hstep]
    exact ih (Awaits.value _)
  | lastMember _ ih =>
    intro reading frames members hawaits
    obtain ⟨next, hnext, hinner⟩ := ih hawaits
    rw [run_append hinner, run_singleton, hnext.step_eq (by decide)]
    rfl
  | @members _ _ name value _ _ _ ih ihrest =>
    intro reading frames members hawaits
    obtain ⟨next, hnext, hinner⟩ := ih hawaits
    have hstep : next.step ',' = some ⟨frames, .name (members ++ [(name, value)])⟩ :=
      hnext.step_eq (by decide)
    have hrest := ihrest (AwaitsName.name frames (members ++ [(name, value)]))
    rw [List.append_assoc, List.singleton_append] at hrest
    rw [List.append_assoc, run_append hinner, List.cons_append, run_cons hstep, hrest]

end Reading

/-- A whole text of JSON is read as the value that it spells. -/
theorem read_of_isDocument {text : Text} {value : Json} (h : IsDocument text value) :
    read text = some value := by
  obtain ⟨next, hnext, hrun⟩ := Reading.readsAs_of_spells h (Reading.Awaits.value [])
  rw [read, Reading.start, hrun]
  exact hnext.finish_eq

/-! ## Reports -/

/-- The report is a text of JSON in ASCII.  It is read as one object: the counts of each file with
its path, the row of each function in the order asked for with the name of its file, and the reason
for each path that could not be read.  The grammar knows no other reading of it. -/
theorem read_render_ofSummary (summary : Summary) (key : SortKey) :
    (∀ c ∈ render (ofSummary summary key), c.toNat < 128) ∧
      read (render (ofSummary summary key)) =
        some (object [
          (Text.lit "files", array (summary.reports.map fun report ↦ object [
            (Text.lit "name", text report.file.name), (Text.lit "lines", whole report.file.lines),
            (Text.lit "code", whole report.file.code),
            (Text.lit "comments", whole report.file.comments),
            (Text.lit "blanks", whole report.file.blanks),
            (Text.lit "functions", whole report.file.functions),
            (Text.lit "path", text report.path)])),
          (Text.lit "functions", array ((summary.rows key).map fun row ↦ object [
            (Text.lit "file", text row.report.file.name),
            (Text.lit "name", text row.function.name),
            (Text.lit "code", whole row.function.code),
            (Text.lit "ccn", whole row.function.complexity)])),
          (Text.lit "errors",
            object (summary.failures.entries.map fun entry ↦ (entry.1, text entry.2)))]) ∧
      ∀ value, IsDocument (render (ofSummary summary key)) value ↔
        read (render (ofSummary summary key)) = some value := by
  have hdocument := isDocument_render (ofSummary summary key)
  have hread := read_of_isDocument hdocument
  refine ⟨isAscii_renderAt 0 (ofSummary summary key), hread, ?_⟩
  intro value
  constructor
  · exact read_of_isDocument
  · intro h
    have hvalue : ofSummary summary key = value := Option.some.inj (hread.symm.trans h)
    exact hvalue ▸ hdocument

end ShellMetrics.Render.Json
