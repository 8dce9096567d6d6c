import ShellMetrics.Render.Json
import ShellMetrics.Toml.Quotation
import ShellMetrics.Proofs.Decimal

/-!
# The grammar of JSON

A relation between texts and the values that they spell, with one constructor for each rule of the
grammar.  White space may stand around every value and every name, a character of a string may be
spelled by itself or by an escape, and a character beyond the first plane by the escapes of its two
UTF-16 units.  Values are those of a report: strings, whole numbers, arrays and objects.  The text
that is rendered for a value spells that value, and all of its characters are ASCII.
-/

namespace ShellMetrics.Render.Json

/-! ## Characters and numbers -/

/-- White space between the parts of a text. -/
def isGapChar (c : Char) : Bool := c = ' ' || c = '\t' || c = '\n' || c = '\r'

def IsGap (text : Text) : Prop := ∀ c ∈ text, isGapChar c = true

def escaped? (letter : Char) : Option Char :=
  if letter = '"' then some '"'
  else if letter = '\\' then some '\\'
  else if letter = '/' then some '/'
  else if letter = 'b' then some '\x08'
  else if letter = 'f' then some '\x0c'
  else if letter = 'n' then some '\n'
  else if letter = 'r' then some '\r'
  else if letter = 't' then some '\t'
  else none

/-- The first of the two UTF-16 units of a character. -/
def IsHigh (unit : Nat) : Prop := 0xd800 ≤ unit ∧ unit < 0xdc00

/-- The second of the two UTF-16 units of a character. -/
def IsLow (unit : Nat) : Prop := 0xdc00 ≤ unit ∧ unit < 0xe000

instance : DecidablePred IsHigh := fun _ ↦ inferInstanceAs (Decidable (_ ∧ _))

instance : DecidablePred IsLow := fun _ ↦ inferInstanceAs (Decidable (_ ∧ _))

def codePoint (high low : Nat) : Nat := 0x10000 + (high - 0xd800) * 0x400 + (low - 0xdc00)

/-- Four hexadecimal digits of either letter case, and their value. -/
inductive SpellsUnit : Text → Nat → Prop where
  | digits {a b c d : Char} {i j k l : Nat} (ha : Toml.hexValue? a = some i)
      (hb : Toml.hexValue? b = some j) (hc : Toml.hexValue? c = some k)
      (hd : Toml.hexValue? d = some l) : SpellsUnit [a, b, c, d] (((i * 16 + j) * 16 + k) * 16 + l)

/-- A character between quote marks. -/
inductive SpellsChar : Text → Char → Prop where
  | plain {c : Char} (hcontrol : 0x20 ≤ c.toNat) (hquote : c ≠ '"') (hbackslash : c ≠ '\\') :
      SpellsChar [c] c
  | escape {letter c : Char} (h : escaped? letter = some c) : SpellsChar ['\\', letter] c
  | unit {digits : Text} {c : Char} (h : SpellsUnit digits c.toNat) :
      SpellsChar ('\\' :: 'u' :: digits) c
  | pair {first second : Text} {high low : Nat} {c : Char} (hfirst : SpellsUnit first high)
      (hsecond : SpellsUnit second low) (hhigh : IsHigh high) (hlow : IsLow low)
      (hc : c.toNat = codePoint high low) :
      SpellsChar ('\\' :: 'u' :: first ++ '\\' :: 'u' :: second) c

/-- The characters between quote marks. -/
inductive SpellsChars : Text → Text → Prop where
  | nil : SpellsChars [] []
  | cons {spelling rest : Text} {c : Char} {value : Text} (hc : SpellsChar spelling c)
      (hrest : SpellsChars rest value) : SpellsChars (spelling ++ rest) (c :: value)

/-- A whole number: decimal digits with no zero in front of other digits, after a minus sign if the
number is below zero. -/
inductive SpellsWhole : Text → Int → Prop where
  | plain {digits : Text} {n : Nat} (h : Text.IsDigitsOf n digits) : SpellsWhole digits n
  | minus {digits : Text} {n : Nat} (h : Text.IsDigitsOf n digits) :
      SpellsWhole ('-' :: digits) (-n)

/-! ## Values -/

/-- What a rule of the grammar is about: a value, a value with white space around it, such values
with commas between them, a name with its value, and such pairs with commas between them. -/
inductive Part where
  | value (value : Json)
  | element (value : Json)
  | elements (values : List Json)
  | member (name : Text) (value : Json)
  | members (members : List (Text × Json))

inductive Spells : Text → Part → Prop where
  | text {chars value : Text} (h : SpellsChars chars value) :
      Spells ('"' :: chars ++ ['"']) (.value (.text value))
  | whole {digits : Text} {n : Int} (h : SpellsWhole digits n) : Spells digits (.value (.whole n))
  | emptyArray {gap : Text} (h : IsGap gap) : Spells ('[' :: gap ++ [']']) (.value (.array []))
  | array {inner : Text} {values : List Json} (h : Spells inner (.elements values)) :
      Spells ('[' :: inner ++ [']']) (.value (.array values))
  | emptyObject {gap : Text} (h : IsGap gap) : Spells ('{' :: gap ++ ['}']) (.value (.object []))
  | object {inner : Text} {members : List (Text × Json)} (h : Spells inner (.members members)) :
      Spells ('{' :: inner ++ ['}']) (.value (.object members))
  | element {before inner after : Text} {value : Json} (hbefore : IsGap before)
      (hinner : Spells inner (.value value)) (hafter : IsGap after) :
      Spells (before ++ inner ++ after) (.element value)
  | lastElement {inner : Text} {value : Json} (h : Spells inner (.element value)) :
      Spells inner (.elements [value])
  | elements {inner rest : Text} {value : Json} {values : List Json}
      (hinner : Spells inner (.element value)) (hrest : Spells rest (.elements values)) :
      Spells (inner ++ ',' :: rest) (.elements (value :: values))
  | member {before chars after inner name : Text} {value : Json} (hbefore : IsGap before)
      (hchars : SpellsChars chars name) (hafter : IsGap after)
      (hinner : Spells inner (.element value)) :
      Spells (before ++ '"' :: chars ++ '"' :: after ++ ':' :: inner) (.member name value)
  | lastMember {inner name : Text} {value : Json} (h : Spells inner (.member name value)) :
      Spells inner (.members [(name, value)])
  | members {inner rest name : Text} {value : Json} {members : List (Text × Json)}
      (hinner : Spells inner (.member name value)) (hrest : Spells rest (.members members)) :
      Spells (inner ++ ',' :: rest) (.members ((name, value) :: members))

/-- A whole text of JSON is one value with white space around it. -/
def IsDocument (text : Text) (value : Json) : Prop := Spells text (.element value)

/-! ## Rendered strings and numbers -/

theorem hex_succ (width n : Nat) :
    Text.hex (width + 2) n = Text.hex (width + 1) (n / 16) ++ [Nat.digitChar (n % 16)] := by
  unfold Text.hex List.leftpad
  by_cases hsmall : n < 16
  · have hzero : Nat.toDigits 16 0 = ['0'] := by decide
    rw [Nat.toDigits_of_lt_base hsmall, Nat.div_eq_of_lt hsmall, Nat.mod_eq_of_lt hsmall, hzero]
    simp [List.replicate_succ']
  · rw [Nat.toDigits_of_base_le (by omega) (by omega)]
    simp

theorem hexValue?_digitChar : ∀ n < 16, Toml.hexValue? (Nat.digitChar n) = some n := by decide

/-- The four digits of a UTF-16 unit. -/
theorem hex_four {n : Nat} (h : n < 0x10000) :
    Text.hex 4 n = [Nat.digitChar (n / 16 / 16 / 16), Nat.digitChar (n / 16 / 16 % 16),
      Nat.digitChar (n / 16 % 16), Nat.digitChar (n % 16)] := by
  have hone : Text.hex 1 (n / 16 / 16 / 16) = [Nat.digitChar (n / 16 / 16 / 16)] := by
    unfold Text.hex
    rw [Nat.toDigits_of_lt_base (by omega)]
    rfl
  rw [hex_succ, hex_succ, hex_succ, hone]
  rfl

/-- Four hexadecimal digits spell a unit. -/
theorem spellsUnit_hex {n : Nat} (h : n < 0x10000) : SpellsUnit (Text.hex 4 n) n := by
  have hvalue :
      ((n / 16 / 16 / 16 * 16 + n / 16 / 16 % 16) * 16 + n / 16 % 16) * 16 + n % 16 = n := by
    omega
  have hspells := SpellsUnit.digits (hexValue?_digitChar (n / 16 / 16 / 16) (by omega))
    (hexValue?_digitChar (n / 16 / 16 % 16) (by omega))
    (hexValue?_digitChar (n / 16 % 16) (by omega)) (hexValue?_digitChar (n % 16) (by omega))
  rwa [← hex_four h, hvalue] at hspells

/-- A character is no unit of a pair. -/
theorem toNat_cases (c : Char) :
    c.toNat < 0xd800 ∨ 0xdfff < c.toNat ∧ c.toNat < 0x110000 := c.valid

/-- A character is written as a letter behind a backslash, as itself, or as the escapes of its
UTF-16 units. -/
theorem escapeChar_cases (c : Char) :
    (∃ letter, letter.toNat < 128 ∧ escaped? letter = some c ∧ escapeChar c = ['\\', letter]) ∨
      (0x20 ≤ c.toNat ∧ c.toNat < 0x7f ∧ c ≠ '"' ∧ c ≠ '\\' ∧ escapeChar c = [c]) ∨
      (c.toNat < 0x10000 ∧ escapeChar c = escapeUnit c.toNat) ∨
      ∃ high low, IsHigh high ∧ IsLow low ∧ c.toNat = codePoint high low ∧
        escapeChar c = escapeUnit high ++ escapeUnit low := by
  generalize htext : escapeChar c = text
  unfold escapeChar at htext
  split at htext
  · next h => exact .inl ⟨'"', by decide, congrArg some h.symm, htext.symm⟩
  next hquote =>
  split at htext
  · next h => exact .inl ⟨'\\', by decide, congrArg some h.symm, htext.symm⟩
  next hbackslash =>
  split at htext
  · next h => exact .inl ⟨'n', by decide, congrArg some h.symm, htext.symm⟩
  split at htext
  · next h => exact .inl ⟨'r', by decide, congrArg some h.symm, htext.symm⟩
  split at htext
  · next h => exact .inl ⟨'t', by decide, congrArg some h.symm, htext.symm⟩
  split at htext
  · next h => exact .inl ⟨'f', by decide, congrArg some h.symm, htext.symm⟩
  split at htext
  · next h => exact .inl ⟨'b', by decide, congrArg some h.symm, htext.symm⟩
  split at htext
  · next h =>
    obtain ⟨hcontrol, hlimit⟩ : 0x20 ≤ c.toNat ∧ c.toNat < 0x7f := by simpa using h
    exact .inr (.inl ⟨hcontrol, hlimit, hquote, hbackslash, htext.symm⟩)
  split at htext
  · next h => exact .inr (.inr (.inl ⟨h, htext.symm⟩))
  · have hlimit := toNat_cases c
    refine .inr (.inr (.inr ⟨_, _, ?_, ?_, ?_, htext.symm⟩))
    · exact ⟨by omega, by omega⟩
    · exact ⟨by omega, by omega⟩
    · unfold codePoint
      omega

theorem IsHigh.lt {unit : Nat} (h : IsHigh unit) : unit < 0x10000 := Nat.lt_trans h.2 (by decide)

theorem IsLow.lt {unit : Nat} (h : IsLow unit) : unit < 0x10000 := Nat.lt_trans h.2 (by decide)

/-- Every character is written as the grammar allows. -/
theorem spellsChar_escapeChar (c : Char) : SpellsChar (escapeChar c) c := by
  rcases escapeChar_cases c with ⟨letter, -, hletter, h⟩ | ⟨hcontrol, -, hquote, hbackslash, h⟩ |
    ⟨hunit, h⟩ | ⟨high, low, hhigh, hlow, hc, h⟩
  · rw [h]
    exact .escape hletter
  · rw [h]
    exact .plain hcontrol hquote hbackslash
  · rw [h]
    exact .unit (spellsUnit_hex hunit)
  · rw [h]
    exact .pair (spellsUnit_hex hhigh.lt) (spellsUnit_hex hlow.lt) hhigh hlow hc

theorem spellsChars_flatMap (value : Text) : SpellsChars (value.flatMap escapeChar) value := by
  induction value with
  | nil => exact .nil
  | cons c rest ih => exact .cons (spellsChar_escapeChar c) ih

/-- A whole number is written as the grammar allows. -/
theorem spellsWhole_ofInt (n : Int) : SpellsWhole (Text.ofInt n) n := by
  cases n with
  | ofNat n => exact .plain (Text.isDigitsOf_ofNat n)
  | negSucc n => exact .minus (Text.isDigitsOf_ofNat (n + 1))

/-! ## Rendered values -/

theorem isGap_nil : IsGap [] := fun _ h ↦ absurd h List.not_mem_nil

theorem isGap_space : IsGap [' '] := by simp [IsGap, isGapChar]

theorem isGap_newline (level : Nat) : IsGap (newline level) := by
  intro c hc
  rcases List.mem_cons.1 hc with rfl | hspace
  · rfl
  · rw [List.eq_of_mem_replicate hspace]
    rfl

theorem spells_member (level : Nat) (name : Text) {inner tail : Text} {value : Json}
    (hinner : Spells inner (.value value)) (htail : IsGap tail) :
    Spells (newline level ++ string name ++ ':' :: ' ' :: inner ++ tail) (.member name value) := by
  have helement := Spells.element isGap_space hinner htail
  have hmember := Spells.member (isGap_newline level) (spellsChars_flatMap name) isGap_nil helement
  simpa only [string, List.append_assoc, List.cons_append, List.nil_append] using hmember

mutual

/-- The text of a value spells it, at every level. -/
theorem spells_renderAt (level : Nat) :
    (value : Json) → Spells (renderAt level value) (.value value)
  | .text value => by
    rw [renderAt]
    exact .text (spellsChars_flatMap value)
  | .whole value => by
    rw [renderAt]
    exact .whole (spellsWhole_ofInt value)
  | .array [] => by
    rw [renderAt]
    exact .emptyArray isGap_nil
  | .array (item :: items) => by
    have helements := spells_renderItems (level + 1) items (spells_renderAt (level + 1) item)
      (isGap_newline level)
    rw [renderAt]
    exact .array helements
  | .object [] => by
    rw [renderAt]
    exact .emptyObject isGap_nil
  | .object ((name, value) :: members) => by
    have hmembers := spells_renderMembers (level + 1) members name
      (spells_renderAt (level + 1) value) (isGap_newline level)
    rw [renderAt]
    exact .object hmembers

/-- The items of an array are written as the grammar allows, by recursion on the items. -/
theorem spells_renderItems (level : Nat) :
    (items : List Json) → ∀ {inner tail : Text} {value : Json},
      Spells inner (.value value) → IsGap tail →
        Spells (newline level ++ inner ++ renderItems level items ++ tail)
          (.elements (value :: items))
  | [], inner, tail, value, hinner, htail => by
    rw [renderItems, List.append_nil]
    exact .lastElement (.element (isGap_newline level) hinner htail)
  | item :: items, inner, tail, value, hinner, htail => by
    have hfirst := Spells.element (isGap_newline level) hinner isGap_nil
    have hrest := spells_renderItems level items (spells_renderAt level item) htail
    rw [renderItems]
    simpa only [List.append_assoc, List.cons_append, List.append_nil, List.nil_append] using
      Spells.elements hfirst hrest

/-- The members of an object are written as the grammar allows, by recursion on the members. -/
theorem spells_renderMembers (level : Nat) :
    (members : List (Text × Json)) → ∀ (name : Text) {inner tail : Text} {value : Json},
      Spells inner (.value value) → IsGap tail →
        Spells (newline level ++ string name ++ ':' :: ' ' :: inner ++
          renderMembers level members ++ tail) (.members ((name, value) :: members))
  | [], name, inner, tail, value, hinner, htail => by
    rw [renderMembers, List.append_nil]
    exact .lastMember (spells_member level name hinner htail)
  | (next, nextValue) :: members, name, inner, tail, value, hinner, htail => by
    have hfirst := spells_member level name hinner isGap_nil
    have hrest := spells_renderMembers level members next (spells_renderAt level nextValue) htail
    rw [renderMembers]
    simpa only [List.append_assoc, List.cons_append, List.append_nil, List.nil_append] using
      Spells.members hfirst hrest

end

/-- The rendered text of a value is a whole text of JSON for it. -/
theorem isDocument_render (value : Json) : IsDocument (render value) value := by
  have h := Spells.element isGap_nil (spells_renderAt 0 value) isGap_nil
  rwa [List.nil_append, List.append_nil] at h

/-! ## ASCII -/

def IsAscii (text : Text) : Prop := ∀ c ∈ text, c.toNat < 128

theorem all_toNat_lt_iff (text : Text) :
    text.all (·.toNat < 128) = true ↔ IsAscii text := by
  simp [IsAscii]

instance : DecidablePred IsAscii := fun text ↦ decidable_of_iff _ (all_toNat_lt_iff text)

@[simp] theorem isAscii_nil : IsAscii [] := fun _ h ↦ absurd h List.not_mem_nil

@[simp] theorem isAscii_cons (c : Char) (rest : Text) :
    IsAscii (c :: rest) ↔ c.toNat < 128 ∧ IsAscii rest := List.forall_mem_cons

@[simp] theorem isAscii_append (first second : Text) :
    IsAscii (first ++ second) ↔ IsAscii first ∧ IsAscii second := List.forall_mem_append

theorem isAscii_escapeUnit {unit : Nat} (h : unit < 0x10000) : IsAscii (escapeUnit unit) := by
  have hdigit : ∀ n < 16, (Nat.digitChar n).toNat < 128 := by decide
  unfold escapeUnit
  rw [hex_four h]
  simp only [isAscii_append, isAscii_cons, isAscii_nil, and_true]
  exact ⟨by decide, hdigit _ (by omega), hdigit _ (by omega), hdigit _ (by omega),
    hdigit _ (by omega)⟩

/-- Every character is written in ASCII. -/
theorem isAscii_escapeChar (c : Char) : IsAscii (escapeChar c) := by
  rcases escapeChar_cases c with ⟨letter, hletter, -, h⟩ | ⟨-, hlimit, -, -, h⟩ | ⟨hunit, h⟩ |
    ⟨high, low, hhigh, hlow, -, h⟩
  · rw [h, isAscii_cons, isAscii_cons]
    exact ⟨by decide, hletter, isAscii_nil⟩
  · rw [h, isAscii_cons]
    exact ⟨by omega, isAscii_nil⟩
  · rw [h]
    exact isAscii_escapeUnit hunit
  · rw [h, isAscii_append]
    exact ⟨isAscii_escapeUnit hhigh.lt, isAscii_escapeUnit hlow.lt⟩

theorem isAscii_string (value : Text) : IsAscii (string value) := by
  have hchars : IsAscii (value.flatMap escapeChar) := by
    intro c hc
    obtain ⟨source, -, hsource⟩ := List.mem_flatMap.1 hc
    exact isAscii_escapeChar source c hsource
  unfold string
  rw [isAscii_append, isAscii_cons]
  exact ⟨⟨by decide, hchars⟩, by decide⟩

theorem isAscii_ofInt (n : Int) : IsAscii (Text.ofInt n) := by
  intro c hc
  rcases (Text.isDecimal_ofInt n).isDigit_or_eq_minus hc with hdigit | rfl
  · exact Nat.lt_of_le_of_lt (Char.isDigit_iff_toNat.1 hdigit).2 (by decide)
  · decide

theorem isAscii_newline (level : Nat) : IsAscii (newline level) := by
  intro c hc
  rcases List.mem_cons.1 hc with rfl | hspace
  · decide
  · rw [List.eq_of_mem_replicate hspace]
    decide

mutual

/-- A value is written in ASCII, by recursion on its parts. -/
theorem isAscii_renderAt (level : Nat) : (value : Json) → IsAscii (renderAt level value)
  | .text value => by
    rw [renderAt]
    exact isAscii_string value
  | .whole value => by
    rw [renderAt]
    exact isAscii_ofInt value
  | .array [] => by
    rw [renderAt]
    decide
  | .array (item :: items) => by
    have hitem := isAscii_renderAt (level + 1) item
    have hitems := isAscii_renderItems (level + 1) items
    rw [renderAt]
    simp [isAscii_newline, hitem, hitems]
  | .object [] => by
    rw [renderAt]
    decide
  | .object ((name, value) :: members) => by
    have hvalue := isAscii_renderAt (level + 1) value
    have hmembers := isAscii_renderMembers (level + 1) members
    rw [renderAt]
    simp [isAscii_newline, isAscii_string, hvalue, hmembers]

theorem isAscii_renderItems (level : Nat) : (items : List Json) → IsAscii (renderItems level items)
  | [] => by
    rw [renderItems]
    exact isAscii_nil
  | item :: items => by
    have hitem := isAscii_renderAt level item
    have hitems := isAscii_renderItems level items
    rw [renderItems]
    simp [isAscii_newline, hitem, hitems]

theorem isAscii_renderMembers (level : Nat) :
    (members : List (Text × Json)) → IsAscii (renderMembers level members)
  | [] => by
    rw [renderMembers]
    exact isAscii_nil
  | (name, value) :: members => by
    have hvalue := isAscii_renderAt level value
    have hmembers := isAscii_renderMembers level members
    rw [renderMembers]
    simp [isAscii_newline, isAscii_string, hvalue, hmembers]

end

end ShellMetrics.Render.Json
