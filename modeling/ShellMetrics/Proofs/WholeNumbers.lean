import ShellMetrics.Proofs.Decimal
import ShellMetrics.Proofs.Fallible
import Mathlib.Data.Char
import Mathlib.Data.List.TakeWhile

/-!
# Whole numbers in settings

A whole number is read from the kinds of characters that it is written in: white space at the ends,
a sign, and digits of any script with single low lines between them.  The texts that are read are
those of this form whose digits are not too many, and the digits say which number it is.
-/

namespace ShellMetrics.Numeral

open Fallible

/-! ## Kinds of characters -/

/-- What a character is in a whole number. -/
inductive Symbol where
  | space
  | plus
  | minus
  | low
  | digit (value : ℕ)
  | other
  deriving DecidableEq

/-- White space that may stand around a number.  The four separators of files, groups, records and
units may not. -/
def isOuterSpace (c : Char) : Bool := Text.isSpace c && !(0x1c ≤ c.toNat && c.toNat ≤ 0x1f)

def symbol (c : Char) : Symbol :=
  if c = '+' then .plus
  else if c = '-' then .minus
  else if c = '_' then .low
  else if isOuterSpace c then .space
  else
    match Text.digitValue? c with
    | some value => .digit value
    | none => .other

theorem digitValue?_lt {c : Char} {value : ℕ} (h : Text.digitValue? c = some value) :
    value < 10 := by
  obtain ⟨base, hbase, rfl⟩ := Option.map_eq_some_iff.1 h
  have hrange := List.find?_some hbase
  simp only [Bool.and_eq_true, decide_eq_true_eq] at hrange
  omega

theorem symbol_digitChar {value : ℕ} (h : value < 10) :
    symbol (Nat.digitChar value) = .digit value := by
  have hall : ∀ value < 10, symbol (Nat.digitChar value) = .digit value := by decide +kernel
  exact hall value h

theorem symbol_eq_plus_iff {c : Char} : symbol c = .plus ↔ c = '+' := by
  fun_cases symbol c <;> simp_all

theorem symbol_eq_minus_iff {c : Char} : symbol c = .minus ↔ c = '-' := by
  fun_cases symbol c <;> simp_all

theorem symbol_eq_low_iff {c : Char} : symbol c = .low ↔ c = '_' := by
  fun_cases symbol c <;> simp_all

/-- Turning a character to ASCII keeps what it is in a number. -/
theorem symbol_plainChar (c : Char) : symbol (plainChar c) = symbol c := by
  unfold plainChar
  split
  · rfl
  · next hascii =>
    have hne {d : Char} (hd : d.toNat < 127) : c ≠ d := fun heq ↦ hascii (heq ▸ hd)
    have houter : isOuterSpace c = Text.isSpace c := by
      have hrange : ¬ c.toNat ≤ 0x1f := by omega
      simp [isOuterSpace, hrange]
    have hsymbol : symbol c = if Text.isSpace c then .space else
        match Text.digitValue? c with
        | some value => .digit value
        | none => .other := by
      rw [symbol, if_neg (hne (by decide)), if_neg (hne (by decide)), if_neg (hne (by decide)),
        houter]
    rw [hsymbol]
    cases hvalue : Text.digitValue? c with
    | some value => simp only [apply_ite symbol, symbol_digitChar (digitValue?_lt hvalue)]; rfl
    | none => simp only [apply_ite symbol]; rfl

/-- Reduction to ASCII keeps what characters are in a number. -/
theorem map_symbol_plain (text : Text) : (plain text).map symbol = text.map symbol := by
  unfold plain
  split
  · rfl
  · rw [List.map_map]
    exact List.map_congr_left fun c _ ↦ symbol_plainChar c

theorem plainChar_toNat_lt (c : Char) : (plainChar c).toNat < 128 := by
  unfold plainChar
  split
  · omega
  · split
    · decide
    · split
      · next value hvalue =>
        have hall : ∀ value < 10, (Nat.digitChar value).toNat < 128 := by decide
        exact hall value (digitValue?_lt hvalue)
      · decide

theorem toNat_lt_of_mem_plain {text : Text} {c : Char} (h : c ∈ plain text) : c.toNat < 128 := by
  unfold plain at h
  split at h
  · next hall => exact of_decide_eq_true (List.all_eq_true.1 hall c h)
  · obtain ⟨d, -, rfl⟩ := List.mem_map.1 h
    exact plainChar_toNat_lt d

/-- What an ASCII character is in a number. -/
theorem symbol_of_ascii {c : Char} (h : c.toNat < 128) :
    symbol c =
      if c.isDigit then .digit (c.toNat - '0'.toNat)
      else if Line.isAsciiSpace c then .space
      else if c = '_' then .low
      else if c = '-' then .minus
      else if c = '+' then .plus
      else .other := by
  have hall : ∀ n < 128, symbol (Char.ofNat n) =
      if (Char.ofNat n).isDigit then .digit ((Char.ofNat n).toNat - '0'.toNat)
      else if Line.isAsciiSpace (Char.ofNat n) then .space
      else if Char.ofNat n = '_' then .low
      else if Char.ofNat n = '-' then .minus
      else if Char.ofNat n = '+' then .plus
      else .other := by
    decide +kernel
  have hc := hall c.toNat h
  rwa [Char.ofNat_toNat] at hc

/-! ## The form of a whole number -/

def valueOf (digits : List ℕ) : ℕ := digits.foldl (fun value digit ↦ 10 * value + digit) 0

/-- Digits with single low lines in them: a first group, and groups behind low lines. -/
def grouped (first : List ℕ) (groups : List (List ℕ)) : List Symbol :=
  first.map .digit ++ groups.flatMap fun group ↦ .low :: group.map .digit

/-- A sign that may be missing, and whether it makes the number negative. -/
inductive IsSign : List Symbol → Bool → Prop
  | missing : IsSign [] false
  | plus : IsSign [.plus] false
  | minus : IsSign [.minus] true

def signed (negative : Bool) (digits : List ℕ) : ℤ :=
  if negative then -(valueOf digits : ℤ) else valueOf digits

/-- The number is written in these symbols. -/
inductive IsNumeralOf : ℤ → List Symbol → Prop
  | intro {before sign after : List Symbol} {negative : Bool} {first : List ℕ}
    {groups : List (List ℕ)} (hbefore : ∀ item ∈ before, item = .space)
    (hsign : IsSign sign negative) (hfirst : first ≠ []) (hgroups : ∀ group ∈ groups, group ≠ [])
    (hlimit : (first ++ groups.flatten).length ≤ Fault.digitLimit)
    (hafter : ∀ item ∈ after, item = .space) :
    IsNumeralOf (signed negative (first ++ groups.flatten))
      (before ++ (sign ++ (grouped first groups ++ after)))

/-! ## Reading symbols -/

def signOf : List Symbol → Bool × List Symbol
  | .minus :: rest => (true, rest)
  | .plus :: rest => (false, rest)
  | symbols => (false, symbols)

/-- Digits with single low lines between them, and what follows.  The flag says that the last
symbol was a digit. -/
def spanSymbols : Bool → List Symbol → Option (List ℕ × List Symbol)
  | afterDigit, [] => if afterDigit then some ([], []) else none
  | _, .digit value :: rest =>
    (spanSymbols true rest).map fun found ↦ (value :: found.1, found.2)
  | afterDigit, .low :: rest => if afterDigit then spanSymbols false rest else none
  | afterDigit, item :: rest => if afterDigit then some ([], item :: rest) else none

def readSymbols (symbols : List Symbol) : Option ℤ :=
  let (negative, body) := signOf (symbols.dropWhile (· = .space))
  (spanSymbols false body).bind fun found ↦
    if found.1.length ≤ Fault.digitLimit ∧ ∀ item ∈ found.2, item = .space then
      some (signed negative found.1)
    else none

section Ascii

variable {c : Char} {text : Text}

theorem symbol_eq_space_iff (h : c.toNat < 128) :
    symbol c = .space ↔ Line.isAsciiSpace c = true := by
  have hdigit (hspace : Line.isAsciiSpace c = true) : c.isDigit = false := by
    simp only [Line.isAsciiSpace, Bool.or_eq_true, decide_eq_true_eq] at hspace
    rcases hspace with ((((rfl | rfl) | rfl) | rfl) | rfl) | rfl <;> rfl
  rw [symbol_of_ascii h]
  constructor
  · intro heq
    by_contra hspace
    split_ifs at heq
  · intro hspace
    simp [hspace, hdigit hspace]

theorem symbol_of_isDigit (h : c.isDigit = true) : symbol c = .digit (c.toNat - '0'.toNat) := by
  have hascii : c.toNat < 128 := by
    have hrange : c.toNat ≤ 57 := (Char.isDigit_iff_toNat.1 h).2
    omega
  rw [symbol_of_ascii hascii, if_pos h]

theorem symbol_ne_digit (h : c.toNat < 128) (hdigit : c.isDigit = false) (value : ℕ) :
    symbol c ≠ .digit value := by
  rw [symbol_of_ascii h, if_neg (by simp [hdigit])]
  split_ifs <;> simp

theorem dropWhile_map_symbol (h : ∀ c ∈ text, c.toNat < 128) :
    (text.map symbol).dropWhile (· = .space) = (text.dropWhile Line.isAsciiSpace).map symbol := by
  induction text with
  | nil => rfl
  | cons c rest ih =>
    obtain ⟨hc, hrest⟩ := List.forall_mem_cons.1 h
    by_cases hspace : Line.isAsciiSpace c = true
    · have hsymbol := (symbol_eq_space_iff hc).2 hspace
      simpa [hspace, hsymbol] using ih hrest
    · have hsymbol := mt (symbol_eq_space_iff hc).1 hspace
      simp [hspace, hsymbol]

theorem signOf_map_symbol (text : Text) :
    signOf (text.map symbol) = ((sign text).1, (sign text).2.map symbol) := by
  cases text with
  | nil => rfl
  | cons c rest =>
    by_cases hminus : c = '-'
    · subst hminus
      rfl
    · by_cases hplus : c = '+'
      · subst hplus
        rfl
      · have hminus' := mt symbol_eq_minus_iff.1 hminus
        have hplus' := mt symbol_eq_plus_iff.1 hplus
        simp [sign, signOf, hminus, hplus, hminus', hplus']

theorem spanSymbols_map_symbol (h : ∀ c ∈ text, c.toNat < 128) (afterDigit : Bool) :
    spanSymbols afterDigit (text.map symbol) = (spanDigits afterDigit text).map fun found ↦
      (found.1.map fun c ↦ c.toNat - '0'.toNat, found.2.map symbol) := by
  induction text generalizing afterDigit with
  | nil => cases afterDigit <;> rfl
  | cons c rest ih =>
    obtain ⟨hc, hrest⟩ := List.forall_mem_cons.1 h
    cases hdigit : c.isDigit with
    | true =>
      rw [List.map_cons, symbol_of_isDigit hdigit]
      simp [spanSymbols, spanDigits, hdigit, ih hrest, Function.comp_def]
    | false =>
      by_cases hlow : c = '_'
      · subst hlow
        cases afterDigit with
        | true => exact ih hrest false
        | false => rfl
      · have hlow' := mt symbol_eq_low_iff.1 hlow
        have hdigit' := symbol_ne_digit hc hdigit
        rw [List.map_cons]
        cases hsymbol : symbol c <;> cases afterDigit <;>
          simp_all [spanSymbols, spanDigits]

theorem suffix_of_spanDigits {afterDigit : Bool} {digits rest : Text}
    (h : spanDigits afterDigit text = some (digits, rest)) : rest <:+ text := by
  induction text generalizing afterDigit digits with
  | nil =>
    cases afterDigit with
    | true => simp_all [spanDigits]
    | false => exact absurd h nofun
  | cons c text ih =>
    rw [spanDigits] at h
    split_ifs at h with hdigit hlow hafter hafter
    · obtain ⟨found, hfound, hpair⟩ := Option.map_eq_some_iff.1 h
      obtain ⟨-, rfl⟩ := Prod.mk.inj hpair
      exact (ih hfound).trans (List.suffix_cons c text)
    · exact (ih h).trans (List.suffix_cons c text)
    · obtain ⟨-, rfl⟩ := Prod.mk.inj (Option.some.inj h)
      exact List.suffix_rfl

theorem suffix_sign (text : Text) : (sign text).2 <:+ text := by
  fun_cases sign text
  · exact List.suffix_cons _ _
  · exact List.suffix_cons _ _
  · exact List.suffix_rfl

end Ascii

/-- A whole number is read from the symbols of the text. -/
theorem toOption_readInt (text : Text) :
    (readInt text).toOption = readSymbols (text.map symbol) := by
  have hascii : ∀ c ∈ plain text, c.toNat < 128 := fun c hc ↦ toNat_lt_of_mem_plain hc
  rw [← map_symbol_plain, readSymbols, dropWhile_map_symbol hascii, signOf_map_symbol, readInt]
  generalize hstart : (plain text).dropWhile Line.isAsciiSpace = start
  have hbody : (sign start).2 <:+ plain text :=
    (suffix_sign start).trans (hstart ▸ List.dropWhile_suffix _)
  dsimp only
  rw [spanSymbols_map_symbol fun c hc ↦ hascii c (hbody.subset hc)]
  cases hspan : spanDigits false (sign start).2 with
  | none => rfl
  | some found =>
    have hspaces : (∀ item ∈ found.2.map symbol, item = .space) ↔
        found.2.all Line.isAsciiSpace = true := by
      rw [List.forall_mem_map, List.all_eq_true]
      refine forall₂_congr fun c hc ↦ symbol_eq_space_iff (hascii c ?_)
      exact hbody.subset ((suffix_of_spanDigits hspan).subset hc)
    have hvalue : valueOf (found.1.map fun c ↦ c.toNat - '0'.toNat) = digitsValue found.1 :=
      List.foldl_map
    simp only [Option.map_some, Option.bind_some, List.length_map, hspaces, signed, hvalue]
    by_cases hlimit : found.1.length ≤ Fault.digitLimit
    · cases found.2.all Line.isAsciiSpace <;>
        simp [hlimit, Nat.not_lt.2 hlimit, Except.toOption]
    · simp [hlimit, Nat.not_le.1 hlimit, Except.toOption]

/-! ## What is read -/

section Symbols

variable {first digits : List ℕ} {groups : List (List ℕ)} {symbols rest : List Symbol}

/-- The symbols do not go on with a digit or a low line. -/
def EndsDigits (rest : List Symbol) : Prop :=
  ∀ item ∈ rest.head?, item ≠ .low ∧ ∀ value, item ≠ .digit value

theorem grouped_append_eq_nil_iff :
    grouped first groups ++ rest = [] ↔ first = [] ∧ groups = [] ∧ rest = [] := by
  cases groups <;> simp [grouped]

theorem eq_grouped_append_iff {item : Symbol} :
    item :: symbols = grouped first groups ++ rest ↔
      (∃ value later, first = value :: later ∧ item = .digit value ∧
        symbols = grouped later groups ++ rest) ∨
      (first = [] ∧ ∃ group later, groups = group :: later ∧ item = .low ∧
        symbols = grouped group later ++ rest) ∨
      (first = [] ∧ groups = [] ∧ rest = item :: symbols) := by
  cases first with
  | cons => simp [grouped]
  | nil => cases groups <;> simp [grouped, eq_comm]

/-- Digits are read in groups, with single low lines between them. -/
theorem spanSymbols_eq_some_iff {afterDigit : Bool} :
    spanSymbols afterDigit symbols = some (digits, rest) ↔
      ∃ first groups, symbols = grouped first groups ++ rest ∧ digits = first ++ groups.flatten ∧
        (∀ group ∈ groups, group ≠ []) ∧ (afterDigit = false → first ≠ []) ∧ EndsDigits rest := by
  induction symbols generalizing afterDigit digits with
  | nil =>
    constructor
    · intro h
      cases afterDigit with
      | true =>
        obtain ⟨rfl, rfl⟩ := Prod.mk.inj (Option.some.inj h)
        exact ⟨[], [], rfl, rfl, nofun, nofun, nofun⟩
      | false => exact absurd h nofun
    · rintro ⟨first, groups, heq, rfl, -, hafter, -⟩
      obtain ⟨rfl, rfl, rfl⟩ := grouped_append_eq_nil_iff.1 heq.symm
      cases afterDigit with
      | true => rfl
      | false => exact absurd rfl (hafter rfl)
  | cons item symbols ih =>
    cases item with
    | digit value =>
      rw [spanSymbols, Option.map_eq_some_iff]
      constructor
      · rintro ⟨⟨later, behind⟩, hspan, hpair⟩
        obtain ⟨rfl, rfl⟩ := Prod.mk.inj hpair
        obtain ⟨first, groups, rfl, rfl, hgroups, -, hrest⟩ := ih.1 hspan
        exact ⟨value :: first, groups, rfl, rfl, hgroups, nofun, hrest⟩
      · rintro ⟨first, groups, heq, rfl, hgroups, -, hrest⟩
        rcases eq_grouped_append_iff.1 heq with ⟨_, later, rfl, hvalue, hlater⟩ |
          ⟨-, _, _, -, hlow, -⟩ | ⟨-, -, rfl⟩
        · obtain rfl := Symbol.digit.inj hvalue
          exact ⟨_, ih.2 ⟨later, groups, hlater, rfl, hgroups, nofun, hrest⟩, rfl⟩
        · exact absurd hlow nofun
        · exact absurd rfl ((hrest _ rfl).2 value)
    | low =>
      cases afterDigit with
      | true =>
        constructor
        · intro h
          obtain ⟨first, groups, rfl, rfl, hgroups, hfirst, hrest⟩ := ih.1 h
          refine ⟨[], first :: groups, ?_, rfl, ?_, nofun, hrest⟩
          · simp [grouped]
          · exact List.forall_mem_cons.2 ⟨hfirst rfl, hgroups⟩
        · rintro ⟨first, groups, heq, rfl, hgroups, -, hrest⟩
          rcases eq_grouped_append_iff.1 heq with ⟨_, _, -, hdigit, -⟩ |
            ⟨rfl, group, later, rfl, -, hlater⟩ | ⟨-, -, rfl⟩
          · exact absurd hdigit nofun
          · obtain ⟨hgroup, hgroups⟩ := List.forall_mem_cons.1 hgroups
            exact ih.2 ⟨group, later, hlater, rfl, hgroups, fun _ ↦ hgroup, hrest⟩
          · exact absurd rfl (hrest _ rfl).1
      | false =>
        constructor
        · exact fun h ↦ absurd h nofun
        · rintro ⟨first, groups, heq, rfl, -, hfirst, -⟩
          rcases eq_grouped_append_iff.1 heq with ⟨_, _, -, hdigit, -⟩ | ⟨hnil, -⟩ | ⟨hnil, -⟩
          · exact absurd hdigit nofun
          · exact absurd hnil (hfirst rfl)
          · exact absurd hnil (hfirst rfl)
    | space | plus | minus | other =>
      constructor
      · intro h
        cases afterDigit with
        | true =>
          obtain ⟨rfl, rfl⟩ := Prod.mk.inj (Option.some.inj h)
          exact ⟨[], [], rfl, rfl, nofun, nofun, by simp [EndsDigits]⟩
        | false => exact absurd h nofun
      · rintro ⟨first, groups, heq, rfl, -, hfirst, -⟩
        rcases eq_grouped_append_iff.1 heq with ⟨_, _, -, hdigit, -⟩ |
          ⟨-, _, _, -, hlow, -⟩ | ⟨rfl, rfl, rfl⟩
        · exact absurd hdigit nofun
        · exact absurd hlow nofun
        · cases afterDigit with
          | true => rfl
          | false => exact absurd rfl (hfirst rfl)

theorem exists_isSign (symbols : List Symbol) :
    ∃ sign, IsSign sign (signOf symbols).1 ∧ symbols = sign ++ (signOf symbols).2 := by
  fun_cases signOf symbols
  · exact ⟨_, .minus, rfl⟩
  · exact ⟨_, .plus, rfl⟩
  · exact ⟨_, .missing, rfl⟩

/-- A number is read where one is written, and nowhere else. -/
theorem readSymbols_eq_some_iff {n : ℤ} : readSymbols symbols = some n ↔ IsNumeralOf n symbols := by
  constructor
  · intro h
    obtain ⟨sign, hsign, hbody⟩ := exists_isSign (symbols.dropWhile (· = .space))
    rw [readSymbols] at h
    generalize signOf (symbols.dropWhile (· = .space)) = signAndBody at h hsign hbody
    obtain ⟨⟨digits, rest⟩, hspan, hread⟩ := Option.bind_eq_some_iff.1 h
    obtain ⟨first, groups, hdigits, rfl, hgroups, hfirst, -⟩ := spanSymbols_eq_some_iff.1 hspan
    split at hread
    · next hfits =>
      obtain rfl := Option.some.inj hread
      have hsymbols : symbols = symbols.takeWhile (· = .space) ++
          (sign ++ (grouped first groups ++ rest)) := by
        rw [← hdigits, ← hbody, List.takeWhile_append_dropWhile]
      rw [hsymbols]
      refine .intro ?_ hsign (hfirst rfl) hgroups hfits.1 hfits.2
      exact fun item hitem ↦ by simpa using List.mem_takeWhile_imp hitem
    · exact absurd hread nofun
  · rintro ⟨hbefore, hsign, hfirst, hgroups, hlimit, hafter⟩
    rename_i before sign after negative first groups
    have hspaces : ∀ item ∈ before, decide (item = .space) = true :=
      fun item hitem ↦ decide_eq_true (hbefore item hitem)
    have hends : EndsDigits after := by
      intro item hitem
      rw [hafter item (List.mem_of_mem_head? hitem)]
      exact ⟨nofun, nofun⟩
    have hspan : spanSymbols false (grouped first groups ++ after) =
        some (first ++ groups.flatten, after) :=
      spanSymbols_eq_some_iff.2 ⟨first, groups, rfl, rfl, hgroups, fun _ ↦ hfirst, hends⟩
    -- A digit comes first behind the sign.
    obtain ⟨value, later, rfl⟩ := List.exists_cons_of_ne_nil hfirst
    have hdrop : (before ++ (sign ++ (grouped (value :: later) groups ++ after))).dropWhile
        (· = .space) = sign ++ (grouped (value :: later) groups ++ after) := by
      rw [List.dropWhile_append_of_pos hspaces]
      cases hsign <;> rfl
    have hsignOf : signOf (sign ++ (grouped (value :: later) groups ++ after)) =
        (negative, grouped (value :: later) groups ++ after) := by
      cases hsign <;> rfl
    rw [readSymbols, hdrop, hsignOf]
    dsimp only
    rw [hspan, Option.bind_some, if_pos ⟨hlimit, hafter⟩]

end Symbols

/-- A text is read as a number exactly if the number is written in it. -/
theorem readInt_eq_ok_iff {text : Text} {n : ℤ} :
    readInt text = .ok n ↔ IsNumeralOf n (text.map symbol) := by
  rw [← readSymbols_eq_some_iff, ← toOption_readInt]
  cases readInt text <;> simp [Except.toOption]

theorem exists_readInt_eq_error {text : Text} (h : ∀ n, ¬ IsNumeralOf n (text.map symbol)) :
    ∃ fault, readInt text = .error fault := by
  cases hread : readInt text with
  | error fault => exact ⟨fault, rfl⟩
  | ok n => exact absurd (readInt_eq_ok_iff.1 hread) (h n)

/-! ## Decimal numerals -/

/-- The decimal numeral of `n`, which may have a plus sign if `n` is not negative, single low lines
between its digits, and white space around it. -/
inductive IsWritten (n : ℤ) : Text → Prop
  | intro {before sign first after : Text} {groups : List Text}
    (hbefore : ∀ c ∈ before, isOuterSpace c = true)
    (hsign : n < 0 ∧ sign = ['-'] ∨ 0 ≤ n ∧ (sign = [] ∨ sign = ['+']))
    (hfirst : first ≠ []) (hgroups : ∀ group ∈ groups, group ≠ [])
    (hdigits : first ++ groups.flatten = Text.ofNat n.natAbs)
    (hafter : ∀ c ∈ after, isOuterSpace c = true) :
    IsWritten n (before ++ (sign ++ (first ++ groups.flatMap ('_' :: ·) ++ after)))

def digitOf (c : Char) : ℕ := c.toNat - '0'.toNat

theorem symbol_of_isOuterSpace {c : Char} (h : isOuterSpace c = true) : symbol c = .space := by
  have hne {d : Char} (hd : isOuterSpace d = false) : c ≠ d := by
    rintro rfl
    rw [h] at hd
    exact absurd hd nofun
  rw [symbol, if_neg (hne (by decide)), if_neg (hne (by decide)), if_neg (hne (by decide)),
    if_pos h]

theorem map_symbol_of_isDigit {text : Text} (h : ∀ c ∈ text, c.isDigit = true) :
    text.map symbol = (text.map digitOf).map .digit := by
  rw [List.map_map]
  exact List.map_congr_left fun c hc ↦ symbol_of_isDigit (h c hc)

theorem map_symbol_grouped {first : Text} {groups : List Text}
    (h : ∀ c ∈ first ++ groups.flatten, c.isDigit = true) :
    (first ++ groups.flatMap ('_' :: ·)).map symbol =
      grouped (first.map digitOf) (groups.map (·.map digitOf)) := by
  obtain ⟨hfirst, hgroups⟩ := List.forall_mem_append.1 h
  have hgroup (group : Text) (hgroup : group ∈ groups) :
      ('_' :: group).map symbol = .low :: (group.map digitOf).map .digit := by
    rw [List.map_cons, map_symbol_of_isDigit fun c hc ↦
      hgroups c (List.mem_flatten_of_mem hgroup hc)]
    rfl
  rw [List.map_append, map_symbol_of_isDigit hfirst, List.map_flatMap, grouped, List.flatMap_map]
  congr 1
  exact List.flatMap_congr hgroup

theorem valueOf_map_digitOf (text : Text) : valueOf (text.map digitOf) = digitsValue text := by
  rw [valueOf, List.foldl_map]
  rfl

theorem IsWritten.isNumeralOf {n : ℤ} {text : Text} (h : IsWritten n text)
    (hlimit : (Text.ofNat n.natAbs).length ≤ Fault.digitLimit) :
    IsNumeralOf n (text.map symbol) := by
  obtain ⟨hbefore, hsign, hfirst, hgroups, hdigits, hafter⟩ := h
  rename_i before sign first after groups
  have hnumeral := Text.isDigitsOf_ofNat n.natAbs
  have hvalues : first.map digitOf ++ (groups.map (·.map digitOf)).flatten =
      (Text.ofNat n.natAbs).map digitOf := by
    rw [← hdigits, List.map_append, List.map_flatten]
  have hvalue : valueOf ((Text.ofNat n.natAbs).map digitOf) = n.natAbs := by
    rw [valueOf_map_digitOf, hnumeral.value]
  have hspaces {spaces : Text} (hall : ∀ c ∈ spaces, isOuterSpace c = true) :
      ∀ item ∈ spaces.map symbol, item = .space :=
    List.forall_mem_map.2 fun c hc ↦ symbol_of_isOuterSpace (hall c hc)
  obtain ⟨negative, hmarks, hsigned⟩ : ∃ negative, IsSign (sign.map symbol) negative ∧
      signed negative ((Text.ofNat n.natAbs).map digitOf) = n := by
    unfold signed
    rw [hvalue]
    rcases hsign with ⟨hn, rfl⟩ | ⟨hn, rfl | rfl⟩
    · exact ⟨true, .minus, by rw [if_pos rfl]; omega⟩
    · exact ⟨false, .missing, Int.natAbs_of_nonneg hn⟩
    · exact ⟨false, .plus, Int.natAbs_of_nonneg hn⟩
  have hgrouped := map_symbol_grouped fun c hc ↦ hnumeral.isDigit c (hdigits ▸ hc)
  have hnumber := IsNumeralOf.intro (hspaces hbefore) hmarks (mt List.map_eq_nil_iff.1 hfirst)
    (List.forall_mem_map.2 fun group hgroup ↦ mt List.map_eq_nil_iff.1 (hgroups group hgroup))
    (by rwa [hvalues, List.length_map]) (hspaces hafter)
  rw [hvalues, hsigned, ← hgrouped] at hnumber
  simpa only [List.map_append] using hnumber

end ShellMetrics.Numeral
