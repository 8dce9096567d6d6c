import ShellMetrics.Encoding.Utf8
import Mathlib.Data.Nat.Notation

/-!
# Decoding UTF-8

The decoder never loses its place for longer than one character.  An octet below 128 cannot go on
with a character, so it ends one that has been begun as an error, stands for itself, and leaves
nothing begun: what comes before such an octet and what comes behind it are decoded apart.  No
other octet makes a newline, and what the encoder writes is read back.
-/

namespace ShellMetrics.Utf8

/-! ## One octet -/

/-- A state that reading leads to.  The next octet of a character that has been begun is none of
ASCII, and further octets cannot make the character one of the first sixteen. -/
def State.IsProper : State → Prop
  | .start => True
  | .within _ low _ value => 0x80 ≤ low ∧ 16 ≤ 64 * value + (low - 0x80)

theorem isProper_start : State.start.IsProper := trivial

/-- The first octet of a character is the whole of it, an error, or the beginning of more. -/
theorem first_cases (octet : ℕ) :
    octet < 0x80 ∧ first octet = ([some (Char.ofNat octet)], .start) ∨
      0x80 ≤ octet ∧ first octet = ([none], .start) ∨
      0x80 ≤ octet ∧ ∃ left low high value, first octet = ([], .within left low high value) ∧
        State.IsProper (.within left low high value) := by
  fun_cases first octet with
  | case1 hascii => exact .inl ⟨hascii, rfl⟩
  | case2 hascii hrange =>
    simp only [Bool.and_eq_true, decide_eq_true_eq] at hrange
    exact .inr (.inr ⟨by omega, _, _, _, _, rfl, by decide, by omega⟩)
  | case3 hascii => exact .inr (.inr ⟨by omega, _, _, _, _, rfl, by decide, by decide⟩)
  | case4 hascii => exact .inr (.inr ⟨by omega, _, _, _, _, rfl, by decide, by decide⟩)
  | case5 hascii _ _ _ hrange =>
    simp only [Bool.and_eq_true, decide_eq_true_eq] at hrange
    exact .inr (.inr ⟨by omega, _, _, _, _, rfl, by decide, by omega⟩)
  | case6 hascii => exact .inr (.inr ⟨by omega, _, _, _, _, rfl, by decide, by decide⟩)
  | case7 hascii => exact .inr (.inr ⟨by omega, _, _, _, _, rfl, by decide, by decide⟩)
  | case8 hascii _ _ _ _ _ _ hrange =>
    simp only [Bool.and_eq_true, decide_eq_true_eq] at hrange
    exact .inr (.inr ⟨by omega, _, _, _, _, rfl, by decide, by omega⟩)
  | case9 hascii => exact .inr (.inl ⟨by omega, rfl⟩)

theorem first_of_lt {octet : ℕ} (h : octet < 0x80) :
    first octet = ([some (Char.ofNat octet)], .start) := if_pos h

theorem step_outside {left low high value octet : ℕ} (h : ¬ (low ≤ octet ∧ octet ≤ high)) :
    step (.within left low high value) octet = (none :: (first octet).1, (first octet).2) := by
  unfold step
  simp [h]

/-- What one octet can do: it leads to a proper state, it leaves something read or something begun,
and unless it is a newline it makes none. -/
structure Advances (state : State) (octet : ℕ) : Prop where
  isProper : (step state octet).2.IsProper
  not_idle : (step state octet).1 ≠ [] ∨ (step state octet).2 ≠ .start
  newline : octet ≠ 10 → some '\n' ∉ (step state octet).1

theorem ofNat_eq_newline_iff (n : ℕ) : Char.ofNat n = '\n' ↔ n = 10 := by
  constructor
  · intro h
    by_cases hvalid : n.isValidChar
    · rw [Char.ofNat, dif_pos hvalid] at h
      exact congrArg Char.toNat h
    · rw [Char.ofNat, dif_neg hvalid] at h
      exact absurd h (by decide)
  · rintro rfl
    rfl

theorem advances_start (octet : ℕ) : Advances .start octet := by
  rcases first_cases octet with ⟨-, h⟩ | ⟨-, h⟩ | ⟨-, left, low, high, value, h, hproper⟩
  · constructor <;> simp only [step, h]
    · trivial
    · simp
    · intro hoctet
      simpa [eq_comm, ofNat_eq_newline_iff] using hoctet
  · constructor <;> simp [step, h, State.IsProper]
  · constructor <;> simp [step, h, hproper]

/-- One octet leads from a proper state to a proper one. -/
theorem advances_of_isProper {state : State} (h : state.IsProper) (octet : ℕ) :
    Advances state octet := by
  cases state with
  | start => exact advances_start octet
  | within left low high value =>
    obtain ⟨hlow, hvalue⟩ := h
    by_cases hrange : low ≤ octet ∧ octet ≤ high
    · -- The character goes on.  Its number has been made at least sixteen.
      have hnumber : 16 ≤ 64 * value + (octet - 0x80) := by omega
      by_cases hlast : left ≤ 1
      · constructor <;> simp [step, hrange, hlast, State.IsProper]
        intro _ hnewline
        have hten := (ofNat_eq_newline_iff _).1 hnewline.symm
        omega
      · constructor <;> simp [step, hrange, hlast, State.IsProper]
        omega
    · -- The character is broken off, and the octet is read afresh.
      have hfresh := advances_start octet
      constructor <;> simp only [step_outside hrange]
      · exact hfresh.isProper
      · simp
      · simpa [step] using hfresh.newline

/-! ## All octets -/

theorem unitsFrom_cons (state : State) (octet : UInt8) (rest : List UInt8) :
    unitsFrom state (octet :: rest) =
      (step state octet.toNat).1 ++ unitsFrom (step state octet.toNat).2 rest := by
  cases state <;> rfl

/-- An octet of ASCII ends what has been begun and stands for itself. -/
theorem step_of_lt {state : State} (h : state.IsProper) {octet : ℕ} (hoctet : octet < 0x80) :
    step state octet = (unitsFrom state [] ++ [some (Char.ofNat octet)], .start) := by
  cases state with
  | start => exact first_of_lt hoctet
  | within left low high value =>
    have hlow : 0x80 ≤ low := h.1
    rw [step_outside (by omega), first_of_lt hoctet]
    rfl

/-- What stands before an octet of ASCII and what stands behind it are decoded apart. -/
theorem unitsFrom_append_ascii {state : State} (h : state.IsProper) (before : List UInt8)
    {octet : UInt8} (hoctet : octet.toNat < 0x80) (after : List UInt8) :
    unitsFrom state (before ++ octet :: after) =
      unitsFrom state before ++ some (Char.ofNat octet.toNat) :: unitsFrom .start after := by
  induction before generalizing state with
  | nil =>
    rw [List.nil_append, unitsFrom_cons, step_of_lt h hoctet, List.append_assoc]
    rfl
  | cons other before ih =>
    rw [List.cons_append, unitsFrom_cons, unitsFrom_cons, List.append_assoc,
      ih (advances_of_isProper h other.toNat).isProper]

/-- No newline comes of octets that hold none. -/
theorem newline_notMem_unitsFrom {state : State} (h : state.IsProper) {octets : List UInt8}
    (hoctets : 10 ∉ octets) : some '\n' ∉ unitsFrom state octets := by
  induction octets generalizing state with
  | nil => cases state <;> simp [unitsFrom]
  | cons octet rest ih =>
    have hadvances := advances_of_isProper h octet.toNat
    obtain ⟨hoctet, hrest⟩ : octet ≠ 10 ∧ 10 ∉ rest := by simpa [eq_comm] using hoctets
    have hvalue : octet.toNat ≠ 10 := fun hten ↦ hoctet (UInt8.toNat_inj.1 hten)
    rw [unitsFrom_cons, List.mem_append]
    rintro (hhead | htail)
    · exact hadvances.newline hvalue hhead
    · exact ih hadvances.isProper hrest htail

/-- Octets are not decoded to nothing, nor is what has been begun. -/
theorem unitsFrom_ne_nil {state : State} (h : state.IsProper) {octets : List UInt8}
    (hsome : state ≠ .start ∨ octets ≠ []) : unitsFrom state octets ≠ [] := by
  induction octets generalizing state with
  | nil =>
    cases state with
    | start => simp at hsome
    | within => exact List.cons_ne_nil _ _
  | cons octet rest ih =>
    have hadvances := advances_of_isProper h octet.toNat
    rw [unitsFrom_cons]
    rcases hadvances.not_idle with hread | hbegun
    · exact List.append_ne_nil_of_left_ne_nil hread _
    · exact List.append_ne_nil_of_right_ne_nil _ (ih hadvances.isProper (.inl hbegun))

/-! ## Reading back -/

section Lead

variable {n : ℕ}

theorem first_two (hlow : 0x80 ≤ n) (hhigh : n < 0x800) :
    first (0xc0 + n / 64) = ([], .within 1 0x80 0xbf (n / 64)) := by
  have hrange : (0xc2 ≤ 0xc0 + n / 64 && 0xc0 + n / 64 ≤ 0xdf) = true := by
    simp only [Bool.and_eq_true, decide_eq_true_eq]
    omega
  unfold first
  rw [if_neg (by omega), if_pos hrange, Nat.add_sub_cancel_left]

/-- The second octet of a character of three is in the range that the first one asks for, since no
character is a surrogate and none is spelled longer than it must be. -/
theorem first_three (hlow : 0x800 ≤ n) (hhigh : n < 0x10000)
    (hsurrogate : n < 0xd800 ∨ 0xdfff < n) :
    ∃ low high, first (0xe0 + n / 4096) = ([], .within 2 low high (n / 4096)) ∧
      low ≤ 0x80 + n / 64 % 64 ∧ 0x80 + n / 64 % 64 ≤ high := by
  by_cases hleast : n / 4096 = 0
  · rw [hleast]
    exact ⟨0xa0, 0xbf, rfl, by omega, by omega⟩
  by_cases hpair : n / 4096 = 0xd
  · rw [hpair]
    exact ⟨0x80, 0x9f, rfl, by omega, by omega⟩
  have htwo : ¬ (0xc2 ≤ 0xe0 + n / 4096 && 0xe0 + n / 4096 ≤ 0xdf) = true := by
    simp only [Bool.and_eq_true, decide_eq_true_eq]
    omega
  have hrange : (0xe1 ≤ 0xe0 + n / 4096 && 0xe0 + n / 4096 ≤ 0xef) = true := by
    simp only [Bool.and_eq_true, decide_eq_true_eq]
    omega
  refine ⟨0x80, 0xbf, ?_, by omega, by omega⟩
  unfold first
  rw [if_neg (by omega), if_neg htwo, if_neg (by omega), if_neg (by omega), if_pos hrange,
    Nat.add_sub_cancel_left]

/-- The second octet of a character of four is in the range that the first one asks for. -/
theorem first_four (hlow : 0x10000 ≤ n) (hhigh : n < 0x110000) :
    ∃ low high, first (0xf0 + n / 262144) = ([], .within 3 low high (n / 262144)) ∧
      low ≤ 0x80 + n / 4096 % 64 ∧ 0x80 + n / 4096 % 64 ≤ high := by
  by_cases hleast : n / 262144 = 0
  · rw [hleast]
    exact ⟨0x90, 0xbf, rfl, by omega, by omega⟩
  by_cases hmost : n / 262144 = 4
  · rw [hmost]
    exact ⟨0x80, 0x8f, rfl, by omega, by omega⟩
  have hcases : n / 262144 = 1 ∨ n / 262144 = 2 ∨ n / 262144 = 3 := by omega
  refine ⟨0x80, 0xbf, ?_, by omega, by omega⟩
  rcases hcases with h | h | h <;> rw [h] <;> rfl

end Lead

section Octets

variable {left low high value n : ℕ} (hoctet : n < 256)
include hoctet

theorem unitsFrom_begun {state : State} (h : first n = ([], state)) (rest : List UInt8) :
    unitsFrom .start (UInt8.ofNat n :: rest) = unitsFrom state rest := by
  rw [unitsFrom_cons, UInt8.toNat_ofNat_of_lt' hoctet, step, h]
  rfl

theorem unitsFrom_more (hlow : low ≤ n) (hhigh : n ≤ high) (rest : List UInt8) :
    unitsFrom (.within (left + 2) low high value) (UInt8.ofNat n :: rest) =
      unitsFrom (.within (left + 1) 0x80 0xbf (64 * value + (n - 0x80))) rest := by
  rw [unitsFrom_cons, UInt8.toNat_ofNat_of_lt' hoctet]
  simp [step, hlow, hhigh]

theorem unitsFrom_last (hlow : low ≤ n) (hhigh : n ≤ high) (rest : List UInt8) :
    unitsFrom (.within 1 low high value) (UInt8.ofNat n :: rest) =
      some (Char.ofNat (64 * value + (n - 0x80))) :: unitsFrom .start rest := by
  rw [unitsFrom_cons, UInt8.toNat_ofNat_of_lt' hoctet]
  simp [step, hlow, hhigh]

end Octets

/-- The octets of a character are read as that character. -/
theorem unitsFrom_encodeChar_append (c : Char) (rest : List UInt8) :
    unitsFrom .start (encodeChar c ++ rest) = some c :: unitsFrom .start rest := by
  have hvalid : c.toNat < 0xd800 ∨ 0xdfff < c.toNat ∧ c.toNat < 0x110000 := c.valid
  have hchar {number : ℕ} (h : number = c.toNat) : Char.ofNat number = c := by
    rw [h, Char.ofNat_toNat]
  unfold encodeChar
  dsimp only
  split
  · next hone =>
    have hoctet : c.toNat < UInt8.size := Nat.lt_trans hone (by decide)
    rw [List.singleton_append, unitsFrom_cons, UInt8.toNat_ofNat_of_lt' hoctet, step,
      first_of_lt hone, hchar rfl]
    rfl
  split
  · next hone htwo =>
    have hfirst := first_two (by omega) htwo
    rw [List.cons_append, List.singleton_append, unitsFrom_begun (by omega) hfirst,
      unitsFrom_last (by omega) (by omega) (by omega), hchar (by omega)]
  split
  · next hone htwo hthree =>
    obtain ⟨low, high, hfirst, hlow, hhigh⟩ := first_three (by omega) hthree (by omega)
    rw [List.cons_append, List.cons_append, List.singleton_append,
      unitsFrom_begun (by omega) hfirst, unitsFrom_more (by omega) hlow hhigh,
      unitsFrom_last (by omega) (by omega) (by omega), hchar (by omega)]
  · next hone htwo hthree =>
    obtain ⟨low, high, hfirst, hlow, hhigh⟩ := first_four (Nat.not_lt.1 hthree) (by omega)
    rw [List.cons_append, List.cons_append, List.cons_append, List.singleton_append,
      unitsFrom_begun (by omega) hfirst, unitsFrom_more (by omega) hlow hhigh,
      unitsFrom_more (by omega) (by omega) (by omega),
      unitsFrom_last (by omega) (by omega) (by omega), hchar (by omega)]

theorem units_encode (text : Text) : units (encode text) = text.map some := by
  unfold units encode
  induction text with
  | nil => rfl
  | cons c rest ih => rw [List.flatMap_cons, unitsFrom_encodeChar_append, ih, List.map_cons]

/-- A text is read back from its octets. -/
theorem decode_encode (text : Text) : decode (encode text) = text := by
  unfold decode
  rw [units_encode, List.map_map]
  exact List.map_id text

theorem length_le_length_encode (text : Text) : text.length ≤ (encode text).length := by
  induction text with
  | nil => exact Nat.le_refl 0
  | cons c rest ih =>
    have hchar : 1 ≤ (encodeChar c).length := by
      fun_cases encodeChar c <;> simp
    simp only [encode, List.flatMap_cons, List.length_append, List.length_cons] at ih ⊢
    omega

/-- The octets of a character are those that the standard library gives it. -/
theorem encodeChar_eq_utf8EncodeChar (c : Char) : encodeChar c = String.utf8EncodeChar c := by
  have hvalid : c.toNat < 0xd800 ∨ 0xdfff < c.toNat ∧ c.toNat < 0x110000 := c.valid
  have hvalue : c.val.toNat = c.toNat := rfl
  unfold encodeChar String.utf8EncodeChar
  dsimp only
  rw [hvalue]
  generalize c.toNat = n at hvalid
  -- The parts of the number are cut to their bits on one side only, and are small enough for it.
  have hone : n / 1 = n := Nat.div_one n
  split
  · rw [if_pos (by omega)]
  split
  · have hlead : n / 64 % 32 = n / 64 := by omega
    rw [if_neg (by omega), if_pos (by omega), hlead, hone, Nat.add_comm 0xc0, Nat.add_comm 0x80]
  split
  · have hlead : n / 4096 % 16 = n / 4096 := by omega
    rw [if_neg (by omega), if_neg (by omega), if_pos (by omega), hlead, hone, Nat.add_comm 0xe0,
      Nat.add_comm 0x80, Nat.add_comm 0x80]
  · have hlead : n / 262144 % 8 = n / 262144 := by omega
    rw [if_neg (by omega), if_neg (by omega), if_neg (by omega), hlead, hone, Nat.add_comm 0xf0,
      Nat.add_comm 0x80, Nat.add_comm 0x80, Nat.add_comm 0x80]

theorem encode_eq_flatMap (text : Text) : encode text = text.flatMap String.utf8EncodeChar := by
  unfold encode
  rw [funext encodeChar_eq_utf8EncodeChar]

end ShellMetrics.Utf8
