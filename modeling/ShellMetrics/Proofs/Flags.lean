import ShellMetrics.Number.Numeral
import ShellMetrics.Proofs.Positions
import Mathlib.Data.Char

/-!
# Flags in settings

A flag is one of eight words in any letter case, with white space around it.  Case is taken from
the whole of Unicode, but no other script has a capital of one of the letters in these words: that
would be the Kelvin sign for `k`, and the dotted capital for `i`.
-/

namespace ShellMetrics

/-! ## Letter case -/

namespace Text

/-- ASCII characters that are the small letters of no characters outside ASCII. -/
def IsSteady (c : Char) : Prop := c.toNat < 128 ∧ c ≠ 'i' ∧ c ≠ 'k' ∧ c ≠ '\x00'

instance (c : Char) : Decidable (IsSteady c) :=
  inferInstanceAs (Decidable (_ ∧ _ ∧ _ ∧ _))

theorem toLower_of_not_ascii {c : Char} (h : ¬ c.toNat < 128) : c.toLower = c := by
  refine dif_neg fun hrange ↦ h ?_
  have hlast : c.toNat ≤ 90 := UInt32.le_iff_toNat_le.1 hrange.2
  omega

theorem toLower_of_isSpace {c : Char} (h : isSpace c = true) : c.toLower = c := by
  refine dif_neg fun hrange ↦ ?_
  have hfirst : 65 ≤ c.toNat := UInt32.le_iff_toNat_le.1 hrange.1
  have hlast : c.toNat ≤ 90 := UInt32.le_iff_toNat_le.1 hrange.2
  simp [isSpace, inRanges, spaceRanges] at h
  omega

/-- In ASCII the small letter is the usual one. -/
theorem lowerChar_of_ascii {c : Char} (h : c.toNat < 128) : lowerChar c = [c.toLower] := by
  have hall : ∀ n < 128, lowerChar (Char.ofNat n) = [(Char.ofNat n).toLower] := by decide +kernel
  have hc := hall c.toNat h
  rwa [Char.ofNat_toNat] at hc

/-- Runs of capitals outside ASCII have their small letters there, the Kelvin sign apart. -/
theorem capitalRuns_spec : ∀ run ∈ capitalRuns, run.last < 128 ∨
    run.first = run.last ∧ (run.first + run.distance).toNat = 'k'.toNat ∨
      128 ≤ run.first + run.distance := by
  decide +kernel

/-- A number that is not the code point of a character is taken for the null character. -/
theorem eq_toNat_of_ofNat_eq {n : ℕ} {c : Char} (h : Char.ofNat n = c) (hc : c ≠ '\x00') :
    n = c.toNat := by
  by_cases hvalid : n.isValidChar
  · rw [Char.ofNat, dif_pos hvalid] at h
    exact congrArg Char.toNat h
  · rw [Char.ofNat, dif_neg hvalid] at h
    exact absurd h.symm hc

theorem lowerChar_ne_of_not_ascii {c d : Char} (h : ¬ c.toNat < 128) (hd : IsSteady d) :
    lowerChar c ≠ [d] := by
  obtain ⟨hascii, -, hk, hnull⟩ := hd
  unfold lowerChar
  split
  · simp
  · split
    · next run hrun =>
      intro heq
      have hrange := List.find?_some hrun
      simp only [Bool.and_eq_true, decide_eq_true_eq] at hrange
      have hd := eq_toNat_of_ofNat_eq (List.singleton_inj.1 heq) hnull
      rcases capitalRuns_spec run (List.mem_of_find?_eq_some hrun) with
        hlast | ⟨hsame, hkelvin⟩ | hfirst
      · omega
      · have hc : c.toNat = run.first := by omega
        rw [hc, hkelvin] at hd
        exact hk (Char.toNat_inj.1 hd.symm)
      · omega
    · intro heq
      exact h (List.singleton_inj.1 heq ▸ hascii)

/-- A steady character is the small letter of the same characters in ASCII and in Unicode. -/
theorem lowerChar_eq_iff {c d : Char} (hd : IsSteady d) : lowerChar c = [d] ↔ c.toLower = d := by
  by_cases h : c.toNat < 128
  · simp [lowerChar_of_ascii h]
  · have hne : c ≠ d := fun heq ↦ h (heq ▸ hd.1)
    simp [toLower_of_not_ascii h, lowerChar_ne_of_not_ascii h hd, hne]

theorem exists_lowerChar_eq (c : Char) :
    (∃ d, lowerChar c = [d]) ∨ ¬ c.toNat < 128 ∧ ∃ rest, lowerChar c = 'i' :: rest := by
  unfold lowerChar
  split
  · next hdotted => exact .inr ⟨by omega, _, rfl⟩
  · split <;> exact .inl ⟨_, rfl⟩

theorem lowerAfter_cons_ne_nil (before : Text) (c : Char) (rest : Text) :
    lowerAfter before (c :: rest) ≠ [] := by
  have hpiece : lowerChar c ≠ [] := by
    rcases exists_lowerChar_eq c with ⟨d, hd⟩ | ⟨-, behind, hd⟩ <;> simp [hd]
  rw [lowerAfter]
  split_ifs <;> simp [hpiece]

theorem lowerAfter_cons_eq_iff {before rest word : Text} {c d : Char} (hd : IsSteady d) :
    lowerAfter before (c :: rest) = d :: word ↔
      c.toLower = d ∧ lowerAfter (c :: before) rest = word := by
  rw [lowerAfter]
  by_cases hsigma : c = 'Σ'
  · subst hsigma
    have hne {e : Char} (he : ¬ IsSteady e) : e ≠ d := fun heq ↦ he (heq ▸ hd)
    have hcapital : 'Σ' ≠ d := hne (by decide)
    have hfinal : 'ς' ≠ d := hne (by decide)
    have hsmall : 'σ' ≠ d := hne (by decide)
    rw [if_pos rfl]
    split_ifs <;> simp [hcapital, hfinal, hsmall]
  · rw [if_neg hsigma, ← lowerChar_eq_iff hd]
    rcases exists_lowerChar_eq c with ⟨e, he⟩ | ⟨-, behind, hi⟩
    · simp [he]
    · simp [hi, hd.2.1.symm]

theorem lowerAfter_eq_iff {before text word : Text} (hword : ∀ c ∈ word, IsSteady c) :
    lowerAfter before text = word ↔ text.map Char.toLower = word := by
  induction text generalizing before word with
  | nil => rfl
  | cons c rest ih =>
    rw [List.map_cons]
    cases word with
    | nil => simp [lowerAfter_cons_ne_nil]
    | cons d word =>
      obtain ⟨hd, hword⟩ := List.forall_mem_cons.1 hword
      rw [lowerAfter_cons_eq_iff hd, ih hword, List.cons.injEq]

/-- A word of steady characters is reached in the same way in ASCII and in Unicode. -/
theorem lower_eq_iff {text word : Text} (hword : ∀ c ∈ word, IsSteady c) :
    lower text = word ↔ text.map Char.toLower = word :=
  lowerAfter_eq_iff hword

/-! ## White space at the ends -/

/-- White space at the ends is dropped from a word that has none in it. -/
theorem strip_append {before word after : Text} (hbefore : ∀ c ∈ before, isSpace c = true)
    (hword : ∀ c ∈ word, isSpace c = false) (hafter : ∀ c ∈ after, isSpace c = true) :
    strip (before ++ (word ++ after)) = word := by
  have hkept {text : Text} (h : ∀ c ∈ text, isSpace c = false) : text.dropWhile isSpace = text := by
    cases text with
    | nil => rfl
    | cons c rest => exact List.dropWhile_cons_of_neg (by simp [h c List.mem_cons_self])
  cases word with
  | nil =>
    have hdrop : (before ++ after).dropWhile isSpace = [] :=
      List.dropWhile_eq_nil_iff.2 (List.forall_mem_append.2 ⟨hbefore, hafter⟩)
    rw [strip, List.nil_append, hdrop]
    rfl
  | cons c word =>
    rw [strip, List.cons_append, dropWhile_append_cons hbefore (hword c List.mem_cons_self),
      ← List.cons_append, List.reverse_append,
      List.dropWhile_append_of_pos fun d hd ↦ hafter d (List.mem_reverse.1 hd),
      hkept fun d hd ↦ hword d (List.mem_reverse.1 hd), List.reverse_reverse]

theorem exists_eq_append_strip (text : Text) :
    ∃ before after, text = before ++ (strip text ++ after) ∧
      (∀ c ∈ before, isSpace c = true) ∧ ∀ c ∈ after, isSpace c = true := by
  obtain ⟨before, hbefore, htext⟩ := exists_append_of_dropWhile (rfl : text.dropWhile isSpace = _)
  obtain ⟨after, hafter, hbehind⟩ := exists_append_of_dropWhile
    (rfl : (text.dropWhile isSpace).reverse.dropWhile isSpace = _)
  refine ⟨before, after.reverse, ?_, hbefore, ?_⟩
  · rw [strip, ← List.reverse_append, ← hbehind, List.reverse_reverse, ← htext]
  · exact fun c hc ↦ hafter c (List.mem_reverse.1 hc)

end Text

/-! ## Words -/

namespace Numeral

def flagWords : Bool → List Text
  | true => trueWords
  | false => falseWords

/-- A word for a flag of this value, in any letter case, with white space around it. -/
inductive IsFlagOf (value : Bool) : Text → Prop
  | intro {before word after : Text} (hbefore : ∀ c ∈ before, Text.isSpace c = true)
    (hword : word.map Char.toLower ∈ flagWords value)
    (hafter : ∀ c ∈ after, Text.isSpace c = true) : IsFlagOf value (before ++ (word ++ after))

/-- The words for flags are steady and hold no white space. -/
theorem flagWords_spec (value : Bool) :
    ∀ word ∈ flagWords value, ∀ c ∈ word, Text.IsSteady c ∧ Text.isSpace c = false := by
  have hall : (flagWords value).all (·.all fun c ↦ Text.IsSteady c ∧ Text.isSpace c = false) := by
    cases value <;> decide +kernel
  intro word hword c hc
  exact of_decide_eq_true (List.all_eq_true.1 (List.all_eq_true.1 hall word hword) c hc)

theorem lower_mem_flagWords_iff {value : Bool} {text : Text} :
    Text.lower text ∈ flagWords value ↔ text.map Char.toLower ∈ flagWords value := by
  have hword (word : Text) (h : word ∈ flagWords value) :
      Text.lower text = word ↔ text.map Char.toLower = word :=
    Text.lower_eq_iff fun c hc ↦ (flagWords_spec value word h c hc).1
  constructor
  · exact fun h ↦ (hword _ h).1 rfl ▸ h
  · exact fun h ↦ (hword _ h).2 rfl ▸ h

theorem readFlag_eq_ok_iff_lower {text : Text} {value : Bool} :
    readFlag text = .ok value ↔ Text.lower (Text.strip text) ∈ flagWords value := by
  have hdisjoint : ∀ word ∈ falseWords, word ∉ trueWords := by decide
  simp only [readFlag, List.contains_iff_mem]
  generalize Text.lower (Text.strip text) = word
  by_cases htrue : word ∈ trueWords
  · have hfalse : word ∉ falseWords := fun h ↦ hdisjoint word h htrue
    cases value <;> simp [flagWords, htrue, hfalse]
  · by_cases hfalse : word ∈ falseWords <;> cases value <;> simp [flagWords, htrue, hfalse]

/-- A text is read as a flag exactly if it is a word for it, with white space around it. -/
theorem readFlag_eq_ok_iff {text : Text} {value : Bool} :
    readFlag text = .ok value ↔ IsFlagOf value text := by
  rw [readFlag_eq_ok_iff_lower, lower_mem_flagWords_iff]
  constructor
  · intro h
    obtain ⟨before, after, htext, hbefore, hafter⟩ := Text.exists_eq_append_strip text
    rw [htext]
    exact .intro hbefore h hafter
  · rintro ⟨hbefore, hword, hafter⟩
    rename_i before word after
    have hplain : ∀ c ∈ word, Text.isSpace c = false := by
      intro c hc
      have hlower := (flagWords_spec value _ hword _ (List.mem_map_of_mem hc)).2
      by_contra hspace
      rw [Bool.not_eq_false] at hspace
      rw [Text.toLower_of_isSpace hspace, hspace] at hlower
      exact absurd hlower nofun
    rwa [Text.strip_append hbefore hplain hafter]

/-- A text that stands for neither value is refused. -/
theorem exists_readFlag_eq_error {text : Text} (h : ∀ value, ¬ IsFlagOf value text) :
    ∃ fault, readFlag text = .error fault := by
  cases hread : readFlag text with
  | error fault => exact ⟨fault, rfl⟩
  | ok value => exact absurd (readFlag_eq_ok_iff.1 hread) (h value)

end Numeral

end ShellMetrics
