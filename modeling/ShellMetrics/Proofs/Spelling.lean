import ShellMetrics.Proofs.Blocks
import ShellMetrics.Proofs.Declarations
import ShellMetrics.Proofs.Positions
import Mathlib.Data.Nat.Find

/-!
# Spellings of a declaration

A function can be declared with or without the word `function` and with any number of spaces.  The
declared name is what is left of the line when the occurrences of that word, found from left to
right, and then spaces, parentheses and braces are taken out.  Spaces do not occur in the word, so
no occurrence reaches over one, and every spelling gives the same name and opens the same body.
-/

namespace ShellMetrics

namespace Text

/-! ## Occurrences from left to right -/

/-- The first occurrence of `word` begins at position `i`. -/
def IsFirstAt (word text : Text) (i : ℕ) : Prop :=
  word <+: text.drop i ∧ ∀ k < i, ¬ word <+: text.drop k

/-- The pieces that are left of a text when the occurrences of `word` are taken out from left to
right without overlap: each piece goes up to the first occurrence in what has not been cut yet. -/
inductive IsCutAt (word : Text) : Text → List Text → Prop
  | last {text : Text} (hnone : ¬ word <:+: text) : IsCutAt word text [text]
  | next {text : Text} {i : ℕ} {pieces : List Text} (hfirst : IsFirstAt word text i)
      (hrest : IsCutAt word (text.drop (i + word.length)) pieces) :
      IsCutAt word text (text.take i :: pieces)

section Erase

variable {word text : Text}

theorem IsFirstAt.isInfix {i : ℕ} (h : IsFirstAt word text i) : word <:+: text :=
  h.1.isInfix.trans (List.drop_suffix i text).isInfix

theorem exists_isFirstAt (h : word <:+: text) : ∃ i, IsFirstAt word text i := by
  have hexists : ∃ i, word <+: text.drop i := by
    obtain ⟨before, after, rfl⟩ := h
    exact ⟨before.length, by simp⟩
  classical
  refine ⟨Nat.find hexists, Nat.find_spec hexists, ?_⟩
  intro k hk
  exact Nat.find_min hexists hk

theorem IsFirstAt.unique {i j : ℕ} (hi : IsFirstAt word text i) (hj : IsFirstAt word text j) :
    i = j := by
  by_contra hne
  rcases Nat.lt_or_gt_of_ne hne with hlt | hlt
  · exact hj.2 i hlt hi.1
  · exact hi.2 j hlt hj.1

theorem IsCutAt.unique {pieces others : List Text} (h : IsCutAt word text pieces)
    (hothers : IsCutAt word text others) : others = pieces := by
  induction h generalizing others with
  | last hnone =>
    cases hothers with
    | last => rfl
    | next hfirst => exact absurd hfirst.isInfix hnone
  | next hfirst hrest ih =>
    cases hothers with
    | last hnone => exact absurd hfirst.isInfix hnone
    | next hother hlater =>
      obtain rfl := hfirst.unique hother
      rw [ih hlater]

theorem exists_isCutAt (hword : word ≠ []) (text : Text) : ∃ pieces, IsCutAt word text pieces := by
  induction hlength : text.length using Nat.strongRecOn generalizing text with
  | ind n ih =>
    by_cases h : word <:+: text
    · obtain ⟨i, hfirst⟩ := exists_isFirstAt h
      have hpos : 0 < word.length := List.length_pos_of_ne_nil hword
      have htext : 0 < text.length := hpos.trans_le h.length_le
      have hshorter : (text.drop (i + word.length)).length < n := by
        rw [List.length_drop]
        omega
      obtain ⟨pieces, hpieces⟩ := ih _ hshorter _ rfl
      exact ⟨_, .next hfirst hpieces⟩
    · exact ⟨_, .last h⟩

/-! ## Erasing -/

theorem eraseFrom_eq_erase_drop (skip : ℕ) (text : Text) :
    eraseFrom word skip text = erase word (text.drop skip) := by
  induction skip generalizing text with
  | zero => rfl
  | succ skip ih =>
    cases text with
    | nil => rfl
    | cons c rest => exact ih rest

theorem erase_cons_of_not_isPrefix {c : Char} {rest : Text} (h : ¬ word <+: c :: rest) :
    erase word (c :: rest) = c :: erase word rest := by
  unfold erase
  rw [eraseFrom, if_neg (by simpa using h)]

theorem erase_of_isPrefix (hword : word ≠ []) (h : word <+: text) :
    erase word text = erase word (text.drop word.length) := by
  obtain ⟨n, hlength⟩ : ∃ n, word.length = n + 1 :=
    Nat.exists_eq_succ_of_ne_zero (List.length_pos_of_ne_nil hword).ne'
  cases text with
  | nil => exact absurd (List.prefix_nil.1 h) hword
  | cons c rest =>
    rw [erase, eraseFrom, if_pos (by simpa using h), eraseFrom_eq_erase_drop, hlength]
    rfl

theorem erase_word_append (hword : word ≠ []) (rest : Text) :
    erase word (word ++ rest) = erase word rest := by
  rw [erase_of_isPrefix hword (List.prefix_append word rest), List.drop_left]

theorem erase_of_isFirstAt (hword : word ≠ []) {i : ℕ} (h : IsFirstAt word text i) :
    erase word text = text.take i ++ erase word (text.drop (i + word.length)) := by
  induction i generalizing text with
  | zero =>
    rw [Nat.zero_add, List.take_zero, List.nil_append]
    exact erase_of_isPrefix hword h.1
  | succ i ih =>
    cases text with
    | nil => exact absurd (List.prefix_nil.1 h.1) hword
    | cons c rest =>
      have hrest : IsFirstAt word rest i := ⟨h.1, fun k hk ↦ h.2 (k + 1) (by omega)⟩
      rw [erase_cons_of_not_isPrefix (h.2 0 (by omega)), ih hrest, Nat.add_right_comm]
      rfl

theorem erase_of_not_isInfix (h : ¬ word <:+: text) : erase word text = text := by
  induction text with
  | nil => rfl
  | cons c rest ih =>
    obtain ⟨hstart, hrest⟩ : ¬ word <+: c :: rest ∧ ¬ word <:+: rest := by
      simpa [List.infix_cons_iff] using h
    rw [erase_cons_of_not_isPrefix hstart, ih hrest]

/-- Erasing keeps the pieces of the cut. -/
theorem IsCutAt.erase_eq (hword : word ≠ []) {pieces : List Text} (h : IsCutAt word text pieces) :
    erase word text = pieces.flatten := by
  induction h with
  | last hnone => rw [erase_of_not_isInfix hnone, List.flatten_singleton]
  | next hfirst hrest ih => rw [erase_of_isFirstAt hword hfirst, ih, List.flatten_cons]

/-! ## Text that shares no character with the word -/

variable {gap : Text} (hword : word ≠ []) (hgap : ∀ c ∈ gap, c ∉ word)
include hword hgap

theorem not_isInfix_of_disjoint : ¬ word <:+: gap := by
  intro h
  obtain ⟨c, hc⟩ := List.exists_mem_of_ne_nil word hword
  exact hgap c (h.subset hc) hc

theorem erase_gap_append (text : Text) : erase word (gap ++ text) = gap ++ erase word text := by
  induction gap with
  | nil => rfl
  | cons c gap ih =>
    obtain ⟨hc, hrest⟩ := List.forall_mem_cons.1 hgap
    have hstart : ¬ word <+: c :: (gap ++ text) := by
      have h := Text.prefix_append_cons_iff hc [] (gap ++ text)
      rw [List.nil_append, List.prefix_nil] at h
      exact h.not.2 hword
    rw [List.cons_append, erase_cons_of_not_isPrefix hstart, ih hrest]
    rfl

theorem erase_append_gap (h : ¬ word <:+: text) : erase word (text ++ gap) = text ++ gap := by
  apply erase_of_not_isInfix
  cases gap with
  | nil => rwa [List.append_nil]
  | cons c gap =>
    obtain ⟨hc, hrest⟩ := List.forall_mem_cons.1 hgap
    rw [Text.infix_append_cons_iff hc]
    rintro (hbefore | hbehind)
    · exact h hbefore
    · exact not_isInfix_of_disjoint hword hrest hbehind

end Erase

end Text

namespace Line

/-! ## Spellings -/

/-- A name that a declaration gives as it stands. -/
structure IsPlainName (name : Text) : Prop where
  no_quote : ∀ c ∈ name, isQuote c = false
  no_noise : ∀ c ∈ name, c ∉ ['{', '(', ')', ' ']
  no_word : ¬ Text.lit "function" <:+: name

/-- How a declaration is spelled: the number of spaces at each place, and, if the word `function`
is written, the number of spaces behind it beyond the first. -/
structure Spelling where
  lead : ℕ
  afterWord : Option ℕ
  afterName : ℕ
  inParentheses : ℕ
  afterParentheses : ℕ
  trail : ℕ

namespace Spelling

def spaces (count : ℕ) : Text := List.replicate count ' '

def front (spelling : Spelling) : Text :=
  spaces spelling.lead ++
    match spelling.afterWord with
    | none => []
    | some more => Text.lit "function" ++ spaces (more + 1)

def back (spelling : Spelling) : Text :=
  spaces spelling.afterName ++ '(' :: (spaces spelling.inParentheses ++
    ')' :: (spaces spelling.afterParentheses ++ '{' :: spaces spelling.trail))

def line (spelling : Spelling) (name : Text) : Text := spelling.front ++ name ++ spelling.back

theorem eq_space_of_mem_spaces {c : Char} {count : ℕ} (h : c ∈ spaces count) : c = ' ' :=
  List.eq_of_mem_replicate h

theorem mem_back {spelling : Spelling} {c : Char} (h : c ∈ spelling.back) :
    c ∈ ['{', '(', ')', ' '] := by
  unfold back at h
  simp only [List.mem_append, List.mem_cons] at h
  rcases h with h | rfl | h | rfl | h | rfl | h
  · simp [eq_space_of_mem_spaces h]
  · simp
  · simp [eq_space_of_mem_spaces h]
  · simp
  · simp [eq_space_of_mem_spaces h]
  · simp
  · simp [eq_space_of_mem_spaces h]

/-- Erasing the word leaves spaces, the name and what stands behind it. -/
theorem erase_line (spelling : Spelling) {name : Text} (hname : ¬ Text.lit "function" <:+: name) :
    ∃ count, Text.erase (Text.lit "function") (spelling.line name) =
      spaces count ++ (name ++ spelling.back) := by
  have hword : Text.lit "function" ≠ [] := by decide
  have hspaces (count : ℕ) : ∀ c ∈ spaces count, c ∉ Text.lit "function" := by
    intro c hc
    rw [eq_space_of_mem_spaces hc]
    decide
  have hnoise : ∀ c ∈ ['{', '(', ')', ' '], c ∉ Text.lit "function" := by
    simp [Text.lit]
  have hback : ∀ c ∈ spelling.back, c ∉ Text.lit "function" := fun c hc ↦ hnoise c (mem_back hc)
  have herase := Text.erase_append_gap hword hback hname
  unfold line front
  cases spelling.afterWord with
  | none =>
    refine ⟨spelling.lead, ?_⟩
    rw [List.append_nil, List.append_assoc, Text.erase_gap_append hword (hspaces _), herase]
  | some more =>
    refine ⟨spelling.lead + (more + 1), ?_⟩
    calc
      Text.erase (Text.lit "function")
          (spaces spelling.lead ++ (Text.lit "function" ++ spaces (more + 1)) ++ name ++
            spelling.back) =
        Text.erase (Text.lit "function") (spaces spelling.lead ++
          (Text.lit "function" ++ (spaces (more + 1) ++ (name ++ spelling.back)))) := by
        simp only [List.append_assoc]
      _ = spaces spelling.lead ++ (spaces (more + 1) ++ (name ++ spelling.back)) := by
        rw [Text.erase_gap_append hword (hspaces _), Text.erase_word_append hword,
          Text.erase_gap_append hword (hspaces _), herase]
      _ = spaces (spelling.lead + (more + 1)) ++ (name ++ spelling.back) := by
        rw [spaces, spaces, spaces, ← List.append_assoc, List.replicate_append_replicate]

end Spelling

theorem isNameNoise_iff (c : Char) : isNameNoise c = true ↔ c ∈ ['{', '(', ')', ' '] := by
  simp [isNameNoise, or_assoc]

/-- The declared name is the line without the occurrences of the word, and then without spaces,
parentheses and braces. -/
theorem declaredName_eq_filter (line : Text) :
    declaredName line =
      (Text.erase (Text.lit "function") line).filter fun c ↦ c ∉ ['{', '(', ')', ' '] := by
  unfold declaredName
  apply List.filter_congr
  intro c _
  rw [Bool.eq_iff_iff, Bool.not_eq_true', Bool.eq_false_iff, ne_eq, isNameNoise_iff,
    decide_eq_true_eq]

theorem IsPlainName.declaredName_line {name : Text} (h : IsPlainName name) (spelling : Spelling) :
    declaredName (spelling.line name) = name := by
  obtain ⟨count, herase⟩ := spelling.erase_line h.no_word
  have hspaces : (Spelling.spaces count).filter (fun c ↦ c ∉ ['{', '(', ')', ' ']) = [] := by
    rw [List.filter_eq_nil_iff]
    intro c hc
    simp [Spelling.eq_space_of_mem_spaces hc]
  have hback : spelling.back.filter (fun c ↦ c ∉ ['{', '(', ')', ' ']) = [] := by
    rw [List.filter_eq_nil_iff]
    intro c hc
    rw [decide_eq_true_eq, not_not]
    exact Spelling.mem_back hc
  have hname : name.filter (fun c ↦ c ∉ ['{', '(', ')', ' ']) = name := by
    rw [List.filter_eq_self]
    intro c hc
    exact decide_eq_true (h.no_noise c hc)
  rw [declaredName_eq_filter, herase, List.filter_append, List.filter_append, hspaces, hback, hname,
    List.nil_append, List.append_nil]

theorem bare_eq_self {line : Text} (h : ∀ c ∈ line, isQuote c = false) : bare line = line := by
  have hquotes (c : Char) (hc : c ∈ line) : c ≠ '\'' ∧ c ≠ '"' := by
    simpa [isQuote] using h c hc
  have hunified : unifyQuotes line = line := by
    unfold unifyQuotes
    calc
      line.map (fun c ↦ if c = '"' then '\'' else c) = line.map id := by
        apply List.map_congr_left
        intro c hc
        exact if_neg (hquotes c hc).2
      _ = line := List.map_id line
  rw [bare_eq_unquoted, hunified]
  apply dropQuoted_eq_self
  intro hmem
  exact (hquotes _ hmem).1 rfl

theorem Spelling.isQuote_eq_false_of_mem_front {spelling : Spelling} {c : Char}
    (h : c ∈ spelling.front) : isQuote c = false := by
  have hword : ∀ c ∈ Text.lit "function", isQuote c = false := by simp [Text.lit, isQuote]
  have hspaces {count : ℕ} (hc : c ∈ spaces count) : isQuote c = false := by
    rw [eq_space_of_mem_spaces hc]
    rfl
  unfold front at h
  split at h
  · rw [List.append_nil] at h
    exact hspaces h
  · simp only [List.mem_append] at h
    rcases h with hlead | hfunction | hgap
    · exact hspaces hlead
    · exact hword c hfunction
    · exact hspaces hgap

theorem IsPlainName.declares_line {name : Text} (h : IsPlainName name) (spelling : Spelling) :
    declares (spelling.line name) = true := by
  have hnoise : ∀ c ∈ ['{', '(', ')', ' '], isQuote c = false := by simp [isQuote]
  have hquotes : ∀ c ∈ spelling.line name, isQuote c = false := by
    intro c hc
    rw [Spelling.line, List.mem_append, List.mem_append] at hc
    rcases hc with (hfront | hname) | hback
    · exact Spelling.isQuote_eq_false_of_mem_front hfront
    · exact h.no_quote c hname
    · exact hnoise c (Spelling.mem_back hback)
  have hspace (count : ℕ) : ∀ c ∈ Spelling.spaces count, isAsciiSpace c = true := by
    intro c hc
    rw [Spelling.eq_space_of_mem_spaces hc]
    rfl
  have hlist : closesAndOpens (Spelling.spaces spelling.inParentheses ++
      ')' :: (Spelling.spaces spelling.afterParentheses ++ '{' :: Spelling.spaces spelling.trail)) =
        true :=
    (closesAndOpens_iff _).2 ⟨_, _, _, hspace _, hspace _, rfl⟩
  rw [declares, bare_eq_self hquotes, hasParameterList_iff]
  refine ⟨spelling.front ++ name ++ Spelling.spaces spelling.afterName, _, hlist, ?_⟩
  rw [Spelling.line, Spelling.back, ← List.append_assoc]

theorem IsPlainName.feed_line {name : Text} (h : IsPlainName name) (spelling : Spelling)
    {reader : Reader} (hreader : reader.active = none) :
    reader.feed (spelling.line name) = ⟨reader.bodies, some name⟩ := by
  rw [Reader.feed_of_declares hreader (h.declares_line spelling), h.declaredName_line]

end Line

/-! ## Bodies under one name -/

def Block.declaration? : Block → Option Text
  | bare _ _ => none
  | closed opening _ _ => some opening.declaration
  | unclosed opening => some opening.declaration

theorem Block.name_eq_declaredName {block : Block} {line : Text}
    (h : block.declaration? = some line) : block.name = Line.declaredName line := by
  cases block with
  | bare => cases h
  | closed opening closing hclosing => rw [name, Opening.name, Option.some.inj h]
  | unclosed opening => rw [name, Opening.name, Option.some.inj h]

theorem IsCut.itemsAt_bodies {lines : List Text} {blocks : List Block} (h : IsCut lines blocks)
    (name : Text) : (bodies lines).itemsAt name = Block.storedUnder name blocks := by
  rw [h.bodies_eq, Ledger.itemsAt_pushAll, Ledger.itemsAt_empty, List.nil_append,
    pairedWith_deposits]

namespace Line

/-- A plain name is declared by each of its spellings, with the name as it stands, so that a reader
outside every function opens the body of that name, one spelling can be put for another, and blocks
that declare the name in any spelling are stored in its one body.  Of any line whatever, the
declared name is what is left of the pieces between the occurrences of the word, which are found
from left to right in exactly one way, without spaces, parentheses and braces. -/
theorem declaredName_of_any_spelling :
    (∀ name, IsPlainName name →
      (∀ spelling : Spelling,
        declares (spelling.line name) = true ∧ declaredName (spelling.line name) = name ∧
          (∀ reader : Reader, reader.active = none →
            reader.feed (spelling.line name) = ⟨reader.bodies, some name⟩) ∧
          ∀ (other : Spelling) (before after : List Text),
            (Reader.start.feedAll before).active = none →
              bodies (before ++ spelling.line name :: after) =
                bodies (before ++ other.line name :: after)) ∧
      ∀ lines blocks, IsCut lines blocks →
        (∀ block ∈ blocks, (∃ spelling : Spelling,
            block.declaration? = some (spelling.line name)) → block.name = name) ∧
          (bodies lines).itemsAt name = Block.storedUnder name blocks) ∧
    ∀ line : Text,
      (∃! pieces, Text.IsCutAt (Text.lit "function") line pieces) ∧
        (∀ pieces, Text.IsCutAt (Text.lit "function") line pieces →
          declaredName line = pieces.flatten.filter fun c ↦ c ∉ ['{', '(', ')', ' ']) ∧
        ∀ c ∈ ['{', '(', ')', ' '], c ∉ declaredName line := by
  have hword : Text.lit "function" ≠ [] := by decide
  constructor
  · intro name hname
    constructor
    · intro spelling
      refine ⟨hname.declares_line spelling, hname.declaredName_line spelling, ?_, ?_⟩
      · intro reader hreader
        exact hname.feed_line spelling hreader
      · intro other before after hbefore
        unfold bodies
        rw [Reader.feedAll_append, Reader.feedAll_append, Reader.feedAll_cons, Reader.feedAll_cons,
          hname.feed_line spelling hbefore, hname.feed_line other hbefore]
    · intro lines blocks hcut
      refine ⟨?_, hcut.itemsAt_bodies name⟩
      rintro block - ⟨spelling, hblock⟩
      rw [Block.name_eq_declaredName hblock, hname.declaredName_line spelling]
  · intro line
    obtain ⟨pieces, hpieces⟩ := Text.exists_isCutAt hword line
    refine ⟨⟨pieces, hpieces, fun others hothers ↦ hpieces.unique hothers⟩, ?_, ?_⟩
    · intro others hothers
      rw [declaredName_eq_filter, hothers.erase_eq hword]
    · intro c hnoise hc
      rw [declaredName_eq_filter, List.mem_filter, decide_eq_true_eq] at hc
      exact hc.2 hnoise

/-- A name that is all but the last letter of the word, declared without the word and with it. -/
theorem declaredName_of_two_spellings :
    let name := Text.lit "functio"
    let short : Spelling := ⟨0, none, 0, 0, 1, 0⟩
    let long : Spelling := ⟨2, some 1, 1, 2, 0, 1⟩
    let lines := [short.line name, Text.lit "\x7d", long.line name, Text.lit "x \x7d"]
    IsPlainName name ∧ short.line name = Text.lit "functio() \x7b" ∧
      long.line name = Text.lit "  function  functio (  )\x7b " ∧
      declares (long.line name) = true ∧ declaredName (long.line name) = name ∧
      (bodies lines).itemsAt name = [Text.lit "\x7d", Text.lit "x \x7d"] := by
  intro name short long lines
  have hname : IsPlainName name := by
    refine ⟨?_, ?_, by decide⟩
    · simp [name, Text.lit, isQuote]
    · simp [name, Text.lit]
  obtain ⟨hspellings, hblocks⟩ := declaredName_of_any_spelling.1 name hname
  obtain ⟨hdeclares, hdeclared, -⟩ := hspellings long
  refine ⟨hname, by decide, by decide, hdeclares, hdeclared, ?_⟩
  rw [(hblocks lines _ (isCut_cutFrom lines)).2]
  decide

end Line

end ShellMetrics
