import ShellMetrics.Proofs.CharacterSets
import ShellMetrics.Proofs.Containment
import ShellMetrics.Proofs.Positions

/-!
# What patterns exclude

A pattern is read as a row of parts: characters, question marks, stars and sets.  A path is excluded
if some pattern takes it, that is, if the path can be cut into pieces, one for each part, so that a
star has any text, and every other part has a single character that it takes.
-/

namespace ShellMetrics.Glob

/-! ## Parts of a pattern -/

/-- A part of a pattern, a set being given by the text between its brackets. -/
inductive Part where
  | char (c : Char)
  | any
  | many
  | set (body : Text)
  deriving DecidableEq

def Part.item : Part → Item
  | char c => .char c
  | any => .any
  | many => .many
  | set body => setOf body

def Part.Takes : Part → Text → Prop
  | char c, piece => piece = [c]
  | any, piece => ∃ c, piece = [c]
  | many, _ => True
  | set body, piece => ∃ c, piece = [c] ∧ SetTakes body c

/-- The text can stand between brackets: it is not empty, and no bracket closes it earlier.  The
first character, behind an exclamation mark if there is one, may be a closing bracket. -/
inductive IsBody : Text → Prop
  | plain {c : Char} {rest : Text} (hc : c ≠ '!') (hrest : ']' ∉ rest) : IsBody (c :: rest)
  | negated {c : Char} {rest : Text} (hrest : ']' ∉ rest) : IsBody ('!' :: c :: rest)

/-- A closed set stands at the start of the text behind an opening bracket. -/
def Closes (text body rest : Text) : Prop := IsBody body ∧ text = body ++ ']' :: rest

/-- The parts that a pattern is read as. -/
inductive IsReadAs : Text → List Part → Prop
  | nil : IsReadAs [] []
  | many {pattern : Text} {parts : List Part} (h : IsReadAs pattern parts) :
    IsReadAs ('*' :: pattern) (.many :: parts)
  | any {pattern : Text} {parts : List Part} (h : IsReadAs pattern parts) :
    IsReadAs ('?' :: pattern) (.any :: parts)
  | set {text body pattern : Text} {parts : List Part} (hbody : Closes text body pattern)
    (h : IsReadAs pattern parts) : IsReadAs ('[' :: text) (.set body :: parts)
  | bracket {pattern : Text} {parts : List Part} (hopen : ∀ body rest, ¬ Closes pattern body rest)
    (h : IsReadAs pattern parts) : IsReadAs ('[' :: pattern) (.char '[' :: parts)
  | char {c : Char} {pattern : Text} {parts : List Part} (hc : c ≠ '*' ∧ c ≠ '?' ∧ c ≠ '[')
    (h : IsReadAs pattern parts) : IsReadAs (c :: pattern) (.char c :: parts)

/-! ## Closed sets -/

/-- The text up to the first closing bracket, and what follows it. -/
def untilBracket? (text : Text) : Option (Text × Text) :=
  match text.dropWhile (· ≠ ']') with
  | _ :: rest => some (text.takeWhile (· ≠ ']'), rest)
  | [] => none

theorem untilBracket?_eq_some_iff {text word rest : Text} :
    untilBracket? text = some (word, rest) ↔ ']' ∉ word ∧ text = word ++ ']' :: rest := by
  constructor
  · intro h
    unfold untilBracket? at h
    split at h
    · next c behind hdrop =>
      obtain ⟨rfl, rfl⟩ := Prod.mk.inj (Option.some.inj h)
      have hc := List.head?_dropWhile_not (· ≠ ']') text
      rw [hdrop] at hc
      obtain rfl : c = ']' := by simpa using hc
      refine ⟨fun hmem ↦ by simpa using List.mem_takeWhile_imp hmem, ?_⟩
      rw [← hdrop, List.takeWhile_append_dropWhile]
    · exact absurd h nofun
  · rintro ⟨hword, rfl⟩
    have hskip : ∀ c ∈ word, decide (c ≠ ']') = true := by
      intro c hc
      exact decide_eq_true fun heq ↦ hword (heq ▸ hc)
    unfold untilBracket?
    rw [Text.dropWhile_append_cons hskip (by simp), List.takeWhile_append_of_pos hskip]
    simp

/-- The characters at the start of a set that do not close it, whatever they are, and what is left
of the text. -/
inductive IsLead : Text → Text → Prop
  | markBracket (tail : Text) : IsLead ['!', ']'] tail
  | mark {tail : Text} (h : tail.head? ≠ some ']') : IsLead ['!'] tail
  | bracket (tail : Text) : IsLead [']'] tail
  | empty {tail : Text} (h : tail.head? ≠ some ']') (hmark : tail.head? ≠ some '!') : IsLead [] tail

/-- Some characters at the start of a set cannot close it, whatever they are. -/
theorem exists_isLead (text : Text) : ∃ lead tail, IsLead lead tail ∧ text = lead ++ tail := by
  by_cases hmark : text.head? = some '!'
  · obtain ⟨tail, rfl⟩ := List.head?_eq_some_iff.1 hmark
    by_cases hbracket : tail.head? = some ']'
    · obtain ⟨rest, rfl⟩ := List.head?_eq_some_iff.1 hbracket
      exact ⟨_, rest, .markBracket rest, rfl⟩
    · exact ⟨_, tail, .mark hbracket, rfl⟩
  · by_cases hbracket : text.head? = some ']'
    · obtain ⟨tail, rfl⟩ := List.head?_eq_some_iff.1 hbracket
      exact ⟨_, tail, .bracket tail, rfl⟩
    · exact ⟨[], text, .empty hbracket hmark, rfl⟩

/-- The characters at the start of a text that do not close a set there, and what follows them. -/
def leadOf : Text → Text × Text
  | '!' :: ']' :: rest => (['!', ']'], rest)
  | '!' :: rest => (['!'], rest)
  | ']' :: rest => ([']'], rest)
  | rest => ([], rest)

/-- A set is closed by the first bracket behind its lead. -/
theorem setBody?_eq (text : Text) :
    setBody? text = (untilBracket? (leadOf text).2).map (Prod.map ((leadOf text).1 ++ ·) id) := by
  change (match (leadOf text).2.dropWhile (· ≠ ']') with
    | _ :: rest => some ((leadOf text).1 ++ (leadOf text).2.takeWhile (· ≠ ']'), rest)
    | [] => none) = _
  unfold untilBracket?
  cases (leadOf text).2.dropWhile (· ≠ ']') <;> rfl

theorem IsLead.leadOf_append {lead tail : Text} (h : IsLead lead tail) :
    leadOf (lead ++ tail) = (lead, tail) := by
  cases h with
  | markBracket => rfl
  | mark hhead =>
    cases tail with
    | nil => rfl
    | cons c tail =>
      have hc : c ≠ ']' := fun heq ↦ hhead (congrArg some heq)
      simp [leadOf, hc]
  | bracket => rfl
  | empty hhead hmark =>
    cases tail with
    | nil => rfl
    | cons c tail =>
      have hc : c ≠ ']' := fun heq ↦ hhead (congrArg some heq)
      have hcmark : c ≠ '!' := fun heq ↦ hmark (congrArg some heq)
      simp [leadOf, hc, hcmark]

theorem isBody_cons_iff {c : Char} (hc : c ≠ '!') {rest : Text} :
    IsBody (c :: rest) ↔ ']' ∉ rest := by
  constructor
  · intro h
    cases h with
    | plain _ hrest => exact hrest
    | negated => exact absurd rfl hc
  · exact .plain hc

theorem isBody_mark_cons_iff {c : Char} {rest : Text} :
    IsBody ('!' :: c :: rest) ↔ ']' ∉ rest := by
  constructor
  · intro h
    cases h with
    | plain hc => exact absurd rfl hc
    | negated hrest => exact hrest
  · exact .negated

namespace IsLead

variable {lead tail word body rest : Text}

theorem isBody_append_iff (h : IsLead lead tail) (htail : tail = word ++ ']' :: rest) :
    IsBody (lead ++ word) ↔ ']' ∉ word := by
  cases h with
  | markBracket => exact isBody_mark_cons_iff
  | bracket => exact isBody_cons_iff (by decide)
  | mark hhead =>
    cases word with
    | nil => exact absurd (by rw [htail]; rfl) hhead
    | cons c word =>
      have hc : c ≠ ']' := fun heq ↦ hhead (by rw [htail, heq]; rfl)
      simpa [hc.symm] using isBody_mark_cons_iff
  | empty hhead hmark =>
    cases word with
    | nil => exact absurd (by rw [htail]; rfl) hhead
    | cons c word =>
      have hc : c ≠ ']' := fun heq ↦ hhead (by rw [htail, heq]; rfl)
      have hcmark : c ≠ '!' := fun heq ↦ hmark (by rw [htail, heq]; rfl)
      simpa [hc.symm] using isBody_cons_iff hcmark

/-- A set does not end within the lead. -/
theorem exists_eq_append (h : IsLead lead tail) (hbody : IsBody body)
    (heq : lead ++ tail = body ++ ']' :: rest) : ∃ word, body = lead ++ word := by
  rcases List.append_eq_append_iff.1 heq with ⟨word, hword, -⟩ | ⟨word, hword, hrest⟩
  · exact ⟨word, hword⟩
  · cases word with
    | nil => exact ⟨[], by simpa using hword.symm⟩
    | cons c word =>
      obtain rfl : c = ']' := (List.cons.inj hrest).1.symm
      -- The lead would be the set with a closing bracket behind it, but then the set is too short.
      cases h <;> cases hbody <;> grind

end IsLead

/-- The text of a set and what follows are found exactly where a closed set stands. -/
theorem setBody?_eq_some_iff {text body rest : Text} :
    setBody? text = some (body, rest) ↔ Closes text body rest := by
  obtain ⟨lead, tail, hlead, rfl⟩ := exists_isLead text
  rw [setBody?_eq, hlead.leadOf_append, Option.map_eq_some_iff]
  constructor
  · rintro ⟨⟨word, behind⟩, huntil, hpair⟩
    obtain ⟨rfl, rfl⟩ := Prod.mk.inj hpair
    obtain ⟨hword, rfl⟩ := untilBracket?_eq_some_iff.1 huntil
    exact ⟨(hlead.isBody_append_iff rfl).2 hword, by simp⟩
  · rintro ⟨hbody, heq⟩
    obtain ⟨word, rfl⟩ := hlead.exists_eq_append hbody heq
    rw [List.append_assoc, List.append_cancel_left_eq] at heq
    have hword := (hlead.isBody_append_iff heq).1 hbody
    exact ⟨(word, rest), untilBracket?_eq_some_iff.2 ⟨hword, heq⟩, rfl⟩

/-- The text of a set and what follows are determined by the text behind the opening bracket. -/
theorem Closes.unique {text body rest body' rest' : Text} (h : Closes text body rest)
    (h' : Closes text body' rest') : body = body' ∧ rest = rest' := by
  have heq := (setBody?_eq_some_iff.2 h).symm.trans (setBody?_eq_some_iff.2 h')
  exact Prod.mk.inj (Option.some.inj heq)

/-! ## Reading a pattern -/

variable {pattern text : Text} {parts parts' : List Part}

theorem itemsFrom_eq_items_drop (skip : Nat) (text : Text) :
    itemsFrom skip text = items (text.drop skip) := by
  induction text generalizing skip with
  | nil => cases skip <;> rfl
  | cons c rest ih =>
    cases skip with
    | zero => rfl
    | succ skip => exact ih skip

/-- A closed set is one item. -/
theorem items_set {body rest : Text} (h : Closes text body rest) :
    items ('[' :: text) = setOf body :: items rest := by
  have hdrop : text.drop (body.length + 1) = rest := by
    rw [h.2, ← List.drop_drop, List.drop_left]
    rfl
  rw [← hdrop, ← itemsFrom_eq_items_drop]
  simp [items, itemsFrom, setBody?_eq_some_iff.2 h]

/-- A bracket that nothing closes is a character like any other. -/
theorem items_bracket (h : ∀ body rest, ¬ Closes text body rest) :
    items ('[' :: text) = .char '[' :: items text := by
  have hnone : setBody? text = none := by
    refine Option.eq_none_iff_forall_not_mem.2 fun found hfound ↦ ?_
    exact h found.1 found.2 (setBody?_eq_some_iff.1 hfound)
  simp [items, itemsFrom, hnone]

theorem IsReadAs.items_eq (h : IsReadAs pattern parts) : items pattern = parts.map Part.item := by
  induction h with
  | nil => rfl
  | many _ ih => exact congrArg (Item.many :: ·) ih
  | any _ ih => exact congrArg (Item.any :: ·) ih
  | set hbody _ ih => rw [items_set hbody, ih, List.map_cons, Part.item]
  | bracket hopen _ ih => rw [items_bracket hopen, ih, List.map_cons, Part.item]
  | @char c pattern parts hc _ ih =>
    have hitems : items (c :: pattern) = .char c :: items pattern := by simp [items, itemsFrom, hc]
    rw [hitems, ih, List.map_cons, Part.item]

/-- A pattern is read in one way only. -/
theorem IsReadAs.unique (h : IsReadAs pattern parts) (h' : IsReadAs pattern parts') :
    parts = parts' := by
  induction h generalizing parts' with
  | nil =>
    cases h'
    rfl
  | many _ ih =>
    cases h' with
    | many h' => rw [ih h']
    | char hc => exact absurd rfl hc.1
  | any _ ih =>
    cases h' with
    | any h' => rw [ih h']
    | char hc => exact absurd rfl hc.2.1
  | set hbody _ ih =>
    cases h' with
    | set hbody' h' =>
      obtain ⟨rfl, rfl⟩ := hbody.unique hbody'
      rw [ih h']
    | bracket hopen => exact absurd hbody (hopen _ _)
    | char hc => exact absurd rfl hc.2.2
  | bracket hopen _ ih =>
    cases h' with
    | set hbody => exact absurd hbody (hopen _ _)
    | bracket _ h' => rw [ih h']
    | char hc => exact absurd rfl hc.2.2
  | char hc _ ih =>
    cases h' with
    | many => exact absurd rfl hc.1
    | any => exact absurd rfl hc.2.1
    | set => exact absurd rfl hc.2.2
    | bracket => exact absurd rfl hc.2.2
    | char _ h' => rw [ih h']

/-- By recursion on the length, since a set takes several characters at once. -/
theorem exists_isReadAs (pattern : Text) : ∃ parts, IsReadAs pattern parts := by
  match pattern with
  | [] => exact ⟨[], .nil⟩
  | c :: rest =>
    obtain ⟨parts, hparts⟩ := exists_isReadAs rest
    by_cases hbracket : c = '['
    · subst hbracket
      by_cases hset : ∃ body later, Closes rest body later
      · obtain ⟨body, later, hbody⟩ := hset
        have hlength : later.length < rest.length := by simp [hbody.2]; omega
        obtain ⟨parts, hparts⟩ := exists_isReadAs later
        exact ⟨_, .set hbody hparts⟩
      · exact ⟨_, .bracket (fun body later hbody ↦ hset ⟨body, later, hbody⟩) hparts⟩
    · by_cases hmany : c = '*'
      · subst hmany
        exact ⟨_, .many hparts⟩
      · by_cases hany : c = '?'
        · subst hany
          exact ⟨_, .any hparts⟩
        · exact ⟨_, .char ⟨hmany, hany, hbracket⟩ hparts⟩
termination_by pattern.length
decreasing_by
  · exact Nat.lt_succ_self _
  · exact Nat.lt_succ_of_lt hlength

/-! ## Cutting a text -/

/-- A star takes any piece, and every other item a piece of one character. -/
def Item.Takes (item : Item) (piece : Text) : Prop :=
  item = .many ∨ ∃ c, piece = [c] ∧ item.accepts c = true

/-- The text can be cut into pieces, one for each item. -/
def IsCutBy (items : List Item) (text : Text) : Prop :=
  ∃ pieces, List.Forall₂ Item.Takes items pieces ∧ pieces.flatten = text

theorem Part.takes_item_iff {part : Part} {piece : Text} :
    part.item.Takes piece ↔ part.Takes piece := by
  cases part with
  | char c =>
    simp only [item, Item.Takes, Item.accepts, Part.Takes]
    constructor
    · rintro (h | ⟨d, rfl, h⟩)
      · exact absurd h nofun
      · rw [of_decide_eq_true h]
    · rintro rfl
      exact .inr ⟨c, rfl, by simp⟩
  | any => simp [item, Item.Takes, Item.accepts, Part.Takes]
  | many => simp [item, Item.Takes, Part.Takes]
  | set body =>
    have hset : setOf body ≠ .many := by
      rw [setOf_eq]
      exact nofun
    simp [item, Item.Takes, Part.Takes, accepts_setOf_iff, hset]

theorem isCutBy_map_item_iff :
    IsCutBy (parts.map Part.item) text ↔
      ∃ pieces, List.Forall₂ Part.Takes parts pieces ∧ pieces.flatten = text := by
  simp only [IsCutBy, List.forall₂_map_left_iff, Part.takes_item_iff]

section IsCutBy

variable {item : Item} {items : List Item}

theorem isCutBy_nil_iff : IsCutBy [] text ↔ text = [] := by
  simp [IsCutBy, eq_comm]

theorem isCutBy_cons_iff :
    IsCutBy (item :: items) text ↔
      ∃ piece rest, text = piece ++ rest ∧ item.Takes piece ∧ IsCutBy items rest := by
  constructor
  · rintro ⟨pieces, hpieces, rfl⟩
    obtain ⟨piece, rest, hpiece, hrest, rfl⟩ := List.forall₂_cons_left_iff.1 hpieces
    exact ⟨piece, rest.flatten, rfl, hpiece, rest, hrest, rfl⟩
  · rintro ⟨piece, rest, rfl, hpiece, pieces, hpieces, rfl⟩
    exact ⟨piece :: pieces, .cons hpiece hpieces, rfl⟩

/-- A star leaves some end of the text to the items behind it. -/
theorem isCutBy_many_iff :
    IsCutBy (.many :: items) text ↔ ∃ rest, rest <:+ text ∧ IsCutBy items rest := by
  rw [isCutBy_cons_iff]
  constructor
  · rintro ⟨piece, rest, rfl, -, hrest⟩
    exact ⟨rest, List.suffix_append piece rest, hrest⟩
  · rintro ⟨rest, ⟨piece, rfl⟩, hrest⟩
    exact ⟨piece, rest, rfl, .inl rfl, hrest⟩

/-- Any other item takes the first character. -/
theorem isCutBy_one_iff (h : item ≠ .many) :
    IsCutBy (item :: items) text ↔
      ∃ c rest, text = c :: rest ∧ item.accepts c = true ∧ IsCutBy items rest := by
  rw [isCutBy_cons_iff]
  constructor
  · rintro ⟨_, rest, rfl, hmany | ⟨c, rfl, hc⟩, hrest⟩
    · exact absurd hmany h
    · exact ⟨c, rest, rfl, hc, hrest⟩
  · rintro ⟨c, rest, rfl, hc, hrest⟩
    exact ⟨[c], rest, rfl, .inr ⟨c, rfl, hc⟩, hrest⟩

theorem isCutBy_chars_append_iff {literal : Text} :
    IsCutBy (literal.map .char ++ items) text ↔
      ∃ rest, text = literal ++ rest ∧ IsCutBy items rest := by
  induction literal generalizing text with
  | nil => simp
  | cons c literal ih =>
    rw [List.map_cons, List.cons_append, isCutBy_one_iff Item.noConfusion]
    constructor
    · rintro ⟨d, behind, rfl, hd, hbehind⟩
      obtain ⟨rest, rfl, hrest⟩ := ih.1 hbehind
      obtain rfl : d = c := by simpa [Item.accepts] using hd
      exact ⟨rest, rfl, hrest⟩
    · rintro ⟨rest, rfl, hrest⟩
      exact ⟨c, literal ++ rest, rfl, by simp [Item.accepts], ih.2 ⟨rest, rfl, hrest⟩⟩

end IsCutBy

/-! ## Tables -/

/-- The table says for each end of the text, the longest first, whether the property holds. -/
def IsTableOf (holds : Text → Prop) (text : Text) (marks : List Bool) : Prop :=
  List.Forall₂ (fun mark suffix ↦ mark = true ↔ holds suffix) marks text.tails

namespace IsTableOf

variable {holds : Text → Prop} {marks : List Bool} {item : Item} {items : List Item}

theorem nil_iff : IsTableOf holds [] marks ↔ ∃ mark, (mark = true ↔ holds []) ∧ marks = [mark] := by
  simp [IsTableOf, List.forall₂_cons_right_iff]

theorem cons_iff {c : Char} :
    IsTableOf holds (c :: text) marks ↔
      ∃ mark later, (mark = true ↔ holds (c :: text)) ∧ IsTableOf holds text later ∧
        marks = mark :: later := by
  rw [IsTableOf, List.tails_cons, List.forall₂_cons_right_iff]
  rfl

/-- The first mark of a table is that of the whole text. -/
theorem headD_iff (h : IsTableOf holds text marks) : marks.headD false = true ↔ holds text := by
  cases text with
  | nil =>
    obtain ⟨mark, hmark, rfl⟩ := nil_iff.1 h
    exact hmark
  | cons c text =>
    obtain ⟨mark, later, hmark, -, rfl⟩ := cons_iff.1 h
    exact hmark

theorem of_isCutBy_nil (text : Text) :
    IsTableOf (IsCutBy []) text (text.map (fun _ ↦ false) ++ [true]) := by
  induction text with
  | nil => exact nil_iff.2 ⟨true, by simp [isCutBy_nil_iff], rfl⟩
  | cons c text ih => exact cons_iff.2 ⟨false, _, by simp [isCutBy_nil_iff], ih, rfl⟩

theorem anyLater (h : IsTableOf (IsCutBy items) text marks) :
    IsTableOf (IsCutBy (.many :: items)) text (anyLater marks) := by
  induction text generalizing marks with
  | nil =>
    obtain ⟨mark, hmark, rfl⟩ := nil_iff.1 h
    refine nil_iff.2 ⟨mark, ?_, by simp [Glob.anyLater]⟩
    simp [hmark, isCutBy_many_iff]
  | cons c text ih =>
    obtain ⟨mark, later, hmark, hlater, rfl⟩ := cons_iff.1 h
    have hrest := ih hlater
    refine cons_iff.2 ⟨mark || (Glob.anyLater later).headD false, _, ?_, hrest, rfl⟩
    rw [Bool.or_eq_true, hmark, hrest.headD_iff, isCutBy_many_iff, isCutBy_many_iff]
    simp [List.suffix_cons_iff, or_and_right, exists_or]

theorem stepTable (hitem : item ≠ .many) (h : IsTableOf (IsCutBy items) text marks) :
    IsTableOf (IsCutBy (item :: items)) text (stepTable item text marks) := by
  induction text generalizing marks with
  | nil => exact nil_iff.2 ⟨false, by simp [isCutBy_one_iff hitem], rfl⟩
  | cons c text ih =>
    obtain ⟨mark, later, -, hlater, rfl⟩ := cons_iff.1 h
    refine cons_iff.2 ⟨item.accepts c && later.headD false, _, ?_, ih hlater, rfl⟩
    rw [Bool.and_eq_true, hlater.headD_iff, isCutBy_one_iff hitem]
    simp

end IsTableOf

/-- The tables hold what their items take, by induction on the items. -/
theorem isTableOf_table (items : List Item) (text : Text) :
    IsTableOf (IsCutBy items) text (table items text) := by
  induction items with
  | nil => exact .of_isCutBy_nil text
  | cons item items ih =>
    cases item with
    | many => exact ih.anyLater
    | char c => exact ih.stepTable nofun
    | any => exact ih.stepTable nofun
    | set negated ranges => exact ih.stepTable nofun

/-- The items take a text if it can be cut into pieces, one for each of them. -/
theorem matchItems_iff {items : List Item} : matchItems items text = true ↔ IsCutBy items text :=
  (isTableOf_table items text).headD_iff

/-! ## What a pattern takes -/

/-- The pattern takes a text that can be cut into pieces, one for each of its parts. -/
def Matches (pattern text : Text) : Prop :=
  ∃ parts pieces, IsReadAs pattern parts ∧ List.Forall₂ Part.Takes parts pieces ∧
    pieces.flatten = text

theorem IsReadAs.accepts_iff (h : IsReadAs pattern parts) :
    Glob.accepts pattern text = true ↔ IsCutBy (parts.map Part.item) text := by
  rw [Glob.accepts, matchItems_iff, h.items_eq]

/-- A glob takes what its pattern matches. -/
theorem accepts_iff : Glob.accepts pattern text = true ↔ Matches pattern text := by
  constructor
  · intro h
    obtain ⟨parts, hparts⟩ := exists_isReadAs pattern
    obtain ⟨pieces, hpieces, htext⟩ := isCutBy_map_item_iff.1 (hparts.accepts_iff.1 h)
    exact ⟨parts, pieces, hparts, hpieces, htext⟩
  · rintro ⟨parts, pieces, hparts, hpieces, htext⟩
    exact hparts.accepts_iff.2 (isCutBy_map_item_iff.2 ⟨pieces, hpieces, htext⟩)

/-- Neither a star nor a question mark nor an opening bracket stands in the text. -/
def IsPlain (text : Text) : Prop := ∀ c ∈ text, c ≠ '*' ∧ c ≠ '?' ∧ c ≠ '['

theorem IsReadAs.chars_append {literal : Text} (hliteral : IsPlain literal)
    (h : IsReadAs pattern parts) : IsReadAs (literal ++ pattern) (literal.map .char ++ parts) := by
  induction literal with
  | nil => exact h
  | cons c literal ih =>
    obtain ⟨hc, hrest⟩ := List.forall_mem_cons.1 hliteral
    exact .char hc (ih hrest)

/-- A star behind a text without special characters takes what starts with this text. -/
theorem accepts_append_star_iff {literal : Text} (hliteral : IsPlain literal) :
    Glob.accepts (literal ++ ['*']) text = true ↔ ∃ rest, text = literal ++ rest := by
  have hread : IsReadAs (literal ++ ['*']) (literal.map .char ++ [.many]) :=
    .chars_append hliteral (IsReadAs.nil.many)
  have hmany (rest : Text) : IsCutBy [.many] rest :=
    isCutBy_many_iff.2 ⟨[], List.nil_suffix, isCutBy_nil_iff.2 rfl⟩
  have hitems : (literal.map Part.char ++ [Part.many]).map Part.item =
      literal.map Item.char ++ [.many] := by
    simp [Part.item, Function.comp_def]
  rw [hread.accepts_iff, hitems, isCutBy_chars_append_iff]
  simp [hmany]

end ShellMetrics.Glob

/-! ## Excluded paths -/

namespace ShellMetrics.Discovery

open Glob

def withPatterns (settings : Settings) (patterns : List Text) : Settings :=
  { settings with excludePatterns := .list (patterns.map .text) }

/-- Patterns that are texts never fail to be matched. -/
theorem isExcluded_withPatterns (settings : Settings) (patterns : List Text) (path : Path) :
    isExcluded (withPatterns settings patterns) path =
      .ok (patterns.any fun pattern ↦ Glob.accepts pattern path.toText) :=
  isExcludedBy_eq path.toText patterns

/-- A path is excluded exactly if one of the patterns takes it.  Each pattern is read in one way,
and a star below a directory takes the paths below this directory and no others. -/
theorem isExcluded_withPatterns_iff (settings : Settings) (path : Path) :
    (∀ patterns : List Text, ∃ answer,
      isExcluded (withPatterns settings patterns) path = .ok answer ∧
        (answer = true ↔ ∃ pattern ∈ patterns, Matches pattern path.toText)) ∧
    (∀ pattern, ∃! parts, IsReadAs pattern parts) ∧
    ∀ directory, IsPlain directory →
      (isExcluded (withPatterns settings [directory ++ "/*"]) path = .ok true ↔
        ∃ rest, path.toText = directory ++ '/' :: rest) := by
  refine ⟨fun patterns ↦ ?_, fun pattern ↦ ?_, fun directory hdirectory ↦ ?_⟩
  · refine ⟨_, isExcluded_withPatterns settings patterns path, ?_⟩
    simp only [List.any_eq_true, accepts_iff]
  · obtain ⟨parts, hparts⟩ := exists_isReadAs pattern
    exact ⟨parts, hparts, fun other hother ↦ hother.unique hparts⟩
  · have hliteral : IsPlain (directory ++ ['/']) := by
      intro c hc
      rcases List.mem_append.1 hc with hc | hc
      · exact hdirectory c hc
      · rw [List.mem_singleton.1 hc]
        decide
    have hstar : directory ++ ("/*" : Text) = (directory ++ ['/']) ++ ['*'] := by simp
    rw [isExcluded_withPatterns, hstar, Except.ok.injEq, List.any_cons, List.any_nil, Bool.or_false,
      accepts_append_star_iff hliteral]
    simp only [List.append_assoc, List.singleton_append]

/-- A file below the directory of a pattern that is a plain name with a slash and a star behind
it. -/
theorem isExcluded_below_git :
    IsPlain ".git" ∧
      (Path.ofText ".git/hooks/x").toText = ".git" ++ '/' :: ("hooks/x" : Text) ∧
      isExcluded (withPatterns .default [".git/*"]) (.ofText ".git/hooks/x") = .ok true := by
  have hall : (".git" : Text).all (fun c ↦ c ≠ '*' ∧ c ≠ '?' ∧ c ≠ '[') = true := rfl
  have hplain : IsPlain ".git" := fun c hc ↦ of_decide_eq_true (List.all_eq_true.1 hall c hc)
  have hbelow : (Path.ofText ".git/hooks/x").toText = ".git" ++ '/' :: ("hooks/x" : Text) := rfl
  have hexcluded :=
    (isExcluded_withPatterns_iff .default (.ofText ".git/hooks/x")).2.2 ".git" hplain
  exact ⟨hplain, hbelow, hexcluded.2 ⟨_, hbelow⟩⟩

/-- No exclamation mark stands at the front of this set, and no element of it holds the character
that is taken. -/
theorem isExcluded_dropped_range :
    IsReadAs "[b-a!x]" [.set "b-a!x"] ∧ ("b-a!x" : Text).head? ≠ some '!' ∧
      (∀ element ∈ elements "b-a!x", ¬ element.Holds 'b') ∧
      isExcluded (withPatterns .default ["[b-a!x]"]) (.ofText "b") = .ok true := by
  refine ⟨?_, by decide, ?_, rfl⟩
  · have hbody : IsBody "b-a!x" := .plain (by decide) (by decide)
    exact .set ⟨hbody, rfl⟩ .nil
  · simp [elements, Element.Holds]

end ShellMetrics.Discovery
