import ShellMetrics.Proofs.Overwriting
import ShellMetrics.Proofs.SettingsFaults

/-!
# What each source of settings says

A file says what stands in it for this program among the tools, or else in the whole of it: the
entries of a table, or pairs of key and value in a list.  A variable says something about the
field that it is named after, unless this is a list.  Overrides speak for themselves, with two
flags that stand for a verbosity.
-/

namespace ShellMetrics

open Fallible

/-! ## Pairs -/

/-- The two parts of a value that has two elements. -/
def Value.parts? (value : Value) : Option (Value × Value) :=
  match value.elements with
  | .ok [key, item] => some (key, item)
  | _ => none

def Value.pairs? : Value → Option (List (Value × Value))
  | .table entries => some (entries.map fun entry ↦ (.text entry.1, entry.2))
  | value => value.elements.toOption >>= fun items ↦ items.mapM parts?

namespace Overlay

def textPairs (pairs : List (Value × Value)) : List (Text × Value) :=
  pairs.filterMap fun pair ↦ (Settings.wordOf? pair.1).map (·, pair.2)

def hasStrayKey (pairs : List (Value × Value)) : Bool :=
  pairs.any fun pair ↦ (Settings.wordOf? pair.1).isNone

/-- The values that pairs give to their keys, the last pair of a key being the one that counts. -/
def ofPairs (pairs : List (Value × Value)) : Overlay :=
  ⟨Ledger.ofList (textPairs pairs), hasStrayKey pairs⟩

theorem ofPairs_nil : ofPairs [] = empty := rfl

theorem textPairs_cons (pair : Value × Value) (pairs : List (Value × Value)) :
    textPairs (pair :: pairs) = textPairs [pair] ++ textPairs pairs := by
  rw [← List.singleton_append, textPairs, List.filterMap_append]
  rfl

theorem textPairs_map_text (entries : List (Text × Value)) :
    textPairs (entries.map fun entry ↦ (.text entry.1, entry.2)) = entries := by
  simp [textPairs, List.filterMap_map, Settings.wordOf?]

theorem ofEntries_eq_ofPairs (entries : List (Text × Value)) :
    ofEntries entries = ofPairs (entries.map fun entry ↦ (.text entry.1, entry.2)) := by
  have hstray : hasStrayKey (entries.map fun entry ↦ (.text entry.1, entry.2)) = false := by
    simp [hasStrayKey, Settings.wordOf?]
  rw [ofPairs, textPairs_map_text, hstray, ofEntries]

theorem mem_keys_ofPairs_iff {pairs : List (Value × Value)} {key : Text} :
    key ∈ (ofPairs pairs).entries.keys ↔ ∃ pair ∈ pairs, Settings.wordOf? pair.1 = some key := by
  have hmap : (textPairs pairs).map Prod.fst =
      pairs.filterMap fun pair ↦ Settings.wordOf? pair.1 := by
    simp [textPairs, List.map_filterMap, Option.map_map, Function.comp_def]
  rw [ofPairs, Ledger.keys_ofList, List.mem_eraseDups, hmap, List.mem_filterMap]

/-! ## Values that hold settings -/

theorem insert_eq (overlay : Overlay) (key value : Value) :
    overlay.insert key value =
      ⟨overlay.entries.insertAll (textPairs [(key, value)]),
        overlay.strayKey || hasStrayKey [(key, value)]⟩ := by
  unfold insert
  split <;> simp_all [textPairs, hasStrayKey, Settings.wordOf?, Ledger.insertAll]

/-- One more element of a list of settings. -/
def insertElement (overlay : Overlay) (entry : Value × ℕ) : Except Fault Overlay := do
  let pair ← pairOf entry.2 entry.1
  return overlay.insert pair.1 pair.2

theorem parts?_of_pairOf {index : ℕ} {element : Value} {pair : Value × Value}
    (h : pairOf index element = .ok pair) : element.parts? = some pair := by
  unfold pairOf at h
  unfold Value.parts?
  split at h
  · exact absurd h nofun
  · next key item helements =>
    rw [helements]
    split at h
    · exact absurd h nofun
    · exact absurd h nofun
    · exact congrArg some (Except.ok.inj h)
  · exact absurd h nofun

theorem foldlM_insertElement {items : List Value} {index : ℕ} {overlay result : Overlay}
    (h : (items.zipIdx index).foldlM insertElement overlay = .ok result) :
    ∃ pairs, items.mapM Value.parts? = some pairs ∧
      result = ⟨overlay.entries.insertAll (textPairs pairs),
        overlay.strayKey || hasStrayKey pairs⟩ := by
  induction items generalizing index overlay with
  | nil =>
    obtain rfl := Except.ok.inj h
    exact ⟨[], rfl, by simp [textPairs, hasStrayKey]⟩
  | cons item items ih =>
    rw [List.zipIdx_cons, List.foldlM_cons, bind_eq_ok_iff] at h
    obtain ⟨next, hnext, hrest⟩ := h
    obtain ⟨pair, hpair, hinsert⟩ := bind_eq_ok_iff.1 hnext
    obtain ⟨pairs, hpairs, rfl⟩ := ih hrest
    refine ⟨pair :: pairs, ?_, ?_⟩
    · rw [List.mapM_cons, parts?_of_pairOf hpair, hpairs]
      rfl
    · obtain rfl := Except.ok.inj hinsert
      rw [textPairs_cons, Ledger.insertAll_append, insert_eq]
      simp [hasStrayKey, Bool.or_assoc]

/-- A value that holds settings is made of pairs, and these are what it says. -/
theorem ofValue_eq_ok {value : Value} {overlay : Overlay} (h : ofValue value = .ok overlay) :
    ∃ pairs, value.pairs? = some pairs ∧ overlay = ofPairs pairs := by
  unfold ofValue at h
  split at h
  · next entries =>
    obtain rfl := Except.ok.inj h
    exact ⟨_, rfl, ofEntries_eq_ofPairs entries⟩
  · next value htable =>
    obtain ⟨items, hitems, hfold⟩ := bind_eq_ok_iff.1 h
    obtain ⟨pairs, hpairs, rfl⟩ := foldlM_insertElement hfold
    refine ⟨pairs, ?_, rfl⟩
    unfold Value.pairs?
    split
    · next entries => exact absurd rfl (htable entries)
    · rw [hitems]
      exact hpairs

/-! ## Files -/

/-- The part of a document that holds the settings: what stands there for this program among the
tools, or else the whole. -/
def settingsPart (document : Toml.Entries) : Value :=
  match document.lookup (Text.lit "tool") with
  | some (.table tools) => (tools.lookup (Text.lit "shccn")).getD (.table document)
  | _ => .table document

/-- The pairs of settings in a file, none if it cannot be read as such. -/
def filePairs (world : World) (path : Path) : List (Value × Value) :=
  ((world.read path).toOption >>= fun octets ↦
    (Toml.parseOctets octets).toOption >>= fun document ↦ (settingsPart document).pairs?).getD []

variable {world : World} {path : Path} {overlay : Overlay}

/-- The settings of a document are those of the part that holds them. -/
theorem ofDocument_eq (document : Toml.Entries) :
    ofDocument document = ofValue (settingsPart document) := by
  unfold ofDocument settingsPart
  cases document.lookup (Text.lit "tool") with
  | none => rfl
  | some value =>
    cases value with
    | table tools =>
      dsimp only
      cases tools.lookup (Text.lit "shccn") <;> rfl
    | _ => rfl

theorem ofFile_eq_ok (h : ofFile world path = .ok overlay) :
    overlay = ofPairs (filePairs world path) := by
  simp only [ofFile, bind_eq_ok_iff] at h
  obtain ⟨octets, hread, document, hparse, hdocument⟩ := h
  rw [ofDocument_eq] at hdocument
  obtain ⟨pairs, hpairs, rfl⟩ := ofValue_eq_ok hdocument
  simp [filePairs, hread, hparse, hpairs, Except.toOption]

/-- A file that is not there says nothing. -/
theorem filePairs_of_not_exists (h : world.exists? path = .ok false) :
    filePairs world path = [] := by
  have hread : (world.read path).toOption = none := by
    cases hread : world.read path with
    | error fault => rfl
    | ok octets =>
      have hyes : world.exists? path = .ok true :=
        FileTree.holds_eq_true_iff.2 ⟨_, FileTree.entryAt_of_read hread, rfl⟩
      cases h.symm.trans hyes
  rw [filePairs, hread]
  rfl

theorem ofOptionalFile_eq_ok {role : Text} (h : ofOptionalFile world role path = .ok overlay) :
    overlay = ofPairs (filePairs world path) := by
  rw [ofOptionalFile, bind_eq_ok_iff] at h
  obtain ⟨found, hfound, h⟩ := h
  cases found with
  | true => exact ofFile_eq_ok (mapError_eq_ok_iff.1 h)
  | false =>
    obtain rfl := Except.ok.inj h
    rw [filePairs_of_not_exists hfound, ofPairs_nil]

theorem ofNamedFile_eq_ok (h : ofNamedFile world path = .ok overlay) :
    overlay = ofPairs (filePairs world path) := by
  rw [ofNamedFile, bind_eq_ok_iff] at h
  obtain ⟨found, -, h⟩ := h
  cases found with
  | true => exact ofFile_eq_ok (mapError_eq_ok_iff.1 h)
  | false => cases h

end Overlay

/-! ## Variables -/

namespace Field

theorem mem_all (field : Field) : field ∈ all := by
  cases field <;> decide

theorem ofKey?_key (field : Field) : ofKey? field.key = some field := by
  cases field <;> decide

theorem key_injective : Function.Injective key := by
  intro first second h
  have hsome : some first = some second := by rw [← ofKey?_key first, h, ofKey?_key second]
  exact Option.some.inj hsome

theorem isSome_ofKey?_iff {key : Text} :
    (ofKey? key).isSome ↔ ∃ field : Field, key = field.key := by
  have hsome : (ofKey? key).isSome ↔ ∃ field : Field, field.key = key := by
    simp [ofKey?, mem_all]
  rw [hsome]
  exact exists_congr fun field ↦ eq_comm

def isList : Field → Bool
  | extensions | excludePatterns => true
  | _ => false

/-- What the variable of a field says.  There is none for a list. -/
def inVariables (field : Field) (environment : Ledger Text Text) : Option Value :=
  if field.isList then none
  else environment.find? field.variableName >>= fun raw ↦
    (field.readVariable raw).toOption.join

theorem fromVariables_eq_ok {field : Field} {environment : Ledger Text Text}
    {value : Option Value} (h : field.fromVariables environment = .ok value) :
    field.inVariables environment = value := by
  unfold fromVariables at h
  unfold inVariables
  split at h
  · next hnone =>
    obtain rfl := Except.ok.inj h
    simp [hnone]
  · next raw hraw =>
    have hread := mapError_eq_ok_iff.1 h
    cases field <;> simp_all [isList, readVariable, Except.toOption]

end Field

namespace Overlay

variable {environment : Ledger Text Text} {overlay : Overlay}

def variablePairs (environment : Ledger Text Text) (fields : List Field) : List (Text × Value) :=
  fields.filterMap fun field ↦ (field.inVariables environment).map (field.key, ·)

theorem foldlM_fromVariables {fields : List Field} {result : Overlay}
    (h : fields.foldlM (fun overlay field ↦ do
      match ← field.fromVariables environment with
      | some value => return overlay.insert (.text field.key) value
      | none => return overlay) overlay = .ok result) :
    result = ⟨overlay.entries.insertAll (variablePairs environment fields), overlay.strayKey⟩ := by
  induction fields generalizing overlay with
  | nil =>
    obtain rfl := Except.ok.inj h
    rfl
  | cons field fields ih =>
    rw [List.foldlM_cons, bind_eq_ok_iff] at h
    obtain ⟨next, hnext, hrest⟩ := h
    obtain ⟨value, hvalue, hinsert⟩ := bind_eq_ok_iff.1 hnext
    have hsays := Field.fromVariables_eq_ok hvalue
    rw [ih hrest]
    cases value with
    | none =>
      obtain rfl := Except.ok.inj hinsert
      simp [variablePairs, hsays]
    | some value =>
      obtain rfl := Except.ok.inj hinsert
      simp [variablePairs, hsays, Overlay.insert, Ledger.insertAll_cons]

theorem lastWith_variablePairs {fields : List Field} {field : Field} (h : field ∈ fields) :
    Ledger.lastWith field.key (variablePairs environment fields) =
      field.inVariables environment := by
  cases hlast : Ledger.lastWith field.key (variablePairs environment fields) with
  | some value =>
    obtain ⟨other, -, hother⟩ := List.mem_filterMap.1 (Ledger.mem_of_lastWith_eq_some hlast)
    obtain ⟨said, hsaid, hpair⟩ := Option.map_eq_some_iff.1 hother
    obtain ⟨hkey, rfl⟩ := Prod.mk.inj hpair
    rw [← Field.key_injective hkey, hsaid]
  | none =>
    symm
    rw [Option.eq_none_iff_forall_ne_some]
    intro value hvalue
    have hpair : (field.key, value) ∈ variablePairs environment fields :=
      List.mem_filterMap.2 ⟨field, h, by rw [hvalue]; rfl⟩
    exact Ledger.lastWith_eq_none_iff.1 hlast (List.mem_map.2 ⟨_, hpair, rfl⟩)

theorem ofVariables_eq_ok (h : ofVariables environment = .ok overlay) :
    overlay = ⟨Ledger.ofList (variablePairs environment Field.all), false⟩ :=
  foldlM_fromVariables h

/-! ## Overrides -/

/-- A flag stands among the overrides, and it is set. -/
def isFlagged (overrides : Ledger Text Value) (flag : Text) : Bool :=
  (overrides.find? flag).any Value.isTruthy

/-- What overrides say about a field.  A flag for the verbosity goes before the verbosity itself,
and the one for quiet before the other. -/
def inOverrides (overrides : Ledger Text Value) (field : Field) : Option Value :=
  if field = .verbosity ∧ isFlagged overrides "quiet" then some (.text "quiet")
  else if field = .verbosity ∧ isFlagged overrides "verbose" then some (.text "verbose")
  else overrides.find? field.key

theorem find?_applyFlag (flag : Text) (verbosity : Verbosity) (overrides : Ledger Text Value)
    (key : Text) :
    (applyFlag flag verbosity overrides).find? key =
      if key = flag then none
      else if key = Field.verbosity.key ∧ isFlagged overrides flag then some (.text verbosity.word)
      else overrides.find? key := by
  unfold applyFlag isFlagged
  cases hfind : overrides.find? flag with
  | none =>
    by_cases hkey : key = flag
    · rw [if_pos hkey, hkey, hfind]
    · simp [hkey]
  | some value =>
    by_cases hkey : key = flag
    · simp [Ledger.find?_erase, hkey]
    · cases htruthy : value.isTruthy <;>
        simp [Ledger.find?_erase, Ledger.find?_insert, hkey, htruthy]

/-- Under a key that is no flag there stands what was said there, or what a flag stands for. -/
theorem find?_ofOverrides (overrides : Ledger Text Value) {key : Text}
    (hverbose : key ≠ Text.lit "verbose") (hquiet : key ≠ Text.lit "quiet") :
    (ofOverrides overrides).entries.find? key =
      if key = Field.verbosity.key ∧ isFlagged overrides "quiet" then some (.text "quiet")
      else if key = Field.verbosity.key ∧ isFlagged overrides "verbose" then
        some (.text "verbose")
      else overrides.find? key := by
  have hflag : isFlagged (applyFlag "verbose" .verbose overrides) "quiet" =
      isFlagged overrides "quiet" := by
    unfold isFlagged
    have hkey : Text.lit "quiet" ≠ Field.verbosity.key := by decide
    rw [find?_applyFlag, if_neg (by decide), if_neg fun h ↦ hkey h.1]
  rw [ofOverrides, find?_applyFlag, if_neg hquiet, hflag, find?_applyFlag, if_neg hverbose]
  rfl

/-- The flags themselves are dropped. -/
theorem find?_ofOverrides_flag (overrides : Ledger Text Value) {key : Text}
    (h : key = Text.lit "verbose" ∨ key = Text.lit "quiet") :
    (ofOverrides overrides).entries.find? key = none := by
  rcases h with rfl | rfl
  · have hkey : Text.lit "verbose" ≠ Field.verbosity.key := by decide
    rw [ofOverrides, find?_applyFlag, if_neg (by decide), if_neg fun h ↦ hkey h.1,
      find?_applyFlag, if_pos rfl]
  · rw [ofOverrides, find?_applyFlag, if_pos rfl]

theorem find?_ofOverrides_key (overrides : Ledger Text Value) (field : Field) :
    (ofOverrides overrides).entries.find? field.key = inOverrides overrides field := by
  have hverbose : field.key ≠ Text.lit "verbose" := by cases field <;> decide
  have hquiet : field.key ≠ Text.lit "quiet" := by cases field <;> decide
  rw [find?_ofOverrides overrides hverbose hquiet, inOverrides]
  simp only [Field.key_injective.eq_iff]

end Overlay

end ShellMetrics
