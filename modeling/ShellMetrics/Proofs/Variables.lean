import ShellMetrics.Proofs.Flags
import ShellMetrics.Proofs.Precedence
import ShellMetrics.Proofs.WholeNumbers

/-!
# Variables and overrides

A text in an environment variable says the same as the value that is read from it says among the
overrides: with either of them the same settings are loaded, or the same fault is reported.  A text
that says nothing in a variable is a fault, whatever the other sources say, once the files have been
read.
-/

namespace ShellMetrics

open Fallible

/-! ## What a text says in a variable -/

/-- The surroundings with a text in the variable of a field. -/
def World.setVariable (world : World) (field : Field) (raw : Text) : World :=
  { world with environment := world.environment.insert field.variableName raw }

def World.dropVariable (world : World) (field : Field) : World :=
  { world with environment := world.environment.erase field.variableName }

namespace Field

variable {field other : Field} {raw : Text} {value : Value} {environment : Ledger Text Text}

/-- In the variable of this field the text stands for this value. -/
def Says : Field → Text → Value → Prop
  | allowHidden, raw, value | followLinks, raw, value =>
    ∃ flag, Numeral.IsFlagOf flag raw ∧ value = .flag flag
  | workers, raw, value => ∃ n, Numeral.IsNumeralOf n (raw.map Numeral.symbol) ∧ value = .whole n
  | encoding, raw, value | sortBy, raw, value | verbosity, raw, value => value = .text raw
  | extensions, _, _ | excludePatterns, _, _ | maxSize, _, _ => False

/-- The fields whose variables are read as a flag or as a whole number. -/
def IsParsed (field : Field) : Prop := field = allowHidden ∨ field = followLinks ∨ field = workers

theorem Says.readVariable_eq (h : field.Says raw value) :
    field.readVariable raw = .ok (some value) := by
  cases field with
  | allowHidden | followLinks =>
    obtain ⟨flag, hflag, rfl⟩ := h
    rw [readVariable, Numeral.readFlag_eq_ok_iff.2 hflag]
    rfl
  | workers =>
    obtain ⟨n, hn, rfl⟩ := h
    rw [readVariable, Numeral.readInt_eq_ok_iff.2 hn]
    rfl
  | encoding | sortBy | verbosity =>
    obtain rfl : value = .text raw := h
    rfl
  | extensions | excludePatterns | maxSize => exact h.elim

theorem IsParsed.exists_readVariable_eq_error (hfield : field.IsParsed)
    (h : ∀ value, ¬ field.Says raw value) : ∃ fault, field.readVariable raw = .error fault := by
  rcases hfield with rfl | rfl | rfl
  · obtain ⟨fault, hread⟩ :=
      Numeral.exists_readFlag_eq_error fun flag hflag ↦ h _ ⟨flag, hflag, rfl⟩
    exact ⟨fault, by rw [readVariable, hread]; rfl⟩
  · obtain ⟨fault, hread⟩ :=
      Numeral.exists_readFlag_eq_error fun flag hflag ↦ h _ ⟨flag, hflag, rfl⟩
    exact ⟨fault, by rw [readVariable, hread]; rfl⟩
  · obtain ⟨fault, hread⟩ := Numeral.exists_readInt_eq_error fun n hn ↦ h _ ⟨n, hn, rfl⟩
    exact ⟨fault, by rw [readVariable, hread]; rfl⟩

/-- Each field has a variable of its own. -/
theorem variableName_injective : Function.Injective variableName := by
  have hall : ∀ first ∈ all, ∀ second ∈ all,
      first.variableName = second.variableName → first = second := by
    decide +kernel
  exact fun first second h ↦ hall first (mem_all first) second (mem_all second) h

theorem fromVariables_insert_of_ne (h : other ≠ field) :
    other.fromVariables (environment.insert field.variableName raw) =
      other.fromVariables environment := by
  rw [fromVariables, Ledger.find?_insert, if_neg (variableName_injective.ne h), fromVariables]

theorem fromVariables_erase_of_ne (h : other ≠ field) :
    other.fromVariables (environment.erase field.variableName) =
      other.fromVariables environment := by
  rw [fromVariables, Ledger.find?_erase, if_neg (variableName_injective.ne h), fromVariables]

theorem fromVariables_insert (field : Field) (raw : Text) (environment : Ledger Text Text) :
    field.fromVariables (environment.insert field.variableName raw) =
      (field.readVariable raw).mapError fun fault ↦
        .reported (.invalidSetting field.variableName raw fault.message) := by
  rw [fromVariables, Ledger.find?_insert, if_pos rfl]

theorem fromVariables_erase (field : Field) (environment : Ledger Text Text) :
    field.fromVariables (environment.erase field.variableName) = .ok none := by
  rw [fromVariables, Ledger.find?_erase, if_pos rfl]

theorem Says.fromVariables_eq (h : field.Says raw value) :
    field.fromVariables (environment.insert field.variableName raw) = .ok (some value) := by
  rw [fromVariables_insert, h.readVariable_eq]
  rfl

end Field

namespace Overlay

variable {field : Field} {raw : Text} {value : Value} {environment : Ledger Text Text}
  {fault : Fault}

/-- The settings with what the variable of one more field says. -/
def addVariable (environment : Ledger Text Text) (overlay : Overlay) (field : Field) :
    Except Fault Overlay := do
  match ← field.fromVariables environment with
  | some value => return overlay.insert (.text field.key) value
  | none => return overlay

/-- The environment is read field by field. -/
theorem ofVariables_eq_foldlM (environment : Ledger Text Text) :
    ofVariables environment = Field.all.foldlM (addVariable environment) empty := rfl

theorem addVariable_eq_error_iff {overlay : Overlay} :
    addVariable environment overlay field = .error fault ↔
      field.fromVariables environment = .error fault := by
  rw [addVariable, bind_eq_error_iff]
  refine or_iff_left ?_
  rintro ⟨value, -, hpure⟩
  cases value <;> exact absurd hpure nofun

theorem ofVariables_eq_error_iff_of_fields {environment' : Ledger Text Text}
    (h : ∀ (field : Field) (fault : Fault), field.fromVariables environment = .error fault ↔
      field.fromVariables environment' = .error fault) :
    ofVariables environment = .error fault ↔ ofVariables environment' = .error fault := by
  rw [ofVariables_eq_foldlM, ofVariables_eq_foldlM]
  refine foldlM_eq_error_iff_of_steps fun field _ overlay overlay' fault ↦ ?_
  exact addVariable_eq_error_iff.trans ((h field fault).trans addVariable_eq_error_iff.symm)

/-- Apart from what it says, a text that says something has no effect on reading the variables. -/
theorem ofVariables_insert_eq_error_iff (h : field.Says raw value) :
    ofVariables (environment.insert field.variableName raw) = .error fault ↔
      ofVariables (environment.erase field.variableName) = .error fault := by
  refine ofVariables_eq_error_iff_of_fields fun other fault ↦ ?_
  by_cases hother : other = field
  · subst hother
    rw [h.fromVariables_eq, Field.fromVariables_erase]
    exact ⟨fun h ↦ absurd h nofun, fun h ↦ absurd h nofun⟩
  · rw [Field.fromVariables_insert_of_ne hother, Field.fromVariables_erase_of_ne hother]

theorem exists_ofVariables_insert_eq_error (hfield : field.IsParsed)
    (h : ∀ value, ¬ field.Says raw value) :
    ∃ fault, ofVariables (environment.insert field.variableName raw) = .error fault := by
  obtain ⟨cause, hcause⟩ := hfield.exists_readVariable_eq_error h
  have hvariable : field.fromVariables (environment.insert field.variableName raw) =
      .error (.reported (.invalidSetting field.variableName raw cause.message)) := by
    rw [Field.fromVariables_insert, hcause]
    rfl
  rw [ofVariables_eq_foldlM]
  exact exists_foldlM_eq_error (Field.mem_all field)
    (fun overlay ↦ ⟨_, addVariable_eq_error_iff.2 hvariable⟩) empty

/-! ## Unknown keys -/

def unknownKeys (ledger : Ledger Text Value) : List Text :=
  ledger.keys.filter fun key ↦ (Field.ofKey? key).isNone

theorem unknownKeys_insert (ledger : Ledger Text Value) (field : Field) (value : Value) :
    unknownKeys (ledger.insert field.key value) = unknownKeys ledger := by
  rw [unknownKeys, Ledger.keys_insert, unknownKeys]
  split
  · rfl
  · simp [Field.ofKey?_key]

theorem unknownKeys_erase (ledger : Ledger Text Value) (key : Text) :
    unknownKeys (ledger.erase key) = (unknownKeys ledger).filter (· ≠ key) := by
  have hkeys : (ledger.erase key).keys = ledger.keys.filter (· ≠ key) := by
    simp only [Ledger.keys, Ledger.erase, List.filter_map]
    rfl
  rw [unknownKeys, hkeys, unknownKeys, List.filter_filter, List.filter_filter]
  exact List.filter_congr fun other _ ↦ Bool.and_comm _ _

theorem unknownKeys_update (first second : Ledger Text Value) :
    unknownKeys (first.update second) =
      unknownKeys first ++ (unknownKeys second).filter (· ∉ unknownKeys first) := by
  rw [unknownKeys, Ledger.keys_update, List.filter_append, unknownKeys, unknownKeys,
    List.filter_filter, List.filter_filter]
  congr 1
  apply List.filter_congr
  intro key _
  by_cases hkey : (Field.ofKey? key).isNone <;> simp [hkey]

theorem unknownKeys_applyFlag (flag : Text) (verbosity : Verbosity)
    (overrides : Ledger Text Value) :
    unknownKeys (applyFlag flag verbosity overrides) =
      (unknownKeys overrides).filter (· ≠ flag) := by
  unfold applyFlag
  cases hfind : overrides.find? flag with
  | none =>
    symm
    apply List.filter_eq_self.2
    intro key hkey
    have hmem : key ∈ overrides.keys := (List.mem_filter.1 hkey).1
    have hne : key ≠ flag := fun heq ↦ Ledger.find?_eq_none_iff.1 hfind (heq ▸ hmem)
    exact decide_eq_true hne
  | some value =>
    dsimp only
    rw [unknownKeys_erase]
    split
    · rw [unknownKeys_insert]
    · rfl

/-- Which keys are unknown among overrides does not depend on what is said about fields. -/
theorem unknownKeys_ofOverrides_insert (overrides : Ledger Text Value) (field : Field)
    (value : Value) :
    unknownKeys (ofOverrides (overrides.insert field.key value)).entries =
      unknownKeys (ofOverrides overrides).entries := by
  simp only [ofOverrides, unknownKeys_applyFlag, unknownKeys_insert]

theorem unknownKeys_variablePairs (environment : Ledger Text Text) :
    unknownKeys (Ledger.ofList (variablePairs environment Field.all)) = [] := by
  have hkeys := (Settings.checkKeys_eq_ok_iff.1 (Settings.checkKeys_variablePairs environment)).2
  apply List.filter_eq_nil_iff.2
  intro key hkey
  obtain ⟨field, rfl⟩ := hkeys key hkey
  simp [Field.ofKey?_key]

theorem findSome?_keyFault (keys : List Text) :
    keys.findSome? keyFault =
      (keys.filter fun key ↦ (Field.ofKey? key).isNone).findSome? keyFault := by
  induction keys with
  | nil => rfl
  | cons key keys ih =>
    rw [List.findSome?_cons, ih, List.filter_cons]
    cases hkey : Field.ofKey? key with
    | some field => simp [keyFault, hkey]
    | none => simp [List.findSome?_cons]

/-- The check of the keys sees the unknown ones only. -/
theorem checkKeys_congr {first second : Overlay} (hstray : first.strayKey = second.strayKey)
    (hkeys : unknownKeys first.entries = unknownKeys second.entries) :
    first.checkKeys = second.checkKeys := by
  unfold unknownKeys at hkeys
  rw [checkKeys, checkKeys, hstray, findSome?_keyFault first.entries.keys, hkeys,
    ← findSome?_keyFault]

/-! ## Overrides that say the same -/

variable {overrides : Ledger Text Value}

theorem isFlagged_insert (overrides : Ledger Text Value) (field : Field) (value : Value)
    {flag : Text} (hflag : flag = Text.lit "verbose" ∨ flag = Text.lit "quiet") :
    isFlagged (overrides.insert field.key value) flag = isFlagged overrides flag := by
  have hne : flag ≠ field.key := by
    rcases hflag with rfl | rfl <;> cases field <;> decide
  rw [isFlagged, Ledger.find?_insert, if_neg hne, isFlagged]

theorem inOverrides_insert_of_ne {other : Field} (h : other ≠ field) :
    inOverrides (overrides.insert field.key value) other = inOverrides overrides other := by
  rw [inOverrides, isFlagged_insert _ _ _ (.inr rfl), isFlagged_insert _ _ _ (.inl rfl),
    Ledger.find?_insert, if_neg (Field.key_injective.ne h), inOverrides]

/-- A flag for the verbosity still goes before it. -/
theorem inOverrides_insert (hkey : field.key ∉ overrides.keys) :
    inOverrides (overrides.insert field.key value) field =
      (inOverrides overrides field).or (some value) := by
  have hnone : overrides.find? field.key = none := Ledger.find?_eq_none_iff.2 hkey
  rw [inOverrides, isFlagged_insert _ _ _ (.inr rfl), isFlagged_insert _ _ _ (.inl rfl),
    Ledger.find?_insert, if_pos rfl, inOverrides, hnone]
  split_ifs <;> rfl

end Overlay

namespace Settings

variable {world : World} {file : Option Path} {overrides : Ledger Text Value} {field : Field}
  {raw : Text} {value : Value}

/-- Overrides go before variables, and these before the files. -/
theorem strongest_eq (world : World) (file : Option Path) (overrides : Ledger Text Value)
    (field : Field) :
    strongest world file overrides field =
      ((Overlay.inOverrides overrides field).or ((field.inVariables world.environment).or
        ([Source.named, .work, .home].findSome? fun source ↦
          source.value? world file overrides field))).getD field.defaultValue := by
  unfold strongest Source.all
  rw [List.findSome?_cons, List.findSome?_cons]
  simp only [Source.value?]
  cases Overlay.inOverrides overrides field <;> cases field.inVariables world.environment <;> rfl

theorem inVariables_insert_of_ne {other : Field} {environment : Ledger Text Text}
    (h : other ≠ field) :
    other.inVariables (environment.insert field.variableName raw) =
      other.inVariables (environment.erase field.variableName) := by
  have hne := Field.variableName_injective.ne h
  rw [Field.inVariables, Ledger.find?_insert, if_neg hne, Field.inVariables, Ledger.find?_erase,
    if_neg hne]

/-- What a text says in a variable counts as it does among the overrides. -/
theorem strongest_setVariable (h : field.Says raw value) (hkey : field.key ∉ overrides.keys) :
    strongest (world.setVariable field raw) file overrides =
      strongest (world.dropVariable field) file (overrides.insert field.key value) := by
  funext other
  rw [strongest_eq, strongest_eq]
  by_cases hother : other = field
  · subst hother
    have hsaid : other.inVariables (world.setVariable other raw).environment = some value :=
      Field.fromVariables_eq_ok h.fromVariables_eq
    rw [hsaid, Overlay.inOverrides_insert hkey, Option.or_assoc]
    rfl
  · have hvariables : other.inVariables (world.setVariable field raw).environment =
        other.inVariables (world.dropVariable field).environment :=
      inVariables_insert_of_ne hother
    rw [hvariables, Overlay.inOverrides_insert_of_ne hother]
    rfl

/-- A variable and an override are checked alike. -/
theorem checkKeys_setVariable (world : World) (file : Option Path)
    (overrides : Ledger Text Value) (field : Field) (raw : Text) (value : Value) :
    (gathered (world.setVariable field raw) file overrides).checkKeys =
      (gathered (world.dropVariable field) file
        (overrides.insert field.key value)).checkKeys := by
  apply Overlay.checkKeys_congr
  · rfl
  · simp only [gathered, Overlay.update, Overlay.unknownKeys_update,
      Overlay.unknownKeys_variablePairs, Overlay.unknownKeys_ofOverrides_insert]
    rfl

theorem ofOverlay_congr {first second : Overlay} (hkeys : first.checkKeys = second.checkKeys)
    (hget : first.get = second.get) : ofOverlay first = ofOverlay second := by
  simp only [ofOverlay, hkeys, hget]

/-- A variable and an override meet the same faults in the other sources. -/
theorem gather_setVariable_eq_error_iff {fault : Fault} (h : field.Says raw value) :
    gather (world.setVariable field raw) file overrides = .error fault ↔
      gather (world.dropVariable field) file (overrides.insert field.key value) =
        .error fault := by
  have hvariables (fault : Fault) :
      Overlay.ofVariables (world.setVariable field raw).environment = .error fault ↔
        Overlay.ofVariables (world.dropVariable field).environment = .error fault :=
    Overlay.ofVariables_insert_eq_error_iff h
  rw [gather_eq, gather_eq]
  simp only [bind_eq_error_iff, hvariables, pure_ne_error, and_false, exists_false, or_false]
  exact Iff.rfl

/-- A text in a variable and the value that it says among the overrides lead to the same settings,
or to the same fault. -/
theorem load_setVariable (h : field.Says raw value) (hkey : field.key ∉ overrides.keys) :
    load (world.setVariable field raw) file overrides =
      load (world.dropVariable field) file (overrides.insert field.key value) := by
  have herror (fault : Fault) : gather (world.setVariable field raw) file overrides =
        .error fault ↔
      gather (world.dropVariable field) file (overrides.insert field.key value) = .error fault :=
    gather_setVariable_eq_error_iff h
  rw [load, load]
  cases hvariable : gather (world.setVariable field raw) file overrides with
  | error fault => rw [(herror fault).1 hvariable]
  | ok overlay =>
    cases hoverride : gather (world.dropVariable field) file
        (overrides.insert field.key value) with
    | error fault =>
      rw [(herror fault).2 hoverride] at hvariable
      cases hvariable
    | ok overlay' =>
      have hoverlays : ofOverlay overlay = ofOverlay overlay' := by
        rw [gather_eq_ok hvariable, gather_eq_ok hoverride]
        apply ofOverlay_congr (checkKeys_setVariable world file overrides field raw value)
        funext other
        rw [get_gathered, get_gathered, strongest_setVariable h hkey]
      exact congrArg (Except.mapError settingsProblem) hoverlays

end Settings

/-! ## Files that hold settings -/

/-- The value holds settings: it is a table, or a list of pairs whose keys can be looked up. -/
def Value.HoldsSettings (value : Value) : Prop :=
  (∃ entries, value = .table entries) ∨
    ∃ items, value.elements = .ok items ∧ ∀ item ∈ items, ∃ key content,
      item.elements = .ok [key, content] ∧ (∀ items, key ≠ .list items) ∧
        ∀ entries, key ≠ .table entries

namespace Overlay

variable {world : World} {path : Path} {value : Value}

theorem pairOf_eq_ok {index : ℕ} {item key content : Value}
    (hitem : item.elements = .ok [key, content]) (hlist : ∀ items, key ≠ .list items)
    (htable : ∀ entries, key ≠ .table entries) : pairOf index item = .ok (key, content) := by
  unfold pairOf
  rw [hitem]
  cases key with
  | list items => exact absurd rfl (hlist items)
  | table entries => exact absurd rfl (htable entries)
  | _ => rfl

theorem exists_ofValue_eq_ok (h : value.HoldsSettings) :
    ∃ overlay, ofValue value = .ok overlay := by
  rcases h with ⟨entries, rfl⟩ | ⟨items, hitems, hpairs⟩
  · exact ⟨_, rfl⟩
  · have hsteps : ∀ entry ∈ items.zipIdx, ∀ overlay, ∃ next,
        insertElement overlay entry = .ok next := by
      intro entry hentry overlay
      have hitem : entry.1 ∈ items := by
        rw [← List.zipIdx_map_fst 0 items]
        exact List.mem_map_of_mem hentry
      obtain ⟨key, content, helements, hlist, htable⟩ := hpairs entry.1 hitem
      exact ⟨_, bind_eq_ok_iff.2 ⟨_, pairOf_eq_ok helements hlist htable, rfl⟩⟩
    obtain ⟨overlay, hfold⟩ := exists_foldlM_eq_ok hsteps empty
    unfold ofValue
    split
    · exact ⟨_, rfl⟩
    · exact ⟨overlay, bind_eq_ok_iff.2 ⟨items, hitems, hfold⟩⟩

/-- The file can be read, it is TOML, and what stands in it for this program holds settings. -/
def IsSettingsFile (world : World) (path : Path) : Prop :=
  ∃ octets document, world.read path = .ok octets ∧ Toml.parseOctets octets = .ok document ∧
    (settingsPart document).HoldsSettings

theorem IsSettingsFile.exists_ofFile_eq_ok (h : IsSettingsFile world path) :
    ∃ overlay, ofFile world path = .ok overlay := by
  obtain ⟨octets, document, hread, hparse, hholds⟩ := h
  obtain ⟨overlay, hoverlay⟩ := exists_ofValue_eq_ok hholds
  refine ⟨overlay, bind_eq_ok_iff.2 ⟨octets, hread, bind_eq_ok_iff.2 ⟨document, hparse, ?_⟩⟩⟩
  rw [ofDocument_eq, hoverlay]

end Overlay

namespace Settings

/-- Nothing stands at the end of the path, or a file that holds settings. -/
def MayHoldSettings (world : World) (path : Path) : Prop :=
  world.exists? path = .ok false ∨
    world.exists? path = .ok true ∧ Overlay.IsSettingsFile world path

/-- The settings in the files can be read.  A file that is named has to be there. -/
structure FilesHoldSettings (world : World) (file : Option Path) : Prop where
  home : MayHoldSettings world (homeFile world)
  work : MayHoldSettings world (workFile world)
  named : ∀ path ∈ file, world.exists? path = .ok true ∧ Overlay.IsSettingsFile world path

variable {world : World} {file : Option Path} {overrides : Ledger Text Value} {field : Field}
  {raw : Text}

theorem MayHoldSettings.exists_ofOptionalFile_eq_ok {path : Path} (h : MayHoldSettings world path)
    (role : Text) : ∃ overlay, Overlay.ofOptionalFile world role path = .ok overlay := by
  rcases h with hmissing | ⟨hexists, hfile⟩
  · exact ⟨.empty, by rw [Overlay.ofOptionalFile, hmissing]; rfl⟩
  · obtain ⟨overlay, hoverlay⟩ := hfile.exists_ofFile_eq_ok
    exact ⟨overlay, by rw [Overlay.ofOptionalFile, hexists, hoverlay]; rfl⟩

theorem FilesHoldSettings.exists_ofNamed_eq_ok (h : FilesHoldSettings world file) :
    ∃ overlay, ofNamed world file = .ok overlay := by
  cases file with
  | none => exact ⟨_, rfl⟩
  | some path =>
    obtain ⟨hexists, hfile⟩ := h.named path rfl
    obtain ⟨overlay, hoverlay⟩ := hfile.exists_ofFile_eq_ok
    exact ⟨overlay, by rw [ofNamed, Overlay.ofNamedFile, hexists, hoverlay]; rfl⟩

/-- Once the files have been read, a text that says nothing in a variable is a fault. -/
theorem load_setVariable_eq_error (hfield : field.IsParsed) (h : ∀ value, ¬ field.Says raw value)
    (hfiles : FilesHoldSettings world file) :
    ∃ key shown reason, load (world.setVariable field raw) file overrides =
      .error (.reported (.invalidSetting key shown reason)) := by
  obtain ⟨home, hhome⟩ := hfiles.home.exists_ofOptionalFile_eq_ok "global config"
  obtain ⟨work, hwork⟩ := hfiles.work.exists_ofOptionalFile_eq_ok "project config"
  obtain ⟨named, hnamed⟩ := hfiles.exists_ofNamed_eq_ok
  obtain ⟨fault, hvariables⟩ :
      ∃ fault, Overlay.ofVariables (world.setVariable field raw).environment = .error fault :=
    Overlay.exists_ofVariables_insert_eq_error hfield h
  obtain ⟨key, shown, reason, rfl⟩ := Overlay.exists_eq_invalidSetting hvariables
  have hgather : gather (world.setVariable field raw) file overrides =
      .error (.reported (.invalidSetting key shown reason)) := by
    rw [gather_eq]
    exact bind_eq_error_iff.2 (.inr ⟨home, hhome, bind_eq_error_iff.2 (.inr ⟨work, hwork,
      bind_eq_error_iff.2 (.inr ⟨named, hnamed, bind_eq_error_iff.2 (.inl hvariables)⟩)⟩)⟩)
  exact ⟨key, shown, reason, by rw [load, hgather]; rfl⟩

/-- A text in a variable says what the value that is read from it says among the overrides, and the
decimal numerals of whole numbers are read as these numbers.  A text from which no flag, or no whole
number, is read is a fault, whatever the files and the overrides say. -/
theorem load_reads_variables (world : World) (file : Option Path)
    (overrides : Ledger Text Value) :
    (∀ field raw value, Field.Says field raw value → field.key ∉ overrides.keys →
        load (world.setVariable field raw) file overrides =
          load (world.dropVariable field) file (overrides.insert field.key value)) ∧
      (∀ (n : ℤ) (raw : Text), Numeral.IsWritten n raw →
        (Text.ofNat n.natAbs).length ≤ Fault.digitLimit → Field.workers.Says raw (.whole n)) ∧
      ∀ field raw, Field.IsParsed field → (∀ value, ¬ field.Says raw value) →
        FilesHoldSettings world file →
          ∃ key shown reason, load (world.setVariable field raw) file overrides =
            .error (.reported (.invalidSetting key shown reason)) :=
  ⟨fun _ _ _ hsays hkey ↦ load_setVariable hsays hkey,
    fun n _ hwritten hlimit ↦ ⟨n, hwritten.isNumeralOf hlimit, rfl⟩,
    fun _ _ hfield hnothing hfiles ↦ load_setVariable_eq_error hfield hnothing hfiles⟩

/-- A number with a low line and white space around it, and a text that is no number. -/
theorem load_reads_variables_workers :
    let world : World :=
      { tree := .empty, workDir := Path.ofText "/", homeDir := Path.ofText "/", environment := ∅ }
    (Numeral.IsWritten 12 " +1_2\n" ∧ Field.workers.Says " +1_2\n" (.whole 12) ∧
      load (world.setVariable .workers " +1_2\n") none ∅ =
        load (world.dropVariable .workers) none (Ledger.insert ∅ Field.workers.key (.whole 12))) ∧
      (∀ value, ¬ Field.workers.Says "x" value) ∧ FilesHoldSettings world none ∧
        ∃ key shown reason, load (world.setVariable .workers "x") none ∅ =
          .error (.reported (.invalidSetting key shown reason)) := by
  intro world
  have hwritten : Numeral.IsWritten 12 " +1_2\n" :=
    @Numeral.IsWritten.intro 12 " " "+" "1" "\n" ["2"] (List.all_eq_true.1 rfl)
      (.inr ⟨by decide, .inr rfl⟩) nofun (List.forall_mem_singleton.2 nofun) rfl
      (List.all_eq_true.1 rfl)
  obtain ⟨hagree, hdecimal, hrefused⟩ := load_reads_variables world none ∅
  have hsays : Field.workers.Says " +1_2\n" (.whole 12) := hdecimal 12 _ hwritten (by decide)
  have hnothing : ∀ value, ¬ Field.workers.Says "x" value := by
    rintro value ⟨n, hn, -⟩
    exact absurd (Numeral.readInt_eq_ok_iff.2 hn) nofun
  have hfiles : FilesHoldSettings world none := ⟨.inl rfl, .inl rfl, nofun⟩
  exact ⟨⟨hwritten, hsays, hagree _ _ _ hsays (by decide)⟩, hnothing, hfiles,
    hrefused _ _ (.inr (.inr rfl)) hnothing hfiles⟩

/-- The kind of the problem that is reported, if this is the outcome. -/
def reportedKind? : Except Fault Settings → Option ProblemKind
  | .error (.reported problem) => some problem.kind
  | _ => none

theorem exists_eq_reported {result : Except Fault Settings} {kind : ProblemKind}
    (h : reportedKind? result = some kind) :
    ∃ problem, result = .error (.reported problem) ∧ problem.kind = kind := by
  unfold reportedKind? at h
  split at h
  · exact ⟨_, rfl, Option.some.inj h⟩
  · exact absurd h nofun

/-- A file that is TOML but gives a number for the settings of this program is reported before a
variable that holds no number.  And a separator that counts as white space elsewhere does not do so
around a number. -/
theorem load_number_for_settings :
    let octets := Utf8.encode "[tool]\nshccn = 5\n"
    let tree := FileTree.empty.insert [fileName] (.file octets)
    let world : World :=
      { tree, workDir := Path.ofText "/", homeDir := Path.ofText "/", environment := ∅ }
    (world.exists? (homeFile world) = .ok false ∧ world.read (workFile world) = .ok octets ∧
        (Toml.parseOctets octets).toOption.isSome ∧ (∀ value, ¬ Field.workers.Says "x" value) ∧
        ∃ problem, load (world.setVariable .workers "x") none ∅ = .error (.reported problem) ∧
          problem.kind = .configuration) ∧
      Text.isSpace '\x1c' = true ∧
        ∃ problem, load (World.setVariable { world with tree := .empty } .workers "\x1c5") none ∅ =
            .error (.reported problem) ∧
          problem.kind = .invalidSetting := by
  intro octets tree world
  have hnothing : ∀ value, ¬ Field.workers.Says "x" value := by
    rintro value ⟨n, hn, -⟩
    exact absurd (Numeral.readInt_eq_ok_iff.2 hn) nofun
  exact ⟨⟨rfl, rfl, by decide +kernel, hnothing, exists_eq_reported (by decide +kernel)⟩, rfl,
    exists_eq_reported (by decide +kernel)⟩

end Settings

end ShellMetrics
