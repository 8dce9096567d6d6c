import ShellMetrics.Proofs.Sources

/-!
# Which source of settings counts

Each field has the value of the strongest source that says something about it, and else its
default: overrides go before variables, these before the file that is named, before the file in
the working directory, before the file in the home directory.  A key that is no field is refused
wherever it stands.  Only the values that have come out on top are checked.
-/

namespace ShellMetrics

open Fallible

/-! ## Checks -/

theorem Quantity.ofValue?_eq_some_iff {value : Value} {quantity : Quantity} :
    ofValue? value = some quantity ↔ quantity.toValue = value := by
  cases value <;> cases quantity <;> simp [ofValue?, toValue, eq_comm]

theorem Quantity.ofValue?_toValue (quantity : Quantity) :
    ofValue? quantity.toValue = some quantity :=
  ofValue?_eq_some_iff.2 rfl

theorem Value.isTruthy_iff_ne_nil {value : Value} {items : List Value}
    (h : value.elements = .ok items) : value.isTruthy = true ↔ items ≠ [] := by
  cases value with
  | list => simpa [isTruthy] using (Except.ok.inj h) ▸ Iff.rfl
  | text => obtain rfl := Except.ok.inj h; simp [isTruthy]
  | table => obtain rfl := Except.ok.inj h; simp [isTruthy]
  | _ => cases h

theorem SortKey.ofWord?_eq_some_iff {word : Text} {key : SortKey} :
    ofWord? word = some key ↔ key.word = word := by
  constructor
  · intro h
    simpa using List.find?_some h
  · rintro rfl
    cases key <;> decide

theorem Verbosity.ofWord?_eq_some_iff {word : Text} {verbosity : Verbosity} :
    ofWord? word = some verbosity ↔ verbosity.word = word := by
  constructor
  · intro h
    simpa using List.find?_some h
  · rintro rfl
    cases verbosity <;> decide

namespace Settings

/-- The values of the fields stand all checks. -/
structure Fits (values : Field → Value) : Prop where
  extensions : ∃ items, (values .extensions).elements = .ok items ∧ items ≠ [] ∧
    ∀ item ∈ items, ∃ rest, item = .text ('.' :: rest)
  maxSize : ∃ size : Quantity, values .maxSize = size.toValue ∧ size.atMost 0 = false
  workers : values .workers = .nothing ∨
    ∃ count : Quantity, values .workers = count.toValue ∧ count.below 1 = false
  sortBy : ∃ key : SortKey, values .sortBy = .text key.word
  verbosity : ∃ verbosity : Verbosity, values .verbosity = .text verbosity.word

/-- Extensions are right if there is one and all are texts that start with a dot. -/
theorem checkExtensions_eq_ok_iff {value : Value} {done : Unit} :
    checkExtensions value = .ok done ↔ ∃ items, value.elements = .ok items ∧ items ≠ [] ∧
      ∀ item ∈ items, ∃ rest, item = .text ('.' :: rest) := by
  cases htruthy : value.isTruthy with
  | false =>
    rw [checkExtensions_of_not_isTruthy htruthy]
    constructor
    · exact fun h ↦ absurd h nofun
    · rintro ⟨items, hitems, hne, -⟩
      rw [(Value.isTruthy_iff_ne_nil hitems).2 hne] at htruthy
      exact absurd htruthy nofun
  | true =>
    rw [checkExtensions_of_isTruthy htruthy, bind_eq_ok_iff]
    apply exists_congr
    intro items
    apply and_congr_right
    intro hitems
    have hne : items ≠ [] := (Value.isTruthy_iff_ne_nil hitems).1 htruthy
    have hforM : items.forM checkExtension = .ok done ↔
        ∀ item ∈ items, checkExtension item = .ok () := forM_eq_ok_iff
    simp only [hforM, checkExtension_eq_ok_iff, hne, ne_eq, not_false_eq_true, true_and]

/-- A size limit is right if it is a quantity that is not known to be zero or below. -/
theorem checkSize_eq_ok_iff {value : Value} {size : Quantity} :
    checkSize value = .ok size ↔ value = size.toValue ∧ size.atMost 0 = false := by
  constructor
  · fun_cases checkSize value with
    | case1 => simp
    | case2 => simp
    | case3 quantity hvalue hsize =>
      intro h
      obtain rfl := Except.ok.inj h
      exact ⟨(Quantity.ofValue?_eq_some_iff.1 hvalue).symm, by simpa using hsize⟩
  · rintro ⟨rfl, hsize⟩
    simp [checkSize, Quantity.ofValue?_toValue, hsize]

/-- A number of workers is right if it is missing or a quantity that is not known to be below one.
-/
theorem checkWorkers_eq_ok_iff {value : Value} {workers : Option Quantity} :
    checkWorkers value = .ok workers ↔ value = (workers.map Quantity.toValue).getD .nothing ∧
      ∀ count ∈ workers, count.below 1 = false := by
  constructor
  · fun_cases checkWorkers value with
    | case1 =>
      intro h
      obtain rfl := Except.ok.inj h
      exact ⟨rfl, by simp⟩
    | case2 => simp
    | case3 => simp
    | case4 _ _ quantity hvalue hcount =>
      intro h
      obtain rfl := Except.ok.inj h
      exact ⟨(Quantity.ofValue?_eq_some_iff.1 hvalue).symm, by simpa using hcount⟩
  · rintro ⟨rfl, hcount⟩
    cases workers with
    | none => rfl
    | some count =>
      have hbelow : count.below 1 = false := hcount count rfl
      cases count <;> simp [checkWorkers, Quantity.toValue, Quantity.ofValue?, hbelow]

theorem wordOf?_eq_some_iff {value : Value} {word : Text} :
    wordOf? value = some word ↔ value = .text word := by
  cases value <;> simp [wordOf?]

theorem checkSortKey_eq_ok_iff {value : Value} {key : SortKey} :
    checkSortKey value = .ok key ↔ value = .text key.word := by
  have hword : (wordOf? value >>= SortKey.ofWord?) = some key ↔ value = .text key.word := by
    simp [Option.bind_eq_some_iff, wordOf?_eq_some_iff, SortKey.ofWord?_eq_some_iff]
  rw [← hword]
  unfold checkSortKey
  cases wordOf? value >>= SortKey.ofWord? <;> simp

theorem checkVerbosity_eq_ok_iff {value : Value} {verbosity : Verbosity} :
    checkVerbosity value = .ok verbosity ↔ value = .text verbosity.word := by
  have hword : (wordOf? value >>= Verbosity.ofWord?) = some verbosity ↔
      value = .text verbosity.word := by
    simp [Option.bind_eq_some_iff, wordOf?_eq_some_iff, Verbosity.ofWord?_eq_some_iff]
  rw [← hword]
  unfold checkVerbosity
  cases wordOf? value >>= Verbosity.ofWord? <;> simp

theorem checkKeys_eq_ok_iff {overlay : Overlay} :
    overlay.checkKeys = .ok () ↔ overlay.strayKey = false ∧
      ∀ key ∈ overlay.entries.keys, ∃ field : Field, key = field.key := by
  have hfault {key : Text} :
      Overlay.keyFault key = none ↔ ∃ field : Field, key = field.key := by
    rw [← Field.isSome_ofKey?_iff]
    fun_cases Overlay.keyFault key <;> simp_all
  unfold Overlay.checkKeys
  cases overlay.strayKey with
  | true => simp
  | false =>
    simp only [Bool.false_eq_true, if_false, true_and]
    cases hkeys : overlay.entries.keys.findSome? Overlay.keyFault with
    | none =>
      simp only [List.findSome?_eq_none_iff, hfault] at hkeys
      exact ⟨fun _ ↦ hkeys, fun _ ↦ rfl⟩
    | some fault =>
      obtain ⟨key, hkey, hsome⟩ := List.exists_of_findSome?_eq_some hkeys
      constructor
      · intro h
        cases h
      · intro hall
        rw [hfault.2 (hall key hkey)] at hsome
        cases hsome

/-- Settings come of an overlay if all keys are fields and all values fit. -/
theorem exists_ofOverlay_eq_ok_iff {overlay : Overlay} :
    (∃ settings, ofOverlay overlay = .ok settings) ↔
      overlay.checkKeys = .ok () ∧ Fits overlay.get := by
  simp only [ofOverlay, bind_eq_ok_iff, pure_eq_ok_iff, checkExtensions_eq_ok_iff,
    checkSize_eq_ok_iff, checkWorkers_eq_ok_iff, checkSortKey_eq_ok_iff, checkVerbosity_eq_ok_iff]
  constructor
  · rintro ⟨_, _, hkeys, _, hextensions, size, hsize, workers, ⟨hworkers, hcount⟩, key, hkey,
      verbosity, hverbosity, -⟩
    refine ⟨hkeys, hextensions, ⟨size, hsize⟩, ?_, ⟨key, hkey⟩, ⟨verbosity, hverbosity⟩⟩
    cases workers with
    | none => exact .inl hworkers
    | some count => exact .inr ⟨count, hworkers, hcount count rfl⟩
  · rintro ⟨hkeys, hextensions, ⟨size, hsize⟩, hworkers, ⟨key, hkey⟩, ⟨verbosity, hverbosity⟩⟩
    have hcount : ∃ workers : Option Quantity,
        overlay.get .workers = (workers.map Quantity.toValue).getD .nothing ∧
          ∀ count ∈ workers, count.below 1 = false := by
      rcases hworkers with hnothing | ⟨count, hcount, hbelow⟩
      · exact ⟨none, hnothing, nofun⟩
      · exact ⟨some count, hcount, by simpa using hbelow⟩
    obtain ⟨workers, hworkers⟩ := hcount
    exact ⟨_, _, hkeys, (), hextensions, size, hsize, workers, hworkers, key, hkey, verbosity,
      hverbosity, rfl⟩

/-- Settings hold the values of their overlay. -/
theorem get_of_ofOverlay_eq_ok {overlay : Overlay} {settings : Settings}
    (h : ofOverlay overlay = .ok settings) (field : Field) :
    settings.get field = overlay.get field := by
  simp only [ofOverlay, bind_eq_ok_iff, pure_eq_ok_iff, checkSize_eq_ok_iff,
    checkWorkers_eq_ok_iff, checkSortKey_eq_ok_iff, checkVerbosity_eq_ok_iff] at h
  obtain ⟨_, -, _, -, size, ⟨hsize, -⟩, workers, ⟨hworkers, -⟩, key, hkey, verbosity, hverbosity,
    rfl⟩ := h
  cases field with
  | maxSize => exact hsize.symm
  | workers => exact hworkers.symm
  | sortBy => exact hkey.symm
  | verbosity => exact hverbosity.symm
  | _ => rfl

/-! ## Sources -/

inductive Source where
  | overrides
  | environment
  | named
  | work
  | home

namespace Source

def all : List Source := [overrides, environment, named, work, home]

variable (world : World) (file : Option Path) (given : Ledger Text Value)

/-- The pairs of key and value that stand in a source.  Variables have no keys of their own. -/
def pairs : Source → List (Value × Value)
  | overrides => given.entries.map fun entry ↦ (.text entry.1, entry.2)
  | environment => []
  | named => (file.map (Overlay.filePairs world)).getD []
  | work => Overlay.filePairs world (workFile world)
  | home => Overlay.filePairs world (homeFile world)

/-- What a source says about a field. -/
def value? (source : Source) (field : Field) : Option Value :=
  match source with
  | overrides => Overlay.inOverrides given field
  | environment => field.inVariables world.environment
  | _ => Ledger.lastWith field.key (Overlay.textPairs (source.pairs world file given))

/-- The keys that may stand in a source: those of the fields, and the flags in the overrides. -/
def Allows (source : Source) (key : Value) : Prop :=
  (∃ field : Field, key = .text field.key) ∨
    source = overrides ∧ (key = .text "verbose" ∨ key = .text "quiet")

end Source

/-- The value of the strongest source that says something about a field, or its default. -/
def strongest (world : World) (file : Option Path) (overrides : Ledger Text Value)
    (field : Field) : Value :=
  (Source.all.findSome? fun source ↦ source.value? world file overrides field).getD
    field.defaultValue

/-- In some source there stands a key that is not allowed there. -/
def HasUnknownKey (world : World) (file : Option Path) (overrides : Ledger Text Value) : Prop :=
  ∃ source : Source, ∃ pair ∈ source.pairs world file overrides, ¬ source.Allows pair.1

/-! ## Putting the sources together -/

section Gathering

variable {world : World} {file : Option Path} {overrides : Ledger Text Value} {overlay : Overlay}

theorem ofNamed_eq_ok (h : ofNamed world file = .ok overlay) :
    overlay = Overlay.ofPairs (Source.named.pairs world file overrides) := by
  cases file with
  | none => exact (Except.ok.inj h).symm
  | some path => exact Overlay.ofNamedFile_eq_ok h

def gathered (world : World) (file : Option Path) (overrides : Ledger Text Value) : Overlay :=
  ((((Overlay.ofPairs (Source.home.pairs world file overrides)).update
    (Overlay.ofPairs (Source.work.pairs world file overrides))).update
    (Overlay.ofPairs (Source.named.pairs world file overrides))).update
    ⟨Ledger.ofList (Overlay.variablePairs world.environment Field.all), false⟩).update
    (Overlay.ofOverrides overrides)

/-- What is gathered is what all sources come to. -/
theorem gather_eq_ok (h : gather world file overrides = .ok overlay) :
    overlay = gathered world file overrides := by
  simp only [gather_eq, bind_eq_ok_iff, pure_eq_ok_iff] at h
  obtain ⟨home, hhome, work, hwork, named, hnamed, environment, henvironment, rfl⟩ := h
  rw [Overlay.ofOptionalFile_eq_ok hhome, Overlay.ofOptionalFile_eq_ok hwork,
    ofNamed_eq_ok hnamed, Overlay.ofVariables_eq_ok henvironment]
  rfl

/-- The strongest source that says something about a field is the last one to write it. -/
theorem get_gathered (field : Field) :
    (gathered world file overrides).get field = strongest world file overrides field := by
  have hcons (value? : Source → Option Value) (first : Source) (rest : List Source) :
      (first :: rest).findSome? value? = (value? first).or (rest.findSome? value?) := by
    cases h : value? first <;> simp [h]
  simp only [Overlay.get, gathered, Overlay.update, Ledger.find?_update, Overlay.ofPairs,
    Ledger.find?_ofList, Overlay.find?_ofOverrides_key,
    Overlay.lastWith_variablePairs (Field.mem_all field), strongest, Source.all, hcons,
    List.findSome?_nil, Option.or_none, Source.value?]

/-- Keys are known in both parts or not at all. -/
theorem checkKeys_update_iff {first second : Overlay} :
    (first.update second).checkKeys = .ok () ↔
      first.checkKeys = .ok () ∧ second.checkKeys = .ok () := by
  have hmem {key : Text} : key ∈ (first.entries.update second.entries).keys ↔
      key ∈ first.entries.keys ∨ key ∈ second.entries.keys := by
    rw [Ledger.keys_update, List.mem_append, List.mem_filter]
    by_cases h : key ∈ first.entries.keys <;> simp [h]
  simp only [checkKeys_eq_ok_iff, Overlay.update, Bool.or_eq_false_iff, hmem, or_imp,
    forall_and]
  tauto

theorem checkKeys_ofPairs_iff {pairs : List (Value × Value)} :
    (Overlay.ofPairs pairs).checkKeys = .ok () ↔
      ∀ pair ∈ pairs, ∃ field : Field, pair.1 = .text field.key := by
  rw [checkKeys_eq_ok_iff]
  constructor
  · rintro ⟨hstray, hkeys⟩ pair hpair
    have hsome : wordOf? pair.1 ≠ none := by
      simpa using List.any_eq_false.1 hstray pair hpair
    obtain ⟨word, hword⟩ := Option.ne_none_iff_exists'.1 hsome
    obtain ⟨field, rfl⟩ := hkeys word (Overlay.mem_keys_ofPairs_iff.2 ⟨pair, hpair, hword⟩)
    exact ⟨field, wordOf?_eq_some_iff.1 hword⟩
  · intro hpairs
    constructor
    · apply List.any_eq_false.2
      intro pair hpair
      obtain ⟨field, hfield⟩ := hpairs pair hpair
      simp [hfield, wordOf?]
    · intro key hkey
      obtain ⟨pair, hpair, hword⟩ := Overlay.mem_keys_ofPairs_iff.1 hkey
      obtain ⟨field, hfield⟩ := hpairs pair hpair
      rw [hfield] at hword
      exact ⟨field, (Option.some.inj hword).symm⟩

/-- Variables are named after fields. -/
theorem checkKeys_variablePairs (environment : Ledger Text Text) :
    Overlay.checkKeys ⟨Ledger.ofList (Overlay.variablePairs environment Field.all), false⟩ =
      .ok () := by
  refine checkKeys_eq_ok_iff.2 ⟨rfl, ?_⟩
  intro key hkey
  rw [Ledger.keys_ofList, List.mem_eraseDups] at hkey
  obtain ⟨pair, hpair, rfl⟩ := List.mem_map.1 hkey
  obtain ⟨field, -, hfield⟩ := List.mem_filterMap.1 hpair
  obtain ⟨_, -, rfl⟩ := Option.map_eq_some_iff.1 hfield
  exact ⟨field, rfl⟩

theorem checkKeys_ofOverrides_iff :
    (Overlay.ofOverrides overrides).checkKeys = .ok () ↔
      ∀ key ∈ overrides.keys, (∃ field : Field, key = field.key) ∨
        key = Text.lit "verbose" ∨ key = Text.lit "quiet" := by
  have hmem {ledger : Ledger Text Value} {key : Text} :
      key ∈ ledger.keys ↔ ledger.find? key ≠ none := by
    rw [ne_eq, Ledger.find?_eq_none_iff, not_not]
  rw [checkKeys_eq_ok_iff]
  constructor
  · rintro ⟨-, hkeys⟩ key hkey
    by_cases hflag : key = Text.lit "verbose" ∨ key = Text.lit "quiet"
    · exact .inr hflag
    · left
      obtain ⟨hverbose, hquiet⟩ := not_or.1 hflag
      apply hkeys
      rw [hmem, Overlay.find?_ofOverrides overrides hverbose hquiet]
      split
      · exact Option.some_ne_none _
      · split
        · exact Option.some_ne_none _
        · exact hmem.1 hkey
  · intro hkeys
    refine ⟨rfl, ?_⟩
    intro key hkey
    rw [hmem] at hkey
    by_cases hflag : key = Text.lit "verbose" ∨ key = Text.lit "quiet"
    · exact absurd (Overlay.find?_ofOverrides_flag overrides hflag) hkey
    · obtain ⟨hverbose, hquiet⟩ := not_or.1 hflag
      rw [Overlay.find?_ofOverrides overrides hverbose hquiet] at hkey
      split at hkey
      · next h => exact ⟨.verbosity, h.1⟩
      · split at hkey
        · next h => exact ⟨.verbosity, h.1⟩
        · exact (hkeys key (hmem.2 hkey)).resolve_right hflag

/-- The keys that all sources come to are those of fields unless one of the sources has a key that
is not allowed there. -/
theorem checkKeys_gathered_iff :
    (gathered world file overrides).checkKeys = .ok () ↔
      ¬ HasUnknownKey world file overrides := by
  have hoverrides : (Overlay.ofOverrides overrides).checkKeys = .ok () ↔
      ∀ pair ∈ Source.overrides.pairs world file overrides, Source.overrides.Allows pair.1 := by
    simp only [checkKeys_ofOverrides_iff, Source.pairs, Source.Allows, Ledger.keys,
      List.forall_mem_map, Value.text.injEq, true_and]
  have hfile (source : Source) (hsource : source ≠ .overrides) :
      (Overlay.ofPairs (source.pairs world file overrides)).checkKeys = .ok () ↔
        ∀ pair ∈ source.pairs world file overrides, source.Allows pair.1 := by
    simp only [checkKeys_ofPairs_iff, Source.Allows, hsource, false_and, or_false]
  simp only [gathered, checkKeys_update_iff, hfile .home nofun, hfile .work nofun,
    hfile .named nofun, checkKeys_variablePairs, hoverrides, HasUnknownKey, not_exists, not_and,
    not_not, and_true]
  constructor
  · rintro ⟨⟨⟨hhome, hwork⟩, hnamed⟩, hgiven⟩ source
    cases source with
    | overrides => exact hgiven
    | environment => exact nofun
    | named => exact hnamed
    | work => exact hwork
    | home => exact hhome
  · intro hall
    exact ⟨⟨⟨hall .home, hall .work⟩, hall .named⟩, hall .overrides⟩

/-! ## Loading -/

/-- Settings are loaded if all sources can be read and what they come to stands all checks. -/
theorem load_eq_ok_iff {settings : Settings} :
    load world file overrides = .ok settings ↔
      (∃ overlay, gather world file overrides = .ok overlay) ∧
        ofOverlay (gathered world file overrides) = .ok settings := by
  simp only [load, bind_eq_ok_iff, mapError_eq_ok_iff]
  constructor
  · rintro ⟨overlay, hgather, hsettings⟩
    rw [gather_eq_ok hgather] at hsettings
    exact ⟨⟨overlay, hgather⟩, hsettings⟩
  · rintro ⟨⟨overlay, hgather⟩, hsettings⟩
    rw [← gather_eq_ok hgather] at hsettings
    exact ⟨overlay, hgather, hsettings⟩

/-- Each field of loaded settings has the value that the strongest source gives it. -/
theorem get_of_load_eq_ok {settings : Settings}
    (h : load world file overrides = .ok settings) (field : Field) :
    settings.get field = strongest world file overrides field := by
  rw [get_of_ofOverlay_eq_ok (load_eq_ok_iff.1 h).2, get_gathered]

/-- Loading succeeds if all sources can be read, no key is unknown and the strongest values fit. -/
theorem exists_load_eq_ok_iff :
    (∃ settings, load world file overrides = .ok settings) ↔
      (∃ overlay, gather world file overrides = .ok overlay) ∧
        ¬ HasUnknownKey world file overrides ∧ Fits (strongest world file overrides) := by
  have hget : (gathered world file overrides).get = strongest world file overrides := by
    funext field
    exact get_gathered field
  simp only [load_eq_ok_iff, exists_and_left, exists_ofOverlay_eq_ok_iff, checkKeys_gathered_iff,
    hget]

end Gathering

/-- Each field of loaded settings has the value of the strongest source that says something about
it, and these values fit.  A key that is not allowed where it stands is a fault, whatever the
values.  There are no other faults than those in reading a source, such keys, and values that come
out on top and do not fit.  What is said about one field has no effect on another: two times that
settings are loaded, a field has the same value if all sources say the same about it. -/
theorem load_takes_strongest (world : World) (file : Option Path) (overrides : Ledger Text Value) :
    (∀ settings, load world file overrides = .ok settings →
        (∀ field, settings.get field = strongest world file overrides field) ∧
          Fits settings.get) ∧
      (HasUnknownKey world file overrides →
        ∃ fault, load world file overrides = .error fault) ∧
      ((∃ settings, load world file overrides = .ok settings) ↔
        (∃ overlay, gather world file overrides = .ok overlay) ∧
          ¬ HasUnknownKey world file overrides ∧ Fits (strongest world file overrides)) ∧
      ∀ world' file' overrides' settings settings' field,
        load world file overrides = .ok settings →
        load world' file' overrides' = .ok settings' →
        (∀ source : Source, source.value? world file overrides field =
          source.value? world' file' overrides' field) →
        settings.get field = settings'.get field := by
  refine ⟨?_, ?_, exists_load_eq_ok_iff, ?_⟩
  · intro settings h
    have hget : settings.get = strongest world file overrides := by
      funext field
      exact get_of_load_eq_ok h field
    refine ⟨fun field ↦ congrFun hget field, ?_⟩
    rw [hget]
    exact (exists_load_eq_ok_iff.1 ⟨settings, h⟩).2.2
  · intro hunknown
    cases h : load world file overrides with
    | error fault => exact ⟨fault, rfl⟩
    | ok settings => exact absurd hunknown (exists_load_eq_ok_iff.1 ⟨settings, h⟩).2.1
  · intro world' file' overrides' settings settings' field h h' hsources
    rw [get_of_load_eq_ok h, get_of_load_eq_ok h', strongest, strongest]
    simp only [hsources]

/-- Settings in both places, in a variable and among the overrides, where a field has the value of
the strongest of them.  With one key more that is no field they are not loaded. -/
theorem load_takes_strongest_of_four :
    let tree : FileTree := { entries := Ledger.ofList [([Text.lit "h"], .directory),
      ([Text.lit "h", '.' :: fileName], .file (Utf8.encode
        "sort_by = \"code\"\nencoding = \"x\"\nworkers = 2\n")),
      ([fileName], .file (Utf8.encode "[tool.shccn]\nencoding = \"ascii\"\nworkers = 3\n"))] }
    let world : World :=
      { tree, workDir := Path.ofText "/", homeDir := Path.ofText "/h",
        environment := Ledger.ofList [("SHCCN_WORKERS", "4"), ("SHCCN_EXTENSIONS", ".x")] }
    let overrides : Ledger Text Value := Ledger.ofList
      [("verbosity", .text "normal"), ("quiet", .flag true), ("verbose", .whole 0)]
    (∃ settings, load world none overrides = .ok settings ∧
        settings.get .sortBy = .text "code" ∧ settings.get .encoding = .text "ascii" ∧
        settings.get .workers = .whole 4 ∧ settings.get .verbosity = .text "quiet") ∧
      ∃ fault, load world none (Ledger.ofList [("colour", .nothing)]) = .error fault := by
  intro tree world overrides
  have hreturns : (load world none overrides).toOption.isSome = true := by decide +kernel
  obtain ⟨settings, hload⟩ := exists_eq_ok_of_isSome_toOption hreturns
  have hget := ((load_takes_strongest world none overrides).1 settings hload).1
  have hword (field : Field) {word : Text}
      (h : wordOf? (strongest world none overrides field) = some word) :
      settings.get field = .text word := by
    rw [hget, wordOf?_eq_some_iff.1 h]
  have hfour : Quantity.ofValue? (strongest world none overrides .workers) = some (.whole 4) := by
    decide +kernel
  refine ⟨⟨settings, hload, hword .sortBy (by decide +kernel), hword .encoding (by decide +kernel),
    ?_, hword .verbosity (by decide +kernel)⟩, ?_⟩
  · rw [hget]
    exact (Quantity.ofValue?_eq_some_iff.1 hfour).symm
  · apply (load_takes_strongest world none _).2.1
    refine ⟨.overrides, (.text "colour", .nothing), List.mem_singleton.2 rfl, ?_⟩
    rintro (⟨field, hfield⟩ | ⟨-, hflag | hflag⟩)
    · have hkey : Field.ofKey? "colour" = some field := by
        rw [Value.text.inj hfield, Field.ofKey?_key]
      exact absurd hkey nofun
    · exact absurd (Value.text.inj hflag) (by decide)
    · exact absurd (Value.text.inj hflag) (by decide)

/-- A file with a list in the place of a table among the tools.  The list holds no settings, and
they are loaded although the one key at the top level of the file is no field. -/
theorem load_list_among_tools :
    let octets := Utf8.encode "[tool]\nshccn = []\n"
    let tree := FileTree.empty.insert [fileName] (.file octets)
    let world : World :=
      { tree, workDir := Path.ofText "/", homeDir := Path.ofText "/", environment := ∅ }
    world.read (workFile world) = .ok octets ∧
      ((Toml.parseOctets octets).toOption.map fun document ↦
        (document.map Prod.fst, (Overlay.settingsPart document).typeName)) =
          some ([Text.lit "tool"], Text.lit "list") ∧
      Field.ofKey? "tool" = none ∧
      ∃ settings, load world none ∅ = .ok settings := by
  intro octets tree world
  have hreturns : (load world none ∅).toOption.isSome = true := by decide +kernel
  exact ⟨rfl, by decide +kernel, rfl, exists_eq_ok_of_isSome_toOption hreturns⟩

end Settings

end ShellMetrics
