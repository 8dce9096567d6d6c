import ShellMetrics.Settings.Load
import ShellMetrics.Proofs.Lookup

/-!
# What loading settings can end in

Faults in files, in variables and in the settings as a whole are reported as problems of
configuration.  Two are not.  One is a name that is too long where a file is looked for.  The
other is an extension that is not a text: its start is asked for, which only texts have.
-/

namespace ShellMetrics

open Fallible

/-- The fault is reported as a problem of configuration, or as a case of one. -/
def Fault.IsConfiguration (fault : Fault) : Prop :=
  ∃ problem, fault = .reported problem ∧ .configuration ∈ problem.kind.ancestry

theorem Fault.isConfiguration_configuration (message : Text) :
    (Fault.reported (.configuration message)).IsConfiguration :=
  ⟨_, rfl, List.mem_cons_self⟩

theorem Fault.isConfiguration_invalidSetting (key shown reason : Text) :
    (Fault.reported (.invalidSetting key shown reason)).IsConfiguration :=
  ⟨_, rfl, List.mem_cons_of_mem _ List.mem_cons_self⟩

/-! ## Files and variables -/

namespace Overlay

variable {world : World} {path : Path} {fault : Fault}

theorem isConfiguration_of_mapError {role : Text} {result : Except Fault Overlay}
    (h : result.mapError (fileProblem role path) = .error fault) : fault.IsConfiguration := by
  obtain ⟨cause, -, rfl⟩ := mapError_eq_error_iff.1 h
  exact Fault.isConfiguration_configuration _

theorem ofOptionalFile_eq_error {role : Text} (h : ofOptionalFile world role path = .error fault) :
    world.exists? path = .error fault ∨ fault.IsConfiguration := by
  rw [ofOptionalFile, bind_eq_error_iff] at h
  rcases h with hexists | ⟨found, -, h⟩
  · exact .inl hexists
  cases found with
  | true => exact .inr (isConfiguration_of_mapError h)
  | false => exact absurd h nofun

theorem ofNamedFile_eq_error (h : ofNamedFile world path = .error fault) :
    world.exists? path = .error fault ∨ fault.IsConfiguration := by
  rw [ofNamedFile, bind_eq_error_iff] at h
  rcases h with hexists | ⟨found, -, h⟩
  · exact .inl hexists
  cases found with
  | true => exact .inr (isConfiguration_of_mapError h)
  | false =>
    obtain rfl := Except.error.inj h
    exact .inr (Fault.isConfiguration_configuration _)

theorem ofOptionalFile_of_exists?_eq_error {role : Text} (h : world.exists? path = .error fault) :
    ofOptionalFile world role path = .error fault := by
  rw [ofOptionalFile, h]
  rfl

theorem ofNamedFile_of_exists?_eq_error (h : world.exists? path = .error fault) :
    ofNamedFile world path = .error fault := by
  rw [ofNamedFile, h]
  rfl

/-- A fault of the variables is that of a variable whose text does not say anything. -/
theorem exists_eq_invalidSetting {environment : Ledger Text Text}
    (h : ofVariables environment = .error fault) :
    ∃ key shown reason, fault = .reported (.invalidSetting key shown reason) := by
  obtain ⟨field, -, overlay, hfield⟩ := exists_mem_of_foldlM_eq_error h
  rw [bind_eq_error_iff] at hfield
  rcases hfield with hfield | ⟨value, -, hpure⟩
  · unfold Field.fromVariables at hfield
    split at hfield
    · exact absurd hfield nofun
    · obtain ⟨cause, -, rfl⟩ := mapError_eq_error_iff.1 hfield
      exact ⟨_, _, _, rfl⟩
  · cases value <;> exact absurd hpure nofun

/-- A variable that cannot be read is a problem of configuration. -/
theorem ofVariables_eq_error {environment : Ledger Text Text}
    (h : ofVariables environment = .error fault) : fault.IsConfiguration := by
  obtain ⟨key, shown, reason, rfl⟩ := exists_eq_invalidSetting h
  exact Fault.isConfiguration_invalidSetting key shown reason

end Overlay

/-! ## Extensions -/

namespace Settings

variable {overlay : Overlay} {type : Text}

/-- Something that is not a text stands among the extensions, behind nothing but texts that start
with a dot. -/
def HasForeignExtension (overlay : Overlay) (type : Text) : Prop :=
  ∃ before item after, overlay.get .extensions = .list (before ++ item :: after) ∧
    (∀ other ∈ before, ∃ rest, other = .text ('.' :: rest)) ∧
    (∀ text, item ≠ .text text) ∧ item.typeName = type

theorem checkExtension_eq_ok_iff {value : Value} :
    checkExtension value = .ok () ↔ ∃ rest, value = .text ('.' :: rest) := by
  cases value with
  | text extension => cases extension <;> simp [checkExtension]
  | _ => simp [checkExtension]

theorem checkExtension_eq_noStart_iff {value : Value} :
    checkExtension value = .error (.noStart type) ↔
      (∀ text, value ≠ .text text) ∧ value.typeName = type := by
  cases value with
  | text extension => by_cases h : extension.head? = some '.' <;> simp [checkExtension, h]
  | _ => simp [checkExtension]

theorem checkExtensions_of_isTruthy {value : Value} (h : value.isTruthy = true) :
    checkExtensions value = value.elements >>= fun items ↦ items.forM checkExtension := by
  simp [checkExtensions, h]

theorem checkExtensions_of_not_isTruthy {value : Value} (h : value.isTruthy = false) :
    checkExtensions value = .error .noExtensions := by
  simp only [checkExtensions, h]
  rfl

/-- Texts may lack a dot, but they have a start. -/
theorem forM_checkExtension_ne_noStart (texts : List Text) :
    (texts.map Value.text).forM checkExtension ≠ .error (.noStart type) := by
  intro h
  obtain ⟨before, item, after, htexts, -, hitem⟩ := forM_eq_error_iff.1 h
  have hmem : item ∈ texts.map Value.text := by simp [htexts]
  obtain ⟨text, -, rfl⟩ := List.mem_map.1 hmem
  exact (checkExtension_eq_noStart_iff.1 hitem).1 text rfl

/-- The first extension that has no start is one behind nothing but texts that start with a dot. -/
theorem checkExtensions_eq_noStart_iff {value : Value} :
    checkExtensions value = .error (.noStart type) ↔
      ∃ before item after, value = .list (before ++ item :: after) ∧
        (∀ other ∈ before, ∃ rest, other = .text ('.' :: rest)) ∧
        (∀ text, item ≠ .text text) ∧ item.typeName = type := by
  constructor
  · intro h
    cases htruthy : value.isTruthy with
    | false =>
      rw [checkExtensions_of_not_isTruthy htruthy] at h
      exact absurd h nofun
    | true =>
      rw [checkExtensions_of_isTruthy htruthy] at h
      -- The elements of a text and of a table are texts again.
      cases value with
      | list items =>
        obtain ⟨before, item, after, rfl, hbefore, hitem⟩ := forM_eq_error_iff.1 h
        refine ⟨before, item, after, rfl, ?_, checkExtension_eq_noStart_iff.1 hitem⟩
        exact fun other hother ↦ checkExtension_eq_ok_iff.1 (hbefore other hother)
      | text value =>
        have htexts : value.map (fun c ↦ Value.text [c]) =
            (value.map fun c ↦ [c]).map Value.text := by simp
        change (value.map fun c ↦ Value.text [c]).forM checkExtension = _ at h
        rw [htexts] at h
        exact absurd h (forM_checkExtension_ne_noStart _)
      | table entries =>
        have htexts : entries.map (fun entry ↦ Value.text entry.1) =
            (entries.map Prod.fst).map Value.text := by simp
        change (entries.map fun entry ↦ Value.text entry.1).forM checkExtension = _ at h
        rw [htexts] at h
        exact absurd h (forM_checkExtension_ne_noStart _)
      | _ => exact absurd h nofun
  · rintro ⟨before, item, after, rfl, hbefore, hitem⟩
    rw [checkExtensions_of_isTruthy (by simp [Value.isTruthy])]
    apply forM_eq_error_iff.2
    refine ⟨before, item, after, rfl, ?_, checkExtension_eq_noStart_iff.2 hitem⟩
    exact fun other hother ↦ checkExtension_eq_ok_iff.2 (hbefore other hother)

/-! ## Other checks -/

theorem checkKeys_ne_noStart : overlay.checkKeys ≠ .error (.noStart type) := by
  have hkey (key : Text) : Overlay.keyFault key ≠ some (.noStart type) := by
    fun_cases Overlay.keyFault key <;> nofun
  unfold Overlay.checkKeys
  split
  · nofun
  · split
    · next fault hfault =>
      rintro h
      obtain rfl := Except.error.inj h
      obtain ⟨key, -, hnoStart⟩ := List.exists_of_findSome?_eq_some hfault
      exact hkey key hnoStart
    · nofun

theorem checkSize_ne_noStart {value : Value} : checkSize value ≠ .error (.noStart type) := by
  fun_cases checkSize value <;> nofun

theorem checkWorkers_ne_noStart {value : Value} : checkWorkers value ≠ .error (.noStart type) := by
  fun_cases checkWorkers value <;> nofun

theorem checkSortKey_ne_noStart {value : Value} : checkSortKey value ≠ .error (.noStart type) := by
  fun_cases checkSortKey value <;> nofun

theorem checkVerbosity_ne_noStart {value : Value} :
    checkVerbosity value ≠ .error (.noStart type) := by
  fun_cases checkVerbosity value <;> nofun

/-- Behind the extensions no check asks for the start of a text. -/
theorem ofOverlay_eq_noStart_iff :
    ofOverlay overlay = .error (.noStart type) ↔
      overlay.checkKeys = .ok () ∧ HasForeignExtension overlay type := by
  simp only [ofOverlay, bind_eq_error_iff, checkKeys_ne_noStart, checkSize_ne_noStart,
    checkWorkers_ne_noStart, checkSortKey_ne_noStart, checkVerbosity_ne_noStart, pure_ne_error,
    checkExtensions_eq_noStart_iff, HasForeignExtension, and_false, exists_false, or_false,
    false_or]
  constructor
  · rintro ⟨_, hkeys, hforeign⟩
    exact ⟨hkeys, hforeign⟩
  · rintro ⟨hkeys, hforeign⟩
    exact ⟨_, hkeys, hforeign⟩

/-! ## All sources -/

variable {world : World} {file : Option Path} {overrides : Ledger Text Value} {fault : Fault}

/-- The files that are looked for, each if there is no fault in those before. -/
inductive IsLookedUp (world : World) (file : Option Path) : Path → Prop
  | home : IsLookedUp world file (homeFile world)
  | work {home : Overlay}
      (hhome : Overlay.ofOptionalFile world "global config" (homeFile world) = .ok home) :
      IsLookedUp world file (workFile world)
  | named {home work : Overlay} {path : Path}
      (hhome : Overlay.ofOptionalFile world "global config" (homeFile world) = .ok home)
      (hwork : Overlay.ofOptionalFile world "project config" (workFile world) = .ok work)
      (hfile : file = some path) : IsLookedUp world file path

/-- The settings of the file that is named, if one is. -/
def ofNamed (world : World) : Option Path → Except Fault Overlay
  | some path => Overlay.ofNamedFile world path
  | none => .ok .empty

theorem gather_eq :
    gather world file overrides = do
      let home ← Overlay.ofOptionalFile world "global config" (homeFile world)
      let work ← Overlay.ofOptionalFile world "project config" (workFile world)
      let named ← ofNamed world file
      let environment ← Overlay.ofVariables world.environment
      return (((home.update work).update named).update environment).update
        (Overlay.ofOverrides overrides) := by
  cases file <;> rfl

/-- The sources fail with a problem of configuration, unless a file cannot even be looked for. -/
theorem gather_eq_error (h : gather world file overrides = .error fault) :
    (∃ place, IsLookedUp world file place ∧ world.exists? place = .error fault) ∨
      fault.IsConfiguration := by
  simp only [gather_eq, bind_eq_error_iff] at h
  rcases h with hhome | ⟨home, hhome, hwork | ⟨work, hwork, hnamed |
    ⟨named, -, hvariables | ⟨_, -, hpure⟩⟩⟩⟩
  · rcases Overlay.ofOptionalFile_eq_error hhome with hexists | hfault
    · exact .inl ⟨_, .home, hexists⟩
    · exact .inr hfault
  · rcases Overlay.ofOptionalFile_eq_error hwork with hexists | hfault
    · exact .inl ⟨_, .work hhome, hexists⟩
    · exact .inr hfault
  · cases file with
    | none => exact absurd hnamed nofun
    | some path =>
      rcases Overlay.ofNamedFile_eq_error hnamed with hexists | hfault
      · exact .inl ⟨_, .named hhome hwork rfl, hexists⟩
      · exact .inr hfault
  · exact .inr (Overlay.ofVariables_eq_error hvariables)
  · exact absurd hpure pure_ne_error

theorem IsLookedUp.gather_eq_error {place : Path} (h : IsLookedUp world file place)
    (hexists : world.exists? place = .error fault) :
    gather world file overrides = .error fault := by
  simp only [gather_eq, bind_eq_error_iff]
  cases h with
  | home => exact .inl (Overlay.ofOptionalFile_of_exists?_eq_error hexists)
  | work hhome =>
    exact .inr ⟨_, hhome, .inl (Overlay.ofOptionalFile_of_exists?_eq_error hexists)⟩
  | named hhome hwork hfile =>
    refine .inr ⟨_, hhome, .inr ⟨_, hwork, .inl ?_⟩⟩
    rw [hfile]
    exact Overlay.ofNamedFile_of_exists?_eq_error hexists

theorem settingsProblem_noStart_or (fault : Fault) :
    (∃ type, fault = .noStart type ∧ settingsProblem fault = .noStart type) ∨
      (settingsProblem fault).IsConfiguration := by
  fun_cases settingsProblem fault with
  | case1 type => exact .inl ⟨type, rfl, rfl⟩
  | case2 => exact .inr (Fault.isConfiguration_configuration _)

theorem IsLookedUp.load_eq_error {place : Path} (h : IsLookedUp world file place)
    (hexists : world.exists? place = .error fault) : load world file overrides = .error fault := by
  rw [load, h.gather_eq_error hexists]
  rfl

/-- What is passed on is a problem of configuration, a fault in asking for a file, or an extension
that is not a text. -/
theorem load_eq_error (h : load world file overrides = .error fault) :
    (∃ place, IsLookedUp world file place ∧ world.exists? place = .error fault) ∨
      (∃ type, fault = .noStart type) ∨ fault.IsConfiguration := by
  rw [load, bind_eq_error_iff] at h
  rcases h with hgather | ⟨overlay, -, hoverlay⟩
  · rcases gather_eq_error hgather with hplace | hfault
    · exact .inl hplace
    · exact .inr (.inr hfault)
  · obtain ⟨cause, -, rfl⟩ := mapError_eq_error_iff.1 hoverlay
    rcases settingsProblem_noStart_or cause with ⟨type, -, htype⟩ | hfault
    · exact .inr (.inl ⟨type, htype⟩)
    · exact .inr (.inr hfault)

/-- A value that is not a text among the extensions that all sources come to, where nothing before
it is at fault. -/
def LoadsForeignExtension (world : World) (file : Option Path) (overrides : Ledger Text Value)
    (type : Text) : Prop :=
  ∃ overlay, gather world file overrides = .ok overlay ∧ overlay.checkKeys = .ok () ∧
    HasForeignExtension overlay type

/-- An extension that is not a text is the one fault in the settings themselves that is not
reported. -/
theorem load_eq_noStart_iff :
    load world file overrides = .error (.noStart type) ↔
      LoadsForeignExtension world file overrides type := by
  constructor
  · intro h
    rw [load, bind_eq_error_iff] at h
    rcases h with hgather | ⟨overlay, hgather, hoverlay⟩
    · rcases gather_eq_error hgather with ⟨place, -, hexists⟩ | ⟨problem, hproblem, -⟩
      · obtain ⟨error, -, hfault⟩ := FileTree.holds_eq_error hexists
        cases hfault
      · exact absurd hproblem nofun
    · obtain ⟨cause, hcause, hfault⟩ := mapError_eq_error_iff.1 hoverlay
      rcases settingsProblem_noStart_or cause with ⟨other, rfl, -⟩ | ⟨problem, hproblem, -⟩
      · obtain rfl := Fault.noStart.inj hfault
        exact ⟨overlay, hgather, ofOverlay_eq_noStart_iff.1 hcause⟩
      · rw [hfault] at hproblem
        exact absurd hproblem nofun
  · rintro ⟨overlay, hgather, hforeign⟩
    rw [load, hgather]
    exact mapError_eq_error_iff.2 ⟨_, ofOverlay_eq_noStart_iff.2 hforeign, rfl⟩

/-- Settings are loaded, or the fault is reported as a problem of configuration, exactly if every
file that is looked for can be asked about and no extension is anything but a text. -/
theorem load_contained_iff (world : World) (file : Option Path) (overrides : Ledger Text Value) :
    (((∃ settings, load world file overrides = .ok settings) ∨
        ∃ fault, load world file overrides = .error fault ∧ fault.IsConfiguration) ↔
      (∀ place, IsLookedUp world file place → ∃ answer, world.exists? place = .ok answer) ∧
        ∀ type, ¬ LoadsForeignExtension world file overrides type) ∧
      ∀ type, load world file overrides = .error (.noStart type) ↔
        LoadsForeignExtension world file overrides type := by
  refine ⟨⟨?_, ?_⟩, fun type ↦ load_eq_noStart_iff⟩
  · intro hcontained
    -- Neither of the two faults is a problem of configuration.
    have hfaults {fault : Fault} (hload : load world file overrides = .error fault)
        (hfault : ∀ problem, fault ≠ .reported problem) : False := by
      rcases hcontained with ⟨settings, hok⟩ | ⟨fault', herror, problem, rfl, -⟩
      · rw [hok] at hload
        exact absurd hload nofun
      · rw [herror] at hload
        exact hfault problem (Except.error.inj hload).symm
    constructor
    · intro place hplace
      cases hexists : world.exists? place with
      | ok answer => exact ⟨answer, rfl⟩
      | error fault =>
        refine (hfaults (hplace.load_eq_error hexists) ?_).elim
        obtain ⟨error, -, rfl⟩ := FileTree.holds_eq_error hexists
        nofun
    · intro type hforeign
      exact hfaults (load_eq_noStart_iff.2 hforeign) nofun
  · rintro ⟨hplaces, hforeign⟩
    cases hload : load world file overrides with
    | ok settings => exact .inl ⟨settings, rfl⟩
    | error fault =>
      rcases load_eq_error hload with ⟨place, hplace, hexists⟩ | ⟨type, rfl⟩ | hfault
      · obtain ⟨answer, hanswer⟩ := hplaces place hplace
        rw [hexists] at hanswer
        exact absurd hanswer nofun
      · exact absurd (load_eq_noStart_iff.1 hload) (hforeign type)
      · exact .inr ⟨fault, rfl, hfault⟩

/-- The type that the start was asked of, if this is the fault. -/
def startless? : Except Fault Settings → Option Text
  | .error (.noStart type) => some type
  | _ => none

theorem eq_noStart_of_startless? {result : Except Fault Settings}
    (h : startless? result = some type) : result = .error (.noStart type) := by
  unfold startless? at h
  split at h
  · rw [Option.some.inj h]
  · exact absurd h nofun

/-- A file in the working directory that gives a number for an extension. -/
theorem load_whole_extension :
    let tree := FileTree.empty.insert [fileName] (.file (Utf8.encode "extensions = [1]\n"))
    let world : World :=
      { tree, workDir := Path.ofText "/", homeDir := Path.ofText "/", environment := ∅ }
    load world none ∅ = .error (.noStart "int") ∧ ¬ (Fault.noStart "int").IsConfiguration :=
  ⟨eq_noStart_of_startless? (by decide +kernel), nofun⟩

end Settings

end ShellMetrics
