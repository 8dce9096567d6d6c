import ShellMetrics.Proofs.Isolation
import ShellMetrics.Proofs.Scanning

/-!
# What ends an analysis

With settings of the declared types, collecting scripts is stopped by names that are too long and by
directories that may not be searched, and by nothing else.  A script that cannot be read is put down
with its reason, unless a fault escapes from loading it, and one such fault ends the whole analysis.
-/

namespace ShellMetrics

open Fallible

/-! ## Settings of the declared types -/

def Value.IsTexts (value : Value) : Prop := ∃ items : List Text, value = .list (items.map .text)

theorem Value.IsTexts.elements_eq {value : Value} (h : value.IsTexts) :
    ∃ items : List Text, value.elements = .ok (items.map .text) := by
  obtain ⟨items, rfl⟩ := h
  exact ⟨items, rfl⟩

structure Settings.IsTyped (settings : Settings) : Prop where
  extensions : settings.extensions.IsTexts
  excludePatterns : settings.excludePatterns.IsTexts
  allowHidden : ∃ value, settings.allowHidden = .flag value
  followLinks : ∃ value, settings.followLinks = .flag value
  encoding : ∃ name, settings.encoding = .text name
  maxSize : ∃ size, settings.maxSize = .real size
  workers : ∀ workers ∈ settings.workers, ∃ count, workers = .whole count

/-- The settings that hold when nothing is given are of the declared types. -/
theorem Settings.isTyped_default : Settings.default.IsTyped where
  extensions := ⟨[".sh", ".bash", ".ksh", ".zsh"], rfl⟩
  excludePatterns :=
    ⟨[".git/*", "node_modules/*", "vendor/*", "venv/*", ".venv/*", ".tox/*"], rfl⟩
  allowHidden := ⟨_, rfl⟩
  followLinks := ⟨_, rfl⟩
  encoding := ⟨_, rfl⟩
  maxSize := ⟨_, rfl⟩
  workers := nofun

/-! ## Faults in collecting -/

namespace Discovery

variable {world : World} {settings : Settings} {patterns : List Text} {path : Path} {fault : Fault}

section Typed

variable {extensions : List Text}
  (hextensions : settings.extensions.elements = .ok (extensions.map .text))
  (hpatterns : settings.excludePatterns.elements = .ok (patterns.map .text))

include hextensions hpatterns

/-- A path that is asked about stands for scripts unless a scan of it is broken off. -/
theorem breaks_of_expand_eq_error (h : expand world settings path = .error fault) :
    Breaks world settings patterns path fault := by
  rw [expand, bind_eq_error_iff] at h
  rcases h with hdirectory | ⟨answer, -, h⟩
  · obtain ⟨hentry, error, herror, rfl⟩ := FileTree.holds_eq_error_iff.1 hdirectory
    exact .root herror hentry
  cases answer with
  | false => exact absurd h pure_ne_error
  | true => exact breaks_of_scan_eq_error hextensions hpatterns h

/-- A path whose scan is broken off cannot be collected. -/
theorem Breaks.expand_ne_ok (h : Breaks world settings patterns path fault)
    (found : List Path) : expand world settings path ≠ .ok found := by
  intro hexpand
  obtain ⟨answer, hanswer, hfound⟩ := bind_eq_ok_iff.1 hexpand
  cases answer with
  | true => exact h.scan_ne_ok hextensions hpatterns found hfound
  | false =>
    -- Only a directory is searched, so the fault stems from asking about the path itself.
    have hno (location : Location) :
        world.tree.resolve world.here true path ≠ .ok (location, some .directory) := by
      intro hresolve
      have hyes := FileTree.isDirectory_eq_true_iff.2 ⟨location, hresolve⟩
      cases hanswer.symm.trans hyes
    cases h with
    | @root error herror hentry =>
      have hasked := FileTree.isDirectory_eq_error_iff.2 ⟨hentry, error, herror, rfl⟩
      cases hanswer.symm.trans hasked
    | search hroot => exact hno _ hroot
    | entry hlisted =>
      obtain ⟨location, hroot⟩ := hlisted.exists_root
      exact hno location hroot

end Typed

end Discovery

/-! ## Scripts that cannot be read -/

namespace Script

variable {world : World} {settings : Settings} {path : Path}

/-- The ways in which a script is out of reach: it cannot be looked at, is over the size limit,
cannot be opened, or cannot be decoded. -/
inductive IsUnreadable (world : World) (settings : Settings) (path : Path) : Prop
  | notFound {fault : Fault} (h : world.tree.entryAt world.here true path = .error fault)
  | tooLarge {entry : Entry} {limit : ℤ}
      (hentry : world.tree.entryAt world.here true path = .ok entry)
      (hlimit : settings.sizeLimit = .ok limit) (hsize : limit < entry.size)
  | notOpened {fault : Fault} (h : world.read path = .error fault)
  | noEncoding {fault : Fault} (h : decoderOf world settings.encoding = .error fault)
  | notDecoded {octets : List UInt8} {decode : List UInt8 → Except Fault Text} {fault : Fault}
      (hread : world.read path = .ok octets)
      (hdecoder : decoderOf world settings.encoding = .ok decode)
      (hdecode : decode octets = .error fault)

/-- A script that is out of reach has no text. -/
theorem IsUnreadable.readText_ne_ok (h : IsUnreadable world settings path) (content : Text) :
    readText world settings path ≠ .ok content := by
  intro hcontent
  obtain ⟨entry, limit, octets, decode, hentry, hlimit, hsize, hread, hdecoder, hdecode⟩ :=
    readText_eq_ok hcontent
  cases h with
  | notFound h => rw [hentry] at h; exact absurd h nofun
  | tooLarge hentry' hlimit' hsize' =>
    obtain rfl := Except.ok.inj (hentry.symm.trans hentry')
    obtain rfl := Except.ok.inj (hlimit.symm.trans hlimit')
    omega
  | notOpened h => rw [hread] at h; exact absurd h nofun
  | noEncoding h => rw [hdecoder] at h; exact absurd h nofun
  | notDecoded hread' hdecoder' hdecode' =>
    obtain rfl := Except.ok.inj (hread.symm.trans hread')
    obtain rfl := Except.ok.inj (hdecoder.symm.trans hdecoder')
    rw [hdecode] at hdecode'
    exact absurd hdecode' nofun

end Script

/-! ## Analyses -/

/-- The faults that end an analysis with settings of the declared types. -/
inductive Fault.EndsAnalysis : Fault → Prop
  | nameTooLong (text : Text) : EndsAnalysis (.system .nameTooLong text)
  | denied (text : Text) : EndsAnalysis (.system .denied text)
  | nullInPath : EndsAnalysis .nullInPath
  | undefinedSize : EndsAnalysis .undefinedSize
  | infiniteSize : EndsAnalysis .infiniteSize
  | nullInEncoding : EndsAnalysis .nullInEncoding
  | missingByteOrderMark : EndsAnalysis .missingByteOrderMark
  | codec (error : CodecError) : EndsAnalysis (.codec error)

theorem SystemError.IsNoAnswer.endsAnalysis {error : SystemError} (h : error.IsNoAnswer)
    (text : Text) : (Fault.system error text).EndsAnalysis := by
  rcases h with rfl | rfl
  · exact .denied text
  · exact .nameTooLong text

theorem Discovery.BreaksSearch.endsAnalysis {world : World} {root : Path} {start : List Text}
    {fault : Fault} (h : Discovery.BreaksSearch world root start fault) : fault.EndsAnalysis := by
  induction h with
  | null => exact .nullInPath
  | directory => exact .nameTooLong _
  | link => exact .nameTooLong _
  | deeper _ _ _ ih => exact ih

theorem Discovery.Breaks.endsAnalysis {world : World} {settings : Settings} {patterns : List Text}
    {root : Path} {fault : Fault} (h : Discovery.Breaks world settings patterns root fault) :
    fault.EndsAnalysis := by
  cases h with
  | root herror => exact herror.endsAnalysis _
  | search _ hsearch => exact hsearch.endsAnalysis
  | entry _ _ herror => exact herror.endsAnalysis _

theorem Script.Escapes.endsAnalysis {world : World} {settings : Settings} {path : Path}
    {fault : Fault} (h : Script.Escapes world settings path fault)
    (hencoding : ∃ name, settings.encoding = .text name) : fault.EndsAnalysis := by
  cases h with
  | nullInPath => exact .nullInPath
  | noLimit hentry hlimit =>
    rcases Script.sizeLimit_eq_error hlimit with rfl | rfl
    · exact .undefinedSize
    · exact .infiniteSize
  | encodingNotText hfits hnothing htext =>
    obtain ⟨name, hname⟩ := hencoding
    exact absurd hname (htext name)
  | nullInEncoding => exact .nullInEncoding
  | unmarked => exact .missingByteOrderMark
  | codec => exact .codec _

namespace Analysis

variable {world : World} {settings : Settings} {script : Path} {paths scripts : List Path}

/-- A fault ends the analysis: it breaks off the collecting of scripts for one of the paths, or
escapes from loading one of the scripts. -/
inductive Breaks (world : World) (settings : Settings) (paths : List Path) : Fault → Prop
  | collecting {patterns : List Text} {path : Path} {fault : Fault}
      (hpatterns : settings.excludePatterns.elements = .ok (patterns.map .text))
      (hpath : path ∈ paths) (hbreaks : Discovery.Breaks world settings patterns path fault) :
      Breaks world settings paths fault
  | escapes {scripts : List Path} {script : Path} {fault : Fault}
      (hcollect : Discovery.collect world settings paths = .ok scripts)
      (hscript : script ∈ scripts) (hescapes : Script.Escapes world settings script fault) :
      Breaks world settings paths fault

/-- Only what escapes from loading a script ends the analysis of it. -/
theorem escapes_of_outcome_eq_error {fault : Fault}
    (h : outcome world settings script = .error fault) :
    Script.Escapes world settings script fault := by
  unfold outcome at h
  cases hfile : analyzeFile world settings script with
  | ok report => simp [hfile] at h
  | error cause =>
    rw [hfile] at h
    dsimp only at h
    split at h
    · exact absurd h nofun
    · next hreason =>
      obtain rfl := Except.error.inj h
      rcases Script.readText_eq_error (analyzeFile_eq_error_iff.1 hfile) with ⟨reason, rfl⟩ | h
      · rw [reason?_fileAccess] at hreason
        exact absurd hreason nofun
      · exact h

theorem not_isContained_of_escapes {fault : Fault}
    (h : Script.Escapes world settings script fault) : ¬ IsContained world settings script := by
  intro hcontained
  obtain ⟨problem, hproblem, -⟩ :=
    hcontained fault (analyzeFile_eq_error_iff.2 (Script.readText_of_escapes h))
  exact h.ne_reported problem hproblem

/-- An analysis ends in a fault that breaks it. -/
theorem breaks_of_analyze_eq_error {fault : Fault} (htyped : settings.IsTyped)
    (h : analyze world settings paths = .error fault) : Breaks world settings paths fault := by
  simp only [analyze_eq_analyzeInTurn, analyzeInTurn, bind_eq_error_iff] at h
  rcases h with hcollect | ⟨scripts, hcollect, houtcomes | ⟨_, -, hpure⟩⟩
  · rw [Discovery.collect, bind_eq_error_iff] at hcollect
    rcases hcollect with hexpand | ⟨_, -, hpure⟩
    · obtain ⟨path, hpath, hexpand⟩ := exists_mem_of_mapM_eq_error hexpand
      obtain ⟨extensions, hextensions⟩ := htyped.extensions.elements_eq
      obtain ⟨patterns, hpatterns⟩ := htyped.excludePatterns.elements_eq
      exact .collecting hpatterns hpath
        (Discovery.breaks_of_expand_eq_error hextensions hpatterns hexpand)
    · exact absurd hpure pure_ne_error
  · obtain ⟨script, hscript, houtcome⟩ := exists_mem_of_mapM_eq_error houtcomes
    exact .escapes hcollect hscript (escapes_of_outcome_eq_error houtcome)
  · exact absurd hpure pure_ne_error

/-- An analysis that a fault breaks does not return. -/
theorem Breaks.analyze_ne_ok {fault : Fault} (h : Breaks world settings paths fault)
    (htyped : settings.IsTyped) (summary : Summary) :
    analyze world settings paths ≠ .ok summary := by
  intro hsummary
  obtain ⟨scripts, hcollect, hcontained, -⟩ := analyze_eq_ok_iff.1 hsummary
  cases h with
  | collecting hpatterns hpath hbreaks =>
    obtain ⟨extensions, hextensions⟩ := htyped.extensions.elements_eq
    obtain ⟨found, hfound, -⟩ := Discovery.collect_eq_ok_iff.1 hcollect
    obtain ⟨part, hok⟩ := exists_of_mapM_eq_ok hfound hpath
    exact hbreaks.expand_ne_ok hextensions hpatterns part hok
  | escapes hcollect' hscript hescapes =>
    obtain rfl := Except.ok.inj (hcollect.symm.trans hcollect')
    exact not_isContained_of_escapes hescapes (hcontained _ hscript)

theorem Breaks.endsAnalysis {fault : Fault} (h : Breaks world settings paths fault)
    (htyped : settings.IsTyped) : fault.EndsAnalysis := by
  cases h with
  | collecting _ _ hbreaks => exact hbreaks.endsAnalysis
  | escapes _ _ hescapes => exact hescapes.endsAnalysis htyped.encoding

/-- A script that cannot be read is put down with a reason. -/
theorem exists_find?_of_isUnreadable {summary : Summary}
    (hsummary : analyze world settings paths = .ok summary)
    (hcollect : Discovery.collect world settings paths = .ok scripts) (hscript : script ∈ scripts)
    (hunreadable : Script.IsUnreadable world settings script) :
    ∃ reason, summary.failures.find? script.toText = some reason := by
  obtain ⟨scripts', hcollect', hcontained, rfl⟩ := analyze_eq_ok_iff.1 hsummary
  obtain rfl := Except.ok.inj (hcollect.symm.trans hcollect')
  cases hread : Script.readText world settings script with
  | ok content => exact absurd hread (hunreadable.readText_ne_ok content)
  | error fault =>
    have hfile := analyzeFile_eq_error_iff.2 hread
    obtain ⟨reason, hreason⟩ := exists_failsWith hfile (hcontained script hscript fault hfile)
    exact exists_find?_summaryOf hscript hreason

/-- With settings of the declared types an analysis returns unless a fault breaks it.  The fault
that it ends in is of one of eight kinds, and if it returns, every script that cannot be read is put
down with a reason. -/
theorem analyze_returns_iff (htyped : settings.IsTyped) (world : World) (paths : List Path) :
    ((∃ summary, analyze world settings paths = .ok summary) ↔
        ∀ fault, ¬ Breaks world settings paths fault) ∧
      (∀ fault, analyze world settings paths = .error fault →
        Breaks world settings paths fault ∧ fault.EndsAnalysis) ∧
      ∀ summary scripts, analyze world settings paths = .ok summary →
        Discovery.collect world settings paths = .ok scripts →
        ∀ script ∈ scripts, Script.IsUnreadable world settings script →
          ∃ reason, summary.failures.find? script.toText = some reason := by
  refine ⟨⟨?_, ?_⟩, ?_, ?_⟩
  · rintro ⟨summary, hsummary⟩ fault hbreaks
    exact hbreaks.analyze_ne_ok htyped summary hsummary
  · intro hunbroken
    cases h : analyze world settings paths with
    | ok summary => exact ⟨summary, rfl⟩
    | error fault => exact absurd (breaks_of_analyze_eq_error htyped h) (hunbroken fault)
  · intro fault h
    have hbreaks := breaks_of_analyze_eq_error htyped h
    exact ⟨hbreaks, hbreaks.endsAnalysis htyped⟩
  · intro summary scripts hsummary hcollect script hscript hunreadable
    exact exists_find?_of_isUnreadable hsummary hcollect hscript hunreadable

/-- A script and a path to nothing, of which the second is put down. -/
theorem analyze_returns_beside_missing :
    let world : World :=
      { tree := FileTree.empty.insert [['a']] (.file [0x78]), workDir := Path.ofText "/",
        homeDir := Path.ofText "/", environment := ∅ }
    let paths := [Path.ofText "a", Path.ofText "b"]
    Settings.default.IsTyped ∧
      ∃ summary, analyze world .default paths = .ok summary ∧
        ∃ reason, summary.failures.find? ['b'] = some reason := by
  intro world paths
  have hreturns := (analyze_returns_iff Settings.isTyped_default world paths).2.2
  refine ⟨Settings.isTyped_default, _, rfl, ?_⟩
  have hmissing : world.tree.entryAt world.here true (Path.ofText "b") =
      .error (.system .missing ['b']) := rfl
  exact hreturns _ paths rfl rfl (Path.ofText "b") (by decide) (.notFound hmissing)

/-- Settings that are of the declared types and checked, under which a script without a byte order
mark takes the report on the script beside it away. -/
theorem analyze_ends_without_mark :
    let settings : Settings := { Settings.default with encoding := .text "utf-16" }
    let tree := (FileTree.empty.insert [['a']] (.file [0x78, 0x0a])).insert [['b']]
      (.file [0xff, 0xfe, 0x78, 0x00])
    let world : World :=
      { tree, workDir := Path.ofText "/", homeDir := Path.ofText "/", environment := ∅ }
    Settings.ofOverlay (.ofEntries [("encoding", .text "utf-16")]) = .ok settings ∧
      settings.IsTyped ∧ Script.IsUnreadable world settings (Path.ofText "a") ∧
      (∃ summary, analyze world settings [Path.ofText "b"] = .ok summary) ∧
      analyze world settings [Path.ofText "a", Path.ofText "b"] = .error .missingByteOrderMark := by
  intro settings tree world
  have hchecked : Settings.ofOverlay (.ofEntries [("encoding", .text "utf-16")]) = .ok settings :=
    rfl
  have htyped : settings.IsTyped := { Settings.isTyped_default with encoding := ⟨_, rfl⟩ }
  have hread : world.read (Path.ofText "a") = .ok [0x78, 0x0a] := rfl
  exact ⟨hchecked, htyped, .notDecoded hread rfl rfl, ⟨_, rfl⟩, rfl⟩

end Analysis

end ShellMetrics
