import ShellMetrics.Proofs.Collecting
import ShellMetrics.Proofs.Loading
import ShellMetrics.Proofs.Overwriting
import ShellMetrics.Proofs.Schedule

/-!
# Failures that stay with their script

If nothing but problems with files comes up, an analysis is put together script by script.  The
reports are those of the scripts that can be read, in order, and every other script is put down
under its text with the reason.  Hence paths that are analyzed together come to what they come to
apart, and a path that cannot be read changes the report of no other.
-/

namespace ShellMetrics

open Fallible

def Fault.IsFileAccess (fault : Fault) : Prop :=
  ∃ problem, fault = .reported problem ∧ problem.kind = .fileAccess

namespace Analysis

variable {world : World} {settings : Settings} {script : Path} {paths scripts : List Path}

/-! ## Single scripts -/

/-- The script cannot be read, for the reason given. -/
def FailsWith (world : World) (settings : Settings) (script : Path) (reason : Text) : Prop :=
  analyzeFile world settings script = .error (.reported (.fileAccess script reason))

/-- Nothing worse than a problem with the file comes of the script. -/
def IsContained (world : World) (settings : Settings) (script : Path) : Prop :=
  ∀ fault, analyzeFile world settings script = .error fault → fault.IsFileAccess

def report? (world : World) (settings : Settings) (script : Path) : Option Report :=
  (analyzeFile world settings script).toOption

def failure? (world : World) (settings : Settings) (script : Path) : Option (Text × Text) :=
  match analyzeFile world settings script with
  | .ok _ => none
  | .error fault => (reason? fault).map (script.toText, ·)

theorem reason?_fileAccess (path : Path) (reason : Text) :
    reason? (.reported (.fileAccess path reason)) = some reason := rfl

/-- The fault of a script is a problem with the file exactly if there is a reason to put down. -/
theorem reason?_eq_some_iff {fault : Fault} {reason : Text}
    (h : analyzeFile world settings script = .error fault) :
    reason? fault = some reason ↔ fault = .reported (.fileAccess script reason) := by
  constructor
  · intro hreason
    rcases Script.readText_eq_error (analyzeFile_eq_error_iff.1 h) with ⟨other, rfl⟩ | hescapes
    · rw [reason?_fileAccess] at hreason
      rw [Option.some.inj hreason]
    · cases fault with
      | reported problem => exact absurd rfl (hescapes.ne_reported problem)
      | _ => exact absurd hreason nofun
  · rintro rfl
    exact reason?_fileAccess script reason

theorem isContained_of_ok {report : Report} (h : analyzeFile world settings script = .ok report) :
    IsContained world settings script := by
  intro fault hfault
  rw [h] at hfault
  exact absurd hfault nofun

theorem FailsWith.isContained {reason : Text} (h : FailsWith world settings script reason) :
    IsContained world settings script := by
  intro fault hfault
  rw [h] at hfault
  obtain rfl := Except.error.inj hfault
  exact ⟨_, rfl, rfl⟩

/-- A problem with a file gives the reason. -/
theorem exists_failsWith {fault : Fault} (h : analyzeFile world settings script = .error fault)
    (hfault : fault.IsFileAccess) : ∃ reason, FailsWith world settings script reason := by
  obtain ⟨problem, rfl, -⟩ := hfault
  rcases Script.readText_eq_error (analyzeFile_eq_error_iff.1 h) with ⟨reason, hreason⟩ | hescapes
  · rw [hreason] at h
    exact ⟨reason, h⟩
  · exact absurd rfl (hescapes.ne_reported problem)

/-- A contained script is reported on or fails with a reason. -/
theorem IsContained.cases (h : IsContained world settings script) :
    (∃ report, analyzeFile world settings script = .ok report) ∨
      ∃ reason, FailsWith world settings script reason := by
  cases hfile : analyzeFile world settings script with
  | ok report => exact .inl ⟨report, rfl⟩
  | error fault => exact .inr (exists_failsWith hfile (h fault hfile))

theorem outcome_of_ok {report : Report} (h : analyzeFile world settings script = .ok report) :
    outcome world settings script = .ok (.report report) := by
  rw [outcome, h]

theorem outcome_of_failsWith {reason : Text} (h : FailsWith world settings script reason) :
    outcome world settings script = .ok (.failure reason) := by
  rw [outcome, h]
  rfl

/-- Something comes of a script unless worse than a problem with its file does. -/
theorem exists_outcome_iff :
    (∃ outcome', outcome world settings script = .ok outcome') ↔
      IsContained world settings script := by
  constructor
  · rintro ⟨outcome', h⟩ fault hfault
    simp only [outcome, hfault] at h
    cases hreason : reason? fault with
    | none => simp [hreason] at h
    | some reason =>
      exact ⟨_, (reason?_eq_some_iff hfault).1 hreason, rfl⟩
  · intro h
    rcases h.cases with ⟨report, hreport⟩ | ⟨reason, hreason⟩
    · exact ⟨_, outcome_of_ok hreport⟩
    · exact ⟨_, outcome_of_failsWith hreason⟩

theorem failure?_eq_some_iff {entry : Text × Text} :
    failure? world settings script = some entry ↔
      script.toText = entry.1 ∧ FailsWith world settings script entry.2 := by
  unfold failure? FailsWith
  cases hfile : analyzeFile world settings script with
  | ok report => simp
  | error fault =>
    obtain ⟨text, reason⟩ := entry
    simp only [Option.map_eq_some_iff, Prod.mk.injEq, Except.error.injEq]
    constructor
    · rintro ⟨_, hreason, htext, rfl⟩
      exact ⟨htext, (reason?_eq_some_iff hfile).1 hreason⟩
    · rintro ⟨htext, hfault⟩
      exact ⟨reason, (reason?_eq_some_iff hfile).2 hfault, htext, rfl⟩

theorem report?_of_ok {report : Report} (h : analyzeFile world settings script = .ok report) :
    report? world settings script = some report := by
  rw [report?, h]
  rfl

theorem failure?_of_ok {report : Report} (h : analyzeFile world settings script = .ok report) :
    failure? world settings script = none := by
  rw [failure?, h]

theorem report?_of_failsWith {reason : Text} (h : FailsWith world settings script reason) :
    report? world settings script = none := by
  rw [report?, h]
  rfl

theorem failure?_of_failsWith {reason : Text} (h : FailsWith world settings script reason) :
    failure? world settings script = some (script.toText, reason) :=
  failure?_eq_some_iff.2 ⟨rfl, h⟩

/-- There is one reason why a script cannot be read. -/
theorem FailsWith.unique {reason other : Text} (h : FailsWith world settings script reason)
    (hother : FailsWith world settings script other) : reason = other := by
  have hentry := (failure?_of_failsWith h).symm.trans (failure?_of_failsWith hother)
  exact (Prod.mk.inj (Option.some.inj hentry)).2

/-! ## All scripts -/

/-- The summary of scripts that are each taken alone. -/
def summaryOf (world : World) (settings : Settings) (scripts : List Path) : Summary where
  reports := scripts.filterMap (report? world settings)
  failures := Ledger.ofList (scripts.filterMap (failure? world settings))

/-- One more outcome adds what the script gives alone. -/
theorem addOutcome_eq (summary : Summary) {outcome' : Outcome}
    (h : outcome world settings script = .ok outcome') :
    addOutcome summary (script, outcome') =
      { reports := summary.reports ++ (report? world settings script).toList
        failures := summary.failures.insertAll (failure? world settings script).toList } := by
  rcases (exists_outcome_iff.1 ⟨_, h⟩).cases with ⟨report, hreport⟩ | ⟨reason, hreason⟩
  · obtain rfl := Except.ok.inj ((outcome_of_ok hreport).symm.trans h)
    rw [report?_of_ok hreport, failure?_of_ok hreport]
    rfl
  · obtain rfl := Except.ok.inj ((outcome_of_failsWith hreason).symm.trans h)
    rw [report?_of_failsWith hreason, failure?_of_failsWith hreason]
    simp [addOutcome, Ledger.insertAll]

theorem toList_append_filterMap {α β : Type} (f : α → Option β) (item : α) (items : List α) :
    (f item).toList ++ items.filterMap f = (item :: items).filterMap f := by
  cases h : f item <;> simp [h]

/-- Summing up adds what each script comes to, in order. -/
theorem foldl_addOutcome {outcomes : List Outcome}
    (h : List.Forall₂ (fun script outcome' ↦ outcome world settings script = .ok outcome')
      scripts outcomes) (summary : Summary) :
    (scripts.zip outcomes).foldl addOutcome summary =
      { reports := summary.reports ++ scripts.filterMap (report? world settings)
        failures :=
          summary.failures.insertAll (scripts.filterMap (failure? world settings)) } := by
  induction h generalizing summary with
  | nil => simp
  | cons hfirst _ ih =>
    rw [List.zip_cons_cons, List.foldl_cons, ih, addOutcome_eq summary hfirst]
    simp only [List.append_assoc, ← Ledger.insertAll_append, toList_append_filterMap]

/-- An analysis returns if the scripts are collected and each of them is contained, and then it is
the summary of the scripts taken alone. -/
theorem analyze_eq_ok_iff {summary : Summary} :
    analyze world settings paths = .ok summary ↔
      ∃ scripts, Discovery.collect world settings paths = .ok scripts ∧
        (∀ script ∈ scripts, IsContained world settings script) ∧
        summary = summaryOf world settings scripts := by
  simp only [analyze_eq_analyzeInTurn, analyzeInTurn, bind_eq_ok_iff, pure_eq_ok_iff]
  have hsummary {scripts : List Path} {outcomes : List Outcome}
      (houtcomes : scripts.mapM (outcome world settings) = .ok outcomes) :
      summarize (scripts.zip outcomes) = summaryOf world settings scripts :=
    foldl_addOutcome (mapM_eq_ok_iff.1 houtcomes) _
  constructor
  · rintro ⟨scripts, hcollect, outcomes, houtcomes, rfl⟩
    refine ⟨scripts, hcollect, ?_, hsummary houtcomes⟩
    intro script hscript
    exact exists_outcome_iff.1 (exists_of_mapM_eq_ok houtcomes hscript)
  · rintro ⟨scripts, hcollect, hcontained, rfl⟩
    obtain ⟨outcomes, houtcomes⟩ := exists_mapM_eq_ok_iff.2 fun script hscript ↦
      exists_outcome_iff.2 (hcontained script hscript)
    exact ⟨scripts, hcollect, outcomes, houtcomes, hsummary houtcomes⟩

/-- The summary of two lists of scripts is put together from those of each. -/
theorem summaryOf_append (first second : List Path) :
    summaryOf world settings (first ++ second) =
      { reports := (summaryOf world settings first).reports ++
          (summaryOf world settings second).reports
        failures := (summaryOf world settings first).failures.update
          (summaryOf world settings second).failures } := by
  simp only [summaryOf, List.filterMap_append, Ledger.ofList_append]

/-- The keys of the failures are the texts of the scripts without a report, in order. -/
theorem keys_summaryOf (h : ∀ script ∈ scripts, IsContained world settings script) :
    (summaryOf world settings scripts).failures.keys =
      ((scripts.filter fun script ↦ (report? world settings script).isNone).map
        Path.toText).eraseDups := by
  rw [summaryOf, Ledger.keys_ofList]
  congr 1
  induction scripts with
  | nil => rfl
  | cons script scripts ih =>
    obtain ⟨hscript, hrest⟩ := List.forall_mem_cons.1 h
    rcases hscript.cases with ⟨report, hreport⟩ | ⟨reason, hreason⟩
    · simp [failure?_of_ok hreport, report?_of_ok hreport, ih hrest]
    · simp [failure?_of_failsWith hreason, report?_of_failsWith hreason, ih hrest]

/-- A reason that stands under a text is the reason of a script with this text. -/
theorem exists_mem_of_find?_summaryOf {text reason : Text}
    (h : (summaryOf world settings scripts).failures.find? text = some reason) :
    ∃ script ∈ scripts, script.toText = text ∧ FailsWith world settings script reason := by
  rw [summaryOf, Ledger.find?_ofList] at h
  obtain ⟨script, hscript, hfailure⟩ := List.mem_filterMap.1 (Ledger.mem_of_lastWith_eq_some h)
  exact ⟨script, hscript, failure?_eq_some_iff.1 hfailure⟩

/-- Under the text of a script that fails there stands a reason. -/
theorem exists_find?_summaryOf {reason : Text} (hscript : script ∈ scripts)
    (h : FailsWith world settings script reason) :
    ∃ other, (summaryOf world settings scripts).failures.find? script.toText = some other := by
  have hfailure : (script.toText, reason) ∈ scripts.filterMap (failure? world settings) :=
    List.mem_filterMap.2 ⟨script, hscript, failure?_of_failsWith h⟩
  have hkey : script.toText ∈ (scripts.filterMap (failure? world settings)).map Prod.fst :=
    List.mem_map.2 ⟨_, hfailure, rfl⟩
  rw [summaryOf, Ledger.find?_ofList]
  apply Option.ne_none_iff_exists'.1
  intro hnone
  exact Ledger.lastWith_eq_none_iff.1 hnone hkey

/-- If texts tell the scripts apart, a reason stands under a text exactly if the script of this
text fails with it. -/
theorem find?_summaryOf (hplain : ∀ script ∈ scripts, script.IsPlain) {text reason : Text} :
    (summaryOf world settings scripts).failures.find? text = some reason ↔
      ∃ script ∈ scripts, script.toText = text ∧ FailsWith world settings script reason := by
  constructor
  · exact exists_mem_of_find?_summaryOf
  · rintro ⟨script, hscript, rfl, hreason⟩
    -- Some reason stands there, and the script that it is the reason of has the same text.
    obtain ⟨other, hfind⟩ := exists_find?_summaryOf hscript hreason
    obtain ⟨twin, htwin, htext, hother⟩ := exists_mem_of_find?_summaryOf hfind
    obtain rfl := Path.eq_of_toText_eq (hplain twin htwin) (hplain script hscript) htext
    rw [hreason.unique hother, hfind]

/-- A script that fails, put anywhere among the others, adds its reason and nothing else. -/
theorem summaryOf_append_cons {former latter : List Path} {lost : Path} {reason : Text}
    (hplain : ∀ script ∈ former ++ lost :: latter, script.IsPlain)
    (hlost : FailsWith world settings lost reason) :
    (summaryOf world settings (former ++ lost :: latter)).reports =
        (summaryOf world settings (former ++ latter)).reports ∧
      ∀ text, (summaryOf world settings (former ++ lost :: latter)).failures.find? text =
        if text = lost.toText then some reason
        else (summaryOf world settings (former ++ latter)).failures.find? text := by
  constructor
  · simp [summaryOf, report?_of_failsWith hlost]
  intro text
  have hmiddle : ∀ script, script ∈ former ++ lost :: latter ↔
      script = lost ∨ script ∈ former ++ latter := by
    intro script
    simp only [List.mem_append, List.mem_cons]
    tauto
  have hrest : ∀ script ∈ former ++ latter, script.IsPlain :=
    fun script hscript ↦ hplain script ((hmiddle script).2 (.inr hscript))
  have hlostPlain : lost.IsPlain := hplain lost ((hmiddle lost).2 (.inl rfl))
  apply Option.ext
  intro other
  rw [find?_summaryOf hplain]
  split
  · next htext =>
    subst htext
    rw [Option.some.injEq]
    constructor
    · rintro ⟨script, hscript, htext, hother⟩
      obtain rfl := Path.eq_of_toText_eq (hplain script hscript) hlostPlain htext
      exact hlost.unique hother
    · rintro rfl
      exact ⟨lost, (hmiddle lost).2 (.inl rfl), rfl, hlost⟩
  · next htext =>
    rw [find?_summaryOf hrest]
    constructor
    · rintro ⟨script, hscript, rfl, hother⟩
      rcases (hmiddle script).1 hscript with rfl | hscript
      · exact absurd rfl htext
      · exact ⟨script, hscript, rfl, hother⟩
    · rintro ⟨script, hscript, hfails⟩
      exact ⟨script, (hmiddle script).2 (.inr hscript), hfails⟩

/-! ## Analyses -/

/-- If the scripts are collected and each of them is contained, the analysis returns.  Its reports
are those of the scripts that load, and its failures the reasons of the others.  It is put together
from the analyses of both parts of the paths, and a path that cannot be read, put anywhere among
them, changes no report.  Paths that were read are plain, and so are trees that were filled by
placing entries. -/
theorem analyze_isolates_failures {first second : List Path} (htree : world.tree.IsPlain)
    (hpaths : ∀ path ∈ first ++ second, path.IsPlain)
    (hcollect : Discovery.collect world settings (first ++ second) = .ok scripts)
    (hcontained : ∀ script ∈ scripts, IsContained world settings script) :
    ∃ summary, analyze world settings (first ++ second) = .ok summary ∧
      summary.reports = scripts.filterMap (report? world settings) ∧
      summary.failures.keys =
        ((scripts.filter fun script ↦ (report? world settings script).isNone).map
          Path.toText).eraseDups ∧
      (∀ text reason, summary.failures.find? text = some reason ↔
        ∃ script ∈ scripts, script.toText = text ∧ FailsWith world settings script reason) ∧
      (∃ former latter, analyze world settings first = .ok former ∧
        analyze world settings second = .ok latter ∧
        summary.reports = former.reports ++ latter.reports ∧
        summary.failures = former.failures.update latter.failures) ∧
      ∀ lost reason, lost.IsPlain → world.isDirectory lost = .ok false →
        FailsWith world settings lost reason →
        ∃ other, analyze world settings (first ++ lost :: second) = .ok other ∧
          other.reports = summary.reports ∧
          ∀ text, other.failures.find? text =
            if text = lost.toText then some reason else summary.failures.find? text := by
  obtain ⟨former, latter, hformer, hlatter, rfl⟩ := Discovery.collect_append.1 hcollect
  have hplain : ∀ script ∈ former ++ latter, script.IsPlain :=
    fun script ↦ Discovery.isPlain_of_mem_collect htree hpaths hcollect
  obtain ⟨hfirst, hsecond⟩ := List.forall_mem_append.1 hcontained
  refine ⟨summaryOf world settings (former ++ latter),
    analyze_eq_ok_iff.2 ⟨_, hcollect, hcontained, rfl⟩, rfl, keys_summaryOf hcontained,
    fun text reason ↦ find?_summaryOf hplain, ?_, ?_⟩
  · refine ⟨_, _, analyze_eq_ok_iff.2 ⟨former, hformer, hfirst, rfl⟩,
      analyze_eq_ok_iff.2 ⟨latter, hlatter, hsecond, rfl⟩, ?_, ?_⟩
    · rw [summaryOf_append]
    · rw [summaryOf_append]
  · intro lost reason hlost hdirectory hfails
    have hcollected := Discovery.collect_append_cons hformer hlatter hdirectory
    have hall : ∀ script ∈ former ++ lost :: latter, IsContained world settings script := by
      rw [List.forall_mem_append, List.forall_mem_cons]
      exact ⟨hfirst, hfails.isContained, hsecond⟩
    have hallPlain : ∀ script ∈ former ++ lost :: latter, script.IsPlain := by
      obtain ⟨hformerPlain, hlatterPlain⟩ := List.forall_mem_append.1 hplain
      rw [List.forall_mem_append, List.forall_mem_cons]
      exact ⟨hformerPlain, hlost, hlatterPlain⟩
    exact ⟨_, analyze_eq_ok_iff.2 ⟨_, hcollected, hall, rfl⟩,
      summaryOf_append_cons hallPlain hfails⟩

/-- A directory with a script of one octet and one of two, of which only the first is within the
limit, the second given once more by itself, and a path to nothing that is given twice. -/
theorem analyze_isolates_failures_in_directory :
    let tree : FileTree := { entries := Ledger.ofList [([['d']], .directory),
      ([['d'], Text.lit "a.sh"], .file [0x78]), ([['d'], Text.lit "b.sh"], .file [0x78, 0x79])] }
    let world : World :=
      { tree, workDir := Path.ofText "/", homeDir := Path.ofText "/", environment := ∅ }
    let settings : Settings :=
      { Settings.default with maxSize := .real (.ofDecimal false 1 (-6)) }
    let missing := Path.ofText "x"
    let small := Path.ofText "d/a.sh"
    let large := Path.ofText "d/b.sh"
    let first := [missing, Path.ofText "d"]
    let second := [large, missing]
    let scripts := [missing, small, large, large, missing]
    tree.IsPlain ∧ (∀ path ∈ first ++ second, path.IsPlain) ∧
      Discovery.collect world settings (first ++ second) = .ok scripts ∧
      (∀ script ∈ scripts, IsContained world settings script) ∧
      ∃ summary, analyze world settings (first ++ second) = .ok summary ∧
        summary.reports = [small].filterMap (report? world settings) ∧
        summary.failures.keys = [missing.toText, large.toText] := by
  intro tree world settings missing small large first second scripts
  have htree : tree.IsPlain := by decide
  have hpaths : ∀ path ∈ first ++ second, path.IsPlain := by decide
  have hbelow : Discovery.candidates world (Path.ofText "d") =
      .ok [[Text.lit "a.sh"], [Text.lit "b.sh"]] :=
    congrArg Except.ok (List.mergeSort_of_pairwise (by decide))
  have hdirectory : Discovery.expand world settings (Path.ofText "d") = .ok [small, large] := by
    rw [Discovery.expand_of_isDirectory rfl, Discovery.scan, hbelow]
    rfl
  have hcollect : Discovery.collect world settings (first ++ second) = .ok scripts := by
    refine Discovery.collect_eq_ok_iff.2 ⟨[[missing], [small, large], [large], [missing]], ?_, rfl⟩
    exact mapM_eq_ok_iff.2 (.cons rfl (.cons hdirectory (.cons rfl (.cons rfl .nil))))
  have hmissing : FailsWith world settings missing "No such file" := rfl
  have hlarge : FailsWith world settings large "File size 2 exceeds limit of 1 bytes" := rfl
  have hsmall : IsContained world settings small := isContained_of_ok rfl
  have hcontained : ∀ script ∈ scripts, IsContained world settings script := by
    simp only [scripts, List.forall_mem_cons, List.not_mem_nil, false_implies, implies_true]
    exact ⟨hmissing.isContained, hsmall, hlarge.isContained, hlarge.isContained,
      hmissing.isContained, trivial⟩
  obtain ⟨summary, hsummary, hreports, hkeys, -⟩ :=
    analyze_isolates_failures htree hpaths hcollect hcontained
  exact ⟨htree, hpaths, hcollect, hcontained, summary, hsummary, hreports, hkeys⟩

end Analysis

end ShellMetrics
