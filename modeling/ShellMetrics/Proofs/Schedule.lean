import ShellMetrics.Analysis
import ShellMetrics.Proofs.Fallible
import ShellMetrics.Proofs.Pool

/-!
# Analysis in any order

Scripts are looked at one by one or by the workers of a pool.  Since each outcome goes to the slot
of its script, nothing of the order in which workers start and finish is left in the summary, nor
in the fault that ends an analysis.
-/

namespace ShellMetrics.Analysis

/-- If every script is finished once, the outcomes are those of the scripts one by one. -/
theorem outcomes_eq_mapM (world : World) (settings : Settings) {scripts : List Path}
    {order : List ℕ} (h : order.Perm (List.range scripts.length)) :
    outcomes world settings scripts order = scripts.mapM (outcome world settings) := by
  unfold outcomes
  simp only [Pool.run_eq_map h, ite_self, List.mapM_map]
  rfl

/-- Analyzes scripts one by one, whatever the number of workers. -/
def analyzeInTurn (world : World) (settings : Settings) (paths : List Path) :
    Except Fault Summary := do
  let scripts ← Discovery.collect world settings paths
  let outcomes ← scripts.mapM (outcome world settings)
  return summarize (scripts.zip outcomes)

theorem analyzeIn_eq_analyzeInTurn (schedule : ℕ → List ℕ) {world : World} {settings : Settings}
    {paths : List Path}
    (h : ∀ scripts, Discovery.collect world settings paths = .ok scripts →
      (schedule scripts.length).Perm (List.range scripts.length)) :
    analyzeIn schedule world settings paths = analyzeInTurn world settings paths := by
  unfold analyzeIn analyzeInTurn
  cases hcollect : Discovery.collect world settings paths with
  | error fault => rfl
  | ok scripts =>
    have houtcomes := outcomes_eq_mapM world settings (h scripts hcollect)
    change (outcomes world settings scripts (schedule scripts.length) >>= _) = _
    rw [houtcomes]
    rfl

/-- A pool comes to what comes of the scripts one by one. -/
theorem analyze_eq_analyzeInTurn (world : World) (settings : Settings) (paths : List Path) :
    analyze world settings paths = analyzeInTurn world settings paths :=
  analyzeIn_eq_analyzeInTurn List.range fun _ _ ↦ List.Perm.refl _

/-- Without a second worker there is no pool. -/
theorem isPooled_eq_false {settings : Settings}
    (h : settings.workers = none ∨ settings.workers = some (.whole 1)) (scripts : List Path) :
    isPooled settings scripts = false := by
  have halone : settings.isParallel = false := by
    unfold Settings.isParallel
    rcases h with h | h <;> rw [h] <;> rfl
  rw [isPooled, halone, Bool.false_and]

/-- A pool with two workers or more, whatever it takes up and puts down when, comes to the summary
or to the fault that is come to without a pool.  The number of workers plays no part but in the
choice of a pool. -/
theorem analyzeIn_eq_analyze_alone (world : World) (settings : Settings) (paths : List Path)
    {workers : ℕ} (hworkers : 2 ≤ workers) {alone : Option Quantity}
    (halone : alone = none ∨ alone = some (.whole 1)) :
    (∀ scripts, isPooled { settings with workers := alone } scripts = false) ∧
      (∀ count, ∃ events, Pool.Completes workers count events) ∧
      ∀ events, (∀ scripts, Discovery.collect world settings paths = .ok scripts →
          Pool.Completes workers scripts.length events) →
        analyzeIn (fun _ ↦ Pool.finished events) world
            { settings with workers := some (.whole workers) } paths =
          analyze world { settings with workers := alone } paths := by
  refine ⟨fun scripts ↦ isPooled_eq_false halone scripts,
    fun count ↦ Pool.exists_completes (by omega) count, ?_⟩
  intro events hevents
  have hfinished : ∀ scripts, Discovery.collect world settings paths = .ok scripts →
      (Pool.finished events).Perm (List.range scripts.length) :=
    fun scripts hscripts ↦ (hevents scripts hscripts).perm
  calc
    _ = analyzeInTurn world { settings with workers := some (.whole workers) } paths :=
      analyzeIn_eq_analyzeInTurn (fun _ ↦ Pool.finished events) hfinished
    _ = analyzeInTurn world { settings with workers := alone } paths := rfl
    _ = _ := (analyze_eq_analyzeInTurn world _ paths).symm

/-- Two workers and nine scripts that are finished out of order, in a tree where one of them is
there and the others are missing. -/
theorem analyzeIn_two_workers :
    let tree := FileTree.empty.insert [['a']] (.file [0x78])
    let world : World :=
      { tree, workDir := Path.ofText "/", homeDir := Path.ofText "/", environment := ∅ }
    let paths : List Path := [['b'], ['a'], ['c'], ['a'], ['b'], ['d'], ['a'], ['e'], ['f']].map
      Path.ofText
    let events : List Pool.Event :=
      [.start 1, .start 0, .finish 0, .start 8, .finish 8, .finish 1, .start 2, .start 3,
        .finish 3, .start 4, .finish 2, .start 7, .finish 4, .start 6, .finish 6, .start 5,
        .finish 5, .finish 7]
    Discovery.collect world .default paths = .ok paths ∧
      Pool.Completes 2 paths.length events ∧
      Pool.finished events = [0, 8, 1, 3, 2, 4, 6, 5, 7] ∧
      analyzeIn (fun _ ↦ Pool.finished events) world
          { Settings.default with workers := some (.whole 2) } paths =
        analyze world { Settings.default with workers := none } paths := by
  intro tree world paths events
  have hcollect : Discovery.collect world .default paths = .ok paths := by rfl
  have hevents : Pool.Completes 2 paths.length events := by decide
  refine ⟨hcollect, hevents, by decide, ?_⟩
  have hrun := (analyzeIn_eq_analyze_alone world .default paths (le_refl 2) (.inl rfl)).2.2 events
  apply hrun
  intro scripts hscripts
  rw [hcollect] at hscripts
  obtain rfl := Except.ok.inj hscripts
  exact hevents

end ShellMetrics.Analysis
