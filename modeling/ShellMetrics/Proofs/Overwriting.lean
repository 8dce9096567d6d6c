import ShellMetrics.Proofs.Ledger

/-!
# Ledgers that are written over

Pairs that are written into a ledger one after the other leave under each key the last value that
was written there, and the keys stay in the order of their first pair.  Writing the pairs into an
empty ledger first, and then that ledger over the other one, comes to the same.
-/

namespace ShellMetrics.Ledger

variable {κ ν : Type} [DecidableEq κ]

def lastWith (key : κ) (pairs : List (κ × ν)) : Option ν :=
  (pairs.reverse.find? (·.1 = key)).map Prod.snd

theorem lastWith_cons (key : κ) (pair : κ × ν) (pairs : List (κ × ν)) :
    lastWith key (pair :: pairs) =
      (lastWith key pairs).or (if pair.1 = key then some pair.2 else none) := by
  unfold lastWith
  rw [List.reverse_cons, List.find?_append, Option.map_or]
  congr 1
  by_cases h : pair.1 = key <;> simp [h]

theorem mem_of_lastWith_eq_some {key : κ} {value : ν} {pairs : List (κ × ν)}
    (h : lastWith key pairs = some value) : (key, value) ∈ pairs := by
  obtain ⟨pair, hfind, rfl⟩ := Option.map_eq_some_iff.1 h
  have hkey : pair.1 = key := by simpa using List.find?_some hfind
  rw [← hkey]
  exact List.mem_reverse.1 (List.mem_of_find?_eq_some hfind)

theorem lastWith_eq_none_iff {key : κ} {pairs : List (κ × ν)} :
    lastWith key pairs = none ↔ key ∉ pairs.map Prod.fst := by
  unfold lastWith
  simp only [Option.map_eq_none_iff, List.find?_eq_none, List.mem_reverse, decide_eq_true_eq,
    List.mem_map, not_exists, not_and]

/-- In a ledger there is one value under a key, so the last is the one that is found. -/
theorem lastWith_entries (ledger : Ledger κ ν) (key : κ) :
    lastWith key ledger.entries = ledger.find? key := by
  cases h : lastWith key ledger.entries with
  | none => exact (find?_eq_none_iff.2 (lastWith_eq_none_iff.1 h)).symm
  | some value => exact (find?_eq_some_iff.2 (mem_of_lastWith_eq_some h)).symm

/-! ## Writing pairs -/

@[simp] theorem insertAll_nil (ledger : Ledger κ ν) : ledger.insertAll [] = ledger := rfl

theorem insertAll_cons (ledger : Ledger κ ν) (pair : κ × ν) (pairs : List (κ × ν)) :
    ledger.insertAll (pair :: pairs) = (ledger.insert pair.1 pair.2).insertAll pairs := rfl

theorem insertAll_append (ledger : Ledger κ ν) (pairs more : List (κ × ν)) :
    ledger.insertAll (pairs ++ more) = (ledger.insertAll pairs).insertAll more :=
  List.foldl_append

theorem keys_insert (ledger : Ledger κ ν) (key : κ) (value : ν) :
    (ledger.insert key value).keys =
      if key ∈ ledger.keys then ledger.keys else ledger.keys ++ [key] :=
  keys_alter ledger key _

theorem find?_insert (ledger : Ledger κ ν) (key : κ) (value : ν) (other : κ) :
    (ledger.insert key value).find? other =
      if other = key then some value else ledger.find? other :=
  find?_alter ledger key _ other

/-- The last of the pairs with a key counts, and the value that was there if there is none. -/
theorem find?_insertAll (ledger : Ledger κ ν) (pairs : List (κ × ν)) (key : κ) :
    (ledger.insertAll pairs).find? key = (lastWith key pairs).or (ledger.find? key) := by
  induction pairs generalizing ledger with
  | nil => rfl
  | cons pair pairs ih =>
    rw [insertAll_cons, ih, find?_insert, lastWith_cons, Option.or_assoc]
    congr 1
    by_cases h : key = pair.1
    · simp [h]
    · have hne : ¬ pair.1 = key := fun e ↦ h e.symm
      simp [h, hne]

theorem find?_ofList (pairs : List (κ × ν)) (key : κ) :
    (ofList pairs).find? key = lastWith key pairs := by
  rw [ofList, find?_insertAll]
  exact Option.or_none

/-- What is erased is gone, and nothing else is. -/
theorem find?_erase (ledger : Ledger κ ν) (key other : κ) :
    (ledger.erase key).find? other = if other = key then none else ledger.find? other := by
  apply Option.ext
  intro value
  have hmem : (other, value) ∈ (ledger.erase key).entries ↔
      (other, value) ∈ ledger.entries ∧ other ≠ key := by
    simp [erase, List.mem_filter]
  rw [find?_eq_some_iff, hmem]
  by_cases h : other = key
  · simp [h]
  · simp [h, find?_eq_some_iff]

section Keys

variable [BEq κ] [LawfulBEq κ]

theorem keys_insertAll (ledger : Ledger κ ν) (pairs : List (κ × ν)) :
    (ledger.insertAll pairs).keys =
      ledger.keys ++ ((pairs.map Prod.fst).filter (· ∉ ledger.keys)).eraseDups :=
  keys_foldl_alter Prod.fst (fun pair _ ↦ pair.2) ledger pairs

theorem keys_ofList (pairs : List (κ × ν)) :
    (ofList pairs).keys = (pairs.map Prod.fst).eraseDups := by
  have hempty : (empty : Ledger κ ν).keys = [] := rfl
  rw [ofList, keys_insertAll, hempty]
  simp

end Keys

/-! ## Writing one ledger over another -/

theorem eraseDups_eq_self {keys : List κ} (h : keys.Nodup) : keys.eraseDups = keys := by
  induction keys with
  | nil => rfl
  | cons key keys ih =>
    obtain ⟨hfresh, hkeys⟩ := List.nodup_cons.1 h
    have hfilter : keys.filter (fun other ↦ !other == key) = keys := by
      apply List.filter_eq_self.2
      intro other hother
      have hne : other ≠ key := fun e ↦ hfresh (e ▸ hother)
      simp [hne]
    rw [List.eraseDups_cons, hfilter, ih hkeys]

theorem keys_update (first second : Ledger κ ν) :
    (first.update second).keys = first.keys ++ second.keys.filter (· ∉ first.keys) := by
  have hnodup : (second.keys.filter (· ∉ first.keys)).Nodup := second.nodup_keys_list.filter _
  rw [update, keys_insertAll]
  exact congrArg (first.keys ++ ·) (eraseDups_eq_self hnodup)

/-- The second ledger goes before the first. -/
theorem find?_update (first second : Ledger κ ν) (key : κ) :
    (first.update second).find? key = (second.find? key).or (first.find? key) := by
  rw [update, find?_insertAll, lastWith_entries]

/-- A pair that is written after an update can be written to the second ledger before it. -/
theorem update_insert (first second : Ledger κ ν) (key : κ) (value : ν) :
    first.update (second.insert key value) = (first.update second).insert key value := by
  apply eq_of_keys_of_find?
  · rw [keys_update, keys_insert, keys_insert, keys_update]
    by_cases hfirst : key ∈ first.keys <;> by_cases hsecond : key ∈ second.keys <;>
      simp [hfirst, hsecond]
  · intro other
    rw [find?_update, find?_insert, find?_insert, find?_update]
    by_cases h : other = key <;> simp [h]

/-- Writing on goes on with the second ledger. -/
theorem insertAll_update (first second : Ledger κ ν) (pairs : List (κ × ν)) :
    (first.update second).insertAll pairs = first.update (second.insertAll pairs) := by
  induction pairs generalizing second with
  | nil => rfl
  | cons pair pairs ih => rw [insertAll_cons, ← update_insert, ih, insertAll_cons]

/-- The ledger of two lists of pairs is the ledger of the second written over that of the first. -/
theorem ofList_append (pairs more : List (κ × ν)) :
    ofList (pairs ++ more) = (ofList pairs).update (ofList more) := by
  have hempty : (ofList pairs).update empty = ofList pairs := rfl
  calc
    ofList (pairs ++ more) = (ofList pairs).insertAll more := insertAll_append _ pairs more
    _ = ((ofList pairs).update empty).insertAll more := by rw [hempty]
    _ = (ofList pairs).update (ofList more) := insertAll_update _ _ more

end ShellMetrics.Ledger
