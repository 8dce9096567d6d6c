/-!
# Ledgers

A ledger is a finite map whose keys stay in the order of their first entry.  Writing to a key
that is present keeps its place, writing to a new key puts it at the end.  The keys are distinct
by construction.
-/

namespace ShellMetrics

/-- A finite map that remembers the order in which its keys were first written. -/
structure Ledger (κ ν : Type) where
  entries : List (κ × ν)
  nodup_keys : (entries.map Prod.fst).Nodup

namespace Ledger

variable {κ ν : Type} [DecidableEq κ]

/-- Changes the value under `key`, or puts a new entry at the end. -/
def alterEntries (key : κ) (f : Option ν → ν) : List (κ × ν) → List (κ × ν)
  | [] => [(key, f none)]
  | (k, v) :: rest =>
    if k = key then (k, f (some v)) :: rest else (k, v) :: alterEntries key f rest

theorem keys_alterEntries (key : κ) (f : Option ν → ν) (entries : List (κ × ν)) :
    (alterEntries key f entries).map Prod.fst =
      if key ∈ entries.map Prod.fst then entries.map Prod.fst
      else entries.map Prod.fst ++ [key] := by
  induction entries with
  | nil => simp [alterEntries]
  | cons entry rest ih =>
    obtain ⟨k, v⟩ := entry
    by_cases h : k = key
    · simp [alterEntries, h]
    · have h' : ¬ key = k := fun e ↦ h e.symm
      simp only [alterEntries, if_neg h, List.map_cons, ih, List.mem_cons, h', false_or]
      split <;> simp

theorem nodup_keys_alterEntries (key : κ) (f : Option ν → ν) {entries : List (κ × ν)}
    (h : (entries.map Prod.fst).Nodup) :
    ((alterEntries key f entries).map Prod.fst).Nodup := by
  rw [keys_alterEntries]
  split
  · exact h
  · next hkey => simpa [List.nodup_append, h] using fun a b hab e ↦ hkey (by
      simpa using ⟨b, e ▸ hab⟩)

def empty : Ledger κ ν := ⟨[], by simp⟩

instance : EmptyCollection (Ledger κ ν) := ⟨empty⟩

instance : Inhabited (Ledger κ ν) := ⟨empty⟩

/-- The keys in the order of their first entry. -/
def keys (ledger : Ledger κ ν) : List κ := ledger.entries.map Prod.fst

def find? (ledger : Ledger κ ν) (key : κ) : Option ν :=
  (ledger.entries.find? (·.1 = key)).map Prod.snd

/-- Changes the value under `key`, or puts a new entry at the end. -/
def alter (ledger : Ledger κ ν) (key : κ) (f : Option ν → ν) : Ledger κ ν :=
  ⟨alterEntries key f ledger.entries, nodup_keys_alterEntries key f ledger.nodup_keys⟩

def insert (ledger : Ledger κ ν) (key : κ) (value : ν) : Ledger κ ν :=
  ledger.alter key fun _ ↦ value

/-- Appends one item to the list under `key`. -/
def push {ι : Type} (ledger : Ledger κ (List ι)) (key : κ) (item : ι) : Ledger κ (List ι) :=
  ledger.alter key fun items ↦ items.getD [] ++ [item]

/-- Writes the pairs one after the other into the ledger. -/
def insertAll (ledger : Ledger κ ν) (pairs : List (κ × ν)) : Ledger κ ν :=
  pairs.foldl (fun acc pair ↦ acc.insert pair.1 pair.2) ledger

/-- The ledger of a list of pairs: the first place and the last value of each key. -/
def ofList (pairs : List (κ × ν)) : Ledger κ ν := (empty : Ledger κ ν).insertAll pairs

/-- The first ledger overwritten by the second. -/
def update (first second : Ledger κ ν) : Ledger κ ν := first.insertAll second.entries

def erase (ledger : Ledger κ ν) (key : κ) : Ledger κ ν :=
  ⟨ledger.entries.filter (·.1 ≠ key),
    ledger.nodup_keys.sublist (List.filter_sublist.map Prod.fst)⟩

end Ledger

end ShellMetrics
