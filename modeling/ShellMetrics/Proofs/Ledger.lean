import ShellMetrics.Ledger
import Mathlib.Algebra.BigOperators.Ring.Finset

/-!
# Ledgers of lists

A ledger is known by its keys in order and by what it has under each key.  Both views are computed
for the writing operations.  A ledger of lists is filled by pushing items one at a time, so what
it holds after many pushes is said in terms of the list of pushed pairs alone: the keys are the
first occurrences among the pushed keys, and under each key stand the items pushed there, in
order.  Pushing onto a ledger that already has entries is the same as filling an empty one and
merging the two.
-/

namespace ShellMetrics.Ledger

/-! ## Looking up -/

section Lookup

variable {κ ν : Type}

theorem eq_of_entries_eq {first second : Ledger κ ν} (h : first.entries = second.entries) :
    first = second := by
  cases first
  cases second
  simpa using h

/-- No key comes twice. -/
theorem nodup_keys_list (ledger : Ledger κ ν) : ledger.keys.Nodup := ledger.nodup_keys

theorem mem_keys_iff {ledger : Ledger κ ν} {key : κ} :
    key ∈ ledger.keys ↔ ∃ value, (key, value) ∈ ledger.entries := by
  unfold keys
  simp

@[simp] theorem keys_empty : (∅ : Ledger κ ν).keys = [] := rfl

variable [DecidableEq κ]

theorem find?_eq_none_iff {ledger : Ledger κ ν} {key : κ} :
    ledger.find? key = none ↔ key ∉ ledger.keys := by
  unfold find? keys
  simp only [Option.map_eq_none_iff, List.find?_eq_none, decide_eq_true_eq, List.mem_map,
    not_exists, not_and]

/-- Since keys are distinct, looking up finds exactly the entries. -/
theorem find?_eq_some_iff {ledger : Ledger κ ν} {key : κ} {value : ν} :
    ledger.find? key = some value ↔ (key, value) ∈ ledger.entries := by
  obtain ⟨entries, nodup⟩ := ledger
  unfold find?
  induction entries with
  | nil => simp
  | cons entry rest ih =>
    obtain ⟨k, v⟩ := entry
    obtain ⟨hfresh, hrest⟩ := List.nodup_cons.1 nodup
    by_cases h : k = key
    · subst h
      have hnot : (k, value) ∉ rest := fun hmem ↦ hfresh (List.mem_map.2 ⟨_, hmem, rfl⟩)
      simp [hnot, eq_comm]
    · have hne : ¬ key = k := fun e ↦ h e.symm
      simpa [h, hne] using ih hrest

theorem keys_alter (ledger : Ledger κ ν) (key : κ) (f : Option ν → ν) :
    (ledger.alter key f).keys =
      if key ∈ ledger.keys then ledger.keys else ledger.keys ++ [key] :=
  keys_alterEntries key f ledger.entries

/-- A change is seen under its key and under no other. -/
theorem find?_alter (ledger : Ledger κ ν) (key : κ) (f : Option ν → ν) (other : κ) :
    (ledger.alter key f).find? other =
      if other = key then some (f (ledger.find? key)) else ledger.find? other := by
  obtain ⟨entries, nodup⟩ := ledger
  unfold alter find?
  dsimp only
  clear nodup
  induction entries with
  | nil => by_cases h : other = key <;> simp [alterEntries, h, eq_comm]
  | cons entry rest ih =>
    obtain ⟨k, v⟩ := entry
    simp only [alterEntries]
    by_cases hk : k = key
    · subst hk
      by_cases ho : other = k
      · simp [ho]
      · have hne : ¬ k = other := fun e ↦ ho e.symm
        simp [ho, hne]
    · by_cases ho : k = other
      · subst ho
        simp [hk]
      · simpa [hk, ho] using ih

/-- Writing one entry after the other keeps the keys in place and adds the new ones in the order of
their first entry, whatever is written. -/
theorem keys_foldl_alter {α : Type} [BEq κ] [LawfulBEq κ] (key : α → κ)
    (change : α → Option ν → ν) (ledger : Ledger κ ν) (items : List α) :
    (items.foldl (fun acc item ↦ acc.alter (key item) (change item)) ledger).keys =
      ledger.keys ++ ((items.map key).filter (· ∉ ledger.keys)).eraseDups := by
  induction items generalizing ledger with
  | nil => simp
  | cons item items ih =>
    rw [List.foldl_cons, ih, keys_alter, List.map_cons]
    by_cases h : key item ∈ ledger.keys
    · simp [h]
    · -- A key that is new now is no longer new for the items behind it.
      have hfilter : (items.map key).filter (· ∉ ledger.keys ++ [key item]) =
          ((items.map key).filter (· ∉ ledger.keys)).filter fun other ↦ !other == key item := by
        rw [List.filter_filter]
        apply List.filter_congr
        intro other _
        by_cases hother : other = key item <;> simp [hother]
      rw [if_neg h, hfilter, List.filter_cons_of_pos (by simpa using h), List.eraseDups_cons,
        List.append_assoc, List.singleton_append]

/-- A ledger is the list of its keys, each with what is found under it. -/
theorem entries_eq_filterMap_keys (ledger : Ledger κ ν) :
    ledger.entries = ledger.keys.filterMap fun key ↦ (ledger.find? key).map (key, ·) := by
  unfold keys
  rw [List.filterMap_map]
  have hfound : ∀ entry ∈ ledger.entries,
      ((fun key ↦ (ledger.find? key).map (key, ·)) ∘ Prod.fst) entry = some entry := by
    intro entry hentry
    have h := find?_eq_some_iff.2 hentry
    simp [h]
  rw [List.filterMap_congr hfound, List.filterMap_some]

/-- A ledger is known by its keys, in order, and its values. -/
theorem eq_of_keys_of_find? {first second : Ledger κ ν} (hkeys : first.keys = second.keys)
    (hfind : ∀ key, first.find? key = second.find? key) : first = second := by
  apply eq_of_entries_eq
  rw [entries_eq_filterMap_keys first, entries_eq_filterMap_keys second, hkeys]
  simp only [hfind]

end Lookup

variable {κ ι : Type} [DecidableEq κ]

/-! ## Pushing -/

def pairedWith (key : κ) (pairs : List (κ × ι)) : List ι :=
  (pairs.filter (·.1 = key)).map Prod.snd

/-- The items under a key, none if the key is absent. -/
def itemsAt (ledger : Ledger κ (List ι)) (key : κ) : List ι := (ledger.find? key).getD []

def pushAll (ledger : Ledger κ (List ι)) (items : List (κ × ι)) : Ledger κ (List ι) :=
  items.foldl (fun acc item ↦ acc.push item.1 item.2) ledger

@[simp] theorem itemsAt_empty (key : κ) : (∅ : Ledger κ (List ι)).itemsAt key = [] := rfl

theorem itemsAt_eq_of_mem_entries {ledger : Ledger κ (List ι)} {key : κ} {items : List ι}
    (h : (key, items) ∈ ledger.entries) : ledger.itemsAt key = items := by
  unfold itemsAt
  rw [find?_eq_some_iff.2 h, Option.getD_some]

theorem itemsAt_eq_nil_of_notMem_keys {ledger : Ledger κ (List ι)} {key : κ}
    (h : key ∉ ledger.keys) : ledger.itemsAt key = [] := by
  unfold itemsAt
  rw [find?_eq_none_iff.2 h, Option.getD_none]

theorem find?_eq_ite_itemsAt (ledger : Ledger κ (List ι)) (key : κ) :
    ledger.find? key = if key ∈ ledger.keys then some (ledger.itemsAt key) else none := by
  by_cases h : key ∈ ledger.keys
  · rw [if_pos h]
    obtain ⟨items, hitems⟩ := mem_keys_iff.1 h
    rw [itemsAt_eq_of_mem_entries hitems, find?_eq_some_iff.2 hitems]
  · rw [if_neg h, find?_eq_none_iff.2 h]

theorem eq_of_keys_of_itemsAt {first second : Ledger κ (List ι)}
    (hkeys : first.keys = second.keys)
    (hitems : ∀ key, first.itemsAt key = second.itemsAt key) : first = second := by
  apply eq_of_keys_of_find? hkeys
  intro key
  rw [find?_eq_ite_itemsAt, find?_eq_ite_itemsAt, hkeys, hitems]

theorem keys_push (ledger : Ledger κ (List ι)) (key : κ) (item : ι) :
    (ledger.push key item).keys =
      if key ∈ ledger.keys then ledger.keys else ledger.keys ++ [key] :=
  keys_alter ledger key _

theorem find?_push (ledger : Ledger κ (List ι)) (key : κ) (item : ι) (other : κ) :
    (ledger.push key item).find? other =
      if other = key then some (ledger.itemsAt key ++ [item]) else ledger.find? other :=
  find?_alter ledger key _ other

/-- An item is pushed under its key and under no other. -/
theorem itemsAt_push (ledger : Ledger κ (List ι)) (key : κ) (item : ι) (other : κ) :
    (ledger.push key item).itemsAt other =
      ledger.itemsAt other ++ if key = other then [item] else [] := by
  rw [itemsAt, find?_push]
  by_cases h : other = key
  · subst h
    simp
  · have hne : ¬ key = other := fun e ↦ h e.symm
    simp [h, hne, itemsAt]

@[simp] theorem pushAll_nil (ledger : Ledger κ (List ι)) : ledger.pushAll [] = ledger := rfl

@[simp] theorem pushAll_cons (ledger : Ledger κ (List ι)) (item : κ × ι)
    (items : List (κ × ι)) :
    ledger.pushAll (item :: items) = (ledger.push item.1 item.2).pushAll items := rfl

theorem pushAll_append (ledger : Ledger κ (List ι)) (items more : List (κ × ι)) :
    ledger.pushAll (items ++ more) = (ledger.pushAll items).pushAll more :=
  List.foldl_append

/-- Pushing leaves under each key what was there, followed by what was pushed there. -/
theorem itemsAt_pushAll (ledger : Ledger κ (List ι)) (items : List (κ × ι)) (key : κ) :
    (ledger.pushAll items).itemsAt key =
      ledger.itemsAt key ++ pairedWith key items := by
  induction items generalizing ledger with
  | nil => simp [pairedWith]
  | cons item items ih =>
    rw [pushAll_cons, ih, itemsAt_push]
    by_cases h : item.1 = key <;> simp [pairedWith, h]

/-- Pushing keeps the keys in place and adds the new ones in the order of their first item. -/
theorem keys_pushAll [BEq κ] [LawfulBEq κ] (ledger : Ledger κ (List ι))
    (items : List (κ × ι)) :
    (ledger.pushAll items).keys =
      ledger.keys ++ ((items.map Prod.fst).filter (· ∉ ledger.keys)).eraseDups :=
  keys_foldl_alter Prod.fst (fun item items ↦ items.getD [] ++ [item.2]) ledger items

/-- The keys come in the order of the first item of each. -/
theorem keys_pushAll_empty [BEq κ] [LawfulBEq κ] (items : List (κ × ι)) :
    ((∅ : Ledger κ (List ι)).pushAll items).keys = (items.map Prod.fst).eraseDups := by
  rw [keys_pushAll]
  simp

theorem mem_keys_pushAll_empty_iff {items : List (κ × ι)} {key : κ} :
    key ∈ ((∅ : Ledger κ (List ι)).pushAll items).keys ↔
      pairedWith key items ≠ [] := by
  unfold pairedWith
  rw [keys_pushAll_empty, List.mem_eraseDups, Ne, List.map_eq_nil_iff, List.filter_eq_nil_iff]
  simp

/-- A ledger that was filled by pushing has no key without items. -/
theorem find?_pushAll_empty (items : List (κ × ι)) (key : κ) :
    ((∅ : Ledger κ (List ι)).pushAll items).find? key =
      if pairedWith key items = [] then none
      else some (pairedWith key items) := by
  rw [find?_eq_ite_itemsAt, itemsAt_pushAll, itemsAt_empty, List.nil_append]
  simp only [mem_keys_pushAll_empty_iff, ne_eq, ite_not]

theorem ne_nil_of_mem_pushAll_empty {items : List (κ × ι)} {key : κ} {found : List ι}
    (h : (key, found) ∈ ((∅ : Ledger κ (List ι)).pushAll items).entries) : found ≠ [] := by
  have hkey := mem_keys_pushAll_empty_iff.1 (mem_keys_iff.2 ⟨found, h⟩)
  rwa [← itemsAt_eq_of_mem_entries h, itemsAt_pushAll, itemsAt_empty, List.nil_append]

/-! ## Totals -/

/-- The sum of a weight over all items of all keys. -/
def total (weight : ι → ℕ) (ledger : Ledger κ (List ι)) : ℕ :=
  (ledger.entries.map fun entry ↦ (entry.2.map weight).sum).sum

theorem total_push (weight : ι → ℕ) (ledger : Ledger κ (List ι)) (key : κ) (item : ι) :
    (ledger.push key item).total weight = ledger.total weight + weight item := by
  obtain ⟨entries, nodup⟩ := ledger
  unfold total push alter
  dsimp only
  clear nodup
  induction entries with
  | nil => simp [alterEntries]
  | cons entry rest ih =>
    obtain ⟨k, v⟩ := entry
    simp only [alterEntries]
    by_cases h : k = key
    · simp [h]
      omega
    · simp only [if_neg h, List.map_cons, List.sum_cons, ih]
      omega

/-- Each pushed item counts once, whatever its key. -/
theorem total_pushAll (weight : ι → ℕ) (ledger : Ledger κ (List ι)) (items : List (κ × ι)) :
    (ledger.pushAll items).total weight =
      ledger.total weight + (items.map fun item ↦ weight item.2).sum := by
  induction items generalizing ledger with
  | nil => simp
  | cons item items ih =>
    rw [pushAll_cons, ih, total_push, List.map_cons, List.sum_cons]
    omega

/-! ## Merging -/

/-- The entries of the first ledger, each followed by what the second has under its key, and then
the entries of the second with a new key. -/
def mergeEntries (first second : Ledger κ (List ι)) : List (κ × List ι) :=
  first.entries.map (fun entry ↦ (entry.1, entry.2 ++ second.itemsAt entry.1)) ++
    second.entries.filter (·.1 ∉ first.keys)

theorem map_fst_mergeEntries (first second : Ledger κ (List ι)) :
    (mergeEntries first second).map Prod.fst =
      first.keys ++ second.keys.filter (· ∉ first.keys) := by
  unfold mergeEntries keys
  rw [List.map_append, List.map_map, List.filter_map]
  rfl

/-- The first ledger followed by the second; keys that both have get both lists. -/
def merge (first second : Ledger κ (List ι)) : Ledger κ (List ι) :=
  ⟨mergeEntries first second, by
    rw [map_fst_mergeEntries]
    apply List.Nodup.append first.nodup_keys_list
    · exact second.nodup_keys_list.filter _
    · intro key hfirst hsecond
      simpa [hfirst] using (List.mem_filter.1 hsecond).2⟩

/-- What a merged ledger has, however it is decided which keys are new. -/
theorem entries_merge (first second : Ledger κ (List ι))
    [DecidablePred fun entry : κ × List ι ↦ entry.1 ∉ first.keys] :
    (first.merge second).entries =
      first.entries.map (fun entry ↦ (entry.1, entry.2 ++ second.itemsAt entry.1)) ++
        second.entries.filter (fun entry ↦ entry.1 ∉ first.keys) := by
  change mergeEntries first second = _
  unfold mergeEntries
  congr!

/-- The keys of the first ledger come first. -/
theorem keys_merge (first second : Ledger κ (List ι)) :
    (first.merge second).keys = first.keys ++ second.keys.filter (· ∉ first.keys) :=
  map_fst_mergeEntries first second

/-- Under each key both lists stand one behind the other. -/
theorem itemsAt_merge (first second : Ledger κ (List ι)) (key : κ) :
    (first.merge second).itemsAt key = first.itemsAt key ++ second.itemsAt key := by
  by_cases hfirst : key ∈ first.keys
  · obtain ⟨items, hitems⟩ := mem_keys_iff.1 hfirst
    rw [itemsAt_eq_of_mem_entries hitems]
    apply itemsAt_eq_of_mem_entries
    exact List.mem_append_left _ (List.mem_map.2 ⟨(key, items), hitems, rfl⟩)
  · rw [itemsAt_eq_nil_of_notMem_keys hfirst, List.nil_append]
    by_cases hsecond : key ∈ second.keys
    · obtain ⟨items, hitems⟩ := mem_keys_iff.1 hsecond
      rw [itemsAt_eq_of_mem_entries hitems]
      apply itemsAt_eq_of_mem_entries
      exact List.mem_append_right _ (List.mem_filter.2 ⟨hitems, by simpa using hfirst⟩)
    · rw [itemsAt_eq_nil_of_notMem_keys hsecond]
      apply itemsAt_eq_nil_of_notMem_keys
      rw [keys_merge, List.mem_append, List.mem_filter]
      tauto

@[simp] theorem merge_empty (ledger : Ledger κ (List ι)) : ledger.merge ∅ = ledger := by
  apply eq_of_keys_of_itemsAt
  · rw [keys_merge, keys_empty, List.filter_nil, List.append_nil]
  · intro key
    rw [itemsAt_merge, itemsAt_empty, List.append_nil]

/-- A push after a merge can be made on the second ledger before it. -/
theorem merge_push (first second : Ledger κ (List ι)) (key : κ) (item : ι) :
    first.merge (second.push key item) = (first.merge second).push key item := by
  apply eq_of_keys_of_itemsAt
  · rw [keys_merge, keys_push, keys_push, keys_merge]
    by_cases hfirst : key ∈ first.keys <;> by_cases hsecond : key ∈ second.keys <;>
      simp [hfirst, hsecond]
  · intro other
    rw [itemsAt_merge, itemsAt_push, itemsAt_push, itemsAt_merge, List.append_assoc]

/-- Filling a ledger further is filling an empty one and merging. -/
theorem pushAll_merge (first second : Ledger κ (List ι)) (items : List (κ × ι)) :
    (first.merge second).pushAll items = first.merge (second.pushAll items) := by
  induction items generalizing second with
  | nil => rfl
  | cons item items ih => rw [pushAll_cons, ← merge_push, ih, pushAll_cons]

/-- Pushing into a ledger is the same as merging it with a fresh one. -/
theorem pushAll_eq_merge (ledger : Ledger κ (List ι)) (items : List (κ × ι)) :
    ledger.pushAll items = ledger.merge ((∅ : Ledger κ (List ι)).pushAll items) := by
  rw [← pushAll_merge, merge_empty]

end ShellMetrics.Ledger
