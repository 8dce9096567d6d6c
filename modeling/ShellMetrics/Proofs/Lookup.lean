import ShellMetrics.World
import ShellMetrics.Proofs.Fallible

/-!
# Faults in looking at files

A path that is looked up leads somewhere, or has a null character in it, or meets an error of the
file system.  A question about a path takes nearly all of these for a no.  What is left is a name
that is too long, on the path itself or on the way through links, and a directory on the way that
may not be searched.
-/

namespace ShellMetrics

/-- The errors that are no answer to a question about a path. -/
def SystemError.IsNoAnswer (error : SystemError) : Prop := error = .denied ∨ error = .nameTooLong

namespace FileTree

open Fallible

variable {tree : FileTree} {here : Location} {follow : Bool} {path : Path} {fault : Fault}

/-! ## Where paths lead -/

/-- Following names ends at a location with what stands there. -/
theorem lookup_of_walkFrom {onLink : Location → List Text → Target}
    (honLink : ∀ start names location entry, onLink start names = .ok (location, entry) →
      entry = tree.lookup location)
    {start location : Location} {names : List Text} {entry : Option Entry}
    (h : tree.walkFrom follow onLink start names = .ok (location, entry)) :
    entry = tree.lookup location := by
  revert h
  fun_induction walkFrom tree follow onLink start names with
  | case1 =>
    intro h
    obtain ⟨rfl, rfl⟩ := Prod.mk.inj (Except.ok.inj h)
    rfl
  | case2 | case3 | case6 | case8 => nofun
  | case4 _ _ _ _ ih => exact ih
  | case5 _ _ _ _ _ ih => exact ih
  | case7 _ _ _ _ _ _ _ hfound | case9 _ _ _ _ _ _ _ _ _ hfound =>
    intro h
    obtain ⟨rfl, rfl⟩ := Prod.mk.inj (Except.ok.inj h)
    exact hfound.symm
  | case10 => exact honLink _ _ _ _
  | case11 _ _ _ _ _ _ _ _ _ _ _ ih => exact ih

theorem lookup_of_walk {links : ℕ} {start location : Location} {names : List Text}
    {entry : Option Entry} (h : tree.walk follow links start names = .ok (location, entry)) :
    entry = tree.lookup location := by
  induction links generalizing start names location entry with
  | zero =>
    refine lookup_of_walkFrom ?_ h
    intro _ _ _ _ hlink
    cases hlink
  | succ links ih => exact lookup_of_walkFrom (fun _ _ _ _ hlink ↦ ih hlink) h

/-- Every directory may be searched. -/
def IsSearchable (tree : FileTree) : Prop :=
  ∀ location, tree.lookup location = some .directory → tree.allows .search location = true

/-- The errors that following names never ends in. -/
def IsNoEnd (tree : FileTree) (error : SystemError) : Prop :=
  error = .isDirectory ∨ error = .denied ∧ tree.IsSearchable

/-- Following names ends in none of these errors, if following links does not. -/
theorem walkFrom_ne_error {error : SystemError} (herror : tree.IsNoEnd error)
    {onLink : Location → List Text → Target}
    (honLink : ∀ start names, onLink start names ≠ .error error) (start : Location)
    (names : List Text) : tree.walkFrom follow onLink start names ≠ .error error := by
  fun_induction walkFrom tree follow onLink start names with
  | case1 | case7 | case9 => nofun
  | case2 | case6 | case8 =>
    intro h
    rw [← Except.error.inj h] at herror
    simp [IsNoEnd] at herror
  | case3 here _ _ hhere hdenied =>
    intro h
    rw [← Except.error.inj h] at herror
    have hallowed := (herror.resolve_left nofun).2 here (not_not.1 hhere)
    simp [hallowed] at hdenied
  | case4 _ _ _ _ ih => exact ih
  | case5 _ _ _ _ _ ih => exact ih
  | case10 => exact honLink _ _
  | case11 _ _ _ _ _ _ _ _ _ _ _ ih => exact ih

theorem walk_ne_error {error : SystemError} (herror : tree.IsNoEnd error) (links : ℕ)
    (start : Location) (names : List Text) :
    tree.walk follow links start names ≠ .error error := by
  induction links generalizing start names with
  | zero =>
    refine walkFrom_ne_error herror ?_ start names
    intro _ _ h
    rw [← Except.error.inj h] at herror
    simp [IsNoEnd] at herror
  | succ links ih => exact walkFrom_ne_error herror ih start names

/-- Where a path with some root starts. -/
def startAt (here : Location) : Root → Location
  | .relative => here
  | .absolute | .doubled => []

/-- A path that can be asked about at all leads where its names lead. -/
theorem resolve_eq_walk (hnull : '\x00' ∉ path.toText)
    (hlength : (Utf8.encode path.toText).length ≤ pathLimit) :
    tree.resolve here follow path =
      (tree.walk follow linkLimit (startAt here path.root) path.components).mapError
        (.system · path.toText) := by
  have hshort : ¬ pathLimit < (Utf8.encode path.toText).length := Nat.not_lt.2 hlength
  simp only [resolve, List.contains_iff_mem, hnull, hshort, if_false]
  cases path.root <;> rfl

/-- A path leads somewhere if it can be asked about at all and its names lead there. -/
theorem resolve_eq_ok_iff {found : Location × Option Entry} :
    tree.resolve here follow path = .ok found ↔
      '\x00' ∉ path.toText ∧ (Utf8.encode path.toText).length ≤ pathLimit ∧
        tree.walk follow linkLimit (startAt here path.root) path.components = .ok found := by
  by_cases hnull : '\x00' ∈ path.toText
  · simp [resolve, hnull]
  by_cases hlength : (Utf8.encode path.toText).length ≤ pathLimit
  · rw [resolve_eq_walk hnull hlength, mapError_eq_ok_iff]
    simp only [hnull, hlength, not_false_eq_true, true_and]
  · simp [resolve, hnull, Nat.not_le.1 hlength, hlength]

/-- What a path leads to is what stands there. -/
theorem lookup_of_resolve {location : Location} {entry : Option Entry}
    (h : tree.resolve here follow path = .ok (location, entry)) : entry = tree.lookup location :=
  lookup_of_walk (resolve_eq_ok_iff.1 h).2.2

/-- Nothing is looked up under a path with a null character. -/
theorem resolve_of_null (h : '\x00' ∈ path.toText) :
    tree.resolve here follow path = .error .nullInPath := by
  simp [resolve, h]

/-- Without a null character, only an error of the file system is in the way. -/
theorem resolve_eq_error (hnull : '\x00' ∉ path.toText)
    (h : tree.resolve here follow path = .error fault) :
    ∃ error, ¬ tree.IsNoEnd error ∧ fault = .system error path.toText := by
  unfold resolve at h
  simp only [List.contains_iff_mem, hnull, if_false] at h
  split at h
  · exact ⟨.nameTooLong, by simp [IsNoEnd], (Except.error.inj h).symm⟩
  · obtain ⟨error, hwalk, rfl⟩ := mapError_eq_error_iff.1 h
    exact ⟨error, fun herror ↦ walk_ne_error herror _ _ _ hwalk, rfl⟩

theorem entryAt_of_null (h : '\x00' ∈ path.toText) :
    tree.entryAt here follow path = .error .nullInPath := by
  rw [entryAt, resolve_of_null h]
  rfl

theorem entryAt_eq_error (hnull : '\x00' ∉ path.toText)
    (h : tree.entryAt here follow path = .error fault) :
    ∃ error, ¬ tree.IsNoEnd error ∧ fault = .system error path.toText := by
  rw [entryAt, bind_eq_error_iff] at h
  rcases h with hresolve | ⟨⟨location, entry⟩, -, hentry⟩
  · exact resolve_eq_error hnull hresolve
  · cases entry with
    | none => exact ⟨.missing, by simp [IsNoEnd], (Except.error.inj hentry).symm⟩
    | some entry => exact absurd hentry nofun

/-! ## Questions about paths -/

/-- A question about a path is left without an answer only by a name that is too long or for want of
leave. -/
theorem holds_eq_error {kind : Entry → Bool} (h : tree.holds here follow kind path = .error fault) :
    ∃ error, error.IsNoAnswer ∧ fault = .system error path.toText := by
  unfold holds at h
  cases hentry : tree.entryAt here follow path with
  | ok entry => simp [hentry] at h
  | error cause =>
    by_cases hnull : '\x00' ∈ path.toText
    · rw [entryAt_of_null hnull] at h
      exact absurd h nofun
    · obtain ⟨error, hend, rfl⟩ := entryAt_eq_error hnull hentry
      cases error <;> simp_all [meansAbsent, SystemError.IsNoAnswer, IsNoEnd]

/-- A question is left open by the two errors that are no answer, and by nothing else. -/
theorem holds_eq_error_iff {kind : Entry → Bool} :
    tree.holds here follow kind path = .error fault ↔
      tree.entryAt here follow path = .error fault ∧
        ∃ error, error.IsNoAnswer ∧ fault = .system error path.toText := by
  constructor
  · intro h
    refine ⟨?_, holds_eq_error h⟩
    unfold holds at h
    split at h
    · exact absurd h nofun
    · next cause hentry =>
      split at h
      · exact absurd h nofun
      · rw [hentry, Except.error.inj h]
  · rintro ⟨hentry, error, herror | herror, rfl⟩
    all_goals
      rw [holds, hentry, herror]
      rfl

/-- A question is answered with a yes if it is true of what stands at the end of the path. -/
theorem holds_eq_true_iff {kind : Entry → Bool} :
    tree.holds here follow kind path = .ok true ↔
      ∃ entry, tree.entryAt here follow path = .ok entry ∧ kind entry = true := by
  unfold holds
  cases hentry : tree.entryAt here follow path with
  | ok entry => simp
  | error cause => cases habsent : meansAbsent cause <;> simp [habsent]

theorem holds_of_null {kind : Entry → Bool} (h : '\x00' ∈ path.toText) :
    tree.holds here follow kind path = .ok false := by
  rw [holds, entryAt_of_null h]
  rfl

theorem isFile_eq_true_iff :
    tree.isFile here path = .ok true ↔
      ∃ content, tree.entryAt here true path = .ok (.file content) := by
  rw [isFile, holds_eq_true_iff]
  constructor
  · rintro ⟨entry, hentry, hkind⟩
    cases entry with
    | file content => exact ⟨content, hentry⟩
    | directory => exact absurd hkind nofun
    | link target => exact absurd hkind nofun
  · rintro ⟨content, hentry⟩
    exact ⟨.file content, hentry, rfl⟩

/-- A path is that of a directory if it leads to one, perhaps through links. -/
theorem isDirectory_eq_true_iff :
    tree.isDirectory here path = .ok true ↔
      ∃ location, tree.resolve here true path = .ok (location, some .directory) := by
  rw [isDirectory, holds_eq_true_iff]
  constructor
  · rintro ⟨entry, hentry, hkind⟩
    obtain ⟨⟨location, found⟩, hresolve, hfound⟩ := bind_eq_ok_iff.1 hentry
    match found, hfound with
    | some found, hfound =>
      obtain rfl := Except.ok.inj hfound
      cases found with
      | file content => exact absurd hkind nofun
      | directory => exact ⟨location, hresolve⟩
      | link target => exact absurd hkind nofun
  · rintro ⟨location, hresolve⟩
    refine ⟨.directory, ?_, rfl⟩
    rw [entryAt, hresolve]
    rfl

theorem isDirectory_eq_error_iff :
    tree.isDirectory here path = .error fault ↔
      tree.entryAt here true path = .error fault ∧
        ∃ error, error.IsNoAnswer ∧ fault = .system error path.toText :=
  holds_eq_error_iff

/-! ## Contents of files -/

theorem demand_eq_ok_iff {access : Access} {location : Location} {done : Unit} :
    tree.demand access location path = .ok done ↔ tree.allows access location = true := by
  unfold demand
  split
  · next h => simp [h]
  · next h => simp [h]

theorem demand_eq_error_iff {access : Access} {location : Location} :
    tree.demand access location path = .error fault ↔
      tree.allows access location = false ∧ fault = .system .denied path.toText := by
  unfold demand
  split
  · next h => simp [h]
  · next h => simp [h, eq_comm]

/-- A file is read if it may be. -/
theorem read_eq_ok_iff {content : List UInt8} :
    tree.read here path = .ok content ↔
      ∃ location, tree.resolve here true path = .ok (location, some (.file content)) ∧
        tree.allows .read location = true := by
  rw [read, bind_eq_ok_iff]
  constructor
  · rintro ⟨⟨location, found⟩, hresolve, hread⟩
    match found, hread with
    | some entry, hread =>
      obtain ⟨_, hdemand, hcontent⟩ := bind_eq_ok_iff.1 hread
      cases entry with
      | file other =>
        obtain rfl := Except.ok.inj hcontent
        exact ⟨location, hresolve, demand_eq_ok_iff.1 hdemand⟩
      | directory => cases hcontent
      | link target => cases hcontent
  · rintro ⟨location, hresolve, hallowed⟩
    exact ⟨_, hresolve, bind_eq_ok_iff.2 ⟨(), demand_eq_ok_iff.2 hallowed, rfl⟩⟩

theorem entryAt_of_resolve {location : Location} {entry : Entry}
    (h : tree.resolve here follow path = .ok (location, some entry)) :
    tree.entryAt here follow path = .ok entry := by
  rw [entryAt, h]
  rfl

theorem entryAt_of_read {content : List UInt8} (h : tree.read here path = .ok content) :
    tree.entryAt here true path = .ok (.file content) := by
  obtain ⟨location, hresolve, -⟩ := read_eq_ok_iff.1 h
  exact entryAt_of_resolve hresolve

theorem read_eq_error (hnull : '\x00' ∉ path.toText) (h : tree.read here path = .error fault) :
    ∃ error, fault = .system error path.toText := by
  rw [read, bind_eq_error_iff] at h
  rcases h with hresolve | ⟨⟨location, found⟩, -, hread⟩
  · obtain ⟨error, -, hfault⟩ := resolve_eq_error hnull hresolve
    exact ⟨error, hfault⟩
  match found, hread with
  | none, hread => exact ⟨.missing, (Except.error.inj hread).symm⟩
  | some entry, hread =>
    rcases bind_eq_error_iff.1 hread with hdemand | ⟨_, -, hcontent⟩
    · exact ⟨.denied, (demand_eq_error_iff.1 hdemand).2⟩
    · cases entry with
      | file content => cases hcontent
      | directory => exact ⟨.isDirectory, (Except.error.inj hcontent).symm⟩
      | link target => exact ⟨.isDirectory, (Except.error.inj hcontent).symm⟩

/-! ## Directories -/

/-- A directory is listed if it may be read. -/
theorem list_eq_ok_iff {location : Location} {found : List Text} :
    tree.list here path = .ok (location, found) ↔
      tree.resolve here true path = .ok (location, some .directory) ∧
        tree.allows .read location = true ∧ tree.names location = found := by
  rw [list, bind_eq_ok_iff]
  constructor
  · rintro ⟨⟨place, entry⟩, hresolve, hlist⟩
    match entry, hlist with
    | some .directory, hlist =>
      obtain ⟨_, hdemand, hnames⟩ := bind_eq_ok_iff.1 hlist
      obtain ⟨rfl, rfl⟩ := Prod.mk.inj (Except.ok.inj hnames)
      exact ⟨hresolve, demand_eq_ok_iff.1 hdemand, rfl⟩
  · rintro ⟨hresolve, hallowed, rfl⟩
    exact ⟨_, hresolve, bind_eq_ok_iff.2 ⟨(), demand_eq_ok_iff.2 hallowed, rfl⟩⟩

theorem list_of_resolve_eq_error (h : tree.resolve here true path = .error fault) :
    tree.list here path = .error fault := by
  rw [list, h]
  rfl

/-- A directory that may not be read is not listed. -/
theorem list_of_unreadable {location : Location}
    (h : tree.resolve here true path = .ok (location, some .directory))
    (hallowed : tree.allows .read location = false) :
    tree.list here path = .error (.system .denied path.toText) := by
  have hdemand : tree.demand .read location path = .error (.system .denied path.toText) :=
    demand_eq_error_iff.2 ⟨hallowed, rfl⟩
  simp only [list, h, hdemand, bind, Except.bind]

/-- Every directory may be searched and listed. -/
structure IsOpen (tree : FileTree) : Prop where
  isSearchable : tree.IsSearchable
  isReadable : ∀ location, tree.lookup location = some .directory →
    tree.allows .read location = true

/-- Nothing is denied on the way if every directory may be searched. -/
theorem IsSearchable.entryAt_ne_denied (h : tree.IsSearchable) :
    tree.entryAt here follow path ≠ .error (.system .denied path.toText) := by
  intro hdenied
  by_cases hnull : '\x00' ∈ path.toText
  · rw [entryAt_of_null hnull] at hdenied
    cases hdenied
  · obtain ⟨error, hend, hfault⟩ := entryAt_eq_error hnull hdenied
    obtain rfl := (Fault.system.inj hfault).1
    exact hend (.inr ⟨rfl, h⟩)

/-- Nothing is denied in listing if every directory may be searched and listed. -/
theorem IsOpen.list_ne_denied (h : tree.IsOpen) :
    tree.list here path ≠ .error (.system .denied path.toText) := by
  intro hdenied
  rcases bind_eq_error_iff.1 hdenied with hresolve | ⟨⟨location, entry⟩, hresolve, hlist⟩
  · by_cases hnull : '\x00' ∈ path.toText
    · rw [resolve_of_null hnull] at hresolve
      cases hresolve
    · obtain ⟨error, hend, hfault⟩ := resolve_eq_error hnull hresolve
      obtain rfl := (Fault.system.inj hfault).1
      exact hend (.inr ⟨rfl, h.isSearchable⟩)
  · match entry, hlist with
    | some .directory, hlist =>
      rcases bind_eq_error_iff.1 hlist with hdemand | ⟨_, -, hpure⟩
      · have hallowed := h.isReadable location (lookup_of_resolve hresolve).symm
        rw [(demand_eq_error_iff.1 hdemand).1] at hallowed
        cases hallowed
      · exact absurd hpure pure_ne_error

end FileTree

end ShellMetrics
