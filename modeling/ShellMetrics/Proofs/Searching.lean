import ShellMetrics.Discovery
import ShellMetrics.Proofs.Utf8
import ShellMetrics.Proofs.Walking

/-!
# What a search comes to

A search lists a directory and goes on in those of its entries that are directories.  It comes to
every entry below, except that a directory that may not be listed is taken for an empty one, and
that no entry is searched behind a link that leads through a directory that may not be searched.
Links on the way and names that are too long can break it off.  In a tree where every directory
may be searched and listed it comes to everything.
-/

namespace ShellMetrics

open Fallible FileTree

namespace Discovery

/-! ## One directory -/

section Descending

variable {α : Type} {visit : Text → Except Fault Visit} {enter : Text → Except Fault (List α)}
  {items : List Text} {name : Text} {below : List α} {fault : Fault}

/-- An entry is visited if the entries before it do not halt the search. -/
def IsVisited (visit : Text → Except Fault Visit) (items : List Text) (name : Text) : Prop :=
  ∃ before after, items = before ++ name :: after ∧ ∀ other ∈ before, visit other ≠ .ok .halt

theorem IsVisited.mem (h : IsVisited visit items name) : name ∈ items := by
  obtain ⟨before, after, rfl, -⟩ := h
  simp

theorem isVisited_cons {first : Text} :
    IsVisited visit (first :: items) name ↔
      name = first ∨ visit first ≠ .ok .halt ∧ IsVisited visit items name := by
  constructor
  · rintro ⟨before, after, hitems, hbefore⟩
    cases before with
    | nil => exact .inl (List.cons.inj hitems).1.symm
    | cons other before =>
      obtain ⟨rfl, rfl⟩ := List.cons.inj hitems
      obtain ⟨hfirst, hbefore⟩ := List.forall_mem_cons.1 hbefore
      exact .inr ⟨hfirst, before, after, rfl, hbefore⟩
  · rintro (rfl | ⟨hfirst, before, after, rfl, hbefore⟩)
    · exact ⟨[], items, rfl, by simp⟩
    · exact ⟨first :: before, after, rfl, List.forall_mem_cons.2 ⟨hfirst, hbefore⟩⟩

/-- If nothing goes wrong, every visited entry is entered that is to be. -/
theorem descend_eq_ok (h : descend visit enter items = .ok below) :
    (∀ name, IsVisited visit items name → ∀ fault, visit name ≠ .error fault ∧
        (visit name = .ok .enter → enter name ≠ .error fault)) ∧
      ∀ a, a ∈ below ↔ ∃ name, IsVisited visit items name ∧ visit name = .ok .enter ∧
        ∃ part, enter name = .ok part ∧ a ∈ part := by
  induction items generalizing below with
  | nil =>
    obtain rfl := Except.ok.inj h
    simp [IsVisited]
  | cons first items ih =>
    simp only [isVisited_cons]
    obtain ⟨kind, hfirst, h⟩ := bind_eq_ok_iff.1 h
    cases kind with
    | halt =>
      obtain rfl := Except.ok.inj h
      simp [hfirst]
    | pass =>
      obtain ⟨hrest, hmem⟩ := ih h
      simp only [hfirst, ne_eq, Except.ok.injEq, reduceCtorEq, not_false_eq_true, true_and,
        forall_eq_or_imp, IsEmpty.forall_iff, implies_true, exists_eq_or_imp, false_and, false_or]
      exact ⟨hrest, hmem⟩
    | enter =>
      obtain ⟨part, hpart, h⟩ := bind_eq_ok_iff.1 h
      obtain ⟨others, hothers, h⟩ := bind_eq_ok_iff.1 h
      obtain rfl := Except.ok.inj h
      obtain ⟨hrest, hmem⟩ := ih hothers
      simp only [hfirst, hpart, ne_eq, Except.ok.injEq, reduceCtorEq, not_false_eq_true, true_and,
        forall_eq_or_imp, implies_true, exists_eq_or_imp, exists_eq_left', List.mem_append, hmem]
      exact ⟨hrest, trivial⟩

theorem descend_eq_error (h : descend visit enter items = .error fault) :
    ∃ name, IsVisited visit items name ∧
      (visit name = .error fault ∨ visit name = .ok .enter ∧ enter name = .error fault) := by
  induction items with
  | nil => cases h
  | cons first items ih =>
    simp only [isVisited_cons]
    rcases bind_eq_error_iff.1 h with hfirst | ⟨kind, hfirst, h⟩
    · exact ⟨first, .inl rfl, .inl hfirst⟩
    have hnext : visit first ≠ .ok .halt → descend visit enter items = .error fault →
        ∃ name, (name = first ∨ visit first ≠ .ok .halt ∧ IsVisited visit items name) ∧
          (visit name = .error fault ∨ visit name = .ok .enter ∧ enter name = .error fault) := by
      intro hpassed hrest
      obtain ⟨name, hname, hfault⟩ := ih hrest
      exact ⟨name, .inr ⟨hpassed, hname⟩, hfault⟩
    cases kind with
    | halt => cases h
    | pass => exact hnext (by simp [hfirst]) h
    | enter =>
      rcases bind_eq_error_iff.1 h with hpart | ⟨part, -, h⟩
      · exact ⟨first, .inl rfl, .inr ⟨hfirst, hpart⟩⟩
      · rcases bind_eq_error_iff.1 h with hothers | ⟨_, -, hpure⟩
        · exact hnext (by simp [hfirst]) hothers
        · exact absurd hpure pure_ne_error

end Descending

variable {world : World} {root : Path} {top location : Location} {start names : List Text}
  {name : Text} {fault : Fault}

/-- The entry of a directory is a link that leads through a directory that may not be searched. -/
def IsBarrier (world : World) (directory : Path) (location : Location) (name : Text) : Prop :=
  ∃ target, world.tree.lookup (location ++ [name]) = some (.link target) ∧
    world.tree.entryAt world.here true (directory.append [name]) =
      .error (.system .denied (directory.append [name]).toText)

section Visits

theorem visit_of_link (directory : Path) {target : Text}
    (h : world.tree.lookup (location ++ [name]) = some (.link target)) :
    ((∀ error : SystemError, error.IsNoAnswer →
          world.tree.entryAt world.here true (directory.append [name]) ≠
            .error (.system error (directory.append [name]).toText)) ∧
        visit world directory location name = .ok .pass) ∨
      (world.tree.entryAt world.here true (directory.append [name]) =
          .error (.system .denied (directory.append [name]).toText) ∧
        visit world directory location name = .ok .halt) ∨
      (world.tree.entryAt world.here true (directory.append [name]) =
          .error (.system .nameTooLong (directory.append [name]).toText) ∧
        visit world directory location name =
          .error (.system .nameTooLong (spelling directory name))) := by
  unfold visit
  rw [h]
  cases hasked : world.isDirectory (directory.append [name]) with
  | ok answer =>
    refine .inl ⟨?_, rfl⟩
    intro error herror hentry
    have hfault := isDirectory_eq_error_iff.2 ⟨hentry, error, herror, rfl⟩
    cases hasked.symm.trans hfault
  | error fault =>
    obtain ⟨hentry, error, rfl | rfl, rfl⟩ := holds_eq_error_iff.1 hasked
    · exact .inr (.inl ⟨hentry, rfl⟩)
    · exact .inr (.inr ⟨hentry, rfl⟩)

variable {directory : Path}

theorem visit_eq_enter_iff :
    visit world directory location name = .ok .enter ↔
      world.tree.lookup (location ++ [name]) = some .directory := by
  cases hentry : world.tree.lookup (location ++ [name]) with
  | none => simp [visit, hentry]
  | some entry =>
    cases entry with
    | file content => simp [visit, hentry]
    | directory => simp [visit, hentry]
    | link target =>
      rcases visit_of_link directory hentry with ⟨-, h⟩ | ⟨-, h⟩ | ⟨-, h⟩ <;>
        simp [h]

/-- Only a barrier halts the search of a directory. -/
theorem visit_eq_halt_iff :
    visit world directory location name = .ok .halt ↔ IsBarrier world directory location name := by
  unfold IsBarrier
  cases hentry : world.tree.lookup (location ++ [name]) with
  | none => simp [visit, hentry]
  | some entry =>
    cases entry with
    | file content => simp [visit, hentry]
    | directory => simp [visit, hentry]
    | link target =>
      rcases visit_of_link directory hentry with
        ⟨hanswered, h⟩ | ⟨hlooked, h⟩ | ⟨hlooked, h⟩
      · simp [h, hanswered .denied (.inl rfl)]
      · simp [h, hlooked]
      · simp [h, hlooked]

/-- Only a link that leads over a name that is too long breaks the search off. -/
theorem visit_eq_error_iff :
    visit world directory location name = .error fault ↔
      (∃ target, world.tree.lookup (location ++ [name]) = some (.link target)) ∧
        world.tree.entryAt world.here true (directory.append [name]) =
          .error (.system .nameTooLong (directory.append [name]).toText) ∧
        fault = .system .nameTooLong (spelling directory name) := by
  cases hentry : world.tree.lookup (location ++ [name]) with
  | none => simp [visit, hentry]
  | some entry =>
    cases entry with
    | file content => simp [visit, hentry]
    | directory => simp [visit, hentry]
    | link target =>
      rcases visit_of_link directory hentry with
        ⟨hanswered, h⟩ | ⟨hlooked, h⟩ | ⟨hlooked, h⟩
      · simp [h, hanswered .nameTooLong (.inr rfl)]
      · simp [h, hlooked]
      · simp [h, hlooked, eq_comm]

end Visits

/-! ## The entries below a directory -/

/-- The search looks at an entry: the directory is listed, and no barrier comes before the entry. -/
def LooksAt (world : World) (root : Path) (start : List Text) (location : Location)
    (name : Text) : Prop :=
  ∃ before after, world.list (root.append start) = .ok (location, before ++ name :: after) ∧
    ∀ other ∈ before, ¬ IsBarrier world (root.append start) location other

/-- From the directory that some names lead to, the search comes to the entry that others lead
to. -/
inductive IsListed (world : World) (root : Path) : List Text → List Text → Prop
  | here {start : List Text} {location : Location} {found : List Text} {name : Text} :
    world.list (root.append start) = .ok (location, found) → name ∈ found →
      IsListed world root start (start ++ [name])
  | deeper {start names : List Text} {location : Location} {name : Text} :
    LooksAt world root start location name →
      world.tree.lookup (location ++ [name]) = some .directory →
        IsListed world root (start ++ [name]) names → IsListed world root start names

/-- A fault breaks the search off: a directory has a path that is too long or has a null character
in it, or the search looks at a link that leads over a name that is too long. -/
inductive BreaksSearch (world : World) (root : Path) : List Text → Fault → Prop
  | null {start : List Text} :
    '\x00' ∈ (root.append start).toText → BreaksSearch world root start .nullInPath
  | directory {start : List Text} :
    world.tree.resolve world.here true (root.append start) =
        .error (.system .nameTooLong (root.append start).toText) →
      BreaksSearch world root start (.system .nameTooLong (root.append start).toText)
  | link {start : List Text} {location : Location} {name target : Text} :
    LooksAt world root start location name →
      world.tree.lookup (location ++ [name]) = some (.link target) →
      world.tree.entryAt world.here true ((root.append start).append [name]) =
        .error (.system .nameTooLong ((root.append start).append [name]).toText) →
      BreaksSearch world root start (.system .nameTooLong (spelling (root.append start) name))
  | deeper {start : List Text} {location : Location} {name : Text} {fault : Fault} :
    LooksAt world root start location name →
      world.tree.lookup (location ++ [name]) = some .directory →
        BreaksSearch world root (start ++ [name]) fault → BreaksSearch world root start fault

/-- The names lead from the directory at the end of a path to a directory. -/
structure IsEntered (world : World) (root : Path) (top : Location) (start : List Text) : Prop where
  resolve_eq : world.tree.resolve world.here true root = .ok (top, some .directory)
  reaches : world.tree.Reaches top start
  lookup_eq : world.tree.lookup (top ++ start) = some .directory

namespace IsEntered

/-- A directory that the search has entered is found again under its own path, unless that cannot be
asked about. -/
theorem resolve_cases (h : IsEntered world root top start) :
    (∃ fault, (fault = .nullInPath ∨ ∃ error : SystemError, error.IsNoAnswer ∧
          fault = .system error (root.append start).toText) ∧
        world.tree.resolve world.here true (root.append start) = .error fault) ∨
      world.tree.resolve world.here true (root.append start) =
        .ok (top ++ start, some .directory) := by
  by_cases hstart : start = []
  · subst hstart
    refine .inr ?_
    simpa [Path.append] using h.resolve_eq
  rcases h.reaches.resolve_cases hstart h.resolve_eq with
    ⟨fault, hfault, hresolve⟩ | ⟨entry, hentry, hresolve⟩
  · exact .inl ⟨fault, hfault, hresolve true⟩
  · obtain rfl := Option.some.inj (h.lookup_eq.symm.trans hentry)
    exact .inr (hresolve true (.inr rfl))

/-- A directory that a search enters is listed or counts as empty, or it breaks the search off. -/
theorem list_cases (h : IsEntered world root top start) :
    ('\x00' ∈ (root.append start).toText ∧
        world.list (root.append start) = .error .nullInPath) ∨
      (world.tree.resolve world.here true (root.append start) =
          .error (.system .nameTooLong (root.append start).toText) ∧
        world.list (root.append start) =
          .error (.system .nameTooLong (root.append start).toText)) ∨
      world.list (root.append start) = .error (.system .denied (root.append start).toText) ∨
      world.list (root.append start) = .ok (top ++ start, world.tree.names (top ++ start)) := by
  by_cases hnull : '\x00' ∈ (root.append start).toText
  · exact .inl ⟨hnull, list_of_resolve_eq_error (resolve_of_null hnull)⟩
  rcases h.resolve_cases with ⟨fault, hfault, hresolve⟩ | hresolve
  · rcases hfault with rfl | ⟨error, rfl | rfl, rfl⟩
    · obtain ⟨error, -, hsystem⟩ := resolve_eq_error hnull hresolve
      cases hsystem
    · exact .inr (.inr (.inl (list_of_resolve_eq_error hresolve)))
    · exact .inr (.inl ⟨hresolve, list_of_resolve_eq_error hresolve⟩)
  · cases hallowed : world.tree.allows .read (top ++ start) with
    | false => exact .inr (.inr (.inl (list_of_unreadable hresolve hallowed)))
    | true => exact .inr (.inr (.inr (list_eq_ok_iff.2 ⟨hresolve, hallowed, rfl⟩)))

theorem concat (h : IsEntered world root top start) (hname : name ∈ world.tree.names (top ++ start))
    (hdirectory : world.tree.lookup (top ++ start ++ [name]) = some .directory) :
    IsEntered world root top (start ++ [name]) where
  resolve_eq := h.resolve_eq
  reaches := reaches_append.2 ⟨h.reaches, reaches_singleton.2 ⟨h.lookup_eq, hname⟩⟩
  lookup_eq := by rwa [← List.append_assoc]

/-- The path of a directory that is listed is not too long, so the directory is not too deep. -/
theorem length_le {found : List Text} (h : world.list (root.append start) = .ok (location, found)) :
    start.length ≤ pathLimit + 1 := by
  obtain ⟨-, hlength, -⟩ := resolve_eq_ok_iff.1 (list_eq_ok_iff.1 h).1
  have hcomponents := (root.append start).length_components_le
  have hencoded := Utf8.length_le_length_encode (root.append start).toText
  have hstart : start.length ≤ (root.append start).components.length := by simp [Path.append]
  omega

end IsEntered

theorem looksAt_iff {found : List Text}
    (hlist : world.list (root.append start) = .ok (location, found)) {place : Location} :
    LooksAt world root start place name ↔
      place = location ∧ IsVisited (visit world (root.append start) location) found name := by
  unfold LooksAt IsVisited
  simp only [hlist, ne_eq, visit_eq_halt_iff, Except.ok.injEq, Prod.mk.injEq]
  constructor
  · rintro ⟨before, after, ⟨rfl, rfl⟩, hbefore⟩
    exact ⟨rfl, before, after, rfl, hbefore⟩
  · rintro ⟨rfl, before, after, rfl, hbefore⟩
    exact ⟨before, after, ⟨rfl, rfl⟩, hbefore⟩

/-- What the search looks at has been listed. -/
theorem LooksAt.exists_list (h : LooksAt world root start location name) :
    ∃ found, world.list (root.append start) = .ok (location, found) ∧ name ∈ found := by
  obtain ⟨before, after, hlist, -⟩ := h
  exact ⟨_, hlist, by simp⟩

/-- The outcome of a search is right: the entries that it comes to, or a fault that breaks it
off. -/
def IsOutcome (world : World) (root : Path) (start : List Text) :
    Except Fault (List (List Text)) → Prop
  | .ok found => (∀ names, names ∈ found ↔ IsListed world root start names) ∧
      ∀ fault, ¬ BreaksSearch world root start fault
  | .error fault => BreaksSearch world root start fault

theorem isOutcome_of_unlisted {cause : Fault}
    (hlist : world.list (root.append start) = .error cause)
    (hunbroken : '\x00' ∉ (root.append start).toText)
    (hshort : world.tree.resolve world.here true (root.append start) ≠
      .error (.system .nameTooLong (root.append start).toText)) :
    IsOutcome world root start (.ok []) := by
  have hno {location : Location} {name : Text} (h : LooksAt world root start location name) :
      False := by
    obtain ⟨found, hlisted, -⟩ := h.exists_list
    cases hlist.symm.trans hlisted
  constructor
  · intro names
    refine iff_of_false List.not_mem_nil ?_
    intro h
    cases h with
    | here hlisted => cases hlist.symm.trans hlisted
    | deeper hlooks => exact hno hlooks
  · intro fault h
    cases h with
    | null hnull => exact hunbroken hnull
    | directory hlong => exact hshort hlong
    | link hlooks => exact hno hlooks
    | deeper hlooks => exact hno hlooks

section Listed

variable {found : List Text} {enter : Text → Except Fault (List (List Text))}
  {below : List (List Text)}
  (hlist : world.list (root.append start) = .ok (location, found))
  (hbelow : ∀ name ∈ found, world.tree.lookup (location ++ [name]) = some .directory →
    IsOutcome world root (start ++ [name]) (enter name))

include hlist hbelow

theorem breaksSearch_of_descend
    (h : descend (visit world (root.append start) location) enter found = .error fault) :
    BreaksSearch world root start fault := by
  obtain ⟨name, hname, hfault⟩ := descend_eq_error h
  have hlooks : LooksAt world root start location name := (looksAt_iff hlist).2 ⟨rfl, hname⟩
  rcases hfault with hvisit | ⟨henter, hsearch⟩
  · obtain ⟨⟨target, hlink⟩, hlong, rfl⟩ := visit_eq_error_iff.1 hvisit
    exact .link hlooks hlink hlong
  · have hdirectory := visit_eq_enter_iff.1 henter
    have houtcome := hbelow name hname.mem hdirectory
    rw [hsearch] at houtcome
    exact .deeper hlooks hdirectory houtcome

/-- The search comes to the entries of a directory and to what it comes to in those that it
enters. -/
theorem mem_append_descend_iff
    (h : descend (visit world (root.append start) location) enter found = .ok below) :
    names ∈ found.map (fun name ↦ start ++ [name]) ++ below ↔ IsListed world root start names := by
  obtain ⟨hright, hmem⟩ := descend_eq_ok h
  rw [List.mem_append, List.mem_map, hmem]
  constructor
  · rintro (⟨name, hname, rfl⟩ | ⟨name, hname, henter, part, hpart, hin⟩)
    · exact .here hlist hname
    · have hdirectory := visit_eq_enter_iff.1 henter
      have houtcome := hbelow name hname.mem hdirectory
      rw [hpart] at houtcome
      exact .deeper ((looksAt_iff hlist).2 ⟨rfl, hname⟩) hdirectory ((houtcome.1 names).1 hin)
  · intro hlisted
    cases hlisted with
    | here hhere hname =>
      obtain ⟨-, rfl⟩ := Prod.mk.inj (Except.ok.inj (hlist.symm.trans hhere))
      exact .inl ⟨_, hname, rfl⟩
    | @deeper _ _ place name hlooks hdirectory hrest =>
      obtain ⟨rfl, hname⟩ := (looksAt_iff hlist).1 hlooks
      have henter : visit world (root.append start) place name = .ok .enter :=
        visit_eq_enter_iff.2 hdirectory
      have houtcome := hbelow name hname.mem hdirectory
      cases hpart : enter name with
      | error fault => exact absurd hpart ((hright name hname fault).2 henter)
      | ok part =>
        rw [hpart] at houtcome
        exact .inr ⟨name, hname, henter, part, hpart, (houtcome.1 names).2 hrest⟩

theorem not_breaksSearch_of_descend
    (h : descend (visit world (root.append start) location) enter found = .ok below) :
    ¬ BreaksSearch world root start fault := by
  obtain ⟨hright, -⟩ := descend_eq_ok h
  intro hbreaks
  cases hbreaks with
  | null hnull =>
    rw [World.list, list_of_resolve_eq_error (resolve_of_null hnull)] at hlist
    cases hlist
  | directory hlong =>
    rw [World.list, list_of_resolve_eq_error hlong] at hlist
    cases hlist
  | @link _ place name target hlooks hlink hlong =>
    obtain ⟨rfl, hname⟩ := (looksAt_iff hlist).1 hlooks
    exact (hright name hname _).1 (visit_eq_error_iff.2 ⟨⟨target, hlink⟩, hlong, rfl⟩)
  | @deeper _ place name _ hlooks hdirectory hrest =>
    obtain ⟨rfl, hname⟩ := (looksAt_iff hlist).1 hlooks
    have houtcome := hbelow name hname.mem hdirectory
    cases hpart : enter name with
    | error cause => exact (hright name hname cause).2 (visit_eq_enter_iff.2 hdirectory) hpart
    | ok part =>
      rw [hpart] at houtcome
      exact houtcome.2 fault hrest

end Listed

/-- With levels enough for the longest path a search is right. -/
theorem isOutcome_search {levels : ℕ} (hstart : IsEntered world root top start) (hne : levels ≠ 0)
    (hlevels : pathLimit + 2 < start.length + levels) :
    IsOutcome world root start (search world root levels start) := by
  induction levels generalizing start with
  | zero => exact absurd rfl hne
  | succ levels ih =>
    rcases hstart.list_cases with ⟨hnull, hlist⟩ | ⟨hlong, hlist⟩ | hlist | hlist
    · rw [search, hlist]
      exact .null hnull
    · rw [search, hlist]
      exact .directory hlong
    · rw [search, hlist]
      apply isOutcome_of_unlisted hlist
      · intro hnull
        rw [World.list, list_of_resolve_eq_error (resolve_of_null hnull)] at hlist
        cases hlist
      · intro hlong
        rw [World.list, list_of_resolve_eq_error hlong] at hlist
        cases hlist
    · -- What is listed is not too deep, so a level is left for the directories in it.
      have hdepth := IsEntered.length_le hlist
      have hbelow (name : Text) (hname : name ∈ world.tree.names (top ++ start))
          (hdirectory : world.tree.lookup (top ++ start ++ [name]) = some .directory) :
          IsOutcome world root (start ++ [name]) (search world root levels (start ++ [name])) := by
        apply ih (hstart.concat hname hdirectory)
        · omega
        · rw [List.length_append, List.length_singleton]
          omega
      rw [search, hlist]
      dsimp only
      cases hdescend : descend (visit world (root.append start) (top ++ start))
          (fun name ↦ search world root levels (start ++ [name]))
          (world.tree.names (top ++ start)) with
      | error fault => exact breaksSearch_of_descend hlist hbelow hdescend
      | ok below =>
        exact ⟨fun names ↦ mem_append_descend_iff hlist hbelow hdescend,
          fun fault ↦ not_breaksSearch_of_descend hlist hbelow hdescend⟩

/-! ## The entries that are looked at -/

theorem isEntered_nil
    (h : world.tree.resolve world.here true root = .ok (top, some .directory)) :
    IsEntered world root top [] where
  resolve_eq := h
  reaches := trivial
  lookup_eq := by rw [List.append_nil, ← lookup_of_resolve h]

/-- Only below a directory a search comes to anything. -/
theorem IsListed.exists_root (h : IsListed world root [] names) :
    ∃ top, world.tree.resolve world.here true root = .ok (top, some .directory) := by
  have hroot {location : Location} {found : List Text}
      (hlist : world.list (root.append []) = .ok (location, found)) :
      ∃ top, world.tree.resolve world.here true root = .ok (top, some .directory) := by
    rw [Path.append_nil] at hlist
    exact ⟨location, (list_eq_ok_iff.1 hlist).1⟩
  cases h with
  | here hlist => exact hroot hlist
  | deeper hlooks =>
    obtain ⟨found, hlist, -⟩ := hlooks.exists_list
    exact hroot hlist

/-- What can be said of the entries that are looked at, if the search is not broken off. -/
theorem candidates_eq_ok {entries : List (List Text)} (h : candidates world root = .ok entries) :
    (∀ names, names ∈ entries ↔ IsListed world root [] names) ∧
      ∀ top fault, world.tree.resolve world.here true root = .ok (top, some .directory) →
        ¬ BreaksSearch world root [] fault := by
  obtain ⟨answer, hanswer, h⟩ := bind_eq_ok_iff.1 h
  have hdirectory : answer = true ↔
      ∃ top, world.tree.resolve world.here true root = .ok (top, some .directory) := by
    rw [← isDirectory_eq_true_iff]
    constructor
    · rintro rfl
      exact hanswer
    · intro htrue
      exact Except.ok.inj (hanswer.symm.trans htrue)
  cases answer with
  | false =>
    obtain rfl := Except.ok.inj h
    have hno (top : Location) :
        world.tree.resolve world.here true root ≠ .ok (top, some .directory) :=
      fun hresolve ↦ absurd (hdirectory.2 ⟨top, hresolve⟩) nofun
    refine ⟨?_, fun top _ hresolve ↦ absurd hresolve (hno top)⟩
    intro names
    refine iff_of_false List.not_mem_nil ?_
    intro hlisted
    obtain ⟨top, hresolve⟩ := hlisted.exists_root
    exact hno top hresolve
  | true =>
    obtain ⟨found, hsearch, h⟩ := bind_eq_ok_iff.1 h
    obtain rfl := Except.ok.inj h
    obtain ⟨top, hresolve⟩ := hdirectory.1 rfl
    have houtcome : IsOutcome world root [] (search world root levelLimit []) :=
      isOutcome_search (isEntered_nil hresolve) (by decide) (by decide)
    rw [hsearch] at houtcome
    refine ⟨?_, fun _ fault _ ↦ houtcome.2 fault⟩
    intro names
    rw [List.mem_mergeSort, List.mem_eraseDups, houtcome.1]

/-- The fault in searching is that of the directory itself, or one that breaks the search off. -/
theorem candidates_eq_error (h : candidates world root = .error fault) :
    (∃ error : SystemError, error.IsNoAnswer ∧ fault = .system error root.toText ∧
        world.tree.entryAt world.here true root = .error fault) ∨
      ∃ top, world.tree.resolve world.here true root = .ok (top, some .directory) ∧
        BreaksSearch world root [] fault := by
  rcases bind_eq_error_iff.1 h with hasked | ⟨answer, hanswer, h⟩
  · obtain ⟨hentry, error, herror, hfault⟩ := holds_eq_error_iff.1 hasked
    exact .inl ⟨error, herror, hfault, hentry⟩
  cases answer with
  | false => exact absurd h pure_ne_error
  | true =>
    obtain ⟨top, hresolve⟩ := isDirectory_eq_true_iff.1 hanswer
    have houtcome : IsOutcome world root [] (search world root levelLimit []) :=
      isOutcome_search (isEntered_nil hresolve) (by decide) (by decide)
    rcases bind_eq_error_iff.1 h with hsearch | ⟨_, -, hpure⟩
    · rw [hsearch] at houtcome
      exact .inr ⟨top, hresolve, houtcome⟩
    · exact absurd hpure pure_ne_error

theorem IsEntered.list_eq {found : List Text} (h : IsEntered world root top start)
    (hlist : world.list (root.append start) = .ok (location, found)) :
    location = top ++ start ∧ found = world.tree.names (top ++ start) := by
  rcases h.list_cases with ⟨-, hother⟩ | ⟨-, hother⟩ | hother | hother
  all_goals cases hlist.symm.trans hother
  exact ⟨rfl, rfl⟩

/-- What a search comes to is reached through directories. -/
theorem IsListed.reaches (h : IsListed world root start names)
    (hstart : IsEntered world root top start) :
    world.tree.Reaches top names ∧ names ≠ [] := by
  induction h with
  | here hlist hname =>
    obtain ⟨rfl, rfl⟩ := hstart.list_eq hlist
    exact ⟨reaches_append.2 ⟨hstart.reaches, reaches_singleton.2 ⟨hstart.lookup_eq, hname⟩⟩,
      by simp⟩
  | deeper hlooks hdirectory _ ih =>
    obtain ⟨found, hlist, hname⟩ := hlooks.exists_list
    obtain ⟨rfl, rfl⟩ := hstart.list_eq hlist
    exact ih (hstart.concat hname hdirectory)

/-! ## Open trees -/

/-- Nothing is a barrier if every directory may be searched. -/
theorem not_isBarrier (h : world.tree.IsSearchable) (directory : Path) :
    ¬ IsBarrier world directory location name :=
  fun hbarrier ↦ h.entryAt_ne_denied hbarrier.choose_spec.2

theorem looksAt_of_mem {found : List Text} (h : world.tree.IsSearchable)
    (hlist : world.list (root.append start) = .ok (location, found)) (hname : name ∈ found) :
    LooksAt world root start location name := by
  obtain ⟨before, after, rfl⟩ := List.append_of_mem hname
  exact ⟨before, after, hlist, fun other _ ↦ not_isBarrier h _⟩

/-- In an open tree the search comes to all that is reached, unless it is broken off. -/
theorem isListed_of_reaches (hopen : world.tree.IsOpen) (hstart : IsEntered world root top start)
    (hunbroken : ∀ fault, ¬ BreaksSearch world root start fault) (hnames : names ≠ [])
    (h : world.tree.Reaches (top ++ start) names) :
    IsListed world root start (start ++ names) := by
  induction names generalizing start with
  | nil => exact absurd rfl hnames
  | cons name names ih =>
    obtain ⟨-, hname, hrest⟩ := h
    rcases hstart.list_cases with ⟨hnull, -⟩ | ⟨hlong, -⟩ | hdenied | hlist
    · exact absurd (.null hnull) (hunbroken _)
    · exact absurd (.directory hlong) (hunbroken _)
    · exact absurd hdenied hopen.list_ne_denied
    by_cases hlast : names = []
    · subst hlast
      exact .here hlist hname
    · have hdirectory : world.tree.lookup (top ++ start ++ [name]) = some .directory := by
        obtain ⟨next, rest, rfl⟩ := List.exists_cons_of_ne_nil hlast
        exact hrest.1
      have hlooks := looksAt_of_mem hopen.isSearchable hlist hname
      rw [List.append_assoc] at hrest
      rw [List.append_cons]
      exact .deeper hlooks hdirectory (ih (hstart.concat hname hdirectory)
        (fun fault hbreaks ↦ hunbroken fault (.deeper hlooks hdirectory hbreaks)) hlast hrest)

section Congruence

variable {other : World}

/-- Two worlds have the same directories, perhaps listed in another order. -/
structure IsReordered (world other : World) : Prop where
  here_eq : other.here = world.here
  lookup_eq : other.tree.lookup = world.tree.lookup
  allows_eq : other.tree.allows = world.tree.allows
  isSearchable : world.tree.IsSearchable

namespace IsReordered

theorem symm (h : IsReordered world other) : IsReordered other world where
  here_eq := h.here_eq.symm
  lookup_eq := h.lookup_eq.symm
  allows_eq := h.allows_eq.symm
  isSearchable := by
    intro location hlocation
    rw [h.allows_eq]
    exact h.isSearchable location (by rw [← h.lookup_eq, hlocation])

theorem resolve_eq (h : IsReordered world other) {follow : Bool} {path : Path} :
    other.tree.resolve other.here follow path = world.tree.resolve world.here follow path := by
  rw [h.here_eq, resolve_congr h.lookup_eq h.allows_eq]

theorem entryAt_eq (h : IsReordered world other) {follow : Bool} {path : Path} :
    other.tree.entryAt other.here follow path = world.tree.entryAt world.here follow path := by
  rw [h.here_eq, entryAt_congr h.lookup_eq h.allows_eq]

theorem exists_list (h : IsReordered world other) {path : Path} {found : List Text}
    (hlist : world.list path = .ok (location, found)) :
    ∃ found', other.list path = .ok (location, found') ∧ ∀ name, name ∈ found → name ∈ found' := by
  obtain ⟨hresolve, hallowed, rfl⟩ := list_eq_ok_iff.1 hlist
  refine ⟨_, list_eq_ok_iff.2 ⟨h.resolve_eq.trans hresolve, ?_, rfl⟩, ?_⟩
  · rw [h.allows_eq, hallowed]
  · intro name
    exact (mem_names_congr h.lookup_eq).2

theorem looksAt (h : IsReordered world other) (hlooks : LooksAt world root start location name) :
    LooksAt other root start location name := by
  obtain ⟨found, hlist, hname⟩ := hlooks.exists_list
  obtain ⟨found', hlist', hmem⟩ := h.exists_list hlist
  exact looksAt_of_mem h.symm.isSearchable hlist' (hmem name hname)

theorem isListed (h : IsReordered world other) (hlisted : IsListed world root start names) :
    IsListed other root start names := by
  induction hlisted with
  | here hlist hname =>
    obtain ⟨found', hlist', hmem⟩ := h.exists_list hlist
    exact .here hlist' (hmem _ hname)
  | deeper hlooks hdirectory _ ih =>
    exact .deeper (h.looksAt hlooks) (by rw [h.lookup_eq, hdirectory]) ih

theorem breaksSearch (h : IsReordered world other) (hbreaks : BreaksSearch world root start fault) :
    BreaksSearch other root start fault := by
  induction hbreaks with
  | null hnull => exact .null hnull
  | directory hlong => exact .directory (h.resolve_eq.trans hlong)
  | link hlooks hlink hlong =>
    exact .link (h.looksAt hlooks) (by rw [h.lookup_eq, hlink]) (h.entryAt_eq.trans hlong)
  | deeper hlooks hdirectory _ ih =>
    exact .deeper (h.looksAt hlooks) (by rw [h.lookup_eq, hdirectory]) ih

end IsReordered

end Congruence

end Discovery

end ShellMetrics
