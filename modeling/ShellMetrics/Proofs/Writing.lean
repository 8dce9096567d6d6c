import ShellMetrics.Proofs.Walking

/-!
# Writing files

A write puts a file where there was one before, or where there was nothing.  Two trees that differ
in files only have the same ways through them, so a path that led somewhere before a write leads to
the same place after it, and what has been written stands there.
-/

namespace ShellMetrics.FileTree

open Fallible

variable {tree other : FileTree} {here location : Location} {follow : Bool} {path : Path}
  {names : List Text} {change : List UInt8 → List UInt8}

/-! ## Differences in files -/

/-- There is a file or nothing at a location. -/
def IsFileOrFree (tree : FileTree) (location : Location) : Prop :=
  ∀ entry, tree.lookup location = some entry → entry.isFile = true

/-- The top is a directory. -/
theorem IsFileOrFree.ne_nil (h : tree.IsFileOrFree location) : location ≠ [] := by
  rintro rfl
  exact absurd (h .directory rfl) nofun

/-- Two trees give the same leave, and wherever they differ, each of them has a file or nothing. -/
structure DifferInFiles (tree other : FileTree) : Prop where
  allows_eq : other.allows = tree.allows
  same_or_files : ∀ location, other.lookup location = tree.lookup location ∨
    tree.IsFileOrFree location ∧ other.IsFileOrFree location

theorem DifferInFiles.refl (tree : FileTree) : DifferInFiles tree tree :=
  ⟨rfl, fun _ ↦ .inl rfl⟩

theorem DifferInFiles.symm (h : DifferInFiles tree other) : DifferInFiles other tree := by
  refine ⟨h.allows_eq.symm, ?_⟩
  intro location
  rcases h.same_or_files location with hsame | ⟨htree, hother⟩
  · exact .inl hsame.symm
  · exact .inr ⟨hother, htree⟩

theorem DifferInFiles.trans {third : FileTree} (h : DifferInFiles tree other)
    (h' : DifferInFiles other third) : DifferInFiles tree third := by
  refine ⟨h'.allows_eq.trans h.allows_eq, ?_⟩
  intro location
  have hcarry {first second : FileTree} (hsame : first.lookup location = second.lookup location)
      (hfirst : first.IsFileOrFree location) : second.IsFileOrFree location := by
    intro entry hentry
    exact hfirst entry (hsame.trans hentry)
  rcases h.same_or_files location with hsame | ⟨htree, hother⟩
  · rcases h'.same_or_files location with hsame' | ⟨hother', hthird⟩
    · exact .inl (hsame'.trans hsame)
    · exact .inr ⟨hcarry hsame hother', hthird⟩
  · rcases h'.same_or_files location with hsame' | ⟨-, hthird⟩
    · exact .inr ⟨htree, hcarry hsame'.symm hother⟩
    · exact .inr ⟨htree, hthird⟩

/-- Directories and links are the same in both trees. -/
theorem DifferInFiles.lookup_eq (h : DifferInFiles tree other) {entry : Entry}
    (hentry : tree.lookup location = some entry) (hfile : entry.isFile = false) :
    other.lookup location = some entry := by
  rcases h.same_or_files location with hsame | ⟨htree, -⟩
  · rw [hsame, hentry]
  · rw [htree entry hentry] at hfile
    exact absurd hfile nofun

/-- Where there is no directory and no link in the one tree, there is a file or nothing in the
other. -/
theorem DifferInFiles.isFileOrFree (h : DifferInFiles tree other)
    (hfree : tree.IsFileOrFree location) : other.IsFileOrFree location := by
  intro entry hentry
  by_contra hfile
  have hback := h.symm.lookup_eq hentry (by simpa using hfile)
  exact hfile (hfree entry hback)

/-! ## Ways through trees that differ in files -/

/-- The last step to a file or to a free place. -/
theorem walkFrom_singleton {onLink : Location → List Text → Target} {name : Text}
    (hhere : tree.lookup here = some .directory) (hsearch : tree.allows .search here = true)
    (hname : IsEntryName name)
    (hfree : tree.IsFileOrFree (here ++ [name])) :
    tree.walkFrom follow onLink here [name] =
      .ok (here ++ [name], tree.lookup (here ++ [name])) := by
  obtain ⟨hdot, hdots, hlength⟩ := hname
  have hshort : ¬ nameLimit < (Utf8.encode name).length := not_lt.2 hlength
  cases hentry : tree.lookup (here ++ [name]) with
  | none => simp [walkFrom, hhere, hsearch, hdot, hdots, hshort, hentry]
  | some entry =>
    cases entry with
    | file content => simp [walkFrom, hhere, hsearch, hdot, hdots, hshort, hentry]
    | directory => cases hfree _ hentry
    | link target => cases hfree _ hentry

/-- Following names ends at the same place, if following links does. -/
theorem walkFrom_of_differInFiles (h : DifferInFiles tree other)
    {onLink onLink' : Location → List Text → Target}
    (honLink : ∀ start names place entry, onLink start names = .ok (place, entry) →
      onLink' start names = .ok (place, other.lookup place))
    {start place : Location} {entry : Option Entry}
    (hwalk : tree.walkFrom follow onLink start names = .ok (place, entry)) :
    other.walkFrom follow onLink' start names = .ok (place, other.lookup place) := by
  have hsearched {here : Location} (hsearch : ¬ (!tree.allows .search here) = true) :
      other.allows .search here = true := by
    rw [h.allows_eq]
    simpa using hsearch
  revert hwalk
  fun_induction walkFrom tree follow onLink start names with
  | case1 here =>
    intro hwalk
    obtain ⟨rfl, -⟩ := Prod.mk.inj (Except.ok.inj hwalk)
    rfl
  | case2 | case3 | case6 | case8 => simp
  | case4 here rest hhere hsearch ih =>
    intro hwalk
    have hother := h.lookup_eq (not_not.1 hhere) rfl
    simpa [walkFrom, hother, hsearched hsearch] using ih hwalk
  | case5 here rest hhere hsearch hdot ih =>
    intro hwalk
    have hother := h.lookup_eq (not_not.1 hhere) rfl
    simpa [walkFrom, hother, hsearched hsearch] using ih hwalk
  | case7 here name hhere hsearch hdot hdots hlong hnone =>
    intro hwalk
    obtain ⟨rfl, -⟩ := Prod.mk.inj (Except.ok.inj hwalk)
    have hfree : tree.IsFileOrFree (here ++ [name]) := by
      intro entry hentry
      rw [hnone] at hentry
      cases hentry
    exact walkFrom_singleton (h.lookup_eq (not_not.1 hhere) rfl) (hsearched hsearch)
      ⟨hdot, hdots, not_lt.1 hlong⟩ (h.isFileOrFree hfree)
  | case9 here name rest hhere hsearch hdot hdots hlong target hlink hlast =>
    intro hwalk
    obtain ⟨rfl, -⟩ := Prod.mk.inj (Except.ok.inj hwalk)
    have hother := h.lookup_eq (not_not.1 hhere) rfl
    have hlink' := h.lookup_eq hlink rfl
    simp only [walkFrom, hother, hsearched hsearch, hdot, hdots, hlong, hlink', hlast, ne_eq,
      not_true_eq_false, Bool.not_true, Bool.false_eq_true, if_true, if_false]
  | case10 here name rest hhere hsearch hdot hdots hlong target hlink hlast =>
    intro hwalk
    have hother := h.lookup_eq (not_not.1 hhere) rfl
    have hlink' := h.lookup_eq hlink rfl
    simpa only [walkFrom, hother, hsearched hsearch, hdot, hdots, hlong, hlink', hlast, ne_eq,
      not_true_eq_false, Bool.not_true, Bool.false_eq_true, if_false] using honLink _ _ _ _ hwalk
  | case11 here name rest hhere hsearch hdot hdots hlong entry hlink hentry ih =>
    intro hwalk
    have hother := h.lookup_eq (not_not.1 hhere) rfl
    have hname : IsEntryName name := ⟨hdot, hdots, not_lt.1 hlong⟩
    cases entry with
    | directory =>
      rw [walkFrom_cons hother (hsearched hsearch) hname (h.lookup_eq hentry rfl) hlink]
      exact ih hwalk
    | link target => exact (hlink target rfl).elim
    | file content =>
      -- Nothing leads on from a file, so this was the last name.
      cases rest with
      | cons next rest => simp [walkFrom, hentry] at hwalk
      | nil =>
        obtain ⟨rfl, -⟩ := Prod.mk.inj (Except.ok.inj hwalk)
        have hfree : tree.IsFileOrFree (here ++ [name]) := by
          intro entry hentry'
          obtain rfl := Option.some.inj (hentry.symm.trans hentry')
          rfl
        exact walkFrom_singleton hother (hsearched hsearch) hname (h.isFileOrFree hfree)

theorem walk_of_differInFiles (h : DifferInFiles tree other) {links : ℕ} {start place : Location}
    {entry : Option Entry} (hwalk : tree.walk follow links start names = .ok (place, entry)) :
    other.walk follow links start names = .ok (place, other.lookup place) := by
  induction links generalizing start names place entry with
  | zero =>
    refine walkFrom_of_differInFiles h ?_ hwalk
    intro _ _ _ _ hlink
    exact absurd hlink nofun
  | succ links ih => exact walkFrom_of_differInFiles h (fun _ _ _ _ hlink ↦ ih hlink) hwalk

/-- A path leads to the same place in both trees. -/
theorem resolve_of_differInFiles (h : DifferInFiles tree other) {place : Location}
    {entry : Option Entry} (hresolve : tree.resolve here follow path = .ok (place, entry)) :
    other.resolve here follow path = .ok (place, other.lookup place) := by
  obtain ⟨hnull, hlength, hwalk⟩ := resolve_eq_ok_iff.1 hresolve
  exact resolve_eq_ok_iff.2 ⟨hnull, hlength, walk_of_differInFiles h hwalk⟩

/-! ## Writes -/

/-- An entry that is put somewhere is seen there and nowhere else. -/
theorem lookup_insert {place : Location} (hplace : place ≠ []) (entry : Entry) :
    (tree.insert place entry).lookup location =
      if location = place then some entry else tree.lookup location := by
  unfold lookup insert
  by_cases hnil : location = []
  · simp [hnil, hplace.symm]
  · simp only [hnil, if_false, Ledger.find?_insert]

/-- A write puts a file at the place that the path leads to. -/
theorem updateFile_eq_ok (h : tree.updateFile here path change = .ok other) :
    ∃ place entry content, tree.resolve here true path = .ok (place, entry) ∧
      tree.IsFileOrFree place ∧ other = tree.insert place (.file (change content)) := by
  obtain ⟨⟨place, entry⟩, hresolve, h⟩ := bind_eq_ok_iff.1 h
  have hentry : entry = tree.lookup place := lookup_of_resolve hresolve
  match entry, h with
  | none, h =>
    obtain ⟨_, -, hinsert⟩ := bind_eq_ok_iff.1 h
    refine ⟨place, none, [], hresolve, ?_, (Except.ok.inj hinsert).symm⟩
    intro found hfound
    rw [← hentry] at hfound
    exact absurd hfound nofun
  | some (.file content), h =>
    obtain ⟨_, -, hinsert⟩ := bind_eq_ok_iff.1 h
    refine ⟨place, _, content, hresolve, ?_, (Except.ok.inj hinsert).symm⟩
    intro found hfound
    rw [← hentry] at hfound
    obtain rfl := Option.some.inj hfound
    rfl

/-- A write leaves a tree that differs in files only. -/
theorem differInFiles_of_updateFile (h : tree.updateFile here path change = .ok other) :
    DifferInFiles tree other := by
  obtain ⟨place, entry, content, -, hfree, rfl⟩ := updateFile_eq_ok h
  refine ⟨rfl, ?_⟩
  intro location
  rw [lookup_insert hfree.ne_nil]
  by_cases hlocation : location = place
  · refine .inr ⟨hlocation ▸ hfree, ?_⟩
    intro found hfound
    rw [lookup_insert hfree.ne_nil, if_pos hlocation] at hfound
    obtain rfl := Option.some.inj hfound
    rfl
  · exact .inl (if_neg hlocation)

/-- Two trees have the same entries, except that some files have other contents. -/
structure DifferInContents (rewritten : Location → Prop) (tree other : FileTree) : Prop where
  allows_eq : other.allows = tree.allows
  lookup_eq : ∀ location, ¬ rewritten location → other.lookup location = tree.lookup location
  are_files : ∀ location, rewritten location →
    (∃ content, tree.lookup location = some (.file content)) ∧
      ∃ content, other.lookup location = some (.file content)

namespace DifferInContents

variable {rewritten : Location → Prop}

theorem refl (h : ∀ location, rewritten location →
    ∃ content, tree.lookup location = some (.file content)) :
    DifferInContents rewritten tree tree where
  allows_eq := rfl
  lookup_eq _ _ := rfl
  are_files location hlocation := ⟨h location hlocation, h location hlocation⟩

/-- What is no file in the one tree is the same in the other. -/
theorem lookup_eq_iff (h : DifferInContents rewritten tree other) {found : Option Entry}
    (hfound : ∀ content, found ≠ some (.file content)) :
    other.lookup location = found ↔ tree.lookup location = found := by
  by_cases hlocation : rewritten location
  · obtain ⟨⟨content, htree⟩, content', hother⟩ := h.are_files location hlocation
    rw [htree, hother]
    exact iff_of_false (hfound content').symm (hfound content).symm
  · rw [h.lookup_eq location hlocation]

/-- Replacing the content of one of the files keeps the difference. -/
theorem insert (h : DifferInContents rewritten tree other) (hlocation : rewritten location)
    (content : List UInt8) :
    DifferInContents rewritten tree (other.insert location (.file content)) := by
  have hne : location ≠ [] := by
    rintro rfl
    obtain ⟨⟨content, hfile⟩, -⟩ := h.are_files [] hlocation
    cases hfile
  refine ⟨h.allows_eq, ?_, ?_⟩
  · intro place hplace
    have hother : place ≠ location := by
      rintro rfl
      exact hplace hlocation
    rw [lookup_insert hne, if_neg hother, h.lookup_eq place hplace]
  · intro place hplace
    obtain ⟨htree, hother⟩ := h.are_files place hplace
    refine ⟨htree, ?_⟩
    rw [lookup_insert hne]
    split
    · exact ⟨content, rfl⟩
    · exact hother

/-- Following names ends in the same way in both trees. -/
theorem walkFrom_eq (h : DifferInContents rewritten tree other)
    {onLink onLink' : Location → List Text → Target}
    (honLink : ∀ start names, onLink' start names =
      (onLink start names).map fun found ↦ (found.1, other.lookup found.1))
    (start : Location) (names : List Text) :
    other.walkFrom follow onLink' start names =
      (tree.walkFrom follow onLink start names).map fun found ↦
        (found.1, other.lookup found.1) := by
  have hdirectory {location : Location} :
      other.lookup location = some .directory ↔ tree.lookup location = some .directory :=
    h.lookup_eq_iff (by simp)
  fun_induction walkFrom tree follow onLink start names with
  | case1 here => rfl
  | case2 here name rest hhere => simp [walkFrom, hdirectory, hhere, Except.map]
  | case3 here name rest hhere hdenied =>
    simp only [walkFrom, ne_eq, hdirectory, hhere, h.allows_eq, hdenied, if_true, if_false]
    rfl
  | case4 here rest hhere hsearch ih =>
    simpa only [walkFrom, ne_eq, hdirectory, hhere, h.allows_eq, hsearch, Bool.false_eq_true,
      if_true, if_false] using ih
  | case5 here rest hhere hsearch hdot ih =>
    simpa only [walkFrom, ne_eq, hdirectory, hhere, h.allows_eq, hsearch, hdot,
      Bool.false_eq_true, if_true, if_false] using ih
  | case6 here name rest hhere hsearch hdot hdots hlong =>
    simp only [walkFrom, ne_eq, hdirectory, hhere, h.allows_eq, hsearch, hdot, hdots, hlong,
      if_true, if_false]
    rfl
  | case7 here name hhere hsearch hdot hdots hlong hnone =>
    have hfree : other.lookup (here ++ [name]) = none := (h.lookup_eq_iff (by simp)).2 hnone
    simp only [walkFrom, ne_eq, hdirectory, hhere, h.allows_eq, hsearch, hdot, hdots, hlong, hfree,
      Bool.false_eq_true, if_true, if_false, Except.map]
  | case8 here name rest hhere hsearch hdot hdots hlong hnone hlast =>
    have hfree : other.lookup (here ++ [name]) = none := (h.lookup_eq_iff (by simp)).2 hnone
    simp only [walkFrom, ne_eq, hdirectory, hhere, h.allows_eq, hsearch, hdot, hdots, hlong, hfree,
      hlast, Bool.false_eq_true, if_false, Except.map]
  | case9 here name rest hhere hsearch hdot hdots hlong target hlink hlast =>
    have hlink' := (h.lookup_eq_iff (by simp)).2 hlink
    simp only [walkFrom, ne_eq, hdirectory, hhere, h.allows_eq, hsearch, hdot, hdots, hlong, hlink',
      hlast, Bool.false_eq_true, if_true, if_false, Except.map]
  | case10 here name rest hhere hsearch hdot hdots hlong target hlink hlast =>
    have hlink' := (h.lookup_eq_iff (by simp)).2 hlink
    simp only [walkFrom, ne_eq, hdirectory, hhere, h.allows_eq, hsearch, hdot, hdots, hlong, hlink',
      hlast, Bool.false_eq_true, if_false]
    exact honLink _ _
  | case11 here name rest hhere hsearch hdot hdots hlong entry hlink hentry ih =>
    have hallowed : other.allows .search here = true := by
      rw [h.allows_eq]
      simpa using hsearch
    have hsome : ∃ entry', other.lookup (here ++ [name]) = some entry' ∧
        ∀ target, entry' = .link target → False := by
      cases entry with
      | link target => exact (hlink target rfl).elim
      | directory => exact ⟨.directory, hdirectory.2 hentry, by simp⟩
      | file content =>
        by_cases hplace : rewritten (here ++ [name])
        · obtain ⟨-, content', hfile⟩ := h.are_files _ hplace
          exact ⟨_, hfile, by simp⟩
        · exact ⟨_, (h.lookup_eq _ hplace).trans hentry, by simp⟩
    obtain ⟨entry', hentry', hlink'⟩ := hsome
    rw [walkFrom_cons (hdirectory.2 (not_not.1 hhere)) hallowed ⟨hdot, hdots, not_lt.1 hlong⟩
      hentry' hlink']
    exact ih

theorem walk_eq (h : DifferInContents rewritten tree other) (links : ℕ) (start : Location)
    (names : List Text) :
    other.walk follow links start names =
      (tree.walk follow links start names).map fun found ↦ (found.1, other.lookup found.1) := by
  induction links generalizing start names with
  | zero =>
    refine h.walkFrom_eq ?_ start names
    intro _ _
    rfl
  | succ links ih => exact h.walkFrom_eq ih start names

theorem resolve_eq_map (h : DifferInContents rewritten tree other) :
    other.resolve here follow path =
      (tree.resolve here follow path).map fun found ↦ (found.1, other.lookup found.1) := by
  unfold resolve
  dsimp only
  rw [h.walk_eq]
  split
  · rfl
  split
  · rfl
  · cases tree.walk follow linkLimit _ path.components <;> rfl

/-- A path that leads somewhere in the other tree leads to the same place in this one. -/
theorem exists_resolve (h : DifferInContents rewritten tree other) {place : Location}
    {entry : Option Entry} (hresolve : other.resolve here follow path = .ok (place, entry)) :
    ∃ found, tree.resolve here follow path = .ok (place, found) := by
  rw [h.resolve_eq_map] at hresolve
  cases hstart : tree.resolve here follow path with
  | error fault =>
    rw [hstart] at hresolve
    cases hresolve
  | ok found =>
    rw [hstart] at hresolve
    obtain ⟨rfl, -⟩ := Prod.mk.inj (Except.ok.inj hresolve)
    exact ⟨found.2, rfl⟩

/-- A path that leads to none of the rewritten files leads to the same in both trees. -/
theorem resolve_eq (h : DifferInContents rewritten tree other)
    (hpath : ∀ place entry, tree.resolve here follow path = .ok (place, entry) →
      ¬ rewritten place) :
    other.resolve here follow path = tree.resolve here follow path := by
  rw [h.resolve_eq_map]
  cases hresolve : tree.resolve here follow path with
  | error fault => rfl
  | ok found =>
    obtain ⟨place, entry⟩ := found
    change Except.ok (place, other.lookup place) = _
    rw [h.lookup_eq place (hpath place entry hresolve), lookup_of_resolve hresolve]

end DifferInContents

end ShellMetrics.FileTree
