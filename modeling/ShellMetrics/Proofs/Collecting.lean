import ShellMetrics.Proofs.Searching

/-!
# The scripts that paths stand for

Scripts are collected path by path, so two lists of paths stand for the scripts of the one
followed by those of the other.  A path that is no directory stands for itself, and a directory
for paths that lead from it to entries of the tree.  In a tree of plain names all of these are
plain, and so their texts tell them apart.
-/

namespace ShellMetrics

open Fallible

namespace Discovery

variable {world : World} {settings : Settings} {path script : Path} {paths scripts : List Path}

/-! ## Lists of paths -/

theorem collect_eq_ok_iff :
    collect world settings paths = .ok scripts ↔
      ∃ found, paths.mapM (expand world settings) = .ok found ∧ found.flatten = scripts := by
  simp only [collect, bind_eq_ok_iff, pure_eq_ok_iff]

/-- Paths are collected one after the other. -/
theorem collect_append {first second : List Path} :
    collect world settings (first ++ second) = .ok scripts ↔
      ∃ former latter, collect world settings first = .ok former ∧
        collect world settings second = .ok latter ∧ former ++ latter = scripts := by
  simp only [collect_eq_ok_iff, List.mapM_append, bind_eq_ok_iff, pure_eq_ok_iff]
  constructor
  · rintro ⟨_, ⟨former, hformer, latter, hlatter, rfl⟩, rfl⟩
    exact ⟨_, _, ⟨former, hformer, rfl⟩, ⟨latter, hlatter, rfl⟩, List.flatten_append.symm⟩
  · rintro ⟨_, _, ⟨former, hformer, rfl⟩, ⟨latter, hlatter, rfl⟩, rfl⟩
    exact ⟨_, ⟨former, hformer, latter, hlatter, rfl⟩, List.flatten_append⟩

theorem collect_singleton :
    collect world settings [path] = .ok scripts ↔ expand world settings path = .ok scripts := by
  simp only [collect_eq_ok_iff, List.mapM_cons, List.mapM_nil, bind_eq_ok_iff, pure_eq_ok_iff]
  constructor
  · rintro ⟨_, ⟨found, hfound, _, rfl, rfl⟩, rfl⟩
    simpa using hfound
  · intro hfound
    exact ⟨[scripts], ⟨scripts, hfound, [], rfl, rfl⟩, by simp⟩

/-- A collected script stems from one of the paths. -/
theorem exists_expand_of_mem (hcollect : collect world settings paths = .ok scripts)
    (hscript : script ∈ scripts) :
    ∃ path ∈ paths, ∃ found, expand world settings path = .ok found ∧ script ∈ found := by
  obtain ⟨found, hfound, rfl⟩ := collect_eq_ok_iff.1 hcollect
  obtain ⟨part, hpart, hmem⟩ := List.mem_flatten.1 hscript
  obtain ⟨path, hpath, hexpand⟩ := exists_of_mem_mapM hfound hpart
  exact ⟨path, hpath, part, hexpand, hmem⟩

/-! ## Single paths -/

/-- A path that is no directory stands for itself, whether or not something is there. -/
theorem expand_of_not_isDirectory (h : world.isDirectory path = .ok false) :
    expand world settings path = .ok [path] := by
  rw [expand, h]
  rfl

theorem expand_of_isDirectory (h : world.isDirectory path = .ok true) :
    expand world settings path = scan world settings path := by
  rw [expand, h]
  rfl

/-- A path that is no directory stands for itself, wherever it is put among other paths. -/
theorem collect_append_cons {first second former latter : List Path}
    (hformer : collect world settings first = .ok former)
    (hlatter : collect world settings second = .ok latter)
    (hpath : world.isDirectory path = .ok false) :
    collect world settings (first ++ path :: second) = .ok (former ++ path :: latter) := by
  have halone : collect world settings [path] = .ok [path] :=
    collect_singleton.2 (expand_of_not_isDirectory hpath)
  rw [List.append_cons, List.append_cons former, collect_append]
  exact ⟨former ++ [path], latter, collect_append.2 ⟨former, [path], hformer, halone, rfl⟩,
    hlatter, rfl⟩

/-- What is found below a directory is led to by the names of an entry. -/
theorem exists_names_of_mem_scan (hscan : scan world settings path = .ok scripts)
    (hscript : script ∈ scripts) :
    ∃ names, IsListed world path [] names ∧ script = path.append names := by
  simp only [scan, bind_eq_ok_iff, pure_eq_ok_iff, filterM_eq_ok_iff] at hscan
  obtain ⟨_, -, entries, hentries, _, ⟨-, rfl⟩, rfl⟩ := hscan
  obtain ⟨names, hnames, rfl⟩ := List.mem_map.1 hscript
  exact ⟨names, ((candidates_eq_ok hentries).1 names).1 (List.mem_of_mem_filter hnames), rfl⟩

/-- In a tree of plain names a search comes to plain names. -/
theorem IsListed.areNames {start names : List Text} (h : IsListed world path start names)
    (htree : world.tree.IsPlain) (hstart : FileTree.AreNames start) : FileTree.AreNames names := by
  have hconcat {start found : List Text} {location : Location} {name : Text}
      (hlist : world.list (path.append start) = .ok (location, found)) (hname : name ∈ found)
      (hstart : FileTree.AreNames start) : FileTree.AreNames (start ++ [name]) := by
    obtain ⟨-, -, rfl⟩ := FileTree.list_eq_ok_iff.1 hlist
    refine List.forall_mem_append.2 ⟨hstart, ?_⟩
    intro other hother
    obtain rfl := List.mem_singleton.1 hother
    exact htree.isName_of_mem_names hname
  induction h with
  | here hlist hname => exact hconcat hlist hname hstart
  | deeper hlooks _ _ ih =>
    obtain ⟨found, hlist, hname⟩ := hlooks.exists_list
    exact ih (hconcat hlist hname hstart)

/-- In a tree of plain names plain paths stand for plain scripts. -/
theorem isPlain_of_mem_collect (htree : world.tree.IsPlain) (hpaths : ∀ path ∈ paths, path.IsPlain)
    (hcollect : collect world settings paths = .ok scripts) (hscript : script ∈ scripts) :
    script.IsPlain := by
  obtain ⟨path, hpath, found, hexpand, hmem⟩ := exists_expand_of_mem hcollect hscript
  obtain ⟨answer, hdirectory, hexpand⟩ := bind_eq_ok_iff.1 hexpand
  cases answer with
  | false =>
    obtain rfl := Except.ok.inj hexpand
    obtain rfl := List.mem_singleton.1 hmem
    exact hpaths script hpath
  | true =>
    obtain ⟨names, hnames, rfl⟩ := exists_names_of_mem_scan hexpand hmem
    exact (hpaths path hpath).append (hnames.areNames htree nofun)

end Discovery

end ShellMetrics
