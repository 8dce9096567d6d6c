import ShellMetrics.Proofs.Lookup
import ShellMetrics.Proofs.Overwriting
import ShellMetrics.Proofs.Path

/-!
# Trees of plain names

In a file tree the names on the way to an entry are components of paths.  A path or the target of
a link may have dots among its names, but following them leads to a location of plain names, so a
tree in which entries have been placed one by one is plain.
-/

namespace ShellMetrics.FileTree

open Fallible

variable {tree : FileTree} {here : Location} {follow : Bool} {path : Path}

/-- The names can stand as components of a path. -/
def AreNames (names : List Text) : Prop := ∀ name ∈ names, Path.IsName name

instance (names : List Text) : Decidable (AreNames names) :=
  inferInstanceAs (Decidable (∀ name ∈ names, Path.IsName name))

/-- Every entry stands at a location of names. -/
def IsPlain (tree : FileTree) : Prop := ∀ location ∈ tree.entries.keys, AreNames location

instance (tree : FileTree) : Decidable tree.IsPlain :=
  inferInstanceAs (Decidable (∀ location ∈ tree.entries.keys, AreNames location))

/-- A directory lists the entries one name below it. -/
theorem mem_names_iff {location : Location} {name : Text} :
    name ∈ tree.names location ↔
      location ++ [name] ∈ tree.entries.keys ∧ isDots name = false := by
  simp only [names, List.mem_filterMap, List.mem_filter, decide_eq_true_eq,
    Option.filter_eq_some_iff, Bool.not_eq_true']
  constructor
  · rintro ⟨other, ⟨hother, rfl⟩, hlast, hdots⟩
    rw [List.dropLast_append_getLast? name hlast]
    exact ⟨hother, hdots⟩
  · rintro ⟨hother, hdots⟩
    exact ⟨location ++ [name], ⟨hother, List.dropLast_concat⟩, List.getLast?_concat, hdots⟩

theorem IsPlain.isName_of_mem_names (htree : tree.IsPlain) {location : Location} {name : Text}
    (hname : name ∈ tree.names location) : Path.IsName name :=
  htree _ (mem_names_iff.1 hname).1 name (List.mem_append_right _ (List.mem_singleton_self name))

theorem IsPlain.insert (htree : tree.IsPlain) {location : Location} (hlocation : AreNames location)
    (entry : Entry) : (tree.insert location entry).IsPlain := by
  intro other hother
  rw [FileTree.insert, Ledger.keys_insert] at hother
  split at hother
  · exact htree other hother
  · rcases List.mem_append.1 hother with hother | hother
    · exact htree other hother
    · obtain rfl := List.mem_singleton.1 hother
      exact hlocation

/-! ## Following names -/

/-- The names of a path or of the target of a link, with dots among them. -/
def AreSteps (names : List Text) : Prop := ∀ name ∈ names, name ≠ [] ∧ '/' ∉ name

theorem AreNames.areSteps {names : List Text} (h : AreNames names) : AreSteps names :=
  fun name hname ↦ ⟨(h name hname).1, (h name hname).2.2⟩

theorem areSteps_targetNames (target : Text) : AreSteps (targetNames target) := by
  intro name hname
  rcases List.mem_append.1 hname with hname | hname
  · obtain ⟨hsplit, hne⟩ := List.mem_filter.1 hname
    exact ⟨by simpa using hne, Path.notMem_of_mem_splitOn hsplit⟩
  · split at hname
    · obtain rfl := List.mem_singleton.1 hname
      decide
    · exact absurd hname List.not_mem_nil

/-- One more step that is no dot. -/
theorem AreNames.concat {name : Text} {rest : List Text} (hhere : AreNames here)
    (hsteps : AreSteps (name :: rest)) (hdot : name ≠ ['.']) : AreNames (here ++ [name]) := by
  obtain ⟨hne, hslash⟩ := hsteps name List.mem_cons_self
  intro other hother
  rcases List.mem_append.1 hother with hother | hother
  · exact hhere other hother
  · obtain rfl := List.mem_singleton.1 hother
    exact ⟨hne, hdot, hslash⟩

/-- Where the walk ends, if it ends somewhere, is a location of names. -/
def LeadsToNames (walk : Location → List Text → Target) : Prop :=
  ∀ start names found, AreNames start → AreSteps names → walk start names = .ok found →
    AreNames found.1

/-- Following names leads to names, if following links does. -/
theorem leadsToNames_walkFrom {onLink : Location → List Text → Target}
    (honLink : LeadsToNames onLink) : LeadsToNames (tree.walkFrom follow onLink) := by
  intro start names found
  fun_induction walkFrom tree follow onLink start names with
  | case1 here =>
    intro hhere _ h
    obtain rfl := Except.ok.inj h
    exact hhere
  | case2 | case3 | case6 | case8 =>
    intro _ _ h
    cases h
  | case4 here rest _ _ ih =>
    intro hhere hsteps h
    exact ih hhere (List.forall_mem_cons.1 hsteps).2 h
  | case5 here rest _ _ _ ih =>
    intro hhere hsteps h
    have hparent : AreNames here.dropLast :=
      fun name hname ↦ hhere name (List.mem_of_mem_dropLast hname)
    exact ih hparent (List.forall_mem_cons.1 hsteps).2 h
  | case7 here name _ _ hdot | case9 here name _ _ _ hdot =>
    intro hhere hsteps h
    obtain rfl := Except.ok.inj h
    exact hhere.concat hsteps hdot
  | case10 here name rest _ _ _ _ _ target =>
    intro hhere hsteps h
    -- The link hands over to a shorter walk, from the top if its target is absolute.
    refine honLink _ _ found ?_ ?_ h
    · split
      · exact List.forall_mem_nil _
      · exact hhere
    · exact List.forall_mem_append.2
        ⟨areSteps_targetNames target, (List.forall_mem_cons.1 hsteps).2⟩
  | case11 here name rest _ _ hdot _ _ _ _ _ ih =>
    intro hhere hsteps h
    exact ih (hhere.concat hsteps hdot) (List.forall_mem_cons.1 hsteps).2 h

theorem leadsToNames_walk (links : ℕ) : LeadsToNames (tree.walk follow links) := by
  induction links with
  | zero => exact leadsToNames_walkFrom fun _ _ _ _ _ h ↦ absurd h nofun
  | succ links ih => exact leadsToNames_walkFrom ih

/-- A plain path leads to a location of names. -/
theorem areNames_of_resolve {location : Location} {entry : Option Entry} (hhere : AreNames here)
    (hpath : path.IsPlain) (h : tree.resolve here follow path = .ok (location, entry)) :
    AreNames location := by
  obtain ⟨-, -, hwalk⟩ := resolve_eq_ok_iff.1 h
  refine leadsToNames_walk linkLimit _ _ _ ?_ (AreNames.areSteps hpath) hwalk
  cases path.root with
  | relative => exact hhere
  | absolute => exact nofun
  | doubled => exact nofun

/-! ## Placing entries -/

section Placing

variable {placed : FileTree}

/-- A write to a plain path keeps a tree plain. -/
theorem IsPlain.updateFile (htree : tree.IsPlain) (hhere : AreNames here) (hpath : path.IsPlain)
    {change : List UInt8 → List UInt8} (h : tree.updateFile here path change = .ok placed) :
    placed.IsPlain := by
  rw [FileTree.updateFile, bind_eq_ok_iff] at h
  obtain ⟨⟨location, entry⟩, hresolve, h⟩ := h
  have hlocation := areNames_of_resolve hhere hpath hresolve
  match entry, h with
  | none, h | some (.file _), h =>
    obtain ⟨_, -, hinsert⟩ := bind_eq_ok_iff.1 h
    obtain rfl := Except.ok.inj hinsert
    exact htree.insert hlocation _

theorem isPlain_take (hpath : path.IsPlain) (count : ℕ) :
    Path.IsPlain { path with components := path.components.take count } :=
  fun name hname ↦ hpath name (List.mem_of_mem_take hname)

/-- Creating the directories of a plain path keeps a tree plain. -/
theorem IsPlain.makeDirectories (htree : tree.IsPlain) (hhere : AreNames here)
    (hpath : path.IsPlain) (h : tree.makeDirectories here path = .ok placed) : placed.IsPlain := by
  refine of_foldlM_eq_ok ?_ htree h
  intro count tree next htree hnext
  obtain ⟨⟨location, entry⟩, hresolve, hnext⟩ := bind_eq_ok_iff.1 hnext
  cases entry with
  | none =>
    obtain rfl := Except.ok.inj hnext
    exact htree.insert (areNames_of_resolve hhere (isPlain_take hpath _) hresolve) _
  | some entry =>
    obtain rfl := Except.ok.inj hnext
    exact htree

/-- Placing an entry in a plain tree leaves it plain. -/
theorem IsPlain.place (htree : tree.IsPlain) (hhere : AreNames here) (hpath : path.IsPlain)
    {entry : Entry} (h : tree.place here path entry = .ok placed) : placed.IsPlain := by
  rw [FileTree.place, bind_eq_ok_iff] at h
  obtain ⟨parents, hparents, h⟩ := h
  have hplain : parents.IsPlain := by
    refine htree.makeDirectories hhere ?_ hparents
    exact fun name hname ↦ hpath name (List.mem_of_mem_dropLast hname)
  cases entry with
  | file content => exact hplain.updateFile hhere hpath h
  | directory => exact hplain.makeDirectories hhere hpath h
  | link target =>
    obtain ⟨⟨location, found⟩, hresolve, hinsert⟩ := bind_eq_ok_iff.1 h
    obtain rfl := Except.ok.inj hinsert
    exact hplain.insert (areNames_of_resolve hhere hpath hresolve) _

end Placing

end ShellMetrics.FileTree
