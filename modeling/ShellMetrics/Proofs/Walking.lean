import ShellMetrics.Proofs.PlainTree

/-!
# Ways through a tree

A walk depends on nothing but what stands at each location and what may be done there.  A walk that
leads to a directory can be continued: it comes to the entries below the directory by their names,
and only the last of them can be a link.
-/

namespace ShellMetrics.FileTree

open Fallible

variable {tree other : FileTree} {here location : Location} {follow : Bool} {path : Path}
  {names : List Text}

/-! ## What stands where -/

theorem lookup_of_ne_nil (h : location ≠ []) :
    tree.lookup location = tree.entries.find? location := if_neg h

theorem lookup_isSome_of_mem_names {name : Text} (h : name ∈ tree.names location) :
    ∃ entry, tree.lookup (location ++ [name]) = some entry := by
  rw [lookup_of_ne_nil (by simp), ← Option.isSome_iff_exists, ← Option.ne_none_iff_isSome, ne_eq,
    Ledger.find?_eq_none_iff, not_not]
  exact (mem_names_iff.1 h).1

/-! ## Trees with the same entries -/

section Congruence

variable (hlookup : tree.lookup = other.lookup) (hallows : tree.allows = other.allows)

include hlookup in
theorem mem_names_congr {name : Text} :
    name ∈ tree.names location ↔ name ∈ other.names location := by
  have hkey (tree : FileTree) : location ++ [name] ∈ tree.entries.keys ↔
      tree.lookup (location ++ [name]) ≠ none := by
    rw [lookup_of_ne_nil (by simp), ne_eq, Ledger.find?_eq_none_iff, not_not]
  rw [mem_names_iff, mem_names_iff, hkey, hkey, hlookup]

include hlookup hallows

theorem walkFrom_congr (follow : Bool) (onLink : Location → List Text → Target) :
    tree.walkFrom follow onLink = other.walkFrom follow onLink := by
  funext here names
  induction names generalizing here with
  | nil => simp only [walkFrom, hlookup]
  | cons name rest ih => simp only [walkFrom, hlookup, hallows, ih]

theorem walk_congr (follow : Bool) (links : ℕ) :
    tree.walk follow links = other.walk follow links := by
  induction links with
  | zero => exact walkFrom_congr hlookup hallows follow _
  | succ links ih => rw [walk, walk, ih, walkFrom_congr hlookup hallows]

theorem resolve_congr : tree.resolve here follow path = other.resolve here follow path := by
  simp only [resolve, walk_congr hlookup hallows]

theorem entryAt_congr : tree.entryAt here follow path = other.entryAt here follow path := by
  simp only [entryAt, resolve_congr hlookup hallows]

theorem holds_congr {kind : Entry → Bool} :
    tree.holds here follow kind path = other.holds here follow kind path := by
  simp only [holds, entryAt_congr hlookup hallows]

theorem read_congr : tree.read here path = other.read here path := by
  simp only [read, demand, hallows, resolve_congr hlookup hallows]

end Congruence

/-! ## Continued walks -/

/-- A name that an entry of a directory can be asked for by. -/
def IsEntryName (name : Text) : Prop :=
  name ≠ ['.'] ∧ name ≠ ['.', '.'] ∧ (Utf8.encode name).length ≤ nameLimit

/-- One step to an entry that is no link. -/
theorem walkFrom_cons {onLink : Location → List Text → Target} {name : Text} {entry : Entry}
    (hhere : tree.lookup here = some .directory) (hsearch : tree.allows .search here = true)
    (hname : IsEntryName name)
    (hentry : tree.lookup (here ++ [name]) = some entry)
    (hlink : ∀ target, entry = .link target → False) :
    tree.walkFrom follow onLink here (name :: names) =
      tree.walkFrom follow onLink (here ++ [name]) names := by
  obtain ⟨hdot, hdots, hlength⟩ := hname
  have hshort : ¬ nameLimit < (Utf8.encode name).length := not_lt.2 hlength
  cases entry with
  | file content => simp [walkFrom, hhere, hsearch, hdot, hdots, hshort, hentry]
  | directory => simp [walkFrom, hhere, hsearch, hdot, hdots, hshort, hentry]
  | link target => exact (hlink target rfl).elim

/-- A walk that goes on from a directory, if it comes to the same whatever is done at links, is how
every walk goes on that leads to this directory first. -/
theorem walkFrom_append {onLink onLink' : Location → List Text → Target} {start : Location}
    {front : List Text} {result : Target} (hnames : names ≠ [])
    (honLink : ∀ start front, onLink start front = .ok (location, some .directory) →
      onLink' start (front ++ names) = result)
    (hrest : tree.walkFrom follow onLink' location names = result)
    (hfront : tree.walkFrom true onLink start front = .ok (location, some .directory)) :
    tree.walkFrom follow onLink' start (front ++ names) = result := by
  revert hfront
  fun_induction walkFrom tree true onLink start front with
  | case1 here =>
    intro h
    rw [(Prod.mk.inj (Except.ok.inj h)).1]
    exact hrest
  | case2 | case3 | case6 | case7 | case8 | case9 => simp
  | case4 here rest hhere hsearch ih =>
    intro h
    simpa [walkFrom, hhere, hsearch] using ih h
  | case5 here rest hhere hsearch hdot ih =>
    intro h
    simpa [walkFrom, hhere, hsearch] using ih h
  | case10 here name rest hhere hsearch hdot hdots hlong target hlink hlast =>
    intro h
    -- With names left behind it, a link is followed even if links are asked for themselves.
    simpa [walkFrom, hhere, hsearch, hdot, hdots, hlong, hlink, hnames] using honLink _ _ h
  | case11 here name rest hhere hsearch hdot hdots hlong entry hlink hentry ih =>
    intro h
    have hname : IsEntryName name := ⟨hdot, hdots, not_lt.1 hlong⟩
    have hallowed : tree.allows .search here = true := by simpa using hsearch
    rw [List.cons_append, walkFrom_cons (not_not.1 hhere) hallowed hname hentry hlink]
    exact ih h

/-- Names go on from the directory that the names before them lead to. -/
theorem walk_append {start : Location} {front : List Text} {result : Target} (hnames : names ≠ [])
    (hrest : ∀ links, tree.walk follow links location names = result) {links : ℕ}
    (hfront : tree.walk true links start front = .ok (location, some .directory)) :
    tree.walk follow links start (front ++ names) = result := by
  induction links generalizing start front with
  | zero =>
    refine walkFrom_append hnames ?_ (hrest 0) hfront
    intro _ _ h
    exact absurd h nofun
  | succ links ih => exact walkFrom_append hnames (fun _ _ h ↦ ih h) (hrest (links + 1)) hfront

theorem resolve_append {root : Path} {result : Target}
    (hroot : tree.resolve here true root = .ok (location, some .directory)) (hnames : names ≠ [])
    (hnull : '\x00' ∉ (root.append names).toText)
    (hlength : (Utf8.encode (root.append names).toText).length ≤ pathLimit)
    (hrest : ∀ links, tree.walk follow links location names = result) :
    tree.resolve here follow (root.append names) =
      result.mapError (.system · (root.append names).toText) := by
  obtain ⟨-, -, hfront⟩ := resolve_eq_ok_iff.1 hroot
  rw [resolve_eq_walk hnull hlength, ← walk_append hnames hrest hfront]
  rfl

/-- A path that is too long is refused before it is looked up. -/
theorem resolve_of_long (hnull : '\x00' ∉ path.toText)
    (h : pathLimit < (Utf8.encode path.toText).length) :
    tree.resolve here follow path = .error (.system .nameTooLong path.toText) := by
  simp [resolve, hnull, h]

/-! ## Entries below a directory -/

/-- Each of the names is that of an entry in the directory that the names before it lead to. -/
def Reaches (tree : FileTree) : Location → List Text → Prop
  | _, [] => True
  | location, name :: names =>
    tree.lookup location = some .directory ∧ name ∈ tree.names location ∧
      tree.Reaches (location ++ [name]) names

theorem reaches_append {front : List Text} :
    tree.Reaches location (front ++ names) ↔
      tree.Reaches location front ∧ tree.Reaches (location ++ front) names := by
  induction front generalizing location with
  | nil => simp [Reaches]
  | cons name front ih => simp [Reaches, ih, and_assoc]

theorem reaches_singleton {name : Text} :
    tree.Reaches location [name] ↔
      tree.lookup location = some .directory ∧ name ∈ tree.names location := by
  simp [Reaches]

/-- Names that lead through directories to an entry are followed to it, unless it is a link that is
followed in turn, or they lead nowhere, however links are treated. -/
theorem Reaches.walkFrom_cases (h : tree.Reaches location names) (hnames : names ≠ []) :
    (∃ error : SystemError, error.IsNoAnswer ∧
        ∀ follow onLink, tree.walkFrom follow onLink location names = .error error) ∨
      ∃ entry, tree.lookup (location ++ names) = some entry ∧
        ∀ follow onLink, follow = false ∨ entry.isLink = false →
          tree.walkFrom follow onLink location names = .ok (location ++ names, some entry) := by
  induction names generalizing location with
  | nil => exact absurd rfl hnames
  | cons name names ih =>
    obtain ⟨hlocation, hname, hrest⟩ := h
    obtain ⟨entry, hentry⟩ := lookup_isSome_of_mem_names hname
    have hdots : name ≠ ['.'] ∧ name ≠ ['.', '.'] := by
      simpa [isDots] using (mem_names_iff.1 hname).2
    cases hsearch : tree.allows .search location with
    | false =>
      refine .inl ⟨.denied, .inl rfl, ?_⟩
      intro follow onLink
      simp [walkFrom, hlocation, hsearch]
    | true =>
    by_cases hlong : nameLimit < (Utf8.encode name).length
    · refine .inl ⟨.nameTooLong, .inr rfl, ?_⟩
      intro follow onLink
      simp [walkFrom, hlocation, hsearch, hdots, hlong]
    by_cases hlast : names = []
    · subst hlast
      refine .inr ⟨entry, hentry, ?_⟩
      intro follow onLink hfollow
      cases entry with
      | file content => simp [walkFrom, hlocation, hsearch, hdots, hlong, hentry]
      | directory => simp [walkFrom, hlocation, hsearch, hdots, hlong, hentry]
      | link target =>
        have hself : follow = false := hfollow.resolve_right nofun
        simp [walkFrom, hlocation, hsearch, hdots, hlong, hentry, hself]
    · -- Further names lead on from a directory only.
      have hdirectory : tree.lookup (location ++ [name]) = some .directory := by
        obtain ⟨next, rest, rfl⟩ := List.exists_cons_of_ne_nil hlast
        exact hrest.1
      have hstep (follow : Bool) (onLink : Location → List Text → Target) :
          tree.walkFrom follow onLink location (name :: names) =
            tree.walkFrom follow onLink (location ++ [name]) names :=
        walkFrom_cons hlocation hsearch ⟨hdots.1, hdots.2, not_lt.1 hlong⟩ hdirectory nofun
      simp only [hstep]
      rw [List.append_cons location name names]
      exact ih hrest hlast

/-- An entry below a directory is looked up by its own path.  What is in the way of a link is in the
way of its target as well. -/
theorem Reaches.resolve_cases {root : Path} (h : tree.Reaches location names) (hnames : names ≠ [])
    (hroot : tree.resolve here true root = .ok (location, some .directory)) :
    (∃ fault, (fault = .nullInPath ∨ ∃ error : SystemError, error.IsNoAnswer ∧
          fault = .system error (root.append names).toText) ∧
        ∀ follow, tree.resolve here follow (root.append names) = .error fault) ∨
      ∃ entry, tree.lookup (location ++ names) = some entry ∧
        ∀ follow, follow = false ∨ entry.isLink = false →
          tree.resolve here follow (root.append names) = .ok (location ++ names, some entry) := by
  by_cases hnull : '\x00' ∈ (root.append names).toText
  · exact .inl ⟨_, .inl rfl, fun follow ↦ resolve_of_null hnull⟩
  by_cases hpath : pathLimit < (Utf8.encode (root.append names).toText).length
  · exact .inl ⟨_, .inr ⟨.nameTooLong, .inr rfl, rfl⟩, fun follow ↦ resolve_of_long hnull hpath⟩
  have hresolve (result : Target) {follow : Bool}
      (hrest : ∀ links, tree.walk follow links location names = result) :=
    resolve_append hroot hnames hnull (not_lt.1 hpath) hrest
  rcases h.walkFrom_cases hnames with ⟨error, herror, hwalk⟩ | ⟨entry, hentry, hwalk⟩
  · refine .inl ⟨_, .inr ⟨error, herror, rfl⟩, ?_⟩
    intro follow
    rw [hresolve (.error error)]
    · rfl
    · intro links
      cases links <;> exact hwalk follow _
  · refine .inr ⟨entry, hentry, ?_⟩
    intro follow hfollow
    rw [hresolve (.ok (location ++ names, some entry))]
    · rfl
    · intro links
      cases links <;> exact hwalk follow _ hfollow

end ShellMetrics.FileTree
