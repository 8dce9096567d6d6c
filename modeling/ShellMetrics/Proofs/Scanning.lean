import ShellMetrics.Proofs.Searching
import Mathlib.Data.List.Sort

/-!
# What a scan finds

A scan finds those entries below a directory that its search comes to, that are neither hidden nor
excluded, and that are scripts, each once and in the order of their components.  In a tree where
every directory may be searched and listed these are all scripts below the directory, and the order
in which directories are listed has no effect.  A scan is broken off by names that are too long and
by directories that may not be searched, and by nothing else.
-/

namespace ShellMetrics

open Fallible

namespace Discovery

/-! ## The order of paths -/

/-- Lists are compared like their elements, lexicographically. -/
theorem compare_list_eq_lt_iff {α : Type} [Ord α] [LT α] [Std.LawfulEqOrd α]
    [Std.Irrefl (α := α) (· < ·)] (h : ∀ a b : α, compare a b = .lt ↔ a < b)
    (first second : List α) :
    compare first second = .lt ↔ first < second := by
  induction first generalizing second with
  | nil => cases second <;> simp [List.compare_nil_cons]
  | cons a first ih =>
    cases second with
    | nil => simp [List.compare_cons_nil]
    | cons b second =>
      rw [List.compare_cons_cons, Ordering.then_eq_lt, h, ih, List.cons_lt_cons_iff]
      simp

theorem compare_names_eq_lt_iff (first second : List Text) :
    compare first second = .lt ↔ first < second := by
  apply compare_list_eq_lt_iff
  apply compare_list_eq_lt_iff
  intro a b
  exact compareOfLessAndEq_eq_lt

theorem lt_of_precedes {first second : List Text} (h : precedes first second = true)
    (hne : first ≠ second) : first < second := by
  have heq : compare first second ≠ .eq := fun heq ↦ hne (Std.LawfulEqOrd.eq_of_compare heq)
  apply (compare_names_eq_lt_iff first second).1
  cases hcompare : compare first second with
  | lt => rfl
  | eq => exact absurd hcompare heq
  | gt => simp [precedes, hcompare] at h

/-- Distinct names are sorted strictly. -/
theorem pairwise_mergeSort_precedes {entries : List (List Text)} (h : entries.Nodup) :
    (entries.mergeSort precedes).Pairwise (· < ·) := by
  have hsorted : (entries.mergeSort precedes).Pairwise fun first second ↦
      precedes first second = true := by
    apply List.pairwise_mergeSort
    · intro first second third hfirst hsecond
      exact Std.TransOrd.isLE_trans hfirst hsecond
    · intro first second
      rw [precedes, precedes, Std.OrientedOrd.eq_swap (a := second) (b := first)]
      cases compare first second <;> rfl
  have hnodup : (entries.mergeSort precedes).Nodup := (List.mergeSort_perm _ _).nodup_iff.2 h
  exact hsorted.imp₂ (fun _ _ hprecedes hne ↦ lt_of_precedes hprecedes hne) hnodup

theorem nodup_eraseDups {α : Type} [BEq α] [LawfulBEq α] : ∀ items : List α,
    items.eraseDups.Nodup
  | [] => by simp
  | item :: items => by
    rw [List.eraseDups_cons, List.nodup_cons, List.mem_eraseDups]
    exact ⟨by simp, nodup_eraseDups _⟩
termination_by items => items.length
decreasing_by exact Nat.lt_succ_of_le (List.length_filter_le _ _)

/-! ## Scripts below a directory -/

/-- The names are not hidden, unless hidden ones are allowed, and no pattern takes them. -/
structure IsKept (settings : Settings) (patterns names : List Text) : Prop where
  visible : settings.allowHidden.isTruthy ∨ ∀ name ∈ names, name.head? ≠ some '.'
  notExcluded : ∀ pattern ∈ patterns,
    Glob.accepts pattern ({ root := .relative, components := names } : Path).toText = false

/-- The names lead from the directory at the end of a path, through directories, to a file, through
a link at the end only if links are followed.  They are kept, and the file has one of the
extensions, or no suffix and a first line that names a shell. -/
structure Finds (world : World) (settings : Settings) (extensions patterns : List Text)
    (root : Path) (location : Location) (names : List Text) : Prop where
  start : world.tree.resolve world.here true root = .ok (location, some .directory)
  ne_nil : names ≠ []
  reaches : world.tree.Reaches location names
  isKept : IsKept settings patterns names
  notLink : settings.followLinks.isTruthy ∨
    ∀ target, world.tree.lookup (location ++ names) ≠ some (.link target)
  isFile : ∃ content, world.tree.entryAt world.here true (root.append names) = .ok (.file content)
  isScript : Text.lower (root.append names).suffix ∈ extensions.map Text.lower ∨
    (root.append names).suffix = [] ∧ Script.hasShebang world (root.append names) = .ok true

/-- A fault breaks a scan off: the path of the directory cannot be asked about, the search is broken
off, or an entry that is kept cannot be asked about, or its target if links are followed. -/
inductive Breaks (world : World) (settings : Settings) (patterns : List Text) (root : Path) :
    Fault → Prop
  | root {error : SystemError} (herror : error.IsNoAnswer)
      (hentry : world.tree.entryAt world.here true root = .error (.system error root.toText)) :
      Breaks world settings patterns root (.system error root.toText)
  | search {location : Location} {fault : Fault}
      (hroot : world.tree.resolve world.here true root = .ok (location, some .directory))
      (hsearch : BreaksSearch world root [] fault) : Breaks world settings patterns root fault
  | entry {names : List Text} {error : SystemError} (hlisted : IsListed world root [] names)
      (hkept : IsKept settings patterns names) (herror : error.IsNoAnswer)
      (hentry : world.tree.entryAt world.here settings.followLinks.isTruthy (root.append names) =
        .error (.system error (root.append names).toText)) :
      Breaks world settings patterns root (.system error (root.append names).toText)

section Scanning

variable {world : World} {settings : Settings} {extensions patterns suffixes : List Text}
  {root path : Path} {location : Location} {names : List Text} {fault : Fault}

/-! ## Which entries are kept -/

/-- Texts can all be matched as patterns. -/
theorem isExcludedBy_eq (text : Text) (patterns : List Text) :
    isExcludedBy text (patterns.map .text) =
      .ok (patterns.any fun pattern ↦ Glob.accepts pattern text) := by
  induction patterns with
  | nil => rfl
  | cons pattern patterns ih =>
    rw [List.map_cons, isExcludedBy, ih]
    cases h : Glob.accepts pattern text <;> simp [h]

theorem suffixes_eq (h : settings.extensions.elements = .ok (extensions.map .text)) :
    Discovery.suffixes settings = .ok (extensions.map Text.lower) := by
  rw [Discovery.suffixes, h]
  apply mapM_eq_ok_iff.2
  rw [List.forall₂_map_left_iff, List.forall₂_map_right_iff, List.forall₂_same]
  intro extension _
  rfl

/-- A file can be looked at for a shell in its first line. -/
theorem hasShebang_ne_error (h : world.tree.isFile world.here path = .ok true) :
    Script.hasShebang world path ≠ .error fault := by
  -- With a null character in its path it would not have been taken for a file.
  have hnull : '\x00' ∉ path.toText := by
    intro hnull
    rw [FileTree.isFile, FileTree.holds_of_null hnull] at h
    cases h
  unfold Script.hasShebang
  cases hread : world.read path with
  | ok octets => simp
  | error cause =>
    obtain ⟨error, rfl⟩ := FileTree.read_eq_error hnull hread
    simp

/-- What is asked about an entry that is kept. -/
def isScriptFile (world : World) (settings : Settings) (suffixes : List Text) (path : Path) :
    Except Fault Bool := do
  if (← world.tree.isLink world.here path) && !settings.followLinks.isTruthy then return false
  if !(← world.tree.isFile world.here path) then return false
  if suffixes.contains (Text.lower path.suffix) then return true
  if path.suffix = [] then Script.hasShebang world path else return false

section Kept

variable (hpatterns : settings.excludePatterns.elements = .ok (patterns.map .text))

include hpatterns

theorem isExcluded_eq :
    isExcluded settings path =
      .ok (patterns.any fun pattern ↦ Glob.accepts pattern path.toText) := by
  rw [isExcluded, hpatterns]
  exact isExcludedBy_eq _ patterns

theorem isKept_iff :
    IsKept settings patterns names ↔
      (!settings.allowHidden.isTruthy &&
        ({ root := .relative, components := names } : Path).isHidden) = false ∧
      isExcluded settings { root := .relative, components := names } = .ok false := by
  have hvisible : (!settings.allowHidden.isTruthy &&
      ({ root := .relative, components := names } : Path).isHidden) = false ↔
        (settings.allowHidden.isTruthy ∨ ∀ name ∈ names, name.head? ≠ some '.') := by
    simp [Path.isHidden, Path.parts, imp_iff_not_or]
  rw [hvisible, isExcluded_eq hpatterns, Except.ok.injEq, List.any_eq_false]
  constructor
  · intro h
    exact ⟨h.visible, by simpa using h.notExcluded⟩
  · intro h
    exact ⟨h.1, by simpa using h.2⟩

theorem isScript_of_isKept (h : IsKept settings patterns names) :
    isScript world settings suffixes root names =
      isScriptFile world settings suffixes (root.append names) := by
  obtain ⟨hvisible, hexcluded⟩ := (isKept_iff hpatterns).1 h
  simp only [isScript, hvisible, hexcluded, Bool.false_eq_true, if_false]
  rfl

theorem isScript_of_not_isKept (h : ¬ IsKept settings patterns names) :
    isScript world settings suffixes root names = .ok false := by
  have hexcluded : isExcluded settings { root := .relative, components := names } = _ :=
    isExcluded_eq hpatterns
  rw [isKept_iff hpatterns, hexcluded] at h
  simp only [isScript, hexcluded]
  cases hvisible : !settings.allowHidden.isTruthy &&
      ({ root := .relative, components := names } : Path).isHidden with
  | true => rfl
  | false =>
    cases htaken : patterns.any fun pattern ↦ Glob.accepts pattern
        ({ root := .relative, components := names } : Path).toText with
    | true => rfl
    | false => exact absurd ⟨hvisible, congrArg _ htaken⟩ h

end Kept

/-! ## Which entries are scripts -/

theorem isScriptFile_eq_true_iff :
    isScriptFile world settings suffixes path = .ok true ↔
      (∃ link, world.tree.isLink world.here path = .ok link ∧
        (link && !settings.followLinks.isTruthy) = false) ∧
      world.tree.isFile world.here path = .ok true ∧
      (Text.lower path.suffix ∈ suffixes ∨
        path.suffix = [] ∧ Script.hasShebang world path = .ok true) := by
  have hstop {c : Bool} {x : Except Fault Bool} :
      (if c then pure false else x) = .ok true ↔ c = false ∧ x = .ok true := by
    cases c <;> simp
  have hshebang : (if suffixes.contains (Text.lower path.suffix) then pure true
      else if path.suffix = [] then Script.hasShebang world path else pure false) =
        (.ok true : Except Fault Bool) ↔ Text.lower path.suffix ∈ suffixes ∨
          path.suffix = [] ∧ Script.hasShebang world path = .ok true := by
    rw [← List.contains_iff_mem]
    cases suffixes.contains (Text.lower path.suffix) with
    | true => simp
    | false => by_cases hnil : path.suffix = [] <;> simp [hnil]
  simp only [isScriptFile, bind_eq_ok_iff, hstop, hshebang, Bool.not_eq_false']
  constructor
  · rintro ⟨link, hlink, hfollow, file, hfile, rfl, hscript⟩
    exact ⟨⟨link, hlink, hfollow⟩, hfile, hscript⟩
  · rintro ⟨⟨link, hlink, hfollow⟩, hfile, hscript⟩
    exact ⟨link, hlink, hfollow, true, hfile, rfl, hscript⟩

theorem isScriptFile_eq_error_iff :
    isScriptFile world settings suffixes path = .error fault ↔
      world.tree.isLink world.here path = .error fault ∨
      ∃ link, world.tree.isLink world.here path = .ok link ∧
        (link && !settings.followLinks.isTruthy) = false ∧
        world.tree.isFile world.here path = .error fault := by
  simp only [isScriptFile, bind_eq_error_iff, ite_pure_eq_error_iff, Bool.not_eq_true]
  apply or_congr_right
  apply exists_congr
  intro link
  apply and_congr_right
  intro _
  apply and_congr_right
  intro _
  apply or_iff_left
  rintro ⟨answer, hfile, hkept, -, h⟩
  have hanswer : answer = true := by simpa using hkept
  rw [hanswer] at hfile
  split at h
  · exact hasShebang_ne_error hfile h
  · exact absurd h pure_ne_error

section Reached

variable (hroot : world.tree.resolve world.here true root = .ok (location, some .directory))
  (hreaches : world.tree.Reaches location names) (hne : names ≠ [])

include hroot hreaches hne

/-- An entry is looked up by its own path.  What is in the way of a link is in the way of its target
as well. -/
theorem entryAt_cases :
    (∃ fault, ∀ follow,
        world.tree.entryAt world.here follow (root.append names) = .error fault) ∨
      ∃ entry, world.tree.lookup (location ++ names) = some entry ∧
        ∀ follow, follow = false ∨ entry.isLink = false →
          world.tree.entryAt world.here follow (root.append names) = .ok entry := by
  rcases hreaches.resolve_cases hne hroot with ⟨fault, -, hresolve⟩ | ⟨entry, hentry, hresolve⟩
  · refine .inl ⟨fault, ?_⟩
    intro follow
    rw [FileTree.entryAt, hresolve]
    rfl
  · exact .inr ⟨entry, hentry,
      fun follow hfollow ↦ FileTree.entryAt_of_resolve (hresolve follow hfollow)⟩

/-- What is asked about an entry that is reached, and the answer to it. -/
theorem isScriptFile_append_eq_true_iff :
    isScriptFile world settings suffixes (root.append names) = .ok true ↔
      (settings.followLinks.isTruthy ∨
        ∀ target, world.tree.lookup (location ++ names) ≠ some (.link target)) ∧
      (∃ content, world.tree.entryAt world.here true (root.append names) = .ok (.file content)) ∧
      (Text.lower (root.append names).suffix ∈ suffixes ∨
        (root.append names).suffix = [] ∧
          Script.hasShebang world (root.append names) = .ok true) := by
  rw [isScriptFile_eq_true_iff, FileTree.isFile_eq_true_iff]
  apply and_congr_left
  rintro ⟨⟨content, hcontent⟩, -⟩
  rcases entryAt_cases hroot hreaches hne with ⟨fault, hfault⟩ | ⟨entry, hentry, hfound⟩
  · rw [hfault] at hcontent
    exact absurd hcontent nofun
  · have hlink : world.tree.isLink world.here (root.append names) = .ok entry.isLink := by
      rw [FileTree.isLink, FileTree.holds, hfound false (.inl rfl)]
    rw [hlink, hentry]
    cases entry <;> simp [Entry.isLink]

/-- An entry that is reached is left without an answer if it cannot be asked about, or its target if
links are followed. -/
theorem isScriptFile_append_eq_error_iff :
    isScriptFile world settings suffixes (root.append names) = .error fault ↔
      world.tree.entryAt world.here settings.followLinks.isTruthy (root.append names) =
          .error fault ∧
        ∃ error : SystemError, error.IsNoAnswer ∧
          fault = .system error (root.append names).toText := by
  rw [isScriptFile_eq_error_iff, FileTree.isLink, FileTree.isFile, FileTree.holds_eq_error_iff,
    FileTree.holds_eq_error_iff]
  rcases entryAt_cases hroot hreaches hne with ⟨cause, hfault⟩ | ⟨entry, -, hfound⟩
  · rw [hfault, hfault, hfault]
    constructor
    · rintro (h | ⟨_, -, -, h⟩)
      · exact h
      · exact h
    · exact .inl
  · have hself := hfound false (.inl rfl)
    constructor
    · rintro (⟨h, -⟩ | ⟨link, hlink, hfollow, h⟩)
      · rw [hself] at h
        cases h
      · rw [FileTree.holds, hself] at hlink
        obtain rfl := Except.ok.inj hlink
        cases hlinks : settings.followLinks.isTruthy with
        | true => exact h
        | false =>
          -- What is not followed is no link here, so it has been found under its own name.
          have hother : entry.isLink = false := by simpa [hlinks] using hfollow
          rw [hfound true (.inr hother)] at h
          cases h.1
    · rintro ⟨h, hfault⟩
      cases hlinks : settings.followLinks.isTruthy with
      | true =>
        rw [hlinks] at h
        exact .inr ⟨entry.isLink, by rw [FileTree.holds, hself], by simp, h, hfault⟩
      | false =>
        rw [hlinks, hself] at h
        cases h

variable (hpatterns : settings.excludePatterns.elements = .ok (patterns.map .text))

include hpatterns

/-- An entry that is reached is a script if a scan finds it. -/
theorem isScript_eq_true_iff :
    isScript world settings (extensions.map Text.lower) root names = .ok true ↔
      Finds world settings extensions patterns root location names := by
  by_cases hkept : IsKept settings patterns names
  · rw [isScript_of_isKept hpatterns hkept, isScriptFile_append_eq_true_iff hroot hreaches hne]
    constructor
    · rintro ⟨hlink, hfile, hscript⟩
      exact ⟨hroot, hne, hreaches, hkept, hlink, hfile, hscript⟩
    · intro h
      exact ⟨h.notLink, h.isFile, h.isScript⟩
  · rw [isScript_of_not_isKept hpatterns hkept]
    constructor
    · intro h
      cases h
    · exact fun h ↦ absurd h.isKept hkept

/-- Whether an entry is a script is left open only if it is kept and cannot be asked about. -/
theorem isScript_eq_error_iff :
    isScript world settings suffixes root names = .error fault ↔
      IsKept settings patterns names ∧
        world.tree.entryAt world.here settings.followLinks.isTruthy (root.append names) =
          .error fault ∧
        ∃ error : SystemError, error.IsNoAnswer ∧
          fault = .system error (root.append names).toText := by
  by_cases hkept : IsKept settings patterns names
  · rw [isScript_of_isKept hpatterns hkept, isScriptFile_append_eq_error_iff hroot hreaches hne]
    exact (and_iff_right hkept).symm
  · rw [isScript_of_not_isKept hpatterns hkept]
    constructor
    · intro h
      cases h
    · exact fun h ↦ absurd h.1 hkept

end Reached

/-! ## The entries in order -/

theorem pairwise_of_candidates_eq_ok {entries : List (List Text)}
    (h : candidates world root = .ok entries) : entries.Pairwise (· < ·) := by
  obtain ⟨answer, -, h⟩ := bind_eq_ok_iff.1 h
  cases answer with
  | false =>
    obtain rfl := Except.ok.inj h
    exact .nil
  | true =>
    obtain ⟨found, -, hsorted⟩ := bind_eq_ok_iff.1 h
    obtain rfl := Except.ok.inj hsorted
    exact pairwise_mergeSort_precedes (nodup_eraseDups found)

theorem exists_reaches_of_mem_candidates {entries : List (List Text)}
    (h : candidates world root = .ok entries) (hnames : names ∈ entries) :
    ∃ location, world.tree.resolve world.here true root = .ok (location, some .directory) ∧
      world.tree.Reaches location names ∧ names ≠ [] := by
  have hlisted := ((candidates_eq_ok h).1 names).1 hnames
  obtain ⟨location, hroot⟩ := hlisted.exists_root
  exact ⟨location, hroot, hlisted.reaches (isEntered_nil hroot)⟩

/-- Entries that are come to in order stay in this order. -/
theorem candidates_of_sorted {entries : List (List Text)}
    (hdirectory : world.isDirectory root = .ok true)
    (hsearch : search world root levelLimit [] = .ok entries)
    (hsorted : entries.eraseDups.Pairwise fun first second ↦ precedes first second = true) :
    candidates world root = .ok entries.eraseDups := by
  rw [candidates, hdirectory]
  simp only [bind, Except.bind, if_true, hsearch, List.mergeSort_of_pairwise hsorted]
  rfl

/-- The order in which directories are listed has no effect. -/
theorem candidates_of_isReordered {other : World} (h : IsReordered world other)
    {entries : List (List Text)} (hentries : candidates world root = .ok entries) :
    candidates other root = .ok entries := by
  obtain ⟨hmem, hunbroken⟩ := candidates_eq_ok hentries
  cases hother : candidates other root with
  | error fault =>
    rcases candidates_eq_error hother with ⟨error, herror, rfl, hentry⟩ | ⟨top, hroot, hbreaks⟩
    · have hasked := FileTree.isDirectory_eq_error_iff.2
        ⟨h.entryAt_eq.symm.trans hentry, error, herror, rfl⟩
      obtain ⟨answer, hanswer, -⟩ := bind_eq_ok_iff.1 hentries
      cases hasked.symm.trans hanswer
    · exact absurd (h.symm.breaksSearch hbreaks)
        (hunbroken top fault (h.resolve_eq.symm.trans hroot))
  | ok found =>
    have hsame : found = entries := by
      apply List.Pairwise.eq_of_mem_iff (pairwise_of_candidates_eq_ok hother)
        (pairwise_of_candidates_eq_ok hentries)
      intro names
      rw [(candidates_eq_ok hother).1, hmem]
      exact ⟨h.symm.isListed, h.isListed⟩
    rw [hsame]

/-! ## Scans -/

theorem scan_eq_ok_iff (hextensions : settings.extensions.elements = .ok (extensions.map .text))
    {found : List Path} :
    scan world settings root = .ok found ↔
      ∃ entries, candidates world root = .ok entries ∧
        (∀ names ∈ entries, ∃ answer,
          isScript world settings (extensions.map Text.lower) root names = .ok answer) ∧
        found = (entries.filter (accepts
          (isScript world settings (extensions.map Text.lower) root))).map root.append := by
  simp only [scan, suffixes_eq hextensions, bind_eq_ok_iff, pure_eq_ok_iff, filterM_eq_ok_iff]
  constructor
  · rintro ⟨_, hsuffixes, entries, hentries, _, ⟨hanswers, rfl⟩, rfl⟩
    obtain rfl := Except.ok.inj hsuffixes
    exact ⟨entries, hentries, hanswers, rfl⟩
  · rintro ⟨entries, hentries, hanswers, rfl⟩
    exact ⟨_, rfl, entries, hentries, _, ⟨hanswers, rfl⟩, rfl⟩

theorem isReordered_tree {tree : FileTree} (hsearchable : world.tree.IsSearchable)
    (hlookup : tree.lookup = world.tree.lookup) (hallows : tree.allows = world.tree.allows) :
    IsReordered world { world with tree } where
  here_eq := rfl
  lookup_eq := hlookup
  allows_eq := hallows
  isSearchable := hsearchable

/-- Two trees that differ in the order of their listings have the same scans. -/
theorem scan_congr {tree : FileTree} (hsearchable : world.tree.IsSearchable)
    (hlookup : tree.lookup = world.tree.lookup) (hallows : tree.allows = world.tree.allows)
    (hextensions : settings.extensions.elements = .ok (extensions.map .text))
    {found : List Path} :
    scan { world with tree } settings root = .ok found ↔ scan world settings root = .ok found := by
  have hscript (suffixes names : List Text) :
      isScript { world with tree } settings suffixes root names =
        isScript world settings suffixes root names := by
    simp only [isScript, FileTree.isLink, FileTree.isFile, Script.hasShebang, World.read,
      World.here, FileTree.holds_congr hlookup hallows, FileTree.read_congr hlookup hallows]
  have hreordered := isReordered_tree hsearchable hlookup hallows
  have hcandidates (entries : List (List Text)) :
      candidates { world with tree } root = .ok entries ↔ candidates world root = .ok entries :=
    ⟨candidates_of_isReordered hreordered.symm, candidates_of_isReordered hreordered⟩
  simp only [scan_eq_ok_iff hextensions, hcandidates, funext (hscript _)]

section Typed

variable (hextensions : settings.extensions.elements = .ok (extensions.map .text))
  (hpatterns : settings.excludePatterns.elements = .ok (patterns.map .text))

include hextensions hpatterns

/-- A scan finds the scripts that its search comes to. -/
theorem mem_scan_iff {found : List Path} (h : scan world settings root = .ok found) :
    path ∈ found ↔ ∃ location names,
      Finds world settings extensions patterns root location names ∧
        IsListed world root [] names ∧ path = root.append names := by
  obtain ⟨entries, hentries, -, rfl⟩ := (scan_eq_ok_iff hextensions).1 h
  simp only [List.mem_map, List.mem_filter, accepts_eq_true_iff]
  constructor
  · rintro ⟨names, ⟨hnames, hscript⟩, rfl⟩
    obtain ⟨location, hroot, hreaches, hne⟩ := exists_reaches_of_mem_candidates hentries hnames
    exact ⟨location, names, (isScript_eq_true_iff hroot hreaches hne hpatterns).1 hscript,
      ((candidates_eq_ok hentries).1 names).1 hnames, rfl⟩
  · rintro ⟨location, names, hfinds, hlisted, rfl⟩
    exact ⟨names, ⟨((candidates_eq_ok hentries).1 names).2 hlisted,
      (isScript_eq_true_iff hfinds.start hfinds.reaches hfinds.ne_nil hpatterns).2 hfinds⟩, rfl⟩

/-- A scan ends in a fault that breaks it off. -/
theorem breaks_of_scan_eq_error (h : scan world settings root = .error fault) :
    Breaks world settings patterns root fault := by
  simp only [scan, suffixes_eq hextensions, bind_eq_error_iff] at h
  rcases h with hsuffixes | ⟨_, -, hcandidates | ⟨entries, hentries, hfilter | ⟨_, -, hpure⟩⟩⟩
  · cases hsuffixes
  · rcases candidates_eq_error hcandidates with ⟨error, herror, rfl, hentry⟩ | ⟨top, hroot, hsearch⟩
    · exact .root herror hentry
    · exact .search hroot hsearch
  · obtain ⟨names, hnames, hscript⟩ := exists_mem_of_filterM_eq_error hfilter
    obtain ⟨location, hroot, hreaches, hne⟩ := exists_reaches_of_mem_candidates hentries hnames
    obtain ⟨hkept, hentry, error, herror, rfl⟩ :=
      (isScript_eq_error_iff hroot hreaches hne hpatterns).1 hscript
    exact .entry (((candidates_eq_ok hentries).1 names).1 hnames) hkept herror hentry
  · exact absurd hpure pure_ne_error

/-- A scan that a fault breaks off finds nothing. -/
theorem Breaks.scan_ne_ok (h : Breaks world settings patterns root fault) (found : List Path) :
    scan world settings root ≠ .ok found := by
  intro hscan
  obtain ⟨entries, hentries, hanswers, -⟩ := (scan_eq_ok_iff hextensions).1 hscan
  obtain ⟨hmem, hunbroken⟩ := candidates_eq_ok hentries
  cases h with
  | @root error herror hentry =>
    have hasked := FileTree.isDirectory_eq_error_iff.2 ⟨hentry, error, herror, rfl⟩
    obtain ⟨answer, hanswer, -⟩ := bind_eq_ok_iff.1 hentries
    cases hasked.symm.trans hanswer
  | search hroot hsearch => exact hunbroken _ fault hroot hsearch
  | @entry names error hlisted hkept herror hentry =>
    have hnames := (hmem names).2 hlisted
    obtain ⟨location, hroot, hreaches, hne⟩ := exists_reaches_of_mem_candidates hentries hnames
    obtain ⟨answer, hanswer⟩ := hanswers names hnames
    rw [(isScript_eq_error_iff hroot hreaches hne hpatterns).2
      ⟨hkept, hentry, error, herror, rfl⟩] at hanswer
    cases hanswer

/-- In an open tree all scripts below the directory are found. -/
theorem isListed_of_finds (hopen : world.tree.IsOpen) {found : List Path}
    (h : scan world settings root = .ok found)
    (hfinds : Finds world settings extensions patterns root location names) :
    IsListed world root [] names := by
  apply isListed_of_reaches hopen (isEntered_nil hfinds.start) ?_ hfinds.ne_nil
  · rw [List.append_nil]
    exact hfinds.reaches
  · intro fault hbreaks
    have hall : Breaks world settings patterns root fault := .search hfinds.start hbreaks
    exact hall.scan_ne_ok hextensions hpatterns found h

end Typed

/-- What a scan finds is in order, each path once. -/
theorem pairwise_scan (hextensions : settings.extensions.elements = .ok (extensions.map .text))
    {found : List Path} (h : scan world settings root = .ok found) :
    found.Pairwise fun first second ↦ first.components < second.components := by
  obtain ⟨entries, hentries, -, rfl⟩ := (scan_eq_ok_iff hextensions).1 h
  rw [List.pairwise_map]
  refine ((pairwise_of_candidates_eq_ok hentries).filter _).imp ?_
  intro first second hlt
  exact List.append_left_lt hlt

/-- What a scan finds are the scripts below the directory that its search comes to, in the order of
their components and each of them once.  In an open tree these are all scripts below the directory.
A scan is broken off if and only if some fault breaks it, and ends in such a fault.  The order in
which directories are listed has no effect, if all of them may be searched. -/
theorem scan_finds_scripts
    (hextensions : settings.extensions.elements = .ok (extensions.map .text))
    (hpatterns : settings.excludePatterns.elements = .ok (patterns.map .text)) (world : World)
    (root : Path) :
    (∀ found, scan world settings root = .ok found →
        (∀ path, path ∈ found ↔ ∃ location names,
          Finds world settings extensions patterns root location names ∧
            IsListed world root [] names ∧ path = root.append names) ∧
        (world.tree.IsOpen → ∀ path, path ∈ found ↔ ∃ location names,
          Finds world settings extensions patterns root location names ∧
            path = root.append names) ∧
        found.Pairwise fun first second ↦ first.components < second.components) ∧
      ((∃ found, scan world settings root = .ok found) ↔
        ∀ fault, ¬ Breaks world settings patterns root fault) ∧
      (∀ fault, scan world settings root = .error fault →
        Breaks world settings patterns root fault) ∧
      (world.tree.IsSearchable → ∀ tree : FileTree,
        tree.lookup = world.tree.lookup → tree.allows = world.tree.allows →
          ∀ found, scan { world with tree } settings root = .ok found ↔
            scan world settings root = .ok found) := by
  refine ⟨?_, ⟨?_, ?_⟩, ?_, ?_⟩
  · intro found h
    refine ⟨fun path ↦ mem_scan_iff hextensions hpatterns h, ?_, pairwise_scan hextensions h⟩
    intro hopen path
    rw [mem_scan_iff hextensions hpatterns h]
    constructor
    · rintro ⟨location, names, hfinds, -, hpath⟩
      exact ⟨location, names, hfinds, hpath⟩
    · rintro ⟨location, names, hfinds, hpath⟩
      exact ⟨location, names, hfinds,
        isListed_of_finds hextensions hpatterns hopen h hfinds, hpath⟩
  · rintro ⟨found, h⟩ fault hbreaks
    exact hbreaks.scan_ne_ok hextensions hpatterns found h
  · intro hunbroken
    cases h : scan world settings root with
    | ok found => exact ⟨found, rfl⟩
    | error fault =>
      exact absurd (breaks_of_scan_eq_error hextensions hpatterns h) (hunbroken fault)
  · exact fun fault h ↦ breaks_of_scan_eq_error hextensions hpatterns h
  · intro hsearchable tree hlookup hallows found
    exact scan_congr hsearchable hlookup hallows hextensions

end Scanning

/-- Two scripts, of which one has no suffix, beside a link and a hidden file. -/
theorem scan_finds_two_scripts :
    let tree : FileTree := { entries := Ledger.ofList [([Text.lit ".b.sh"], .file []),
      ([Text.lit "a.sh"], .file []), ([Text.lit "c.sh"], .link "a.sh"),
      ([Text.lit "d"], .directory),
      ([Text.lit "d", Text.lit "run"], .file (Utf8.encode "#!/bin/sh\n"))] }
    let world : World :=
      { tree, workDir := Path.ofText "/", homeDir := Path.ofText "/", environment := ∅ }
    let settings := Settings.default
    let extensions : List Text := [".sh", ".bash", ".ksh", ".zsh"]
    let patterns : List Text :=
      [".git/*", "node_modules/*", "vendor/*", "venv/*", ".venv/*", ".tox/*"]
    let root := Path.ofText "."
    let found := [Path.ofText "a.sh", Path.ofText "d/run"]
    tree.IsOpen ∧ settings.extensions.elements = .ok (extensions.map .text) ∧
      settings.excludePatterns.elements = .ok (patterns.map .text) ∧
      scan world settings root = .ok found ∧
      ∀ path, path ∈ found ↔ ∃ location names,
        Finds world settings extensions patterns root location names ∧
          path = root.append names := by
  intro tree world settings extensions patterns root found
  have hopen : tree.IsOpen := ⟨fun _ _ ↦ rfl, fun _ _ ↦ rfl⟩
  have hsearch : search world root levelLimit [] = .ok [[Text.lit ".b.sh"], [Text.lit "a.sh"],
      [Text.lit "c.sh"], [Text.lit "d"], [Text.lit "d", Text.lit "run"]] :=
    eq_ok_of_toOption_eq_some (by decide +kernel)
  have hscan : scan world settings root = .ok found := by
    rw [scan, candidates_of_sorted rfl hsearch (by decide)]
    exact eq_ok_of_toOption_eq_some (by decide +kernel)
  exact ⟨hopen, rfl, rfl, hscan, ((scan_finds_scripts rfl rfl world root).1 found hscan).2.1 hopen⟩

set_option maxRecDepth 2000 in
/-- A script is not found because the scan is broken off: at a link with a name in its target that
is too long, already in searching the directory, and at an entry whose own path is too long,
although the search has come to every entry. -/
theorem scan_breaks_off_before_script :
    let settings : Settings := { Settings.default with followLinks := .flag true }
    let extensions : List Text := [".sh", ".bash", ".ksh", ".zsh"]
    let patterns : List Text :=
      [".git/*", "node_modules/*", "vendor/*", "venv/*", ".venv/*", ".tox/*"]
    let world (tree : FileTree) : World :=
      { tree, workDir := Path.ofText "/", homeDir := Path.ofText "/", environment := ∅ }
    let linked := world { entries := Ledger.ofList [([Text.lit "a.sh"], .file []),
      ([Text.lit "b.sh"], .link (List.replicate 300 'x'))] }
    let wide : Text := List.replicate 250 'd'
    let name : Text := List.replicate 40 'b'
    let root : Path :=
      ⟨.relative, (List.replicate 16 [wide, Text.lit ".."]).flatten ++ [Text.lit "r"]⟩
    let deep := world { entries := Ledger.ofList [([wide], .directory),
      ([Text.lit "r"], .directory), ([Text.lit "r", Text.lit "a.sh"], .file []),
      ([Text.lit "r", name], .file [])] }
    settings.extensions.elements = .ok (extensions.map .text) ∧
      settings.excludePatterns.elements = .ok (patterns.map .text) ∧
      (Finds linked settings extensions patterns (Path.ofText ".") [] [Text.lit "a.sh"] ∧
        scan linked settings (Path.ofText ".") = .error (.system .nameTooLong "./b.sh")) ∧
      Finds deep settings extensions patterns root [Text.lit "r"] [Text.lit "a.sh"] ∧
        candidates deep root = .ok [[Text.lit "a.sh"], [name]] ∧
        scan deep settings root =
          .error (.system .nameTooLong (root.append [name]).toText) := by
  intro settings extensions patterns world linked wide name root deep
  have hkept : IsKept settings patterns [Text.lit "a.sh"] := ⟨.inr (by decide), by decide⟩
  have hname : IsKept settings patterns [name] := ⟨.inr (by decide), by decide⟩
  have hlinked : Finds linked settings extensions patterns (Path.ofText ".") [] [Text.lit "a.sh"] :=
    ⟨rfl, by simp, FileTree.reaches_singleton.2 ⟨rfl, by decide⟩, hkept, .inl rfl, ⟨_, rfl⟩,
      .inl (by decide)⟩
  have hroot : deep.tree.resolve deep.here true root = .ok ([Text.lit "r"], some .directory) :=
    eq_ok_of_toOption_eq_some (by decide +kernel)
  have hfile : deep.tree.entryAt deep.here true (root.append [Text.lit "a.sh"]) = .ok (.file []) :=
    eq_ok_of_toOption_eq_some (by decide +kernel)
  have hfinds : Finds deep settings extensions patterns root [Text.lit "r"] [Text.lit "a.sh"] :=
    ⟨hroot, by simp, FileTree.reaches_singleton.2 ⟨rfl, by decide⟩, hkept, .inl rfl, ⟨_, hfile⟩,
      .inl (by decide +kernel)⟩
  have hsearch : search deep root levelLimit [] = .ok [[Text.lit "a.sh"], [name]] :=
    eq_ok_of_toOption_eq_some (by decide +kernel)
  have hcandidates : candidates deep root = .ok [[Text.lit "a.sh"], [name]] :=
    candidates_of_sorted (FileTree.isDirectory_eq_true_iff.2 ⟨_, hroot⟩) hsearch (by decide +kernel)
  have hlong : deep.tree.entryAt deep.here true (root.append [name]) =
      .error (.system .nameTooLong (root.append [name]).toText) := by
    rw [FileTree.entryAt, FileTree.resolve_of_long (by decide +kernel) (by decide +kernel)]
    rfl
  have hscript : isScript deep settings (extensions.map Text.lower) root [Text.lit "a.sh"] =
      .ok true :=
    eq_ok_of_toOption_eq_some (by decide +kernel)
  have hbroken : isScript deep settings (extensions.map Text.lower) root [name] =
      .error (.system .nameTooLong (root.append [name]).toText) := by
    have hreaches : deep.tree.Reaches [Text.lit "r"] [name] :=
      FileTree.reaches_singleton.2 ⟨rfl, by decide⟩
    exact (isScript_eq_error_iff hroot hreaches (by simp) rfl).2
      ⟨hname, hlong, .nameTooLong, .inr rfl, rfl⟩
  refine ⟨rfl, rfl, ⟨hlinked, rfl⟩, hfinds, hcandidates, ?_⟩
  have hsuffixes : suffixes settings = .ok (extensions.map Text.lower) := suffixes_eq rfl
  rw [scan, hsuffixes, hcandidates]
  simp only [bind, Except.bind, List.filterM, List.filterAuxM, hscript, hbroken]

end Discovery

end ShellMetrics
