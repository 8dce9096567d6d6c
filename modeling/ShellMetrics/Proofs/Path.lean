import ShellMetrics.Path
import Mathlib.Data.List.Basic

/-!
# Paths and their texts

A path that was read has plain components: none is empty, none is a single dot, and none has a
slash in it.  A path of plain components is read back from its text, so two such paths with the
same text are the same path.
-/

namespace ShellMetrics

namespace Path

/-- A text that can stand as one component of a path. -/
def IsName (name : Text) : Prop := name ≠ [] ∧ name ≠ ['.'] ∧ '/' ∉ name

instance (name : Text) : Decidable (IsName name) := inferInstanceAs (Decidable (_ ∧ _ ∧ _))

def IsPlain (path : Path) : Prop := ∀ name ∈ path.components, IsName name

instance (path : Path) : Decidable path.IsPlain :=
  inferInstanceAs (Decidable (∀ name ∈ path.components, IsName name))

theorem append_nil (path : Path) : path.append [] = path := by
  simp [append]

/-! ## Reading -/

theorem notMem_of_mem_splitOn {text part : Text} (h : part ∈ text.splitOn '/') : '/' ∉ part := by
  induction text generalizing part with
  | nil =>
    rw [List.splitOn_nil, List.mem_singleton] at h
    simp [h]
  | cons c rest ih =>
    rw [List.splitOn_cons_eq_if_modifyHead] at h
    split at h
    · rcases List.mem_cons.1 h with rfl | hrest
      · exact List.not_mem_nil
      · exact ih hrest
    · next hc =>
      obtain ⟨first, others, hsplit⟩ := List.exists_cons_of_ne_nil (List.splitOn_ne_nil '/' rest)
      rw [hsplit, List.modifyHead_cons] at h
      rcases List.mem_cons.1 h with rfl | hother
      · have hfirst : '/' ∉ first := ih (hsplit ▸ List.mem_cons_self)
        have hne : ¬ '/' = c := fun e ↦ hc (by simp [← e])
        simp [hne, hfirst]
      · exact ih (hsplit ▸ List.mem_cons_of_mem _ hother)

/-- A path that is read from a text is plain. -/
theorem isPlain_ofText (text : Text) : (ofText text).IsPlain := by
  intro name hname
  obtain ⟨hsplit, hkept⟩ := List.mem_filter.1 hname
  have hkept' : name ≠ [] ∧ name ≠ ['.'] := by simpa using hkept
  exact ⟨hkept'.1, hkept'.2, notMem_of_mem_splitOn hsplit⟩

theorem IsPlain.append {path : Path} (hpath : path.IsPlain) {names : List Text}
    (hnames : ∀ name ∈ names, IsName name) : (path.append names).IsPlain := by
  intro name hname
  rcases List.mem_append.1 hname with h | h
  · exact hpath name h
  · exact hnames name h

/-! ## Reading back -/

section ReadingBack

variable {names : List Text}

/-- The names on the way, as they are written, start with no slash. -/
theorem head?_join_ne_slash (h : ∀ name ∈ names, IsName name) :
    (Text.join ['/'] names).head? ≠ some '/' := by
  cases names with
  | nil => simp [Text.join]
  | cons name rest =>
    obtain ⟨hne, -, hslash⟩ := h name List.mem_cons_self
    obtain ⟨c, name', rfl⟩ := List.exists_cons_of_ne_nil hne
    have hc : c ≠ '/' := fun e ↦ hslash (by simp [e])
    cases rest <;> simp [Text.join, List.intercalate, hc]

/-- Names are read back from their text. -/
theorem filter_splitOn_join (h : ∀ name ∈ names, IsName name) :
    ((Text.join ['/'] names).splitOn '/').filter (fun part ↦ part ≠ [] && part ≠ ['.']) =
      names := by
  by_cases hnil : names = []
  · simp [hnil, Text.join]
  · rw [Text.join, List.splitOn_intercalate '/' (fun name hname ↦ (h name hname).2.2) hnil]
    apply List.filter_eq_self.2
    intro name hname
    simp [(h name hname).1, (h name hname).2.1]

/-- A text that starts with no slash is relative, with one slash in front of it absolute, and with
two slashes doubled. -/
theorem rootOf_text_append (root : Root) {text : Text} (h : text.head? ≠ some '/') :
    rootOf (root.text ++ text) = root := by
  cases text with
  | nil => cases root <;> rfl
  | cons c rest =>
    have hc : c ≠ '/' := fun e ↦ h (by simp [e])
    cases root <;> simp [Root.text, rootOf, hc]

theorem filter_splitOn_text_append (root : Root) (h : ∀ name ∈ names, IsName name) :
    ((root.text ++ Text.join ['/'] names).splitOn '/').filter
      (fun part ↦ part ≠ [] && part ≠ ['.']) = names := by
  have hjoin := filter_splitOn_join h
  cases root <;>
    simpa [Root.text, List.splitOn_cons_eq_if_modifyHead] using hjoin

end ReadingBack

/-- A path of plain components is read back from its text. -/
theorem ofText_toText {path : Path} (h : path.IsPlain) : ofText path.toText = path := by
  obtain ⟨root, names⟩ := path
  have hroot := rootOf_text_append root (head?_join_ne_slash h)
  have hnames := filter_splitOn_text_append root h
  unfold toText
  split
  · next hempty =>
    -- Only the path with nothing in it has an empty text, which is written as a dot.
    have hrelative : root = .relative := by
      cases root <;> simp_all [Root.text]
    rw [hempty] at hnames
    have hnil : names = [] := by simpa using hnames.symm
    rw [hrelative, hnil]
    rfl
  · rw [ofText, hroot, hnames]

/-- A plain path is known by its text. -/
theorem eq_of_toText_eq {first second : Path} (hfirst : first.IsPlain) (hsecond : second.IsPlain)
    (h : first.toText = second.toText) : first = second := by
  rw [← ofText_toText hfirst, h, ofText_toText hsecond]

/-! ## Lengths -/

theorem length_le_join (separator : Char) (parts : List Text) :
    parts.length ≤ (Text.join [separator] parts).length + 1 := by
  induction parts with
  | nil => simp
  | cons part parts ih =>
    cases parts with
    | nil => simp
    | cons next rest =>
      simp only [Text.join, List.intercalate_cons_cons, List.length_append, List.length_cons,
        List.length_nil] at ih ⊢
      omega

/-- A path has at most one component more than its text has characters. -/
theorem length_components_le (path : Path) : path.components.length ≤ path.toText.length + 1 := by
  have hjoin := length_le_join '/' path.components
  unfold toText
  split
  · next hempty =>
    rw [(List.append_eq_nil_iff.1 hempty).2] at hjoin
    exact Nat.le_trans hjoin (by simp)
  · rw [List.length_append]
    omega

end Path

end ShellMetrics
