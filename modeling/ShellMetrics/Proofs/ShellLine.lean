import ShellMetrics.Script.Load
import ShellMetrics.Proofs.Positions

/-!
# Lines that name a shell

A line that names a shell has six parts: the two marks, white space, a path without white space up
to one of its slashes, perhaps `env` and white space, the name of a shell, and a rest that does not
go on with the word.  A path has many slashes, so it is not said beforehand which of them ends the
part in front of the command.  Going over the path once and trying a command behind each slash finds
the parts whenever there are any.  Of a file the first line is asked, and whether a newline, a
carriage return or both end it makes no difference.
-/

namespace ShellMetrics.Shebang

/-! ## The parts of a line -/

/-- Nothing, or `env` with white space behind it. -/
def IsEnv (command : Text) : Prop :=
  command = [] ∨ ∃ spaces, spaces ≠ [] ∧ (∀ c ∈ spaces, Text.isSpace c = true) ∧
    command = Text.lit "env" ++ spaces

/-- The parts of a line that names a shell. -/
structure Parts where
  gap : Text
  folder : Text
  command : Text
  shell : Text
  rest : Text
  gap_isSpace : ∀ c ∈ gap, Text.isSpace c = true
  folder_notSpace : ∀ c ∈ folder, Text.isSpace c = false
  command_isEnv : IsEnv command
  shell_mem : shell ∈ [Text.lit "sh", "bash", "dash", "ksh", "zsh", "ash"]
  rest_endsWord : ∀ c ∈ rest.head?, Text.isWord c = false

namespace Parts

def stem (parts : Parts) : Text :=
  ['#', '!'] ++ parts.gap ++ parts.folder ++ ['/'] ++ parts.command ++ parts.shell

def text (parts : Parts) : Text := parts.stem ++ parts.rest

theorem text_eq (parts : Parts) :
    parts.text = ['#', '!'] ++
      (parts.gap ++ (parts.folder ++ '/' :: (parts.command ++ (parts.shell ++ parts.rest)))) := by
  simp only [text, stem, List.append_assoc]
  rfl

def withRest (parts : Parts) (rest : Text) (h : ∀ c ∈ rest.head?, Text.isWord c = false) : Parts :=
  { parts with rest, rest_endsWord := h }

theorem text_withRest (parts : Parts) (rest : Text) (h : ∀ c ∈ rest.head?, Text.isWord c = false) :
    (parts.withRest rest h).text = parts.stem ++ rest := rfl

end Parts

/-- The line can be put together from the parts of a line that names a shell. -/
def IsShellLine (line : Text) : Prop := ∃ parts : Parts, parts.text = line

/-! ## Finding the parts -/

theorem mem_shells_iff {shell : Text} :
    shell ∈ shells ↔ shell ∈ [Text.lit "sh", "bash", "dash", "ksh", "zsh", "ash"] := by
  have hperm : shells.Perm [Text.lit "sh", "bash", "dash", "ksh", "zsh", "ash"] := by decide
  exact hperm.mem_iff

/-- The name of a shell does not start with white space, and ends in the same letter. -/
theorem shell_cases {shell : Text} (h : shell ∈ shells) :
    (∃ c tail, shell = c :: tail ∧ Text.isSpace c = false) ∧ shell.getLast? = some 'h' := by
  simp only [shells, List.mem_cons, List.not_mem_nil, or_false] at h
  rcases h with rfl | rfl | rfl | rfl | rfl | rfl
  all_goals exact ⟨⟨_, _, rfl, by decide⟩, rfl⟩

theorem endsWord_iff (text : Text) :
    endsWord text = true ↔ ∀ c ∈ text.head?, Text.isWord c = false := by
  cases text with
  | nil => simp [endsWord]
  | cons c rest => simp [endsWord]

theorem startsWithShell_iff (text : Text) :
    startsWithShell text = true ↔
      ∃ shell ∈ shells, ∃ rest, text = shell ++ rest ∧ endsWord rest = true := by
  simp only [startsWithShell, List.any_eq_true, Option.any_eq_true, Text.after?_eq_some_iff]

/-- A command is looked for behind `env` and all white space after it. -/
theorem startsWithCommand_iff (text : Text) :
    startsWithCommand text = true ↔
      ∃ command rest, IsEnv command ∧ text = command ++ rest ∧ startsWithShell rest = true := by
  rw [startsWithCommand, Bool.or_eq_true, Option.any_eq_true]
  simp only [Text.after?_eq_some_iff, Bool.and_eq_true]
  constructor
  · rintro (h | ⟨rest, rfl, hspace, h⟩)
    · exact ⟨[], text, .inl rfl, rfl, h⟩
    · cases rest with
      | nil => cases hspace
      | cons c rest =>
        have hc : Text.isSpace c = true := by simpa using hspace
        rw [List.dropWhile_cons_of_pos hc] at h
        obtain ⟨spaces, hspaces, hrest⟩ :=
          Text.exists_append_of_dropWhile (rfl : rest.dropWhile Text.isSpace = _)
        have henv : IsEnv (Text.lit "env" ++ c :: spaces) :=
          .inr ⟨c :: spaces, by simp, List.forall_mem_cons.2 ⟨hc, hspaces⟩, rfl⟩
        refine ⟨Text.lit "env" ++ c :: spaces, rest.dropWhile Text.isSpace, henv, ?_, h⟩
        rw [List.append_assoc, List.cons_append, ← hrest]
  · rintro ⟨command, rest, rfl | ⟨spaces, hne, hspaces, rfl⟩, rfl, h⟩
    · exact .inl h
    · refine .inr ⟨spaces ++ rest, List.append_assoc .., ?_, ?_⟩
      · obtain ⟨c, tail, rfl⟩ := List.exists_cons_of_ne_nil hne
        simpa using hspaces c List.mem_cons_self
      · -- White space ends where the name of the shell starts.
        obtain ⟨shell, hshell, behind, rfl, -⟩ := (startsWithShell_iff rest).1 h
        obtain ⟨⟨c, tail, rfl, hc⟩, -⟩ := shell_cases hshell
        rw [List.cons_append, Text.dropWhile_append_cons hspaces hc]
        exact h

/-- A command is found behind any slash of the path. -/
theorem hasCommand_iff (text : Text) :
    hasCommand text = true ↔
      ∃ folder rest, (∀ c ∈ folder, Text.isSpace c = false) ∧ text = folder ++ '/' :: rest ∧
        startsWithCommand rest = true := by
  have hslash : Text.isSpace '/' = false := by decide
  induction text with
  | nil => simp [hasCommand]
  | cons c rest ih =>
    simp only [hasCommand, Bool.and_eq_true, Bool.or_eq_true, ih]
    constructor
    · rintro ⟨hc, ⟨hcslash, hrest⟩ | ⟨folder, behind, hfolder, rfl, hbehind⟩⟩
      · obtain rfl := of_decide_eq_true hcslash
        exact ⟨[], rest, by simp, rfl, hrest⟩
      · refine ⟨c :: folder, behind, ?_, rfl, hbehind⟩
        exact List.forall_mem_cons.2 ⟨by simpa using hc, hfolder⟩
    · rintro ⟨folder, behind, hfolder, htext, hbehind⟩
      rcases List.cons_eq_append_iff.1 htext with ⟨rfl, hhead⟩ | ⟨folder, rfl, rfl⟩
      · obtain ⟨rfl, rfl⟩ := List.cons.inj hhead
        exact ⟨by simp [hslash], .inl ⟨by simp, hbehind⟩⟩
      · obtain ⟨hc, hfolder⟩ := List.forall_mem_cons.1 hfolder
        exact ⟨by simp [hc], .inr ⟨folder, behind, hfolder, rfl, hbehind⟩⟩

/-- White space behind the marks ends where the path starts, since a path starts with a slash at the
latest. -/
theorem dropWhile_gap {gap folder rest : Text} (hgap : ∀ c ∈ gap, Text.isSpace c = true)
    (hfolder : ∀ c ∈ folder, Text.isSpace c = false) :
    (gap ++ (folder ++ '/' :: rest)).dropWhile Text.isSpace = folder ++ '/' :: rest := by
  have hslash : Text.isSpace '/' = false := by decide
  cases folder with
  | nil => exact Text.dropWhile_append_cons hgap hslash rest
  | cons c folder => exact Text.dropWhile_append_cons hgap (hfolder c List.mem_cons_self) _

theorem namesShell_iff_isShellLine (line : Text) : namesShell line = true ↔ IsShellLine line := by
  rw [namesShell, Option.any_eq_true]
  simp only [Text.after?_eq_some_iff]
  constructor
  · rintro ⟨behind, rfl, h⟩
    obtain ⟨gap, hgap, hbehind⟩ :=
      Text.exists_append_of_dropWhile (rfl : behind.dropWhile Text.isSpace = _)
    obtain ⟨folder, named, hfolder, hpath, hnamed⟩ := (hasCommand_iff _).1 h
    obtain ⟨command, called, hcommand, rfl, hcalled⟩ := (startsWithCommand_iff named).1 hnamed
    obtain ⟨shell, hshell, rest, rfl, hrest⟩ := (startsWithShell_iff called).1 hcalled
    refine ⟨⟨gap, folder, command, shell, rest, hgap, hfolder, hcommand, mem_shells_iff.1 hshell,
      (endsWord_iff rest).1 hrest⟩, ?_⟩
    rw [Parts.text_eq, hbehind, hpath]
    rfl
  · rintro ⟨parts, rfl⟩
    have hcalled : startsWithShell (parts.shell ++ parts.rest) = true :=
      (startsWithShell_iff _).2 ⟨parts.shell, mem_shells_iff.2 parts.shell_mem, parts.rest, rfl,
        (endsWord_iff _).2 parts.rest_endsWord⟩
    have hnamed : startsWithCommand (parts.command ++ (parts.shell ++ parts.rest)) = true :=
      (startsWithCommand_iff _).2 ⟨parts.command, _, parts.command_isEnv, rfl, hcalled⟩
    have hpath := (hasCommand_iff _).2 ⟨parts.folder, _, parts.folder_notSpace, rfl, hnamed⟩
    refine ⟨_, parts.text_eq, ?_⟩
    rw [dropWhile_gap parts.gap_isSpace parts.folder_notSpace]
    exact hpath

/-- The first slash with a command behind it counts, and a longer word is no shell. -/
example : namesShell (Text.lit "#! /shell/bin/env  bash -e") = true ∧
    namesShell (Text.lit "#!/bin/bash/full") = true ∧
    namesShell (Text.lit "#!/bin/bashful") = false := by decide +kernel

/-! ## The end of a line -/

theorem Parts.getLast?_stem (parts : Parts) : parts.stem.getLast? = some 'h' := by
  have hshell := (shell_cases (mem_shells_iff.2 parts.shell_mem)).2
  rw [stem, List.getLast?_append, hshell]
  rfl

/-- The name of the shell does not reach into an end of the line that its last letter is not in. -/
theorem Parts.exists_eq_stem_append (parts : Parts) {line ending : Text}
    (htext : parts.text = line ++ ending) (hending : 'h' ∉ ending) :
    ∃ behind, line = parts.stem ++ behind ∧ parts.rest = behind ++ ending := by
  rcases List.append_eq_append_iff.1 htext with h | ⟨extra, hstem, hextra⟩
  · exact h
  · rcases List.eq_nil_or_concat extra with rfl | ⟨front, c, rfl⟩
    · refine ⟨[], ?_, hextra.symm⟩
      rw [hstem, List.append_nil, List.append_nil]
    · have hlast := parts.getLast?_stem
      rw [List.concat_eq_append] at hstem hextra
      rw [hstem, ← List.append_assoc, List.getLast?_concat] at hlast
      obtain rfl := Option.some.inj hlast
      rw [hextra] at hending
      exact absurd (by simp) hending

theorem forall_mem_head?_append_iff {p : Char → Prop} (first second : Text) :
    (∀ c ∈ (first ++ second).head?, p c) ↔
      (∀ c ∈ first.head?, p c) ∧ (first = [] → ∀ c ∈ second.head?, p c) := by
  cases first with
  | nil => simp
  | cons c first => simp

/-- White space at the end of a line takes no part in words and names, so it may be there or not. -/
theorem isShellLine_append_iff {ending : Text}
    (h : ∀ c ∈ ending, Text.isSpace c = true ∧ Text.isWord c = false) (line : Text) :
    IsShellLine (line ++ ending) ↔ IsShellLine line := by
  constructor
  · rintro ⟨parts, htext⟩
    have hletter : 'h' ∉ ending := fun hmem ↦ absurd (h 'h' hmem).1 (by decide)
    obtain ⟨behind, rfl, hrest⟩ := parts.exists_eq_stem_append htext hletter
    have hends := parts.rest_endsWord
    rw [hrest, forall_mem_head?_append_iff] at hends
    exact ⟨parts.withRest behind hends.1, rfl⟩
  · rintro ⟨parts, rfl⟩
    have hends : ∀ c ∈ (parts.rest ++ ending).head?, Text.isWord c = false := by
      rw [forall_mem_head?_append_iff]
      exact ⟨parts.rest_endsWord, fun _ c hc ↦ (h c (List.mem_of_mem_head? hc)).2⟩
    refine ⟨parts.withRest _ hends, ?_⟩
    rw [Parts.text_withRest, Parts.text, List.append_assoc]

/-- A line is read as it stands up to its end. -/
theorem firstLine_append {line : Text} (hnewline : '\n' ∉ line) (hreturn : '\r' ∉ line)
    (behind : Text) : firstLine (line ++ behind) = line ++ firstLine behind := by
  induction line with
  | nil => rfl
  | cons c line ih =>
    obtain ⟨hnewline, hline⟩ := not_or.1 (List.mem_cons.not.1 hnewline)
    obtain ⟨hreturn, hrest⟩ := not_or.1 (List.mem_cons.not.1 hreturn)
    rw [List.cons_append, firstLine, ih hline hrest]
    simp [Ne.symm hnewline, Ne.symm hreturn]

/-- A text cut behind its first line.  A carriage return with a newline, a carriage return alone and
a newline alone end a line, and the only line of a text may have no end. -/
@[ext] structure FirstLine (content : Text) where
  line : Text
  ending : Text
  rest : Text
  content_eq : content = line ++ ending ++ rest
  newline_notMem : '\n' ∉ line
  return_notMem : '\r' ∉ line
  ending_mem : ending ∈ [['\r', '\n'], ['\r'], ['\n']] ∨ ending = [] ∧ rest = []
  whole : ending = ['\r'] → rest.head? ≠ some '\n'

namespace FirstLine

/-- The cut of a text with one more character in front that ends no line. -/
def cons {content : Text} (first : FirstLine content) (c : Char) (hnewline : c ≠ '\n')
    (hreturn : c ≠ '\r') : FirstLine (c :: content) where
  line := c :: first.line
  ending := first.ending
  rest := first.rest
  content_eq := by
    rw [List.cons_append, List.cons_append, ← first.content_eq]
  newline_notMem := List.mem_cons.not.2 (not_or.2 ⟨hnewline.symm, first.newline_notMem⟩)
  return_notMem := List.mem_cons.not.2 (not_or.2 ⟨hreturn.symm, first.return_notMem⟩)
  ending_mem := first.ending_mem
  whole := first.whole

/-- Every text has a first line. -/
theorem nonempty (content : Text) : Nonempty (FirstLine content) := by
  induction content with
  | nil => exact ⟨[], [], [], rfl, by simp, by simp, .inr ⟨rfl, rfl⟩, by simp⟩
  | cons c content ih =>
    by_cases hnewline : c = '\n'
    · exact ⟨[], ['\n'], content, by simp [hnewline], by simp, by simp, .inl (by simp), by simp⟩
    by_cases hreturn : c = '\r'
    · by_cases hpair : content.head? = some '\n'
      · obtain ⟨rest, rfl⟩ := List.head?_eq_some_iff.1 hpair
        exact ⟨[], ['\r', '\n'], rest, by simp [hreturn], by simp, by simp, .inl (by simp),
          by simp⟩
      · exact ⟨[], ['\r'], content, by simp [hreturn], by simp, by simp, .inl (by simp),
          fun _ ↦ hpair⟩
    · obtain ⟨first⟩ := ih
      exact ⟨first.cons c hnewline hreturn⟩

/-- A line goes up to the first character that belongs to a line end. -/
theorem line_eq_takeWhile {content : Text} (first : FirstLine content) :
    first.line = content.takeWhile fun c ↦ c ≠ '\n' && c ≠ '\r' := by
  have hline : ∀ c ∈ first.line, (c ≠ '\n' && c ≠ '\r') = true := by
    intro c hc
    have hnewline : c ≠ '\n' := fun h ↦ first.newline_notMem (h ▸ hc)
    have hreturn : c ≠ '\r' := fun h ↦ first.return_notMem (h ▸ hc)
    simp [hnewline, hreturn]
  have hbehind : (first.ending ++ first.rest).takeWhile (fun c ↦ c ≠ '\n' && c ≠ '\r') = [] := by
    rcases first.ending_mem with hmem | ⟨hnil, hrest⟩
    · simp only [List.mem_cons, List.not_mem_nil, or_false] at hmem
      rcases hmem with h | h | h <;> simp [h]
    · rw [hnil, hrest]
      rfl
  conv_rhs => rw [first.content_eq, List.append_assoc]
  rw [List.takeWhile_append_of_pos hline, hbehind, List.append_nil]

/-- There is no other way to cut a text behind its first line. -/
theorem eq_of_content {content : Text} (first other : FirstLine content) : first = other := by
  have hline : first.line = other.line := by rw [line_eq_takeWhile, line_eq_takeWhile]
  have hbehind : first.ending ++ first.rest = other.ending ++ other.rest := by
    have hcontent := first.content_eq.symm.trans other.content_eq
    rw [hline, List.append_assoc, List.append_assoc] at hcontent
    exact List.append_cancel_left hcontent
  have hfirst := first.whole
  have hother := other.whole
  have hending : first.ending = other.ending := by
    have hmem := first.ending_mem
    have hmem' := other.ending_mem
    simp only [List.mem_cons, List.not_mem_nil, or_false] at hmem hmem'
    -- Ends that start alike are the same: a return that stands alone has no newline behind it.
    rcases hmem with (h | h | h) | ⟨h, hrest⟩ <;> rcases hmem' with (h' | h' | h') | ⟨h', hrest'⟩
    all_goals grind
  rw [hending] at hbehind
  exact FirstLine.ext hline hending (List.append_cancel_left hbehind)

/-- The line as it is read, with a newline for its end. -/
def read {content : Text} (first : FirstLine content) : Text :=
  first.line ++ if first.ending = [] then [] else ['\n']

theorem firstLine_eq_read {content : Text} (first : FirstLine content) :
    firstLine content = first.read := by
  have happend : firstLine content = first.line ++ firstLine (first.ending ++ first.rest) := by
    rw [← firstLine_append first.newline_notMem first.return_notMem, ← List.append_assoc,
      ← first.content_eq]
  rw [happend, read]
  congr 1
  rcases first.ending_mem with hmem | ⟨hnil, hrest⟩
  · simp only [List.mem_cons, List.not_mem_nil, or_false] at hmem
    rcases hmem with h | h | h
    all_goals simp [h, firstLine]
  · rw [hnil, hrest]
    rfl

/-- How a line ends has no influence on whether it names a shell. -/
theorem isShellLine_read_iff {content : Text} (first : FirstLine content) :
    IsShellLine first.read ↔ IsShellLine (first.line ++ first.ending) := by
  have hreturn : Text.isSpace '\r' = true ∧ Text.isWord '\r' = false := by decide +kernel
  have hnewline : Text.isSpace '\n' = true ∧ Text.isWord '\n' = false := by decide +kernel
  have hends : ∀ c ∈ ['\r', '\n'], Text.isSpace c = true ∧ Text.isWord c = false :=
    List.forall_mem_cons.2 ⟨hreturn, List.forall_mem_singleton.2 hnewline⟩
  have hread : ∀ c ∈ (if first.ending = [] then [] else ['\n']),
      Text.isSpace c = true ∧ Text.isWord c = false := by
    split
    · exact List.forall_mem_nil _
    · exact List.forall_mem_singleton.2 hnewline
  have hending : ∀ c ∈ first.ending, Text.isSpace c = true ∧ Text.isWord c = false := by
    intro c hc
    apply hends
    rcases first.ending_mem with hmem | ⟨hnil, -⟩
    · simp only [List.mem_cons, List.not_mem_nil, or_false] at hmem
      rcases hmem with h | h | h <;> rw [h] at hc
      · exact hc
      · exact List.mem_cons.2 (.inl (List.mem_singleton.1 hc))
      · exact List.mem_cons_of_mem _ hc
    · rw [hnil] at hc
      cases hc
  rw [read, isShellLine_append_iff hread, isShellLine_append_iff hending]

end FirstLine

/-- A line names a shell if and only if it can be put together from the parts of such a line, in
whichever way.  Every file that can be read has exactly one first line, and this line is asked up to
and including its end, which is a newline, a carriage return or both and is read as a newline.  As
it stands in the file it would give the same answer. -/
theorem hasShebang_iff_isShellLine :
    (∀ line, namesShell line = true ↔ IsShellLine line) ∧
      ∀ (world : World) (path : Path) (octets : List UInt8), world.read path = .ok octets →
        ∃ first : FirstLine (Utf8.decode octets), (∀ other, other = first) ∧
          (Script.hasShebang world path = .ok true ↔ IsShellLine first.read) ∧
          (Script.hasShebang world path = .ok false ↔ ¬ IsShellLine first.read) ∧
          (IsShellLine first.read ↔ IsShellLine (first.line ++ first.ending)) := by
  refine ⟨namesShell_iff_isShellLine, ?_⟩
  intro world path octets hread
  obtain ⟨first⟩ := FirstLine.nonempty (Utf8.decode octets)
  have hshebang : Script.hasShebang world path = .ok (namesShell first.read) := by
    rw [Script.hasShebang, hread, ← first.firstLine_eq_read]
    rfl
  refine ⟨first, fun other ↦ other.eq_of_content first, ?_, ?_, first.isShellLine_read_iff⟩
  · rw [hshebang, Except.ok.injEq, namesShell_iff_isShellLine]
  · rw [hshebang, Except.ok.injEq, ← namesShell_iff_isShellLine, Bool.not_eq_true]

/-- A path with several slashes, `env`, and a carriage return for the end of the line. -/
theorem hasShebang_of_env_line :
    let octets := Utf8.encode (Text.lit "#! /usr/bin/env  bash\rexit\n")
    let world : World :=
      { tree := FileTree.empty.insert [Text.lit "run"] (.file octets), workDir := ⟨.absolute, []⟩,
        homeDir := ⟨.absolute, []⟩, environment := ∅ }
    let path : Path := ⟨.relative, [Text.lit "run"]⟩
    world.read path = .ok octets ∧ Script.hasShebang world path = .ok true := by
  intro octets world path
  have hread : world.read path = .ok octets := by rfl
  have hfolder : (Text.lit "/usr/bin").any Text.isSpace = false := by decide
  have hreturn : Text.isWord '\r' = false := by decide +kernel
  let first : FirstLine (Utf8.decode octets) :=
    { line := Text.lit "#! /usr/bin/env  bash"
      ending := ['\r']
      rest := Text.lit "exit\n"
      content_eq := by decide
      newline_notMem := by decide
      return_notMem := by decide
      ending_mem := by decide
      whole := by decide }
  let parts : Parts :=
    { gap := [' ']
      folder := Text.lit "/usr/bin"
      command := Text.lit "env  "
      shell := Text.lit "bash"
      rest := ['\r']
      gap_isSpace := List.all_eq_true.1 (by decide)
      folder_notSpace := by simpa only [List.any_eq_false, Bool.not_eq_true] using hfolder
      command_isEnv := .inr ⟨[' ', ' '], by decide, List.all_eq_true.1 (by decide), rfl⟩
      shell_mem := by decide
      rest_endsWord := by simpa using hreturn }
  obtain ⟨found, hunique, hshebang, -, hsame⟩ :=
    hasShebang_iff_isShellLine.2 world path octets hread
  rw [← hunique first] at hshebang hsame
  exact ⟨hread, hshebang.2 (hsame.2 ⟨parts, rfl⟩)⟩

end ShellMetrics.Shebang
