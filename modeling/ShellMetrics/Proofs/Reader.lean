import ShellMetrics.Body
import ShellMetrics.Proofs.Ledger

/-!
# Runs of the reader

Reading a line either files it under one name or, if the line is a declaration that opens a body,
files it nowhere.  That name, the owner of the line, and the body open afterwards depend on the
body open before and not on what has been filed.  A run is therefore described by the list of its
lines with their owners: the bodies are filled by the owned lines in order, the lines without an
owner are the declarations, and every line has its one place in the list.
-/

namespace ShellMetrics.Reader

/-- The name under which a line is filed.  A declaration that opens a body has none. -/
def owner? (reader : Reader) (line : Text) : Option Text :=
  match reader.active with
  | some name => some name
  | none => if Line.declares line then none else some bareCode

def labelled (reader : Reader) : List Text → List (Option Text × Text)
  | [] => []
  | line :: rest => (reader.owner? line, line) :: (reader.feed line).labelled rest

/-- The lines that a run files, each with its name. -/
def filed (reader : Reader) (lines : List Text) : List (Text × Text) :=
  (reader.labelled lines).filterMap fun entry ↦ entry.1.map (·, entry.2)

/-- The declarations that a run takes while no body is open. -/
def declarations (reader : Reader) : List Text → List Text
  | [] => []
  | line :: rest =>
    if reader.active = none ∧ Line.declares line then
      line :: (reader.feed line).declarations rest
    else (reader.feed line).declarations rest

/-! ## One line -/

theorem feed_of_inside {reader : Reader} {name : Text} (h : reader.active = some name)
    (line : Text) :
    reader.feed line =
      ⟨reader.bodies.push name line, if Line.closes line then none else some name⟩ := by
  unfold feed
  rw [h]

theorem feed_of_declares {reader : Reader} (h : reader.active = none) {line : Text}
    (hline : Line.declares line = true) :
    reader.feed line = ⟨reader.bodies, some (Line.declaredName line)⟩ := by
  unfold feed
  rw [h]
  simp [hline]

theorem feed_of_bare {reader : Reader} (h : reader.active = none) {line : Text}
    (hline : Line.declares line = false) :
    reader.feed line = ⟨reader.bodies.push bareCode line, none⟩ := by
  unfold feed
  rw [h]
  simp [hline]

theorem owner?_of_inside {reader : Reader} {name : Text} (h : reader.active = some name)
    (line : Text) : reader.owner? line = some name := by
  unfold owner?
  rw [h]

theorem owner?_of_outside {reader : Reader} (h : reader.active = none) (line : Text) :
    reader.owner? line = if Line.declares line then none else some bareCode := by
  unfold owner?
  rw [h]

/-- Only a declaration that opens a body is filed nowhere. -/
theorem owner?_eq_none_iff {reader : Reader} {line : Text} :
    reader.owner? line = none ↔ reader.active = none ∧ Line.declares line = true := by
  cases h : reader.active with
  | none => simp [owner?_of_outside h]
  | some name => simp [owner?_of_inside h]

theorem owner?_eq_some {reader : Reader} {line name : Text}
    (h : reader.owner? line = some name) : reader.active = some name ∨ name = bareCode := by
  cases hactive : reader.active with
  | none =>
    rw [owner?_of_outside hactive] at h
    split at h
    · cases h
    · exact .inr (Option.some.inj h).symm
  | some other =>
    rw [owner?_of_inside hactive] at h
    exact .inl h

/-- A body that is open after a line was open before, or the line declares it. -/
theorem active_feed_eq_some {reader : Reader} {line name : Text}
    (h : (reader.feed line).active = some name) :
    reader.active = some name ∨
      reader.active = none ∧ Line.declares line = true ∧ name = Line.declaredName line := by
  cases hactive : reader.active with
  | none =>
    cases hline : Line.declares line with
    | false =>
      rw [feed_of_bare hactive hline] at h
      cases h
    | true =>
      rw [feed_of_declares hactive hline] at h
      exact .inr ⟨rfl, rfl, (Option.some.inj h).symm⟩
  | some other =>
    rw [feed_of_inside hactive] at h
    dsimp only at h
    split at h
    · cases h
    · exact .inl h

/-- A line goes to its owner and to nobody else. -/
theorem bodies_feed (reader : Reader) (line : Text) :
    (reader.feed line).bodies =
      reader.bodies.pushAll ((reader.owner? line).toList.map (·, line)) := by
  cases h : reader.active with
  | none =>
    cases hline : Line.declares line with
    | false => simp [feed_of_bare h hline, owner?_of_outside h, hline]
    | true => simp [feed_of_declares h hline, owner?_of_outside h, hline]
  | some name => simp [feed_of_inside h, owner?_of_inside h]

theorem active_feed_congr {first second : Reader} (h : first.active = second.active)
    (line : Text) : (first.feed line).active = (second.feed line).active := by
  cases hactive : second.active with
  | none =>
    rw [hactive] at h
    cases hline : Line.declares line with
    | false => rw [feed_of_bare h hline, feed_of_bare hactive hline]
    | true => rw [feed_of_declares h hline, feed_of_declares hactive hline]
  | some name =>
    rw [hactive] at h
    rw [feed_of_inside h, feed_of_inside hactive]

/-! ## Whole runs -/

@[simp] theorem feedAll_nil (reader : Reader) : reader.feedAll [] = reader := rfl

@[simp] theorem feedAll_cons (reader : Reader) (line : Text) (rest : List Text) :
    reader.feedAll (line :: rest) = (reader.feed line).feedAll rest := rfl

theorem feedAll_append (reader : Reader) (lines more : List Text) :
    reader.feedAll (lines ++ more) = (reader.feedAll lines).feedAll more :=
  List.foldl_append

@[simp] theorem filed_nil (reader : Reader) : reader.filed [] = [] := rfl

@[simp] theorem filed_cons (reader : Reader) (line : Text) (rest : List Text) :
    reader.filed (line :: rest) =
      (reader.owner? line).toList.map (·, line) ++ (reader.feed line).filed rest := by
  unfold filed
  cases h : reader.owner? line <;> simp [labelled, h]

/-- The bodies after a run are those before it with the filed lines pushed in order. -/
theorem bodies_feedAll (reader : Reader) (lines : List Text) :
    (reader.feedAll lines).bodies = reader.bodies.pushAll (reader.filed lines) := by
  induction lines generalizing reader with
  | nil => rfl
  | cons line rest ih =>
    rw [feedAll_cons, ih, bodies_feed, filed_cons, Ledger.pushAll_append]

theorem active_feedAll_congr {first second : Reader} (h : first.active = second.active)
    (lines : List Text) : (first.feedAll lines).active = (second.feedAll lines).active := by
  induction lines generalizing first second with
  | nil => exact h
  | cons line rest ih => exact ih (active_feed_congr h line)

theorem labelled_congr {first second : Reader} (h : first.active = second.active)
    (lines : List Text) : first.labelled lines = second.labelled lines := by
  induction lines generalizing first second with
  | nil => rfl
  | cons line rest ih =>
    have howner : first.owner? line = second.owner? line := by
      unfold owner?
      rw [h]
    unfold labelled
    rw [howner, ih (active_feed_congr h line)]

theorem filed_congr {first second : Reader} (h : first.active = second.active)
    (lines : List Text) : first.filed lines = second.filed lines := by
  unfold filed
  rw [labelled_congr h]

/-- What was filed before a run stays in front of what the run files by itself. -/
theorem bodies_feedAll_eq_merge (reader : Reader) (lines : List Text) :
    (reader.feedAll lines).bodies =
      reader.bodies.merge ((Reader.mk ∅ reader.active).feedAll lines).bodies := by
  have hfiled : reader.filed lines = (Reader.mk ∅ reader.active).filed lines := by
    apply filed_congr
    rfl
  rw [bodies_feedAll, bodies_feedAll, Ledger.pushAll_eq_merge, hfiled]

/-! ## The lines of each owner -/

/-- The lines of a run that have the given owner. -/
def linesOf (reader : Reader) (owner : Option Text) (lines : List Text) : List Text :=
  Ledger.pairedWith owner (reader.labelled lines)

/-- The labels are put on the lines of the run, each of them once and in order. -/
theorem map_snd_labelled (reader : Reader) (lines : List Text) :
    (reader.labelled lines).map Prod.snd = lines := by
  induction lines generalizing reader with
  | nil => rfl
  | cons line rest ih => rw [labelled, List.map_cons, ih]

/-- The lines of an owner keep their order. -/
theorem linesOf_sublist (reader : Reader) (owner : Option Text) (lines : List Text) :
    (reader.linesOf owner lines).Sublist lines := by
  have h : (reader.linesOf owner lines).Sublist ((reader.labelled lines).map Prod.snd) :=
    List.filter_sublist.map Prod.snd
  rwa [map_snd_labelled] at h

/-- The lines filed under a name are those that the name owns. -/
theorem pairedWith_filed (reader : Reader) (lines : List Text) (name : Text) :
    Ledger.pairedWith name (reader.filed lines) = reader.linesOf (some name) lines := by
  unfold filed linesOf Ledger.pairedWith
  induction reader.labelled lines with
  | nil => rfl
  | cons entry rest ih =>
    obtain ⟨owner, line⟩ := entry
    cases owner with
    | none => simpa using ih
    | some other => by_cases h : other = name <;> simp [h, ih]

/-- The lines without an owner are the declarations. -/
theorem declarations_eq_linesOf (reader : Reader) (lines : List Text) :
    reader.declarations lines = reader.linesOf none lines := by
  induction lines generalizing reader with
  | nil => rfl
  | cons line rest ih =>
    unfold declarations
    rw [ih]
    simp only [← owner?_eq_none_iff, linesOf, labelled, Ledger.pairedWith]
    by_cases h : reader.owner? line = none <;> simp [h]

/-- Every line is either filed once or is a declaration, whatever is summed over the lines. -/
theorem sum_filed_add_sum_declarations (weight : Text → ℕ) (reader : Reader)
    (lines : List Text) :
    ((reader.filed lines).map fun item ↦ weight item.2).sum +
        ((reader.declarations lines).map weight).sum = (lines.map weight).sum := by
  induction lines generalizing reader with
  | nil => rfl
  | cons line rest ih =>
    have hrest := ih (reader.feed line)
    unfold declarations
    simp only [← owner?_eq_none_iff, filed_cons]
    cases h : reader.owner? line with
    | none =>
      simp
      omega
    | some name =>
      simp
      omega

theorem declares_of_mem_declarations {reader : Reader} {lines : List Text} {line : Text}
    (h : line ∈ reader.declarations lines) : Line.declares line = true := by
  induction lines generalizing reader with
  | nil => cases h
  | cons head rest ih =>
    unfold declarations at h
    split at h
    · next hhead =>
      rcases List.mem_cons.1 h with rfl | hrest
      · exact hhead.2
      · exact ih hrest
    · exact ih h

/-- Names come from somewhere: the body open at the start, a declaration of the run, or no
function at all. -/
theorem mem_filed {reader : Reader} {lines : List Text} {item : Text × Text}
    (h : item ∈ reader.filed lines) :
    reader.active = some item.1 ∨ item.1 = bareCode ∨
      item.1 ∈ (reader.declarations lines).map Line.declaredName := by
  induction lines generalizing reader with
  | nil => cases h
  | cons line rest ih =>
    rw [filed_cons, List.mem_append] at h
    have hlater : item.1 ∈ ((reader.feed line).declarations rest).map Line.declaredName →
        item.1 ∈ (reader.declarations (line :: rest)).map Line.declaredName := by
      intro hmem
      unfold declarations
      split
      · exact List.mem_cons_of_mem _ hmem
      · exact hmem
    rcases h with hhead | htail
    · obtain ⟨name, howner, rfl⟩ := List.mem_map.1 hhead
      rcases owner?_eq_some (Option.mem_toList.1 howner) with hactive | hbare
      · exact .inl hactive
      · exact .inr (.inl hbare)
    · rcases ih htail with hactive | hbare | hdeclared
      · rcases active_feed_eq_some hactive with hbefore | ⟨hnone, hline, hname⟩
        · exact .inl hbefore
        · refine .inr (.inr ?_)
          rw [declarations, if_pos ⟨hnone, hline⟩, hname]
          exact List.mem_cons_self
      · exact .inr (.inl hbare)
      · exact .inr (.inr (hlater hdeclared))

end ShellMetrics.Reader

namespace ShellMetrics

theorem bodies_eq_pushAll (lines : List Text) :
    bodies lines = (∅ : Ledger Text (List Text)).pushAll (Reader.start.filed lines) :=
  Reader.bodies_feedAll Reader.start lines

/-- A body holds the lines that are filed under its name. -/
theorem itemsAt_bodies (lines : List Text) (name : Text) :
    (bodies lines).itemsAt name = Reader.start.linesOf (some name) lines := by
  rw [bodies_eq_pushAll, Ledger.itemsAt_pushAll, Ledger.itemsAt_empty, List.nil_append,
    Reader.pairedWith_filed]

theorem ne_nil_of_mem_bodies {lines body : List Text} {name : Text}
    (h : (name, body) ∈ (bodies lines).entries) : body ≠ [] := by
  rw [bodies_eq_pushAll] at h
  exact Ledger.ne_nil_of_mem_pushAll_empty h

theorem body_eq_linesOf {lines body : List Text} {name : Text}
    (h : (name, body) ∈ (bodies lines).entries) :
    body = Reader.start.linesOf (some name) lines := by
  rw [← itemsAt_bodies, Ledger.itemsAt_eq_of_mem_entries h]

end ShellMetrics
