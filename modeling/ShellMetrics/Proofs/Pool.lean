import ShellMetrics.Pool
import Mathlib.Data.List.Perm.Lattice
import Mathlib.Data.List.Range

/-!
# Worker pools at work

A pool is watched event by event: a worker that is free takes up a task that waits, or a worker
puts down the result of its task.  Whatever is taken up and put down when, no task is lost or done
twice, so a pool that comes to rest has finished every task once.  In which order it did so does
not show in the results, and it always can come to rest.
-/

namespace ShellMetrics.Pool

/-! ## Slots -/

section Slots

variable {α β : Type} {f : α → β} {tasks : List α}

/-- What one more finished task does to the slots. -/
def fill (f : α → β) (tasks : List α) (slots : List (Option β)) (index : ℕ) : List (Option β) :=
  slots.set index (tasks[index]?.map f)

theorem length_foldl_fill (slots : List (Option β)) (order : List ℕ) :
    (order.foldl (fill f tasks) slots).length = slots.length := by
  induction order generalizing slots with
  | nil => rfl
  | cons index order ih => rw [List.foldl_cons, ih, fill, List.length_set]

/-- A slot holds the result of its task once the task is finished, and is left alone before. -/
theorem getElem?_foldl_fill {slots : List (Option β)} {order : List ℕ} {index : ℕ}
    (hindex : index < slots.length) :
    (order.foldl (fill f tasks) slots)[index]? =
      if index ∈ order then some (tasks[index]?.map f) else slots[index]? := by
  induction order generalizing slots with
  | nil => simp
  | cons first order ih =>
    have hlength : index < (fill f tasks slots first).length := by
      rwa [fill, List.length_set]
    rw [List.foldl_cons, ih hlength]
    by_cases hmem : index ∈ order
    · simp [hmem]
    · by_cases hfirst : first = index
      · subst hfirst
        simp [fill, hmem, List.getElem?_set_self hindex]
      · have hne : ¬ index = first := fun e ↦ hfirst e.symm
        simp [fill, hmem, hne, List.getElem?_set_ne hfirst]

/-- When every task has been finished, the slots hold all results in the order of the tasks. -/
theorem finish_eq_map {order : List ℕ} (h : order.Perm (List.range tasks.length)) :
    finish f tasks order = tasks.map fun task ↦ some (f task) := by
  apply List.ext_getElem?
  intro index
  change (order.foldl (fill f tasks) (List.replicate tasks.length none))[index]? = _
  by_cases hindex : index < tasks.length
  · have hmem : index ∈ order := h.mem_iff.2 (List.mem_range.2 hindex)
    rw [getElem?_foldl_fill (by simpa using hindex), if_pos hmem]
    simp [List.getElem?_eq_getElem hindex]
  · have hlength : (order.foldl (fill f tasks) (List.replicate tasks.length none)).length ≤
        index := by
      rw [length_foldl_fill, List.length_replicate]
      omega
    rw [List.getElem?_eq_none hlength, List.getElem?_eq_none (by simpa using hindex)]

/-- The results are in the order of the tasks, whatever the order in which they came. -/
theorem run_eq_map {order : List ℕ} (h : order.Perm (List.range tasks.length)) :
    run f tasks order = tasks.map f := by
  rw [run, finish_eq_map h, List.filterMap_map]
  change tasks.filterMap (some ∘ f) = tasks.map f
  rw [List.filterMap_eq_map]

end Slots

/-! ## Events -/

/-- What can be seen of a pool: a task is taken up, or its result is put down. -/
inductive Event where
  | start (task : ℕ)
  | finish (task : ℕ)
  deriving DecidableEq

/-- A pool at work: the tasks that wait for a worker and those that a worker has taken up. -/
structure Status where
  waiting : List ℕ
  running : List ℕ
  deriving DecidableEq

namespace Status

/-- So many tasks have been handed in, and none is taken up. -/
def initial (count : ℕ) : Status := ⟨List.range count, []⟩

def atRest : Status := ⟨[], []⟩

/-- The pool after one event, if it can happen: a task is taken up only if it waits and a worker
is free, and a result is put down only by a worker that has taken its task up. -/
def step (workers : ℕ) (status : Status) : Event → Option Status
  | .start task =>
    if task ∈ status.waiting ∧ status.running.length < workers then
      some ⟨status.waiting.erase task, task :: status.running⟩
    else none
  | .finish task =>
    if task ∈ status.running then some { status with running := status.running.erase task }
    else none

def after (workers : ℕ) (status : Status) (events : List Event) : Option Status :=
  events.foldlM (step workers) status

def unfinished (status : Status) : List ℕ := status.waiting ++ status.running

end Status

def finished (events : List Event) : List ℕ :=
  events.filterMap fun event ↦
    match event with
    | .start _ => none
    | .finish task => some task

/-- The events lead a pool with so many workers and so many tasks from the first hand-in to
rest. -/
def Completes (workers count : ℕ) (events : List Event) : Prop :=
  (Status.initial count).after workers events = some .atRest

instance (workers count : ℕ) (events : List Event) : Decidable (Completes workers count events) :=
  inferInstanceAs (Decidable (_ = _))

theorem finished_cons (event : Event) (events : List Event) :
    finished (event :: events) = finished [event] ++ finished events := by
  unfold finished
  rw [← List.filterMap_append, List.singleton_append]

namespace Status

variable {workers : ℕ} {status next : Status}

theorem after_cons (event : Event) (events : List Event) :
    status.after workers (event :: events) =
      (status.step workers event).bind fun next ↦ next.after workers events := rfl

/-- An event takes the task that it finishes, and no other, from those that are not finished. -/
theorem perm_of_step {event : Event} (h : status.step workers event = some next) :
    status.unfinished.Perm (finished [event] ++ next.unfinished) := by
  cases event with
  | start task =>
    simp only [step] at h
    split at h
    · next hstart =>
      obtain rfl := Option.some.inj h
      have htaken : status.waiting.Perm (task :: status.waiting.erase task) :=
        List.perm_cons_erase hstart.1
      exact (htaken.append_right status.running).trans List.perm_middle.symm
    · exact absurd h nofun
  | finish task =>
    simp only [step] at h
    split at h
    · next hfinish =>
      obtain rfl := Option.some.inj h
      have hdone : status.running.Perm (task :: status.running.erase task) :=
        List.perm_cons_erase hfinish
      exact (hdone.append_left status.waiting).trans List.perm_middle
    · exact absurd h nofun

/-- Along a run, what was not finished at its start is what it finishes and what is left. -/
theorem perm_of_after {events : List Event} (h : status.after workers events = some next) :
    status.unfinished.Perm (finished events ++ next.unfinished) := by
  induction events generalizing status with
  | nil =>
    obtain rfl := Option.some.inj h
    exact List.Perm.refl _
  | cons event events ih =>
    rw [after_cons] at h
    obtain ⟨middle, hstep, hrest⟩ := Option.bind_eq_some_iff.1 h
    rw [finished_cons, List.append_assoc]
    exact (perm_of_step hstep).trans ((ih hrest).append_left _)

/-- The most events that can still happen: a task that waits makes two, a task that has been taken
up makes one. -/
def outstanding (status : Status) : ℕ := 2 * status.waiting.length + status.running.length

/-- A pool that is not at rest goes on: a task is put down, or if there is none, one is taken
up. -/
theorem exists_step (hworkers : 0 < workers) (h : status ≠ atRest) :
    ∃ event next, status.step workers event = some next ∧
      next.outstanding < status.outstanding := by
  obtain ⟨waiting, running⟩ := status
  cases running with
  | cons task running =>
    refine ⟨.finish task, ⟨waiting, running⟩, by simp [step], ?_⟩
    simp [outstanding]
  | nil =>
    cases waiting with
    | nil => exact absurd rfl h
    | cons task waiting =>
      refine ⟨.start task, ⟨waiting, [task]⟩, by simp [step, hworkers], ?_⟩
      simp only [outstanding, List.length_cons, List.length_nil]
      omega

/-- From wherever it stands, a pool with a worker can come to rest. -/
theorem exists_after_eq_atRest (hworkers : 0 < workers) (status : Status) :
    ∃ events, status.after workers events = some atRest := by
  by_cases h : status = atRest
  · exact ⟨[], congrArg some h⟩
  · obtain ⟨event, next, hstep, hfewer⟩ := exists_step hworkers h
    obtain ⟨events, hrest⟩ := exists_after_eq_atRest hworkers next
    refine ⟨event :: events, ?_⟩
    rw [after_cons, hstep, Option.bind_some, hrest]
termination_by status.outstanding

end Status

/-- A pool with a worker can finish any number of tasks. -/
theorem exists_completes {workers : ℕ} (hworkers : 0 < workers) (count : ℕ) :
    ∃ events, Completes workers count events :=
  Status.exists_after_eq_atRest hworkers _

/-- A pool that has come to rest has finished every task once. -/
theorem Completes.perm {workers count : ℕ} {events : List Event}
    (h : Completes workers count events) : (finished events).Perm (List.range count) := by
  have hall := Status.perm_of_after h
  simpa [Status.unfinished, Status.initial, Status.atRest] using hall.symm

end ShellMetrics.Pool
