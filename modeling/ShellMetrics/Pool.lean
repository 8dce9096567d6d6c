/-!
# Worker pools

Workers take tasks and finish them in some order.  Each result goes to the slot of its task, and
the slots are read in the order in which the tasks were handed in.
-/

namespace ShellMetrics.Pool

/-- The slots after the tasks with the given numbers have been finished one after the other. -/
def finish {α β : Type} (f : α → β) (tasks : List α) (order : List Nat) : List (Option β) :=
  order.foldl (fun slots index ↦ slots.set index (tasks[index]?.map f))
    (List.replicate tasks.length none)

/-- The results in the order of the tasks, if every task has been finished. -/
def run {α β : Type} (f : α → β) (tasks : List α) (order : List Nat) : List β :=
  (finish f tasks order).filterMap id

end ShellMetrics.Pool
