import Mathlib.Data.List.Basic

set_option autoImplicit false

-- A queue served in batches: producers append to pending, and the server takes
-- all of pending at once and then works through that batch.
structure BatchQueue (α : Type) where
  batch : List α
  pending : List α
deriving DecidableEq, Repr

namespace BatchQueue

variable {α : Type}

def empty : BatchQueue α := ⟨[], []⟩

def append (queue : BatchQueue α) (items : List α) : BatchQueue α := { queue with pending := queue.pending ++ items }

def push (queue : BatchQueue α) (item : α) : BatchQueue α := queue.append [item]

def swap (queue : BatchQueue α) : BatchQueue α := ⟨queue.pending, []⟩

def pop (queue : BatchQueue α) : BatchQueue α := { queue with batch := queue.batch.tail }

def contents (queue : BatchQueue α) : List α := queue.batch ++ queue.pending

@[simp] theorem append_contents (queue : BatchQueue α) (items : List α) :
    (queue.append items).contents = queue.contents ++ items := by
  simp [contents, append]

@[simp] theorem append_nil (queue : BatchQueue α) : queue.append [] = queue := by
  simp [append]

@[simp] theorem push_contents (queue : BatchQueue α) (item : α) :
    (queue.push item).contents = queue.contents ++ [item] :=
  queue.append_contents [item]

theorem swap_contents (queue : BatchQueue α) (served : queue.batch = []) : queue.swap.contents = queue.contents := by
  simp [contents, swap, served]

theorem pop_contents (queue : BatchQueue α) (item : α) (rest : List α) (next : queue.batch = item :: rest) :
    queue.contents = item :: queue.pop.contents := by
  simp [contents, pop, next]

end BatchQueue
