import Mathlib.Data.List.Basic
import Mathlib.Data.List.TakeDrop

set_option autoImplicit false

namespace Region

variable {α : Type}

-- The half-open range [first, last) of a memory block, and the block after
-- data has been stored from position pos on.
def slice (mem : List α) (first last : Nat) : List α := (mem.take last).drop first

def overwrite (mem : List α) (pos : Nat) (data : List α) : List α :=
  mem.take pos ++ data ++ mem.drop (pos + data.length)

theorem slice_length (mem : List α) (first last : Nat) (bound : last ≤ mem.length) :
    (slice mem first last).length = last - first := by
  simp only [slice, List.length_drop, List.length_take]
  omega

theorem slice_empty (mem : List α) (first : Nat) : slice mem first first = [] := by
  simp [slice]

theorem slice_split (mem : List α) (first middle last : Nat) (low : first ≤ middle) (high : middle ≤ last) :
    slice mem first last = slice mem first middle ++ slice mem middle last := by
  have cut : mem.take middle = (mem.take last).take middle := by
    rw [List.take_take, Nat.min_eq_left high]
  have again : slice mem middle last = (slice mem first last).drop (middle - first) := by
    rw [slice, slice, List.drop_drop, Nat.add_sub_cancel' low]
  have front : slice mem first middle = (slice mem first last).take (middle - first) := by
    rw [slice, slice, cut, List.take_drop, Nat.add_sub_cancel' low]
  rw [front, again, List.take_append_drop]

theorem slice_take (mem : List α) (first last count : Nat) (bound : first + count ≤ last) :
    (slice mem first last).take count = slice mem first (first + count) := by
  rw [slice, slice, List.take_drop, List.take_take, Nat.min_eq_left bound]

theorem slice_drop (mem : List α) (first last count : Nat) :
    (slice mem first last).drop count = slice mem (first + count) last := by
  rw [slice, slice, List.drop_drop]

theorem overwrite_length (mem : List α) (pos : Nat) (data : List α) (room : pos + data.length ≤ mem.length) :
    (overwrite mem pos data).length = mem.length := by
  simp only [overwrite, List.length_append, List.length_take, List.length_drop]
  omega

theorem overwrite_before (mem : List α) (pos first last : Nat) (data : List α) (before : last ≤ pos)
    (bound : pos ≤ mem.length) : slice (overwrite mem pos data) first last = slice mem first last := by
  have front : (overwrite mem pos data).take last = mem.take last := by
    rw [overwrite, List.append_assoc, List.take_append_of_le_length (by rw [List.length_take]; omega),
      List.take_take, Nat.min_eq_left before]
  rw [slice, front, slice]

theorem overwrite_here (mem : List α) (pos : Nat) (data : List α) (bound : pos ≤ mem.length) :
    slice (overwrite mem pos data) pos (pos + data.length) = data := by
  have start : (mem.take pos).length = pos := by
    rw [List.length_take]
    omega
  have whole : (mem.take pos ++ data).length = pos + data.length := by rw [List.length_append, start]
  have front : (overwrite mem pos data).take (pos + data.length) = mem.take pos ++ data := by
    rw [overwrite, List.take_append_of_le_length (Nat.le_of_eq whole.symm), List.take_of_length_le (Nat.le_of_eq whole)]
  rw [slice, front, List.drop_append_of_le_length (Nat.le_of_eq start.symm), List.drop_of_length_le (Nat.le_of_eq start), List.nil_append]

theorem slice_append_left (mem fill : List α) (first last : Nat) (bound : last ≤ mem.length) :
    slice (mem ++ fill) first last = slice mem first last := by
  rw [slice, List.take_append_of_le_length bound, slice]

end Region
