import Mathlib.Data.List.Basic
import Mathlib.Logic.Function.Basic

namespace SunburstChip

/-!
# Queues at the front of an array

A queue can be kept as the first entries of an array, with its head at index
zero.  Writing to the entry behind the last one and counting it pushes; moving
every entry but the first one place down and counting one less pops.
-/

namespace ArrayQueue

variable {α : Type}

/-- The first entries of an array. -/
def entries (array : Nat -> α) (count : Nat) : List α := (List.range count).map array

@[simp] theorem length_entries (array : Nat -> α) (count : Nat) :
    (entries array count).length = count := by
  rw [entries, List.length_map, List.length_range]

@[simp] theorem entries_zero (array : Nat -> α) : entries array 0 = [] := rfl

theorem entries_congr {array array' : Nat -> α} {count : Nat}
    (same : forall i, i < count -> array' i = array i) :
    entries array' count = entries array count :=
  List.map_congr_left (fun i inside => same i (List.mem_range.mp inside))

/-- The head, and the entries behind it. -/
theorem entries_succ (array : Nat -> α) (count : Nat) :
    entries array (count + 1) = array 0 :: entries (fun i => array (i + 1)) count := by
  simp only [entries, List.range_succ_eq_map, List.map_cons, List.map_map]
  rfl

/-- Write behind the last entry. -/
theorem entries_push (array : Nat -> α) (count : Nat) (value : α) :
    entries (Function.update array count value) (count + 1) = entries array count ++ [value] := by
  have before : entries (Function.update array count value) count = entries array count :=
    entries_congr (fun i inside => Function.update_of_ne (Nat.ne_of_lt inside) _ _)
  unfold entries at before ⊢
  rw [List.range_succ, List.map_append, before, List.map_singleton, Function.update_self]

/-- Replace the head. -/
theorem entries_setHead (array : Nat -> α) (count : Nat) (value : α) :
    entries (Function.update array 0 value) (count + 1) =
      value :: (entries array (count + 1)).tail := by
  rw [entries_succ, entries_succ, List.tail_cons, Function.update_self]
  apply congrArg
  exact entries_congr (fun i _ => Function.update_of_ne (Nat.succ_ne_zero i) _ _)

/-- The array after the entries from `idx` on, as many as are given, have been
moved one place down. -/
def shiftDown (array : Nat -> α) (idx count : Nat) : Nat -> α := fun i =>
  if idx <= i + 1 ∧ i + 1 < idx + count then array (i + 1) else array i

theorem shiftDown_zero (array : Nat -> α) (idx : Nat) : shiftDown array idx 0 = array := by
  funext i
  unfold shiftDown
  rw [if_neg (by omega)]

/-- Move the first of the entries, and then the others. -/
theorem shiftDown_succ (array : Nat -> α) {idx : Nat} (count : Nat) (positive : 0 < idx) :
    shiftDown (Function.update array (idx - 1) (array idx)) (idx + 1) count =
      shiftDown array idx (count + 1) := by
  funext i
  unfold shiftDown
  by_cases first : i + 1 = idx
  · have here : i = idx - 1 := by omega
    rw [if_neg (by omega), if_pos (by omega), here, Function.update_self,
      Nat.sub_add_cancel positive]
  · by_cases later : idx + 1 <= i + 1 ∧ i + 1 < idx + 1 + count
    · rw [if_pos later, if_pos (by omega), Function.update_of_ne (by omega)]
    · rw [if_neg later, if_neg (by omega), Function.update_of_ne (by omega)]

/-- Moving down all entries but the head leaves the entries behind it. -/
theorem entries_shiftDown (array : Nat -> α) (count : Nat) :
    entries (shiftDown array 1 count) count = (entries array (count + 1)).tail := by
  rw [entries_succ, List.tail_cons]
  apply entries_congr
  intro i inside
  unfold shiftDown
  rw [if_pos (by omega)]

end ArrayQueue
end SunburstChip
