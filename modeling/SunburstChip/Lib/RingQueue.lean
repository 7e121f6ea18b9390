import Mathlib.Data.List.Basic
import Mathlib.Data.Nat.ModEq
import Mathlib.Logic.Function.Basic

namespace SunburstChip

/-!
# Queues in a ring

A queue can be kept in an array whose last entry is followed by the first one.
Positions are counted around the ring twice, so that the distance between where
is written and where is read tells a full ring from an empty one.
-/

namespace RingQueue

variable {α : Type} {size : Nat}

/-- The entries of a ring from one on. -/
def entries (array : Nat -> α) (size first count : Nat) : List α :=
  (List.range count).map (fun i => array ((first + i) % size))

@[simp] theorem entries_zero (array : Nat -> α) (size first : Nat) :
    entries array size first 0 = [] := rfl

/-- The first entry, and the ones after it. -/
theorem entries_succ (array : Nat -> α) (size first count : Nat) :
    entries array size first (count + 1) =
      array (first % size) :: entries array size (first + 1) count := by
  have shift (i : Nat) : first + (i + 1) = first + 1 + i := by omega
  simp only [entries, List.range_succ_eq_map, List.map_cons, List.map_map, Nat.add_zero]
  exact congrArg _ (List.map_congr_left fun i _ => congrArg (fun k => array (k % size)) (shift i))

/-- Where the entries begin is a place on the ring. -/
theorem entries_congr {array : Nat -> α} {first first' : Nat} (same : first ≡ first' [MOD size])
    (count : Nat) : entries array size first count = entries array size first' count :=
  List.map_congr_left fun i _ => congrArg array (same.add_right i)

/-- Two places on the ring that are not as far apart as the ring is long. -/
theorem places_apart {first i count : Nat} (inside : i < count) (room : count < size) :
    (first + i) % size ≠ (first + count) % size := by
  intro same
  have apart : count - i ≡ 0 [MOD size] := by
    refine Nat.ModEq.add_left_cancel' (first + i) ?_
    have total : first + i + (count - i) = first + count := by omega
    rw [total, Nat.add_zero]
    exact same.symm
  have none := Nat.eq_zero_of_dvd_of_lt ((Nat.modEq_zero_iff_dvd).mp apart) (by omega)
  omega

/-- Write behind the last entry. -/
theorem entries_push (array : Nat -> α) (first : Nat) {count : Nat} (room : count < size)
    (value : α) :
    entries (Function.update array ((first + count) % size) value) size first (count + 1) =
      entries array size first count ++ [value] := by
  rw [entries, List.range_succ, List.map_append, List.map_singleton, Function.update_self]
  refine congrArg (· ++ [value]) (List.map_congr_left fun i among => ?_)
  exact Function.update_of_ne (places_apart (List.mem_range.mp among) room) _ _

/-! ## Positions -/

/-- What is written is `count` places ahead of what is read. -/
def Ahead (size write read count : Nat) : Prop := write ≡ read + count [MOD 2 * size]

variable {write read count : Nat}

theorem Ahead.push (ahead : Ahead size write read count) :
    Ahead size (write + 1) read (count + 1) := Nat.ModEq.add_right 1 ahead

theorem Ahead.pop (ahead : Ahead size write read (count + 1)) :
    Ahead size write (read + 1) count := by
  have shift : read + 1 + count = read + (count + 1) := by omega
  unfold Ahead
  rw [shift]
  exact ahead

/-- A position may be counted from the beginning again. -/
theorem Ahead.congr {write' read' : Nat} (ahead : Ahead size write read count)
    (writes : write' ≡ write [MOD 2 * size]) (reads : read' ≡ read [MOD 2 * size]) :
    Ahead size write' read' count :=
  writes.trans (Nat.ModEq.trans ahead (reads.symm.add_right count))

end RingQueue
end SunburstChip
