import Mathlib.Data.List.Basic

namespace SunburstChip
namespace Segments

variable {α : Type}

/-!
# Cutting a sequence into pieces

A sequence is sent in pieces of a fixed size, and ends with the first piece
that is shorter.  If its length is a multiple of the size, the last piece of
full size either ends it, or is followed by an empty one.
-/

/-- The pieces of a sequence, with an empty one at the end where it is wanted
and there is no other that is short. -/
def segments (size : Nat) (terminated : Bool) (data : List α) : List (List α) :=
  if size = 0 ∨ data.length < size ∨ data.length = size ∧ !terminated then [data]
  else data.take size :: segments size terminated (data.drop size)
termination_by data.length
decreasing_by
  rename_i further
  rw [List.length_drop]
  omega

section

variable {size : Nat} {terminated : Bool} {data : List α}

/-- The last piece. -/
theorem segments_last (last : data.length < size ∨ data.length = size ∧ terminated = false) :
    segments size terminated data = [data] := by
  rw [segments, if_pos]
  rcases last with short | ⟨same, open'⟩
  · exact .inr (.inl short)
  · exact .inr (.inr ⟨same, by rw [open']; rfl⟩)

/-- A piece that is followed by others. -/
theorem segments_more (positive : 0 < size)
    (more : size < data.length ∨ size = data.length ∧ terminated = true) :
    segments size terminated data =
      data.take size :: segments size terminated (data.drop size) := by
  rw [segments, if_neg]
  rintro (zero | short | ⟨same, open'⟩)
  · exact absurd zero (Nat.ne_of_gt positive)
  · rcases more with longer | ⟨same, _⟩
    · exact absurd short (Nat.not_lt.mpr (Nat.le_of_lt longer))
    · exact absurd short (Nat.not_lt.mpr (Nat.le_of_eq same))
  · rcases more with longer | ⟨_, closed⟩
    · exact absurd same (Nat.ne_of_gt longer)
    · rw [closed] at open'
      cases open'

theorem segments_ne_nil : segments size terminated data ≠ [] := by
  rw [segments]
  split
  · exact List.cons_ne_nil _ _
  · exact List.cons_ne_nil _ _

/-- What a cut is to be. -/
structure IsCut (size : Nat) (terminated : Bool) (data : List α) (pieces : List (List α)) :
    Prop where
  whole : pieces.flatten = data
  nonempty : pieces ≠ []
  full : forall piece, piece ∈ pieces.dropLast -> piece.length = size
  bounded : forall piece, piece ∈ pieces -> piece.length <= size
  /-- Where there is anything to be cut, it ends with an empty piece just in case
  that is wanted and no other piece is short. -/
  ended : data ≠ [] -> (pieces.getLast nonempty = [] ↔ terminated = true ∧ size ∣ data.length)
  empty : data = [] -> pieces = [[]]

theorem isCut_last
    (last : data.length < size ∨ data.length = size ∧ terminated = false) :
    IsCut size terminated data [data] := by
  have bound : data.length <= size := last.elim Nat.le_of_lt (fun same => Nat.le_of_eq same.1)
  refine ⟨List.append_nil data, List.cons_ne_nil _ _, nofun, ?_, ?_, ?_⟩
  · intro piece inside
    rw [List.mem_singleton.mp inside]
    exact bound
  · intro some
    refine ⟨fun none => absurd none some, ?_⟩
    rintro ⟨closed, divides⟩
    have whole := Nat.le_of_dvd (List.length_pos_iff.mpr some) divides
    rcases last with short | ⟨_, open'⟩
    · exact absurd short (Nat.not_lt.mpr whole)
    · rw [closed] at open'
      cases open'
  · rintro rfl
    rfl

theorem IsCut.cons {pieces : List (List α)} (positive : 0 < size)
    (more : size < data.length ∨ size = data.length ∧ terminated = true)
    (cut : IsCut size terminated (data.drop size) pieces) :
    IsCut size terminated data (data.take size :: pieces) := by
  have enough : size <= data.length := more.elim Nat.le_of_lt (fun same => Nat.le_of_eq same.1)
  have first : (data.take size).length = size := by
    rw [List.length_take, Nat.min_eq_left enough]
  refine ⟨?_, List.cons_ne_nil _ _, ?_, ?_, ?_, ?_⟩
  · rw [List.flatten_cons, cut.whole, List.take_append_drop]
  · intro piece inside
    rw [List.dropLast_cons_of_ne_nil cut.nonempty] at inside
    rcases List.mem_cons.mp inside with rfl | later
    · exact first
    · exact cut.full piece later
  · intro piece inside
    rcases List.mem_cons.mp inside with rfl | later
    · exact Nat.le_of_eq first
    · exact cut.bounded piece later
  · intro _
    rw [List.getLast_cons cut.nonempty]
    by_cases none : data.drop size = []
    · -- The sequence ends with this piece, and an empty one follows it.
      have short : data.length <= size := List.drop_eq_nil_iff.mp none
      rcases more with longer | ⟨same, closed⟩
      · exact absurd longer (Nat.not_lt.mpr short)
      · have alone := cut.empty none
        subst alone
        exact ⟨fun _ => ⟨closed, same ▸ Nat.dvd_refl _⟩, fun _ => rfl⟩
    · rw [cut.ended none, List.length_drop, Nat.dvd_sub_iff_left enough (Nat.dvd_refl size)]
  · rintro rfl
    exact absurd positive (Nat.not_lt.mpr enough)

/-- The pieces are a cut. -/
theorem isCut_segments (positive : 0 < size) (terminated : Bool) (data : List α) :
    IsCut size terminated data (segments size terminated data) := by
  induction data using segments.induct size terminated with
  | case1 data last =>
      rcases last with zero | last
      · exact absurd zero (Nat.ne_of_gt positive)
      · have last : data.length < size ∨ data.length = size ∧ terminated = false :=
          last.imp_right (And.imp_right (Bool.not_eq_true' terminated).mp)
        rw [segments_last last]
        exact isCut_last last
  | case2 data further ih =>
      have more : size < data.length ∨ size = data.length ∧ terminated = true := by
        rcases Nat.lt_trichotomy size data.length with longer | same | shorter
        · exact .inl longer
        · cases terminated with
          | true => exact .inr ⟨same, rfl⟩
          | false => exact absurd (.inr (.inr ⟨same.symm, rfl⟩)) further
        · exact absurd (.inr (.inl shorter)) further
      rw [segments_more positive more]
      exact ih.cons positive more

end

end Segments
end SunburstChip
