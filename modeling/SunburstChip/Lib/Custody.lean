import Mathlib.Algebra.BigOperators.Group.Finset.Basic
import Mathlib.Algebra.Order.Group.Multiset
import Mathlib.Tactic.Abel

namespace SunburstChip

/-!
# Tokens in the custody of places

Finitely many places hold tokens, and some tokens are in hand, on their way
from one place to another.  All tokens are accounted for when what the places
hold and what is in hand make up a fixed total.  Taking tokens out of a place
and putting tokens into one are the two moves that keep the account.

Where the total has no token twice, each token that is not in hand is at
exactly one place, and each place holds it once.
-/

variable {ι α : Type}

/-- What the places hold, with what is in hand, makes up the total. -/
def Accounted (places : Finset ι) (held : ι -> Multiset α) (inHand total : Multiset α) : Prop :=
  ∑ place ∈ places, held place + inHand = total

namespace Accounted

variable {places : Finset ι} {held held' : ι -> Multiset α} {inHand inHand' total : Multiset α}

theorem congr (accounted : Accounted places held inHand total)
    (same : forall place, place ∈ places -> held' place = held place) :
    Accounted places held' inHand total := by
  unfold Accounted
  rw [Finset.sum_congr rfl same]
  exact accounted

variable [DecidableEq ι]

/-- A change at one place is made up for by what is in hand. -/
theorem exchange (accounted : Accounted places held inHand total) (place : ι)
    (inside : place ∈ places) (here : held' place + inHand' = held place + inHand)
    (elsewhere : forall other, other ≠ place -> held' other = held other) :
    Accounted places held' inHand' total := by
  have rest : ∑ other ∈ places.erase place, held' other =
      ∑ other ∈ places.erase place, held other :=
    Finset.sum_congr rfl (fun other erased => elsewhere other (Finset.ne_of_mem_erase erased))
  unfold Accounted at accounted ⊢
  rw [<- Finset.add_sum_erase places held inside] at accounted
  rw [<- Finset.add_sum_erase places held' inside, rest]
  calc held' place + ∑ other ∈ places.erase place, held other + inHand'
      = (held' place + inHand') + ∑ other ∈ places.erase place, held other := by abel
    _ = (held place + inHand) + ∑ other ∈ places.erase place, held other := by rw [here]
    _ = held place + ∑ other ∈ places.erase place, held other + inHand := by abel
    _ = total := accounted

/-- Take tokens out of a place. -/
theorem take {kept : Multiset α} (accounted : Accounted places held kept total) (place : ι)
    {tokens : Multiset α} (inside : place ∈ places) (taken : held place = held' place + tokens)
    (elsewhere : forall other, other ≠ place -> held' other = held other) :
    Accounted places held' (kept + tokens) total := by
  apply accounted.exchange place inside _ elsewhere
  rw [taken]
  abel

/-- Put tokens in hand into a place. -/
theorem put {kept tokens : Multiset α} (accounted : Accounted places held (kept + tokens) total)
    (place : ι) (inside : place ∈ places) (added : held' place = held place + tokens)
    (elsewhere : forall other, other ≠ place -> held' other = held other) :
    Accounted places held' kept total := by
  apply accounted.exchange place inside _ elsewhere
  rw [added]
  abel

/-- Move tokens from one place to another. -/
theorem move (accounted : Accounted places held inHand total) (source target : ι)
    (tokens : Multiset α) (apart : source ≠ target) (inside : source ∈ places)
    (inside' : target ∈ places) (taken : held source = held' source + tokens)
    (added : held' target = held target + tokens)
    (elsewhere : forall other, other ≠ source -> other ≠ target -> held' other = held other) :
    Accounted places held' inHand total := by
  -- In between, the tokens have left the one place and not yet reached the other.
  let between (place : ι) : Multiset α := if place = source then held' source else held place
  have departed : Accounted places between (inHand + tokens) total := by
    apply accounted.exchange source inside _ (fun other apart => if_neg apart)
    rw [if_pos rfl, taken]
    abel
  apply departed.exchange target inside'
  · change held' target + inHand = (if target = source then held' source else held target) + _
    rw [if_neg (Ne.symm apart), added]
    abel
  · intro other notTarget
    by_cases isSource : other = source
    · rw [isSource]
      exact (if_pos rfl).symm
    · exact (elsewhere other isSource notTarget).trans (if_neg isSource).symm

theorem held_le (accounted : Accounted places held inHand total) {place : ι}
    (inside : place ∈ places) : held place + inHand <= total := by
  unfold Accounted at accounted
  rw [<- accounted, <- Finset.add_sum_erase places held inside, add_right_comm]
  exact Multiset.le_add_right _ _

theorem nodup (accounted : Accounted places held inHand total) (once : total.Nodup) {place : ι}
    (inside : place ∈ places) : (held place + inHand).Nodup :=
  Multiset.nodup_of_le (accounted.held_le inside) once

/-- What is in hand is at no place. -/
theorem not_held_of_inHand (accounted : Accounted places held inHand total) (once : total.Nodup)
    {place : ι} (inside : place ∈ places) {token : α} (here : token ∈ inHand) :
    token ∉ held place :=
  fun there => Multiset.disjoint_left.mp
    (Multiset.nodup_add.mp (accounted.nodup once inside)).2.2 there here

/-- A token at one place is at no other. -/
theorem not_held_of_held (accounted : Accounted places held inHand total) (once : total.Nodup)
    {place other : ι} (inside : place ∈ places) (inside' : other ∈ places) (apart : other ≠ place)
    {token : α} (here : token ∈ held place) : token ∉ held other := by
  intro there
  unfold Accounted at accounted
  rw [<- accounted, <- Finset.add_sum_erase places held inside, add_assoc] at once
  have disjoint := (Multiset.nodup_add.mp once).2.2
  have remains : other ∈ places.erase place := Finset.mem_erase.mpr ⟨apart, inside'⟩
  exact Multiset.disjoint_left.mp disjoint here
    (Multiset.mem_add.mpr (Or.inl (Multiset.mem_sum.mpr ⟨other, remains, there⟩)))

/-- Every token of the total is at exactly one place. -/
theorem existsUnique (accounted : Accounted places held 0 total) (once : total.Nodup)
    {token : α} (counted : token ∈ total) :
    Exists fun place => (place ∈ places ∧ token ∈ held place) ∧
      forall other, other ∈ places ∧ token ∈ held other -> other = place := by
  unfold Accounted at accounted
  rw [add_zero] at accounted
  have somewhere : token ∈ ∑ place ∈ places, held place := accounted ▸ counted
  rcases Multiset.mem_sum.mp somewhere with ⟨place, inside, here⟩
  refine ⟨place, ⟨inside, here⟩, fun other both => ?_⟩
  by_contra apart
  have remains : other ∈ places.erase place := Finset.mem_erase.mpr ⟨apart, both.1⟩
  rw [<- accounted, <- Finset.add_sum_erase places held inside] at once
  have disjoint := (Multiset.nodup_add.mp once).2.2
  exact Multiset.disjoint_left.mp disjoint here
    (Multiset.mem_sum.mpr ⟨other, remains, both.2⟩)

end Accounted

/-! ## Tokens in a list -/

theorem coe_cons_eq (token : α) (rest : List α) :
    ((token :: rest : List α) : Multiset α) = (rest : Multiset α) + {token} := by
  rw [<- Multiset.cons_coe, <- Multiset.singleton_add, add_comm]

theorem coe_concat_eq (token : α) (front : List α) :
    ((front ++ [token] : List α) : Multiset α) = (front : Multiset α) + {token} := rfl

end SunburstChip
