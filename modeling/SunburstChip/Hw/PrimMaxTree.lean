import Mathlib.Algebra.Group.Nat.Defs
import Mathlib.Data.Nat.Log
import SunburstChip.Lib.FirstMaximum

namespace SunburstChip
namespace PrimMaxTree

/-!
# The tree that finds the greatest input

`prim_max_tree.sv`.  The inputs are the leaves of a binary tree whose nodes
forward one of their two children, so that the root has the greatest of the
valid inputs.  The module states next to it what a plain scan of the inputs
finds.  A node is followed down to the leaves below it, which are an interval of
the inputs.
-/

/-- The inputs: `values_i` and `valid_i`. -/
structure Inputs (numSrc width : Nat) where
  values : Fin numSrc -> BitVec width
  valid : BitVec numSrc

/-- What a node carries: its entries of `vld_tree`, `idx_tree` and `max_tree`. -/
structure Node (width : Nat) where
  vld : Bool
  idx : Nat
  max : BitVec width
deriving DecidableEq

variable {numSrc width : Nat}

/-- `values_i[k]` -/
def Inputs.value (inputs : Inputs numSrc width) (k : Nat) : BitVec width :=
  if inside : k < numSrc then inputs.values ⟨k, inside⟩ else 0

/-- `gen_nodes` -/
def forward (c0 c1 : Node width) : Node width :=
  let sel := (!c0.vld && c1.vld) || (c0.vld && c1.vld && decide (c1.max > c0.max))
  if sel then c1 else c0

namespace Inputs

variable (inputs : Inputs numSrc width)

/-- `gen_leafs` -/
def leaf (offset : Nat) : Node width :=
  if offset < numSrc then ⟨inputs.valid.getLsbD offset, offset, inputs.value offset⟩
  else ⟨false, 0, 0⟩

/-- The node so many levels above the leaves, of the given offset in its level. -/
def node : Nat -> Nat -> Node width
  | 0, offset => inputs.leaf offset
  | height + 1, offset => forward (node height (2 * offset)) (node height (2 * offset + 1))

/-- `max_valid_o`, `max_idx_o` and `max_value_o`: the root, `NumLevels` above the leaves. -/
def root : Node width := inputs.node (Nat.clog 2 numSrc) 0

/-! ## The plain scans that the assertions compare with -/

/-- `max_value` -/
def maxValue : BitVec width :=
  (List.range numSrc).foldl
    (fun value k =>
      if inputs.valid.getLsbD k && decide (inputs.value k > value) then inputs.value k else value)
    0

/-- The loop of `max_idx`, from `k - 1` downwards. -/
def maxIdxFrom : Nat -> BitVec width × Nat -> BitVec width × Nat
  | 0, found => found
  | k + 1, found =>
      maxIdxFrom k
        (if inputs.valid.getLsbD k && decide (inputs.value k >= found.1) then (inputs.value k, k)
        else found)

/-- `max_idx` -/
def maxIdx : Nat := (inputs.maxIdxFrom numSrc (0, 0)).2

/-! ## The leaves below a node -/

/-- The first of the greatest valid inputs of an interval. -/
abbrev First (low high index : Nat) : Prop :=
  FirstMaximum (fun k => inputs.valid.getLsbD k = true) (fun k => (inputs.value k).toNat)
    low high index

/-- What a node says of the inputs between two of them. -/
inductive Covers (low high : Nat) (node : Node width) : Prop where
  | found (vld : node.vld = true) (first : inputs.First low high node.idx)
      (max : node.max = inputs.value node.idx)
  | none (vld : node.vld = false) (leaf : node = inputs.leaf low)
      (invalid : forall k, low <= k -> k < high -> inputs.valid.getLsbD k = false)

variable {inputs} {low middle high : Nat} {c0 c1 : Node width}

theorem leaf_inside {k : Nat} (inside : k < numSrc) :
    inputs.leaf k = ⟨inputs.valid.getLsbD k, k, inputs.value k⟩ := if_pos inside

theorem leaf_outside {k : Nat} (outside : ¬ k < numSrc) : inputs.leaf k = ⟨false, 0, 0⟩ :=
  if_neg outside

theorem covers_leaf (k : Nat) : inputs.Covers k (k + 1) (inputs.leaf k) := by
  by_cases inside : k < numSrc
  · rcases isValid : inputs.valid.getLsbD k with _ | _
    · refine .none ?_ rfl ?_
      · rw [leaf_inside inside, isValid]
      · intro other least below
        have same : other = k := by omega
        rw [same, isValid]
    · rw [leaf_inside inside, isValid]
      exact .found rfl (FirstMaximum.single isValid) rfl
  · refine .none ?_ rfl ?_
    · rw [leaf_outside inside]
    · intro other least _
      exact BitVec.getLsbD_of_ge _ _ (by omega)

/-- A node covers what its children cover between them. -/
theorem covers_forward (lower : low <= middle) (upper : middle <= high)
    (left : inputs.Covers low middle c0) (right : inputs.Covers middle high c1) :
    inputs.Covers low high (forward c0 c1) := by
  cases left with
  | found vld first max =>
      cases right with
      | found vld' first' max' =>
          have both := first.of_halves first'
          by_cases greater : c0.max < c1.max
          · have taken : forward c0 c1 = c1 := by simp [forward, vld, vld', greater]
            rw [max, max', BitVec.lt_def] at greater
            rw [if_pos greater] at both
            rw [taken]
            exact .found vld' both max'
          · have taken : forward c0 c1 = c0 := by simp [forward, vld, vld', greater]
            rw [max, max', BitVec.lt_def] at greater
            rw [if_neg greater] at both
            rw [taken]
            exact .found vld both max
      | none vld' leaf' invalid' =>
          have taken : forward c0 c1 = c0 := by simp [forward, vld, vld']
          rw [taken]
          refine .found vld (first.lower upper ?_) max
          intro k least below isValid
          rw [invalid' k least below] at isValid
          exact Bool.noConfusion isValid
  | none vld leaf invalid =>
      cases right with
      | found vld' first' max' =>
          have taken : forward c0 c1 = c1 := by simp [forward, vld, vld']
          rw [taken]
          refine .found vld' (first'.upper lower ?_) max'
          intro k least below isValid
          rw [invalid k least below] at isValid
          exact Bool.noConfusion isValid
      | none vld' leaf' invalid' =>
          have taken : forward c0 c1 = c0 := by simp [forward, vld, vld']
          rw [taken]
          refine .none vld leaf ?_
          intro k least below
          rcases Nat.lt_or_ge k middle with early | late
          · exact invalid k least early
          · exact invalid' k late below

/-- A node covers the leaves below it. -/
theorem covers_node (height offset : Nat) :
    inputs.Covers (offset * 2 ^ height) ((offset + 1) * 2 ^ height)
      (inputs.node height offset) := by
  induction height generalizing offset with
  | zero =>
      rw [Nat.pow_zero, Nat.mul_one, Nat.mul_one]
      exact covers_leaf offset
  | succ height ih =>
      have low : offset * 2 ^ (height + 1) = 2 * offset * 2 ^ height := by
        rw [Nat.pow_succ, Nat.mul_comm (2 ^ height) 2, <- Nat.mul_assoc, Nat.mul_comm offset 2]
      have high : (offset + 1) * 2 ^ (height + 1) = (2 * offset + 1 + 1) * 2 ^ height := by
        rw [Nat.pow_succ, Nat.mul_comm (2 ^ height) 2, <- Nat.mul_assoc]
        congr 1
        omega
      rw [low, high]
      exact covers_forward (Nat.mul_le_mul_right _ (Nat.le_succ _))
        (Nat.mul_le_mul_right _ (Nat.le_succ _)) (ih _) (ih _)

/-- The root covers all inputs. -/
theorem covers_root : inputs.Covers 0 numSrc inputs.root := by
  have enough : numSrc <= 2 ^ Nat.clog 2 numSrc := Nat.le_pow_clog (by decide) _
  have covers := @covers_node _ _ inputs (Nat.clog 2 numSrc) 0
  rw [Nat.zero_mul, Nat.zero_add, Nat.one_mul] at covers
  change inputs.Covers 0 (2 ^ Nat.clog 2 numSrc) inputs.root at covers
  cases covers with
  | found vld first max =>
      have inside : inputs.root.idx < numSrc := by
        by_contra outside
        have isValid := first.isValid
        rw [BitVec.getLsbD_of_ge _ _ (Nat.not_lt.mp outside)] at isValid
        exact Bool.noConfusion isValid
      refine .found vld ?_ max
      exact ⟨first.least, inside, first.isValid, fun other least below =>
        first.greatest other least (Nat.lt_of_lt_of_le below enough), first.first⟩
  | none vld leaf invalid =>
      exact .none vld leaf (fun k least below => invalid k least (Nat.lt_of_lt_of_le below enough))

/-! ## The scans -/

/-- The greatest value that the upward scan has met is a bound, and is met or zero. -/
theorem maxValue_spec (n : Nat) :
    let found := (List.range n).foldl
      (fun value k =>
        if inputs.valid.getLsbD k && decide (inputs.value k > value) then inputs.value k
        else value) (0 : BitVec width)
    (forall k, k < n -> inputs.valid.getLsbD k = true -> (inputs.value k).toNat <= found.toNat) ∧
      (found = 0 ∨ Exists fun k => k < n ∧ inputs.valid.getLsbD k = true ∧
        found = inputs.value k) := by
  induction n with
  | zero => exact ⟨fun k below => absurd below (Nat.not_lt_zero k), .inl rfl⟩
  | succ n ih =>
      rw [List.range_succ, List.foldl_append, List.foldl_cons, List.foldl_nil]
      revert ih
      generalize (List.range n).foldl _ _ = found
      rintro ⟨bound, met⟩
      dsimp only
      by_cases taken : inputs.valid.getLsbD n = true ∧ inputs.value n > found
      · rw [if_pos (by simpa using taken)]
        have greater : found.toNat < (inputs.value n).toNat := taken.2
        refine ⟨?_, .inr ⟨n, Nat.lt_succ_self n, taken.1, rfl⟩⟩
        intro k below isValid
        rcases Nat.lt_succ_iff_lt_or_eq.mp below with early | same
        · exact Nat.le_trans (bound k early isValid) (Nat.le_of_lt greater)
        · rw [same]
      · rw [if_neg (by simpa using taken)]
        constructor
        · intro k below isValid
          rcases Nat.lt_succ_iff_lt_or_eq.mp below with early | same
          · exact bound k early isValid
          · subst same
            exact Nat.le_of_not_lt (fun greater => taken ⟨isValid, greater⟩)
        · rcases met with zero | ⟨k, early, isValid, same⟩
          · exact .inl zero
          · exact .inr ⟨k, Nat.lt_succ_of_lt early, isValid, same⟩

/-- What the downward scan has found among the inputs from `low` on. -/
def Scanned (inputs : Inputs numSrc width) (low : Nat) (found : BitVec width × Nat) : Prop :=
  (inputs.First low numSrc found.2 ∧ found.1 = inputs.value found.2) ∨
    ((forall k, low <= k -> k < numSrc -> inputs.valid.getLsbD k = false) ∧ found.1 = 0)

theorem scanned_step {k : Nat} {found : BitVec width × Nat} (inside : k < numSrc)
    (scanned : inputs.Scanned (k + 1) found) :
    inputs.Scanned k
      (if inputs.valid.getLsbD k && decide (inputs.value k >= found.1) then (inputs.value k, k)
      else found) := by
  have low : k <= k + 1 := Nat.le_succ k
  by_cases taken : inputs.valid.getLsbD k = true ∧ inputs.value k >= found.1
  · rw [if_pos (by simpa using taken)]
    have single : inputs.First k (k + 1) k := FirstMaximum.single taken.1
    refine .inl ⟨single.lower inside ?_, rfl⟩
    intro other least below isValid
    rcases scanned with ⟨first, same⟩ | ⟨invalid, zero⟩
    · have most := first.greatest other least below isValid
      have great : found.1.toNat <= (inputs.value k).toNat := taken.2
      rw [same] at great
      exact Nat.le_trans most great
    · rw [invalid other least below] at isValid
      exact Bool.noConfusion isValid
  · rw [if_neg (by simpa using taken)]
    rcases scanned with ⟨first, same⟩ | ⟨invalid, zero⟩
    · refine .inl ⟨first.upper low ?_, same⟩
      intro other least below isValid
      have here : other = k := Nat.le_antisymm (Nat.le_of_lt_succ below) least
      subst here
      refine Nat.lt_of_not_le (fun great => taken ⟨isValid, ?_⟩)
      rw [same]
      exact great
    · refine .inr ⟨?_, zero⟩
      intro other least below
      rcases Nat.lt_or_ge other (k + 1) with here | later
      · have here : other = k := Nat.le_antisymm (Nat.le_of_lt_succ here) least
        subst here
        refine Bool.eq_false_iff.mpr (fun isValid => taken ⟨isValid, ?_⟩)
        rw [zero]
        exact Nat.zero_le _
      · exact invalid other later below

theorem scanned_maxIdxFrom (k : Nat) (inside : k <= numSrc) {found : BitVec width × Nat}
    (scanned : inputs.Scanned k found) : inputs.Scanned 0 (inputs.maxIdxFrom k found) := by
  induction k generalizing found with
  | zero => exact scanned
  | succ k ih => exact ih (Nat.le_of_succ_le inside) (scanned_step inside scanned)

/-! ## The tree and the scans -/

/-- The index that the tree finds is the one the downward scan finds. -/
theorem root_idx (found : inputs.First 0 numSrc inputs.root.idx) :
    inputs.root.idx = inputs.maxIdx := by
  have start : inputs.Scanned numSrc (0, 0) :=
    .inr ⟨fun k least below => absurd below (Nat.not_lt.mpr least), rfl⟩
  rcases scanned_maxIdxFrom numSrc (Nat.le_refl _) start with ⟨first, _⟩ | ⟨invalid, _⟩
  · exact found.unique first
  · have isValid := found.isValid
    rw [invalid _ (Nat.zero_le _) found.below] at isValid
    exact Bool.noConfusion isValid

/-- The value that the tree finds is the one the upward scan finds. -/
theorem root_max (found : inputs.First 0 numSrc inputs.root.idx) :
    inputs.value inputs.root.idx = inputs.maxValue := by
  rcases @maxValue_spec _ _ inputs numSrc with ⟨bound, met⟩
  have least : (inputs.value inputs.root.idx).toNat <= inputs.maxValue.toNat :=
    bound _ found.below found.isValid
  have most : inputs.maxValue.toNat <= (inputs.value inputs.root.idx).toNat := by
    rcases met with zero | ⟨k, below, isValid, same⟩
    · have zero : inputs.maxValue = 0 := zero
      rw [zero]
      exact Nat.zero_le _
    · have same : inputs.maxValue = inputs.value k := same
      rw [same]
      exact found.greatest k (Nat.zero_le _) below isValid
  exact BitVec.eq_of_toNat_eq (Nat.le_antisymm least most)

/-- Some input is valid. -/
theorem exists_valid_iff : (inputs.valid ≠ 0) ↔
    Exists fun k => k < numSrc ∧ inputs.valid.getLsbD k = true := by
  constructor
  · intro some
    by_contra never
    refine some (BitVec.eq_of_getLsbD_eq fun k below => ?_)
    refine Eq.trans ?_ BitVec.getLsbD_zero.symm
    exact Bool.eq_false_iff.mpr (fun isValid => never ⟨k, below, isValid⟩)
  · rintro ⟨k, _, isValid⟩ zero
    rw [zero] at isValid
    exact absurd isValid (by simp)

/-- The tree meets the assertions that the module makes of it: there is a valid output exactly if
some input is valid, and the value and the index are then those that the scans find.  Else they are
the value of the first input and zero. -/
theorem root_meets_assertions (sources : 2 <= numSrc) :
    (inputs.root.vld = true ↔ inputs.valid ≠ 0) ∧
      (inputs.root.vld = true ->
        inputs.root.max = inputs.maxValue ∧ inputs.root.idx = inputs.maxIdx) ∧
      (inputs.root.vld = false ->
        inputs.root.max = inputs.value 0 ∧ inputs.root.idx = 0) := by
  rw [exists_valid_iff]
  cases @covers_root _ _ inputs with
  | found vld first max =>
      refine ⟨⟨fun _ => ⟨_, first.below, first.isValid⟩, fun _ => vld⟩, fun _ => ?_, fun none => ?_⟩
      · exact ⟨max.trans (root_max first), root_idx first⟩
      · rw [vld] at none
        exact Bool.noConfusion none
  | none vld leaf invalid =>
      refine ⟨⟨fun some => ?_, ?_⟩, fun some => ?_, fun _ => ?_⟩
      · rw [vld] at some
        exact Bool.noConfusion some
      · rintro ⟨k, below, isValid⟩
        rw [invalid k (Nat.zero_le _) below] at isValid
        exact Bool.noConfusion isValid
      · rw [vld] at some
        exact Bool.noConfusion some
      · have first : inputs.leaf 0 = ⟨inputs.valid.getLsbD 0, 0, inputs.value 0⟩ :=
          if_pos (by omega)
        rw [leaf, first]
        exact ⟨rfl, rfl⟩

/-- Three inputs, of which the last two are as great. -/
def threeInputs : Inputs 3 2 := ⟨fun k => if k = 0 then 1 else 2, 0b111⟩

theorem root_meets_assertions_three : threeInputs.root.idx = threeInputs.maxIdx :=
  ((root_meets_assertions (by decide : 2 <= 3)).2.1 (by decide +kernel)).2

end Inputs
end PrimMaxTree
end SunburstChip
