import Mathlib.Data.List.Basic
import GrammarTree.Span

/-!
# Join trees

An expression over `|` and `/`, associated as the user wrote it.  The operands
are of any type.  Two leaves meet at the lowest node that has both of them below
it, and the operator of that node is what stands between the two operands.

Main results:

- Definition `JoinTree.operator?`: the operator at which two leaves meet.
- Theorem `JoinTree.operator?_filterMap`: leaves that are left away do not change
  where the others meet.
- Theorems `JoinTree.Reassociated.leaves_eq` and `JoinTree.Reassociated.operator?_eq`:
  associativity changes neither the leaves nor the operators at which they meet.
-/

namespace GrammarTree

/-- An expression over `|` and `/`; `ordered` tells `/` from `|`. -/
inductive JoinTree (α : Type) where
  | leaf (operand : α)
  | join (location : Location) (ordered : Bool) (left right : JoinTree α)

namespace JoinTree

variable {α β γ : Type}

/-- The operands from left to right. -/
def leaves : JoinTree α → List α
  | leaf operand => [operand]
  | join _ _ left right => left.leaves ++ right.leaves

/-- The number of operands. -/
def size (t : JoinTree α) : Nat :=
  t.leaves.length

/-- The operator at the lowest node above two leaves, which are given by their
places from left to right. -/
def operator? : JoinTree α → Nat → Nat → Option Bool
  | leaf _, _, _ => none
  | join _ ordered left right, i, j =>
    if i < left.size ∧ j < left.size then left.operator? i j
    else if left.size ≤ i ∧ left.size ≤ j then
      right.operator? (i - left.size) (j - left.size)
    else some ordered

/-- Whether there is an operator at all. -/
def isJoin : JoinTree α → Bool
  | leaf _ => false
  | join _ _ _ _ => true

@[simp] theorem size_leaf (operand : α) : (leaf operand).size = 1 := rfl

@[simp] theorem size_join (location : Location) (ordered : Bool) (left right : JoinTree α) :
    (join location ordered left right).size = left.size + right.size := by
  simp [size, leaves]

/-- Every expression has an operand. -/
theorem size_pos (t : JoinTree α) : 0 < t.size := by
  induction t with
  | leaf operand => simp
  | join location ordered left right ihl ihr =>
    rw [size_join]
    omega

/-! ## Other operands -/

/-- The same expression over other operands. -/
def map (f : α → β) : JoinTree α → JoinTree β
  | leaf operand => leaf (f operand)
  | join location ordered left right => join location ordered (left.map f) (right.map f)

@[simp] theorem leaves_map (f : α → β) (t : JoinTree α) :
    (t.map f).leaves = t.leaves.map f := by
  induction t with
  | leaf operand => rfl
  | join location ordered left right ihl ihr => simp [map, leaves, ihl, ihr]

@[simp] theorem size_map (f : α → β) (t : JoinTree α) : (t.map f).size = t.size := by
  simp [size]

/-- Operands do not matter for where leaves meet. -/
theorem operator?_map (f : α → β) (t : JoinTree α) (i j : Nat) :
    (t.map f).operator? i j = t.operator? i j := by
  induction t generalizing i j with
  | leaf operand => rfl
  | join location ordered left right ihl ihr => simp only [map, operator?, size_map, ihl, ihr]

/-- Changing the operands twice is changing them once. -/
theorem map_map (f : α → β) (g : β → γ) (t : JoinTree α) :
    (t.map f).map g = t.map (g ∘ f) := by
  induction t with
  | leaf operand => rfl
  | join location ordered left right ihl ihr => simp [map, ihl, ihr]

/-- A change that keeps every operand keeps the expression. -/
theorem map_eq_self {f : α → α} {t : JoinTree α} (h : ∀ a ∈ t.leaves, f a = a) :
    t.map f = t := by
  induction t with
  | leaf operand => rw [map, h operand (by simp [leaves])]
  | join location ordered left right ihl ihr =>
    have hl : left.map f = left := ihl fun a ha => h a (by simp [leaves, ha])
    have hr : right.map f = right := ihr fun a ha => h a (by simp [leaves, ha])
    rw [map, hl, hr]

/-! ## Fewer operands -/

/-- Join what is there of two expressions. -/
def combine (location : Location) (ordered : Bool) :
    Option (JoinTree α) → Option (JoinTree α) → Option (JoinTree α)
  | some left, some right => some (join location ordered left right)
  | some left, none => some left
  | none, right => right

/-- Change the operands and leave some of them away; an operator that loses a side
goes with it. -/
def filterMap (f : α → Option β) : JoinTree α → Option (JoinTree β)
  | leaf operand => (f operand).map leaf
  | join location ordered left right =>
    combine location ordered (left.filterMap f) (right.filterMap f)

/-- The operands of an expression that may be missing. -/
def leavesOf (t : Option (JoinTree α)) : List α :=
  t.elim [] leaves

@[simp] theorem length_leavesOf_some (t : JoinTree α) : (leavesOf (some t)).length = t.size :=
  rfl

/-- The operands of two expressions stand side by side. -/
theorem leavesOf_combine (location : Location) (ordered : Bool)
    (left right : Option (JoinTree α)) :
    leavesOf (combine location ordered left right) = leavesOf left ++ leavesOf right := by
  cases left <;> cases right <;> simp [combine, leavesOf, leaves]

/-- The operands that are kept stay in order. -/
theorem leavesOf_filterMap (f : α → Option β) (t : JoinTree α) :
    leavesOf (t.filterMap f) = t.leaves.filterMap f := by
  induction t with
  | leaf operand => cases h : f operand <;> simp [filterMap, leavesOf, leaves, h]
  | join location ordered left right ihl ihr =>
    rw [filterMap, leavesOf_combine, ihl, ihr, leaves, List.filterMap_append]

/-- The places of the operands that are kept. -/
def keptPlaces (f : α → Option β) (t : JoinTree α) : List Nat :=
  t.leaves.findIdxs fun a => (f a).isSome

/-- Kept operands of the right side come behind all operands of the left side. -/
theorem keptPlaces_join (f : α → Option β) (location : Location) (ordered : Bool)
    (left right : JoinTree α) :
    keptPlaces f (join location ordered left right) =
      keptPlaces f left ++ (keptPlaces f right).map (· + left.size) := by
  simp only [keptPlaces, leaves, List.findIdxs_append, Nat.zero_add]
  congr 1
  exact List.findIdxs_start

/-- There are as many places as kept operands. -/
theorem length_keptPlaces (f : α → Option β) (t : JoinTree α) :
    (keptPlaces f t).length = (leavesOf (t.filterMap f)).length := by
  rw [keptPlaces, List.length_findIdxs, leavesOf_filterMap, List.length_filterMap_eq_countP]

/-- The place of a kept operand is a place of an operand. -/
theorem lt_size_of_keptPlaces {f : α → Option β} {t : JoinTree α} {i a : Nat}
    (h : (keptPlaces f t)[i]? = some a) : a < t.size := by
  have hmem : a ∈ keptPlaces f t := List.mem_of_getElem? h
  simpa [keptPlaces, size] using List.lt_add_of_mem_findIdxs a hmem

/-- The number of a kept operand is a number among the kept operands. -/
theorem lt_length_leavesOf_of_keptPlaces {f : α → Option β} {t : JoinTree α} {i a : Nat}
    (h : (keptPlaces f t)[i]? = some a) : i < (leavesOf (t.filterMap f)).length := by
  rw [← length_keptPlaces]
  exact (List.getElem?_eq_some_iff.mp h).1

/-- A kept operand of a join is a kept operand of its left or of its right side. -/
theorem keptPlaces_join_cases {f : α → Option β} {location : Location} {ordered : Bool}
    {left right : JoinTree α} {i a : Nat}
    (h : (keptPlaces f (join location ordered left right))[i]? = some a) :
    (i < (leavesOf (left.filterMap f)).length ∧ (keptPlaces f left)[i]? = some a) ∨
      ∃ k b, i = (leavesOf (left.filterMap f)).length + k ∧ a = b + left.size ∧
        (keptPlaces f right)[k]? = some b := by
  rw [keptPlaces_join, List.getElem?_append, length_keptPlaces] at h
  split at h
  · exact Or.inl ⟨‹_›, h⟩
  · rename_i hge
    rw [List.getElem?_map] at h
    rcases Option.map_eq_some_iff.mp h with ⟨b, hb, rfl⟩
    exact Or.inr ⟨_, b, by omega, rfl, hb⟩

/-- Two operands of the left side meet there. -/
theorem operator?_combine_left (location : Location) (ordered : Bool)
    {left right : Option (JoinTree α)} {i j : Nat}
    (hi : i < (leavesOf left).length) (hj : j < (leavesOf left).length) :
    (combine location ordered left right).bind (·.operator? i j) =
      left.bind (·.operator? i j) := by
  cases left with
  | none => simp [leavesOf] at hi
  | some l =>
    cases right with
    | none => rfl
    | some r => exact if_pos ⟨hi, hj⟩

/-- Two operands of the right side meet there. -/
theorem operator?_combine_right (location : Location) (ordered : Bool)
    {left right : Option (JoinTree α)} {i j : Nat} (hi : i < (leavesOf right).length) :
    (combine location ordered left right).bind
        (·.operator? ((leavesOf left).length + i) ((leavesOf left).length + j)) =
      right.bind (·.operator? i j) := by
  cases right with
  | none => simp [leavesOf] at hi
  | some r =>
    cases left with
    | none => simp [combine, leavesOf]
    | some l =>
      simp only [combine, length_leavesOf_some, Option.bind_some]
      rw [operator?, if_neg (by omega), if_pos (by omega), Nat.add_sub_cancel_left,
        Nat.add_sub_cancel_left]

/-- Operands of different sides meet at the operator that joins the sides. -/
theorem operator?_combine_across (location : Location) (ordered : Bool)
    {left right : Option (JoinTree α)} {i j : Nat}
    (hi : i < (leavesOf left).length) (hj : j < (leavesOf right).length) :
    (combine location ordered left right).bind
        (·.operator? i ((leavesOf left).length + j)) = some ordered ∧
      (combine location ordered left right).bind
        (·.operator? ((leavesOf left).length + j) i) = some ordered := by
  cases left with
  | none => simp [leavesOf] at hi
  | some l =>
    cases right with
    | none => simp [leavesOf] at hj
    | some r =>
      rw [length_leavesOf_some] at hi
      simp only [combine, length_leavesOf_some, Option.bind_some]
      constructor
      · rw [operator?, if_neg (by omega), if_neg (by omega)]
      · rw [operator?, if_neg (by omega), if_neg (by omega)]

/-- Leaves that are left away do not change the operators at which the others
meet. -/
theorem operator?_filterMap (f : α → Option β) (t : JoinTree α) {i j a b : Nat}
    (ha : (keptPlaces f t)[i]? = some a) (hb : (keptPlaces f t)[j]? = some b) :
    (t.filterMap f).bind (·.operator? i j) = t.operator? a b := by
  induction t generalizing i j a b with
  | leaf operand => cases h : f operand <;> simp [filterMap, operator?, h]
  | join location ordered left right ihl ihr =>
    rw [filterMap]
    rcases keptPlaces_join_cases ha with ⟨hi, hal⟩ | ⟨k, c, rfl, rfl, har⟩
    · have hla := lt_size_of_keptPlaces hal
      rcases keptPlaces_join_cases hb with ⟨hj, hbl⟩ | ⟨m, d, rfl, rfl, hbr⟩
      · have hlb := lt_size_of_keptPlaces hbl
        rw [operator?_combine_left location ordered hi hj, ihl hal hbl, operator?,
          if_pos ⟨hla, hlb⟩]
      · have hm := lt_length_leavesOf_of_keptPlaces hbr
        rw [(operator?_combine_across location ordered hi hm).1, operator?, if_neg (by omega),
          if_neg (by omega)]
    · have hk := lt_length_leavesOf_of_keptPlaces har
      rcases keptPlaces_join_cases hb with ⟨hj, hbl⟩ | ⟨m, d, rfl, rfl, hbr⟩
      · have hlb := lt_size_of_keptPlaces hbl
        rw [(operator?_combine_across location ordered hj hk).2, operator?, if_neg (by omega),
          if_neg (by omega)]
      · rw [operator?_combine_right location ordered hk, ihr har hbr, operator?,
          if_neg (by omega), if_pos (by omega), Nat.add_sub_cancel, Nat.add_sub_cancel]

/-! ## Associativity -/

/-- Two expressions that differ by associativity of `|` and of `/` and by the
locations of their operators. -/
inductive Reassociated : JoinTree α → JoinTree α → Prop where
  | leaf (operand : α) : Reassociated (leaf operand) (leaf operand)
  | join {left left' right right' : JoinTree α} (location location' : Location)
      (ordered : Bool) : Reassociated left left' → Reassociated right right' →
      Reassociated (join location ordered left right) (join location' ordered left' right')
  | assoc (location inner location' inner' : Location) (ordered : Bool)
      (a b c : JoinTree α) :
      Reassociated (.join location ordered (.join inner ordered a b) c)
        (.join location' ordered a (.join inner' ordered b c))
  | symm {t u : JoinTree α} : Reassociated t u → Reassociated u t
  | trans {t u v : JoinTree α} : Reassociated t u → Reassociated u v → Reassociated t v

namespace Reassociated

/-- An expression differs in nothing from itself. -/
theorem refl (t : JoinTree α) : Reassociated t t := by
  induction t with
  | leaf operand => exact leaf operand
  | join location ordered left right ihl ihr => exact join location location ordered ihl ihr

/-- Associativity keeps the operands in order. -/
theorem leaves_eq {t u : JoinTree α} (h : Reassociated t u) : t.leaves = u.leaves := by
  induction h with
  | leaf operand => rfl
  | join location location' ordered hl hr ihl ihr => simp only [leaves, ihl, ihr]
  | assoc location inner location' inner' ordered a b c =>
    simp only [leaves, List.append_assoc]
  | symm h ih => exact ih.symm
  | trans h h' ih ih' => exact ih.trans ih'

/-- Associativity keeps the number of operands. -/
theorem size_eq {t u : JoinTree α} (h : Reassociated t u) : t.size = u.size :=
  congrArg List.length h.leaves_eq

/-- Associativity keeps the operators at which two leaves meet. -/
theorem operator?_eq {t u : JoinTree α} (h : Reassociated t u) (i j : Nat) :
    t.operator? i j = u.operator? i j := by
  induction h generalizing i j with
  | leaf operand => rfl
  | join location location' ordered hl hr ihl ihr =>
    simp only [operator?, hl.size_eq, ihl, ihr]
  | assoc location inner location' inner' ordered a b c =>
    -- the same three runs of leaves on both sides, cut at other places first
    simp only [operator?, size_join]
    grind
  | symm h ih => exact (ih i j).symm
  | trans h h' ih ih' => exact (ih i j).trans (ih' i j)

/-- Other operands differ by associativity, too. -/
theorem map (f : α → β) {t u : JoinTree α} (h : Reassociated t u) :
    Reassociated (t.map f) (u.map f) := by
  induction h with
  | leaf operand => exact leaf (f operand)
  | join location location' ordered hl hr ihl ihr => exact join location location' ordered ihl ihr
  | assoc location inner location' inner' ordered a b c =>
    exact assoc location inner location' inner' ordered (a.map f) (b.map f) (c.map f)
  | symm h ih => exact ih.symm
  | trans h h' ih ih' => exact ih.trans ih'

end Reassociated

end JoinTree

end GrammarTree
