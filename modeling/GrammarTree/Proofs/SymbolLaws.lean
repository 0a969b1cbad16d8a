import GrammarTree.Symbol.CharClass
import GrammarTree.Symbol.TokenClass

/-!
# Laws of symbol sets

What the grammar tree relies on when it unites the sets of two terminals, and why
both kinds of symbol sets grant it.

Main results:

- Class `LawfulSymbolSet`: a union holds the symbols of both sets.
- Theorem `CharRange.covers_insert`: joining ranges that overlap or touch neither adds
  nor loses a code point.
- Theorem `TokenClass.mem_insertName_iff`: a sorted list takes a name in once.
-/

namespace GrammarTree

/-- Symbol sets whose union holds the symbols of both sets and nothing else. -/
class LawfulSymbolSet (S : Type) {Item : outParam Type} [SymbolSet S Item] : Prop where
  contains_union : ∀ (s t : S) (item : Item),
    SymbolSet.contains (SymbolSet.union s t) item =
      (SymbolSet.contains s item || SymbolSet.contains t item)
  hasEnd_union : ∀ s t : S,
    SymbolSet.hasEnd (SymbolSet.union s t) = (SymbolSet.hasEnd s || SymbolSet.hasEnd t)

/-! ## Characters -/

namespace CharRange

/-- Whether a code point lies between the bounds of a range.  Code points that stand for
no character count, too. -/
def Spans (r : CharRange) (n : Nat) : Prop :=
  r.lo.toNat ≤ n ∧ n ≤ r.hi.toNat

/-- Whether a code point lies between the bounds of any of the ranges. -/
def Covers (ranges : List CharRange) (n : Nat) : Prop :=
  ∃ r ∈ ranges, r.Spans n

@[simp] theorem not_covers_nil (n : Nat) : ¬ Covers [] n := by
  simp [Covers]

@[simp] theorem covers_cons {r : CharRange} {ranges : List CharRange} {n : Nat} :
    Covers (r :: ranges) n ↔ r.Spans n ∨ Covers ranges n := by
  simp [Covers]

@[simp] theorem covers_append {ranges more : List CharRange} {n : Nat} :
    Covers (ranges ++ more) n ↔ Covers ranges n ∨ Covers more n := by
  simp [Covers, or_and_right, exists_or]

/-- The characters of a list of ranges are those whose code points it covers. -/
theorem any_contains_iff {ranges : List CharRange} {c : Char} :
    ranges.any (·.contains c) = true ↔ Covers ranges c.toNat := by
  simp [contains, Covers, Spans]

/-- Two ranges that overlap or touch fill the range around them. -/
theorem spans_hull {r s : CharRange} (hrs : ¬ r.Before s) (hsr : ¬ s.Before r) (n : Nat) :
    (r.hull s).Spans n ↔ r.Spans n ∨ s.Spans n := by
  have hr := r.ordered
  have hs := s.ordered
  have hlo : (r.hull s).lo.toNat ≤ n ↔ r.lo.toNat ≤ n ∨ s.lo.toNat ≤ n := by
    simp only [hull]
    split <;> omega
  have hhi : n ≤ (r.hull s).hi.toNat ↔ n ≤ r.hi.toNat ∨ n ≤ s.hi.toNat := by
    simp only [hull]
    split <;> omega
  simp only [Before] at hrs hsr
  simp only [Spans, hlo, hhi]
  omega

/-- A list with a range inserted covers what the list covers and what the range
spans. -/
theorem covers_insert (r : CharRange) (ranges : List CharRange) (n : Nat) :
    Covers (insert r ranges) n ↔ r.Spans n ∨ Covers ranges n := by
  induction ranges generalizing r with
  | nil => simp [insert]
  | cons s rest ih =>
    rw [insert]
    split
    · exact covers_cons
    · split
      · rw [covers_cons, covers_cons, ih, or_left_comm]
      · rename_i hrs hsr
        rw [ih, spans_hull hrs hsr, covers_cons, or_assoc]

/-- The normal form of a list of ranges covers the same code points. -/
theorem covers_normalize (ranges : List CharRange) (n : Nat) :
    Covers (normalize ranges) n ↔ Covers ranges n := by
  induction ranges with
  | nil => exact Iff.rfl
  | cons r rest ih =>
    have hinsert := covers_insert r (normalize rest) n
    rw [ih, ← covers_cons] at hinsert
    exact hinsert

/-- The normal form of a list of ranges holds the same characters. -/
theorem any_normalize (ranges : List CharRange) (c : Char) :
    (normalize ranges).any (·.contains c) = ranges.any (·.contains c) := by
  rw [Bool.eq_iff_iff, any_contains_iff, any_contains_iff, covers_normalize]

end CharRange

instance : LawfulSymbolSet CharClass where
  contains_union s t c := by
    have hany := CharRange.any_normalize (s.ranges ++ t.ranges) c
    rw [List.any_append] at hany
    exact hany
  hasEnd_union _ _ := rfl

/-! ## Token kinds -/

namespace TokenClass

/-- A sorted list with a name inserted holds the name and what was there. -/
theorem mem_insertName_iff {name n : String} {names : List String} :
    n ∈ insertName name names ↔ n = name ∨ n ∈ names := by
  refine ⟨mem_insertName, ?_⟩
  induction names with
  | nil => simp [insertName]
  | cons m rest ih =>
    intro h
    rw [insertName]
    split
    · exact List.mem_cons.mpr h
    · split
      · rcases h with rfl | h
        · exact List.mem_cons_of_mem _ (ih (Or.inl rfl))
        · rcases List.mem_cons.mp h with rfl | h
          · exact List.mem_cons_self
          · exact List.mem_cons_of_mem _ (ih (Or.inr h))
      · rename_i hlt hgt
        have hsame : name = m := String.le_antisymm (String.not_lt.mp hgt) (String.not_lt.mp hlt)
        rcases h with rfl | h
        · exact hsame ▸ List.mem_cons_self
        · exact h

/-- Inserting names one by one adds them all. -/
theorem mem_foldr_insert {added : List String} {s : TokenClass} {n : String} :
    n ∈ (added.foldr insert s).names ↔ n ∈ added ∨ n ∈ s.names := by
  induction added with
  | nil => simp
  | cons name rest ih =>
    have hinsert : n ∈ (List.foldr insert s (name :: rest)).names ↔
        n = name ∨ n ∈ (rest.foldr insert s).names := mem_insertName_iff
    rw [hinsert, ih, List.mem_cons, or_assoc]

end TokenClass

instance : LawfulSymbolSet TokenClass where
  contains_union s t name := by
    have hmem : name ∈ (TokenClass.union s t).names ↔ name ∈ t.names ∨ name ∈ s.names :=
      TokenClass.mem_foldr_insert
    rw [Bool.eq_iff_iff, Bool.or_eq_true]
    change (TokenClass.union s t).contains name = true ↔
      s.contains name = true ∨ t.contains name = true
    simp only [TokenClass.contains, List.contains_iff_mem]
    rw [hmem, or_comm]
  hasEnd_union _ _ := rfl

end GrammarTree
