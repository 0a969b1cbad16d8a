import Mathlib.Data.List.Basic
import GrammarTree.Expr.Basic
import GrammarTree.Proofs.SymbolLaws

/-!
# Character classes as sets

A class keeps its characters as a list of ranges.  Of all lists of ranges that cover the
same code points exactly one is separated, so a class does not show how it was built:
inserting its ranges one by one and sweeping over them after sorting give the same list,
and the laws of sets hold for unions as equations between classes.

Code points are not characters: those from U+D800 to U+DFFF stand for none.  A range that
runs over them and two ranges on either side of them can hold the same characters, and
such classes are different.

Main results:

- Theorem `CharRange.Separated.ext`: a separated list is determined by the code points
  that it covers.
- Theorem `CharRange.normalize_eq_sweep`: sorting and one sweep give the normal form.
- Theorem `CharClass.has_normal_form_and_set_laws`: normal form and members of a class,
  and the laws of unions.
- Theorem `CharClass.equal_exactly_if_alike`: when two classes are equal, and when a
  follow set grows.
- Theorem `CharClass.same_members_but_different`: two classes with the same members.
-/

namespace GrammarTree

/-! ## One separated list for each set of code points -/

namespace CharRange

variable {r s : CharRange} {ranges others : List CharRange} {n : Nat}

/-- A range is known by the code points of its bounds. -/
theorem eq_of_toNat_eq (hlo : r.lo.toNat = s.lo.toNat) (hhi : r.hi.toNat = s.hi.toNat) :
    r = s := by
  rcases r with ⟨lo, hi, _⟩
  rcases s with ⟨lo', hi', _⟩
  simp only [mk.injEq]
  exact ⟨Char.toNat_inj.mp hlo, Char.toNat_inj.mp hhi⟩

namespace Separated

/-- What the other ranges cover lies behind the first range, and not right behind it. -/
theorem lt_of_covers (h : Separated (r :: ranges)) (hn : Covers ranges n) :
    r.hi.toNat + 1 < n := by
  rcases hn with ⟨t, ht, hlo, -⟩
  have hbefore : r.Before t := (List.pairwise_cons.mp h).1 t ht
  exact Nat.lt_of_lt_of_le hbefore hlo

/-- Nothing in front of the first range is covered. -/
theorem lo_le_of_covers (h : Separated (r :: ranges)) (hn : Covers (r :: ranges) n) :
    r.lo.toNat ≤ n := by
  rcases covers_cons.mp hn with hr | hrest
  · exact hr.1
  · have hlt := h.lt_of_covers hrest
    have hr := r.ordered
    omega

/-- The first code point behind the first range is not covered. -/
theorem not_covers_succ (h : Separated (r :: ranges)) :
    ¬ Covers (r :: ranges) (r.hi.toNat + 1) := by
  rw [covers_cons]
  rintro (hr | hrest)
  · exact Nat.not_succ_le_self _ hr.2
  · exact Nat.lt_irrefl _ (h.lt_of_covers hrest)

/-- If all that `s :: others` covers is covered by `r :: ranges`, and both start at the same
place, then `s` ends no later than `r`. -/
theorem hi_le (h : Separated (r :: ranges)) (hlo : r.lo.toNat = s.lo.toNat)
    (hsub : ∀ n, Covers (s :: others) n → Covers (r :: ranges) n) :
    s.hi.toNat ≤ r.hi.toNat := by
  by_contra hlt
  have hr := r.ordered
  apply h.not_covers_succ
  apply hsub
  rw [covers_cons]
  left
  exact ⟨by omega, by omega⟩

/-- The other ranges cover what is covered behind the first range. -/
theorem covers_tail_iff (h : Separated (r :: ranges)) :
    Covers ranges n ↔ Covers (r :: ranges) n ∧ r.hi.toNat < n := by
  rw [covers_cons]
  constructor
  · intro hn
    exact ⟨Or.inr hn, Nat.lt_of_succ_lt (h.lt_of_covers hn)⟩
  · rintro ⟨hr | hrest, hlt⟩
    · exact absurd hr.2 (Nat.not_le.mpr hlt)
    · exact hrest

/-- Separated lists that cover the same code points are equal. -/
theorem ext (h : Separated ranges) (h' : Separated others)
    (hcovers : ∀ n, Covers ranges n ↔ Covers others n) : ranges = others := by
  induction ranges generalizing others with
  | nil =>
    cases others with
    | nil => rfl
    | cons s rest =>
      have hs : Covers [] s.lo.toNat := (hcovers _).mpr (by simp [Spans, s.ordered])
      exact absurd hs (not_covers_nil _)
  | cons r rest ih =>
    cases others with
    | nil =>
      have hr : Covers [] r.lo.toNat := (hcovers _).mp (by simp [Spans, r.ordered])
      exact absurd hr (not_covers_nil _)
    | cons s rest' =>
      -- both first ranges start at the least covered code point and end before the first gap
      have hlo : r.lo.toNat = s.lo.toNat := by
        apply Nat.le_antisymm
        · exact h.lo_le_of_covers ((hcovers _).mpr (by simp [Spans, s.ordered]))
        · exact h'.lo_le_of_covers ((hcovers _).mp (by simp [Spans, r.ordered]))
      have hhi : r.hi.toNat = s.hi.toNat := by
        apply Nat.le_antisymm
        · exact h'.hi_le hlo.symm fun n hn => (hcovers n).mp hn
        · exact h.hi_le hlo fun n hn => (hcovers n).mpr hn
      have hfirst : r = s := eq_of_toNat_eq hlo hhi
      subst hfirst
      have hrest : rest = rest' := by
        apply ih (List.pairwise_cons.mp h).2 (List.pairwise_cons.mp h').2
        intro n
        rw [h.covers_tail_iff, h'.covers_tail_iff, hcovers]
      rw [hrest]

end Separated

/-! ## Sorting and sweeping -/

/-- The range grown to the end of another one. -/
def grow (r s : CharRange) : CharRange where
  lo := r.lo
  hi := if r.hi.toNat < s.hi.toNat then s.hi else r.hi
  ordered := by
    have := r.ordered
    split <;> omega

/-- Sweep over sorted ranges: a range that touches the last one makes it grow, and any
other range is the last one from now on. -/
def sweepFrom (last : CharRange) : List CharRange → List CharRange
  | [] => [last]
  | next :: rest =>
    if next.lo.toNat ≤ last.hi.toNat + 1 then sweepFrom (last.grow next) rest
    else last :: sweepFrom next rest

/-- Join sorted ranges that overlap or touch in one sweep. -/
def sweep : List CharRange → List CharRange
  | [] => []
  | first :: rest => sweepFrom first rest

/-- Every range starts no earlier than the ones before it. -/
def Sorted (ranges : List CharRange) : Prop :=
  ranges.Pairwise fun r s => r.lo.toNat ≤ s.lo.toNat

/-- A range that grew to the end of one that touches it spans what both span. -/
theorem spans_grow (hlo : r.lo.toNat ≤ s.lo.toNat) (htouch : s.lo.toNat ≤ r.hi.toNat + 1) :
    (r.grow s).Spans n ↔ r.Spans n ∨ s.Spans n := by
  have hs := s.ordered
  have hhi : n ≤ (r.grow s).hi.toNat ↔ n ≤ r.hi.toNat ∨ n ≤ s.hi.toNat := by
    simp only [grow]
    split <;> omega
  have hstart : (r.grow s).lo.toNat = r.lo.toNat := rfl
  simp only [Spans, hhi, hstart]
  omega

/-- A grown range stands where it stood among sorted ranges. -/
theorem Sorted.grow (h : Sorted (r :: s :: ranges)) : Sorted (r.grow s :: ranges) := by
  have hr := (List.pairwise_cons.mp h).1
  have hrest := (List.pairwise_cons.mp (List.pairwise_cons.mp h).2).2
  exact List.pairwise_cons.mpr ⟨fun t ht => hr t (List.mem_cons_of_mem s ht), hrest⟩

/-- No range of a sweep starts before the first range. -/
theorem lo_le_of_mem_sweepFrom (h : Sorted (r :: ranges)) (hs : s ∈ sweepFrom r ranges) :
    r.lo.toNat ≤ s.lo.toNat := by
  induction ranges generalizing r with
  | nil => exact Nat.le_of_eq (congrArg (·.lo.toNat) (List.mem_singleton.mp hs)).symm
  | cons next rest ih =>
    have hnext : r.lo.toNat ≤ next.lo.toNat :=
      (List.pairwise_cons.mp h).1 next List.mem_cons_self
    rw [sweepFrom] at hs
    split at hs
    · have hgrown : (r.grow next).lo.toNat ≤ s.lo.toNat := ih h.grow hs
      exact hgrown
    · rcases List.mem_cons.mp hs with rfl | hs
      · exact Nat.le_refl _
      · exact Nat.le_trans hnext (ih (List.pairwise_cons.mp h).2 hs)

/-- A sweep over sorted ranges gives a separated list. -/
theorem separated_sweepFrom (h : Sorted (r :: ranges)) : Separated (sweepFrom r ranges) := by
  induction ranges generalizing r with
  | nil => exact List.pairwise_singleton _ _
  | cons next rest ih =>
    have htail : Sorted (next :: rest) := (List.pairwise_cons.mp h).2
    rw [sweepFrom]
    split
    · exact ih h.grow
    · rename_i hgap
      refine List.pairwise_cons.mpr ⟨?_, ih htail⟩
      intro s hs
      have hlo := lo_le_of_mem_sweepFrom htail hs
      simp only [Before]
      omega

/-- A sweep over sorted ranges covers what they cover. -/
theorem covers_sweepFrom (h : Sorted (r :: ranges)) :
    Covers (sweepFrom r ranges) n ↔ Covers (r :: ranges) n := by
  induction ranges generalizing r with
  | nil => exact Iff.rfl
  | cons next rest ih =>
    have hnext : r.lo.toNat ≤ next.lo.toNat :=
      (List.pairwise_cons.mp h).1 next List.mem_cons_self
    rw [sweepFrom]
    split
    · rename_i htouch
      rw [ih h.grow, covers_cons, covers_cons, covers_cons, spans_grow hnext htouch, or_assoc]
    · rw [covers_cons, covers_cons, ih (List.pairwise_cons.mp h).2]

/-- Sorting ranges in any way and sweeping over them once gives their normal form. -/
theorem normalize_eq_sweep (hperm : others.Perm ranges) (hsorted : Sorted others) :
    normalize ranges = sweep others := by
  have hsweep : Separated (sweep others) ∧ ∀ n, Covers (sweep others) n ↔ Covers others n := by
    cases others with
    | nil => exact ⟨List.Pairwise.nil, fun n => Iff.rfl⟩
    | cons first rest => exact ⟨separated_sweepFrom hsorted, fun n => covers_sweepFrom hsorted⟩
  apply (separated_normalize ranges).ext hsweep.1
  intro n
  rw [covers_normalize, hsweep.2]
  simp only [Covers, hperm.mem_iff]

/-! ## Normal form and laws -/

/-- The normal form of a list of ranges. -/
structure Normal (ranges : List CharRange) : Prop where
  /-- No range is reversed. -/
  forward : ∀ r ∈ ranges, r.lo.toNat ≤ r.hi.toNat
  /-- Ranges stand in strictly increasing order. -/
  increasing : ranges.Pairwise fun r s => r.lo.toNat < s.lo.toNat
  /-- No character lies in two ranges. -/
  disjoint : ranges.Pairwise fun r s => ∀ c, ¬ (r.contains c = true ∧ s.contains c = true)
  /-- A code point is missing between two ranges. -/
  apart : ranges.Pairwise fun r s => r.hi.toNat + 1 < s.lo.toNat

/-- A separated list is in normal form. -/
theorem Separated.normal (h : Separated ranges) : Normal ranges := by
  refine ⟨fun r _ => r.ordered, h.imp ?_, h.imp ?_, h⟩
  · intro r s hbefore
    have hr := r.ordered
    simp only [Before] at hbefore
    omega
  · intro r s hbefore c hboth
    simp only [contains, Bool.and_eq_true, decide_eq_true_eq] at hboth
    simp only [Before] at hbefore
    omega

end CharRange

namespace CharClass

open CharRange (Covers Spans Sorted sweep)

variable {s t u : CharClass}

/-- Classes that cover the same code points and agree on the end mark are equal. -/
theorem eq_of_covers_iff (hcovers : ∀ n, Covers s.ranges n ↔ Covers t.ranges n)
    (hend : s.hasEnd = t.hasEnd) : s = t := by
  rcases s with ⟨ranges, hs, hasEnd⟩
  rcases t with ⟨others, ht, hasEnd'⟩
  simp only [mk.injEq]
  exact ⟨hs.ext ht hcovers, hend⟩

/-- A union covers what its operands cover. -/
theorem covers_union {n : Nat} :
    Covers (s.union t).ranges n ↔ Covers s.ranges n ∨ Covers t.ranges n := by
  rw [← CharRange.covers_append]
  exact CharRange.covers_normalize _ n

/-- A character is a member if its code point is covered. -/
theorem contains_iff_covers {c : Char} : s.contains c = true ↔ Covers s.ranges c.toNat :=
  CharRange.any_contains_iff

theorem union_comm (s t : CharClass) : s.union t = t.union s := by
  apply eq_of_covers_iff
  · intro n
    rw [covers_union, covers_union, or_comm]
  · exact Bool.or_comm _ _

theorem union_assoc (s t u : CharClass) : (s.union t).union u = s.union (t.union u) := by
  apply eq_of_covers_iff
  · intro n
    rw [covers_union, covers_union, covers_union, covers_union, or_assoc]
  · exact Bool.or_assoc _ _ _

theorem union_self (s : CharClass) : s.union s = s := by
  apply eq_of_covers_iff
  · intro n
    rw [covers_union, or_self]
  · exact Bool.or_self _

theorem union_empty (s : CharClass) : s.union empty = s := by
  apply eq_of_covers_iff
  · intro n
    rw [covers_union]
    exact or_iff_left (CharRange.not_covers_nil n)
  · exact Bool.or_false _

/-- The code points of a class of pairs of bounds. -/
theorem covers_ofRanges {bounds : List (Char × Char)} {n : Nat} :
    Covers (ofRanges bounds).ranges n ↔
      ∃ b ∈ bounds, b.1.toNat ≤ b.2.toNat ∧ b.1.toNat ≤ n ∧ n ≤ b.2.toNat := by
  refine (CharRange.covers_normalize _ _).trans ?_
  simp only [Covers, List.mem_filterMap, CharRange.ofBounds?]
  constructor
  · rintro ⟨r, ⟨b, hb, hr⟩, hspans⟩
    split at hr
    · rename_i hordered
      cases hr
      exact ⟨b, hb, hordered, hspans⟩
    · cases hr
  · rintro ⟨b, hb, hordered, hspans⟩
    exact ⟨⟨b.1, b.2, hordered⟩, ⟨b, hb, dif_pos hordered⟩, hspans⟩

/-- The members of a class of pairs of bounds. -/
theorem contains_ofRanges {bounds : List (Char × Char)} {c : Char} :
    (ofRanges bounds).contains c = true ↔
      ∃ b ∈ bounds, b.1.toNat ≤ b.2.toNat ∧ b.1.toNat ≤ c.toNat ∧ c.toNat ≤ b.2.toNat :=
  contains_iff_covers.trans covers_ofRanges

/-- The members of a class of characters. -/
theorem contains_ofItems {items : List Char} {c : Char} :
    (ofItems items).contains c = true ↔ c ∈ items := by
  rw [contains_iff_covers]
  refine (CharRange.covers_normalize _ _).trans ?_
  simp only [Covers, List.mem_map]
  constructor
  · rintro ⟨r, ⟨d, hd, rfl⟩, hlo, hhi⟩
    have hdc : d.toNat = c.toNat := Nat.le_antisymm hlo hhi
    exact Char.toNat_inj.mp hdc ▸ hd
  · intro hc
    exact ⟨CharRange.single c, ⟨c, hc, rfl⟩, Nat.le_refl _, Nat.le_refl _⟩

/-- The class of any list of bounds is in normal form, whether its ranges are inserted one
by one or sorted and swept over, and its members lie between two bounds that are not
reversed.  A union is in normal form, too, and has the members of both classes; as
equations between classes unions are commutative, associative and idempotent, and the
class without members is neutral. -/
theorem has_normal_form_and_set_laws :
    (∀ bounds : List (Char × Char),
      CharRange.Normal (ofRanges bounds).ranges ∧
      (∀ sorted, sorted.Perm (bounds.filterMap fun b => CharRange.ofBounds? b.1 b.2) →
        Sorted sorted → (ofRanges bounds).ranges = sweep sorted) ∧
      ∀ c, (ofRanges bounds).contains c = true ↔
        ∃ b ∈ bounds, b.1.toNat ≤ b.2.toNat ∧ b.1.toNat ≤ c.toNat ∧ c.toNat ≤ b.2.toNat) ∧
    (∀ s t : CharClass,
      CharRange.Normal (s.union t).ranges ∧
      (∀ sorted, sorted.Perm (s.ranges ++ t.ranges) → Sorted sorted →
        (s.union t).ranges = sweep sorted) ∧
      (∀ c, (s.union t).contains c = (s.contains c || t.contains c)) ∧
      (s.union t).hasEnd = (s.hasEnd || t.hasEnd)) ∧
    (∀ s t : CharClass, s.union t = t.union s) ∧
    (∀ s t u : CharClass, (s.union t).union u = s.union (t.union u)) ∧
    (∀ s : CharClass, s.union s = s) ∧
    ∀ s : CharClass, s.union empty = s ∧ empty.union s = s := by
  refine ⟨?_, ?_, union_comm, union_assoc, union_self, ?_⟩
  · intro bounds
    refine ⟨(CharRange.separated_normalize _).normal, ?_, fun c => contains_ofRanges⟩
    intro sorted hperm hsorted
    exact CharRange.normalize_eq_sweep hperm hsorted
  · intro s t
    refine ⟨(CharRange.separated_normalize _).normal, ?_, LawfulSymbolSet.contains_union s t, rfl⟩
    intro sorted hperm hsorted
    exact CharRange.normalize_eq_sweep hperm hsorted
  · intro s
    exact ⟨union_empty s, (union_comm empty s).trans (union_empty s)⟩

/-- The bounds `x-x`, `z-y`, `c-d`, `a-b` and `b-b`: a reversed pair is left away, the
sweep joins what touches, and the class is `[a-dx]`. -/
theorem has_normal_form_and_set_laws_joined :
    let bounds := [('x', 'x'), ('z', 'y'), ('c', 'd'), ('a', 'b'), ('b', 'b')]
    let sorted : List CharRange :=
      [⟨'a', 'b', by decide⟩, .single 'b', ⟨'c', 'd', by decide⟩, .single 'x']
    sorted.Perm (bounds.filterMap fun b => CharRange.ofBounds? b.1 b.2) ∧ Sorted sorted ∧
      (ofRanges bounds).ranges = [⟨'a', 'd', by decide⟩, .single 'x'] := by
  intro bounds sorted
  have hperm : sorted.Perm (bounds.filterMap fun b => CharRange.ofBounds? b.1 b.2) := by decide
  have hsorted : Sorted sorted := by
    unfold Sorted
    decide
  refine ⟨hperm, hsorted, ?_⟩
  rw [(has_normal_form_and_set_laws.1 bounds).2.1 sorted hperm hsorted]
  decide

/-! ## When classes are equal -/

/-- Whether a range runs over the code points from U+D800 to U+DFFF, which stand for no
character. -/
def bridges (s : CharClass) : Bool :=
  s.ranges.any fun r => r.lo.toNat < 0xD800 && 0xDFFF < r.hi.toNat

/-- The code point of a character is not one of those that stand for none. -/
theorem toNat_valid (c : Char) : c.toNat < 0xD800 ∨ 0xDFFF < c.toNat ∧ c.toNat < 0x110000 :=
  c.valid

/-- A code point that stands for no character is covered if a range runs over all of
them. -/
theorem covers_iff_bridges {n : Nat} (hlo : 0xD800 ≤ n) (hhi : n ≤ 0xDFFF) :
    Covers s.ranges n ↔ s.bridges = true := by
  simp only [Covers, Spans, bridges, List.any_eq_true, Bool.and_eq_true, decide_eq_true_eq]
  constructor
  · rintro ⟨r, hr, hspans⟩
    have hrlo := toNat_valid r.lo
    have hrhi := toNat_valid r.hi
    exact ⟨r, hr, by omega, by omega⟩
  · rintro ⟨r, hr, hrlo, hrhi⟩
    exact ⟨r, hr, by omega, by omega⟩

/-- Nothing behind the last code point is covered. -/
theorem not_covers_of_le {n : Nat} (h : 0x110000 ≤ n) : ¬ Covers s.ranges n := by
  rintro ⟨r, -, -, hhi⟩
  have hrhi := toNat_valid r.hi
  omega

/-- Classes are equal exactly if they have the same members and run both or neither over
the code points that stand for no character. -/
theorem eq_iff_same_members (s t : CharClass) :
    s = t ↔ (∀ c, s.contains c = t.contains c) ∧ s.hasEnd = t.hasEnd ∧
      s.bridges = t.bridges := by
  constructor
  · rintro rfl
    exact ⟨fun c => rfl, rfl, rfl⟩
  · rintro ⟨hmembers, hend, hbridges⟩
    apply eq_of_covers_iff _ hend
    intro n
    by_cases hvalid : n.isValidChar
    · have hchar : ∃ c : Char, c.toNat = n := ⟨Char.ofNatAux n hvalid, rfl⟩
      rcases hchar with ⟨c, rfl⟩
      rw [← contains_iff_covers, ← contains_iff_covers, hmembers]
    · simp only [Nat.isValidChar, not_or, not_and, Nat.not_lt] at hvalid
      by_cases hgap : n ≤ 0xDFFF
      · rw [covers_iff_bridges hvalid.1 hgap, covers_iff_bridges hvalid.1 hgap, hbridges]
      · have hlast : 0x110000 ≤ n := hvalid.2 (Nat.not_le.mp hgap)
        exact iff_of_false (not_covers_of_le hlast) (not_covers_of_le hlast)

/-- A union runs over the code points that stand for no character if an operand does. -/
theorem bridges_union (s t : CharClass) :
    (s.union t).bridges = (s.bridges || t.bridges) := by
  rw [Bool.eq_iff_iff, Bool.or_eq_true,
    ← covers_iff_bridges (n := 0xD800) (by decide) (by decide),
    ← covers_iff_bridges (n := 0xD800) (by decide) (by decide),
    ← covers_iff_bridges (n := 0xD800) (by decide) (by decide), covers_union]

/-- A union is its first operand exactly if the second one adds nothing. -/
theorem union_eq_left_iff (s t : CharClass) :
    s.union t = s ↔ (∀ c, t.contains c = true → s.contains c = true) ∧
      (t.hasEnd = true → s.hasEnd = true) ∧ (t.bridges = true → s.bridges = true) := by
  have hcontains (c : Char) : (s.union t).contains c = (s.contains c || t.contains c) :=
    LawfulSymbolSet.contains_union s t c
  have hend : (s.union t).hasEnd = (s.hasEnd || t.hasEnd) := rfl
  rw [eq_iff_same_members, bridges_union, hend]
  simp only [hcontains, Bool.or_eq_left_iff_imp]

/-- Adding to a follow set answers "no" exactly if that leaves the set as it was. -/
theorem addFollow_eq (e : RuleEnd CharClass) (set : CharClass) :
    ((e.addFollow set).1 = false ↔ e.follow.union set = e.follow) ∧
      (e.addFollow set).2 = { e with follow := e.follow.union set } := by
  have hunion : SymbolSet.union e.follow set = e.follow.union set := rfl
  simp only [RuleEnd.addFollow, hunion]
  by_cases hsame : e.follow.union set = e.follow
  · rw [if_pos (beq_iff_eq.mpr hsame), hsame]
    exact ⟨iff_of_true rfl rfl, rfl⟩
  · rw [if_neg (mt beq_iff_eq.mp hsame)]
    exact ⟨iff_of_false Bool.noConfusion hsame, rfl⟩

/-- Two classes compare equal exactly if they have the same members and run both or neither
over the code points that stand for no character.  A follow set grows exactly if it is
given a new member or is the first time given a range over those code points; otherwise it
stays as it is. -/
theorem equal_exactly_if_alike (s t : CharClass) (e : RuleEnd CharClass) :
    ((s == t) = true ↔
      (∀ c, s.contains c = t.contains c) ∧ s.hasEnd = t.hasEnd ∧ s.bridges = t.bridges) ∧
    ((e.addFollow s).1 = true ↔
      (∃ c, s.contains c = true ∧ e.follow.contains c = false) ∨
        (s.hasEnd = true ∧ e.follow.hasEnd = false) ∨
        (s.bridges = true ∧ e.follow.bridges = false)) ∧
    (e.addFollow s).2 = { e with follow := e.follow.union s } ∧
    ((e.addFollow s).1 = false → (e.addFollow s).2 = e) := by
  rcases addFollow_eq e s with ⟨hsame, hresult⟩
  refine ⟨?_, ?_, hresult, ?_⟩
  · rw [beq_iff_eq, eq_iff_same_members]
  · rw [← Bool.not_eq_false, hsame, union_eq_left_iff]
    simp only [not_and_or, not_forall, Bool.not_eq_true, exists_prop]
  · intro hstays
    rw [hresult, hsame.mp hstays]

/-- The range from U+D7FF to U+E000 and the class of its two bounds have the same members,
for no other character lies between them.  They do not compare equal, and giving one to a
follow set that already holds the other counts as growth. -/
theorem same_members_but_different :
    let joined := ofRanges [('\uD7FF', '\uE000')]
    let split := ofItems ['\uD7FF', '\uE000']
    let follow : RuleEnd CharClass := ⟨⟨0⟩, split⟩
    (∀ c, joined.contains c = split.contains c) ∧ joined.hasEnd = split.hasEnd ∧
      (joined == split) = false ∧ (follow.addFollow joined).1 = true := by
  intro joined split follow
  have hmembers (c : Char) : joined.contains c = split.contains c := by
    have hlo : '\uD7FF'.toNat = 0xD7FF := rfl
    have hhi : '\uE000'.toNat = 0xE000 := rfl
    have hc := toNat_valid c
    rw [Bool.eq_iff_iff, contains_ofRanges, contains_ofItems]
    simp only [List.mem_cons, List.not_mem_nil, or_false, exists_eq_left, ← Char.toNat_inj,
      hlo, hhi]
    omega
  exact ⟨hmembers, by decide, by decide, by decide⟩

end CharClass

end GrammarTree
