import GrammarTree.Choice.Printer
import GrammarTree.Proofs.Ledger

/-!
# Printed groups

A choice is printed as a flat row of arms, and the parentheses are found again in
its ledger.  The row is the same text that printing the join tree of the arms
gives, where a side of a `/` stands between parentheses if it is joined by `|`.

Main results:

- Definition `JoinTree.text`: the text of a join tree of names.
- Theorem `JoinTree.groupsFrom_seamsFrom`: the groups found in the ledger of a tree
  are the groups of the tree.
- Theorem `Choice.renderRow_eq_row`: the arms of a choice are printed as a row with the
  marks that its ledger gives.
- Theorem `Records.renderRow_eq_text`: a choice prints the text of the tree behind
  its ledger.
-/

namespace GrammarTree

/-! ## Finding a group -/

namespace Seam

variable {count : Nat} {before after : List Seam} {lo hi : Int} {groups : List (Int × Int)}

/-- A single arm is no group. -/
theorem addGroup_of_narrow (h : hi - lo < 2) :
    addGroup count before after lo hi groups = groups := by
  unfold addGroup
  rw [if_pos (by simp [h])]

/-- A new run of several arms is a group unless a `/` joined it. -/
theorem addGroup_of_joiner? {s : Seam} (hwide : 2 ≤ hi - lo) (hnew : (lo, hi) ∉ groups)
    (hjoiner : joiner? before after lo hi = some s) (hlo : 0 ≤ lo) (hhi : hi ≤ count) :
    addGroup count before after lo hi groups =
      if s.ordered then groups else (lo, hi) :: groups := by
  have hwide : ¬ hi - lo < 2 := by omega
  unfold addGroup
  rw [if_neg (by simp [hwide, hnew]), hjoiner]
  cases hs : s.ordered <;> simp [hs, hlo, hhi]

end Seam

/-! ## The text of a tree -/

/-- A piece of a printed expression. -/
inductive Token where
  | name (text : String)
  | bar
  | slash
  | opening
  | closing
deriving DecidableEq

/-- The text of a piece; operators stand between spaces. -/
def Token.spell : Token → String
  | name text => text
  | bar => " | "
  | slash => " / "
  | opening => "("
  | closing => ")"

/-- The text of a list of pieces. -/
def Token.spellAll (tokens : List Token) : String :=
  String.join (tokens.map spell)

@[simp] theorem Token.spellAll_append (a b : List Token) :
    spellAll (a ++ b) = spellAll a ++ spellAll b := by
  simp [spellAll]

@[simp] theorem Token.spellAll_cons (token : Token) (rest : List Token) :
    spellAll (token :: rest) = token.spell ++ spellAll rest := by
  simp [spellAll]

namespace JoinTree

variable {α : Type}

/-- Whether an expression is joined by `|` at its root. -/
def isBar : JoinTree α → Bool
  | leaf _ => false
  | join _ ordered _ _ => !ordered

/-- The pieces of a side of a `/`. -/
def grouped (isBar : Bool) (tokens : List Token) : List Token :=
  if isBar then .opening :: tokens ++ [.closing] else tokens

/-- The pieces of a printed expression.  As `/` binds tighter than `|`, only the
sides of a `/` can need parentheses. -/
def tokens : JoinTree String → List Token
  | leaf name => [.name name]
  | join _ true left right =>
    grouped left.isBar left.tokens ++ .slash :: grouped right.isBar right.tokens
  | join _ false left right => left.tokens ++ .bar :: right.tokens

/-- The text of an expression. -/
def text (t : JoinTree String) : String :=
  Token.spellAll t.tokens

/-- An operand is spelled as its name. -/
theorem text_leaf (name : String) : (leaf name).text = name := by
  simp [text, tokens, Token.spellAll, Token.spell]

/-- A side that is grouped is spelled between parentheses. -/
theorem spellAll_grouped (tokens : List Token) :
    Token.spellAll (grouped true tokens) = "(" ++ Token.spellAll tokens ++ ")" := by
  simp [grouped, Token.spellAll, Token.spell, String.append_assoc]

/-! ## The groups of a tree -/

/-- The run of a tree as a group, if it is joined by `|`. -/
def sideGroup (offset : Nat) (t : JoinTree α) : List (Int × Int) :=
  if t.isBar then [((offset : Int), (offset : Int) + t.size)] else []

/-- The groups of a tree whose first arm has the number `offset`. -/
def groupsFrom (offset : Nat) : JoinTree α → List (Int × Int)
  | leaf _ => []
  | join _ ordered left right =>
    (if ordered then right.sideGroup (offset + left.size) ++ left.sideGroup offset else []) ++
      (right.groupsFrom (offset + left.size) ++ left.groupsFrom offset)

/-- A group that a tree contributes is its own run. -/
theorem mem_sideGroup {t : JoinTree α} {offset : Nat} {g : Int × Int}
    (h : g ∈ t.sideGroup offset) : g = ((offset : Int), (offset : Int) + t.size) := by
  unfold sideGroup at h
  split at h
  · exact List.mem_singleton.mp h
  · cases h

/-- A group lies in the run of its tree and is smaller than the run. -/
theorem bounds_of_mem_groupsFrom {t : JoinTree α} {offset : Nat} {g : Int × Int}
    (h : g ∈ t.groupsFrom offset) :
    (offset : Int) ≤ g.1 ∧ g.1 < g.2 ∧ g.2 ≤ offset + t.size ∧ g.2 - g.1 < t.size := by
  induction t generalizing offset with
  | leaf operand => cases h
  | join location ordered left right ihl ihr =>
    have hl := left.size_pos
    have hr := right.size_pos
    rw [size_join]
    simp only [groupsFrom, List.mem_append] at h
    rcases h with h | h | h
    · split at h
      · rcases List.mem_append.mp h with h | h
        · rw [mem_sideGroup h]
          simp only
          omega
        · rw [mem_sideGroup h]
          simp only
          omega
      · cases h
    · have := ihr h
      omega
    · have := ihl h
      omega

/-- The groups that a side of a `/` contributes lie in its run. -/
theorem bounds_of_mem_side {t : JoinTree α} {offset : Nat} {g : Int × Int}
    (h : g ∈ t.sideGroup offset ++ t.groupsFrom offset) :
    (offset : Int) ≤ g.1 ∧ g.1 < g.2 ∧ g.2 ≤ offset + t.size := by
  have hpos := t.size_pos
  rcases List.mem_append.mp h with h | h
  · rw [mem_sideGroup h]
    simp only
    omega
  · have := bounds_of_mem_groupsFrom h
    omega

/-- The seam of the root comes last in the ledger of a tree. -/
theorem reverse_seamsFrom_join (location : Location) (ordered : Bool) (left right : JoinTree α)
    (offset : Nat) :
    ∃ rest, ((join location ordered left right).seamsFrom offset).reverse =
      ⟨offset, offset + left.size, offset + left.size + right.size, ordered⟩ :: rest := by
  refine ⟨(left.seamsFrom offset ++ right.seamsFrom (offset + left.size)).reverse, ?_⟩
  rw [seamsFrom, List.reverse_append]
  rfl

/-- A side of a `/` adds its run as a group if it is joined by `|`.  The seam that
joined the side is the nearest one with its run. -/
theorem addGroup_side (t : JoinTree α) {offset : Nat} (count : Nat)
    (nearer before after : List Seam) {groups : List (Int × Int)}
    (hnearer : ∀ s ∈ nearer, ¬ s.spans offset (offset + t.size) = true)
    (hcount : offset + t.size ≤ count)
    (hnew : ((offset : Int), (offset : Int) + t.size) ∉ groups) :
    Seam.addGroup count (nearer ++ ((t.seamsFrom offset).reverse ++ before)) after offset
        (offset + t.size) groups =
      t.sideGroup offset ++ groups := by
  have hfits : (offset : Int) + t.size ≤ count := by omega
  cases t with
  | leaf operand =>
    apply Seam.addGroup_of_narrow
    rw [size_leaf]
    omega
  | join location ordered left right =>
    have hl := left.size_pos
    have hr := right.size_pos
    rcases reverse_seamsFrom_join location ordered left right offset with ⟨rest, hrest⟩
    have hroot : Seam.spans (offset : Int)
        ((offset : Int) + (join location ordered left right).size)
        ⟨offset, offset + left.size, offset + left.size + right.size, ordered⟩ = true := by
      simp [Seam.spans, Int.add_assoc]
    have hjoiner : Seam.joiner?
        (nearer ++ (((join location ordered left right).seamsFrom offset).reverse ++ before)) after
        offset (offset + (join location ordered left right).size) =
        some ⟨offset, offset + left.size, offset + left.size + right.size, ordered⟩ := by
      rw [Seam.joiner?, List.find?_append, List.find?_eq_none.mpr hnearer, hrest,
        List.cons_append, List.find?_cons_of_pos hroot]
      rfl
    rw [Seam.addGroup_of_joiner? (by rw [size_join]; omega) hnew hjoiner (by omega) hfits]
    cases ordered with
    | true => rfl
    | false => rfl

/-- The groups that are found in the ledger of a tree are the groups of the tree.
Groups found before lie in front of it. -/
theorem groupsFrom_seamsFrom (t : JoinTree α) {offset count : Nat} {before after : List Seam}
    {groups : List (Int × Int)} (hcount : offset + t.size ≤ count)
    (hgroups : ∀ g ∈ groups, g.2 ≤ offset ∧ g.1 < g.2) :
    Seam.groupsFrom count before (t.seamsFrom offset ++ after) groups =
      Seam.groupsFrom count ((t.seamsFrom offset).reverse ++ before) after
        (t.groupsFrom offset ++ groups) := by
  induction t generalizing offset before after groups with
  | leaf operand => rfl
  | join location ordered left right ihl ihr =>
    have hl := left.size_pos
    have hr := right.size_pos
    rw [size_join] at hcount
    -- the seams of the left side, then those of the right side, then the root
    have hleft : ∀ g ∈ left.groupsFrom offset ++ groups,
        g.2 ≤ ((offset + left.size : Nat) : Int) ∧ g.1 < g.2 := by
      intro g hg
      rcases List.mem_append.mp hg with hg | hg
      · have := bounds_of_mem_groupsFrom hg
        omega
      · have := hgroups g hg
        omega
    rw [seamsFrom, List.append_assoc, List.append_assoc, ihl (by omega) hgroups,
      ihr (by omega) hleft, List.singleton_append, Seam.groupsFrom, List.reverse_append,
      List.reverse_append, List.append_assoc, List.append_assoc, List.reverse_singleton,
      List.singleton_append, groupsFrom]
    cases ordered with
    | false => simp
    | true =>
      have hnearer : ∀ s ∈ (right.seamsFrom (offset + left.size)).reverse,
          ¬ s.spans offset (offset + left.size) = true := by
        intro s hs hspans
        have hbounds := bounds_of_mem_seamsFrom (List.mem_reverse.mp hs)
        simp only [Seam.spans, Bool.and_eq_true, beq_iff_eq] at hspans
        omega
      have hnewLeft : ((offset : Int), (offset : Int) + left.size) ∉
          right.groupsFrom (offset + left.size) ++ (left.groupsFrom offset ++ groups) := by
        intro hmem
        simp only [List.mem_append] at hmem
        rcases hmem with hmem | hmem | hmem
        · have := bounds_of_mem_groupsFrom hmem
          omega
        · have := bounds_of_mem_groupsFrom hmem
          omega
        · have := hgroups _ hmem
          omega
      have hnewRight : (((offset + left.size : Nat) : Int),
          ((offset + left.size : Nat) : Int) + right.size) ∉ left.sideGroup offset ++
            (right.groupsFrom (offset + left.size) ++ (left.groupsFrom offset ++ groups)) := by
        intro hmem
        rw [List.mem_append, List.mem_append] at hmem
        rcases hmem with hmem | hmem | hmem
        · have heq := mem_sideGroup hmem
          simp only [Prod.mk.injEq] at heq
          omega
        · have := bounds_of_mem_groupsFrom hmem
          omega
        · have := hleft _ hmem
          omega
      have haddLeft := left.addGroup_side count _ before after hnearer (by omega) hnewLeft
      have haddRight := right.addGroup_side count [] ((left.seamsFrom offset).reverse ++ before)
        after (by simp) (by omega) hnewRight
      simp only [List.nil_append, Int.natCast_add] at haddRight
      simp only [if_true, haddLeft, haddRight, List.append_assoc]

end JoinTree

/-! ## Counting parentheses -/

/-- Counting on top of a table adds the number of occurrences. -/
theorem getElem?_foldl_modify (numbers : List Nat) (table : Array Nat) (i : Nat) :
    (numbers.foldl (fun table i => table.modify i (· + 1)) table)[i]? =
      table[i]?.map (· + numbers.count i) := by
  induction numbers generalizing table with
  | nil => simp
  | cons n rest ih =>
    rw [List.foldl_cons, ih, Array.getElem?_modify, List.count_cons]
    by_cases h : n = i
    · subst h
      simp [Nat.add_comm, Nat.add_left_comm, Function.comp_def]
    · simp [h]

/-- A tally counts how often a number below its bound occurs. -/
theorem getD_tally {count i : Nat} (numbers : List Nat) (h : i < count) :
    (tally count numbers).getD i 0 = numbers.count i := by
  rw [tally, Array.getD_eq_getD_getElem?, getElem?_foldl_modify]
  simp [h]

/-- One character more in front. -/
theorem repeated_succ (n : Nat) (c : Char) :
    Choice.repeated (n + 1) c = String.singleton c ++ Choice.repeated n c := by
  rw [Choice.repeated, List.replicate_succ, String.ofList_cons, Choice.repeated]

/-- One character more behind. -/
theorem repeated_succ' (n : Nat) (c : Char) :
    Choice.repeated (n + 1) c = Choice.repeated n c ++ String.singleton c := by
  rw [Choice.repeated, List.replicate_succ', String.ofList_append, Choice.repeated]
  rfl

/-! ## Rows of arms -/

/-- What stands around the arms of a row: whether a `/` stands in front of an arm,
and how many groups open and close at it. -/
structure RowMarks where
  slash : Nat → Bool
  opens : Nat → Nat
  closes : Nat → Nat

namespace RowMarks

/-- An arm with the parentheses around it. -/
def arm (m : RowMarks) (index : Nat) (text : String) : String :=
  Choice.repeated (m.opens index) '(' ++ text ++ Choice.repeated (m.closes index) ')'

/-- The operator in front of an arm. -/
def separator (m : RowMarks) (index : Nat) : String :=
  if m.slash index then " / " else " | "

/-- The arms from a number on, each behind its operator. -/
def rest (m : RowMarks) : Nat → List String → String
  | _, [] => ""
  | index, text :: more => m.separator index ++ m.arm index text ++ m.rest (index + 1) more

/-- A row of arms; no operator stands in front of the first one. -/
def row (m : RowMarks) (index : Nat) : List String → String
  | [] => ""
  | text :: more => m.arm index text ++ m.rest (index + 1) more

/-- The marks of arms from `lo` to `hi` are the same. -/
def AgreeOn (m m' : RowMarks) (lo hi : Nat) : Prop :=
  ∀ k, lo ≤ k → k < hi →
    m.slash k = m'.slash k ∧ m.opens k = m'.opens k ∧ m.closes k = m'.closes k

variable {m m' : RowMarks}

/-- The rest of a row depends on the marks of its arms only. -/
theorem AgreeOn.rest_eq {index : Nat} {texts : List String}
    (h : m.AgreeOn m' index (index + texts.length)) : m.rest index texts = m'.rest index texts := by
  induction texts generalizing index with
  | nil => rfl
  | cons text more ih =>
    rw [List.length_cons] at h
    rcases h index (by omega) (by omega) with ⟨hslash, hopens, hcloses⟩
    have hmore : m.AgreeOn m' (index + 1) (index + 1 + more.length) :=
      fun k hlo hhi => h k (by omega) (by omega)
    rw [rest, rest, ih hmore, separator, separator, arm, arm, hslash, hopens, hcloses]

/-- A row depends on the marks of its arms only. -/
theorem AgreeOn.row_eq {index : Nat} {texts : List String}
    (h : m.AgreeOn m' index (index + texts.length)) : m.row index texts = m'.row index texts := by
  cases texts with
  | nil => rfl
  | cons text more =>
    rw [List.length_cons] at h
    rcases h index (by omega) (by omega) with ⟨-, hopens, hcloses⟩
    have hmore : m.AgreeOn m' (index + 1) (index + 1 + more.length) :=
      fun k hlo hhi => h k (by omega) (by omega)
    rw [row, row, hmore.rest_eq, arm, arm, hopens, hcloses]

/-- The rest of a row can be cut anywhere. -/
theorem rest_append (m : RowMarks) (index : Nat) (front back : List String) :
    m.rest index (front ++ back) = m.rest index front ++ m.rest (index + front.length) back := by
  induction front generalizing index with
  | nil => simp [rest]
  | cons text more ih =>
    rw [List.cons_append, rest, rest, ih, List.length_cons, String.append_assoc,
      Nat.add_assoc, Nat.add_comm 1]
    simp only [String.append_assoc]

/-- The rest of a row is an operator and a row. -/
theorem rest_eq_row (m : RowMarks) (index : Nat) {texts : List String} (h : texts ≠ []) :
    m.rest index texts = m.separator index ++ m.row index texts := by
  cases texts with
  | nil => cases h rfl
  | cons text more => rw [rest, row, String.append_assoc]

/-- Two rows side by side have an operator between them. -/
theorem row_append (m : RowMarks) (index : Nat) {front back : List String} (hfront : front ≠ [])
    (hback : back ≠ []) :
    m.row index (front ++ back) =
      m.row index front ++ m.separator (index + front.length) ++
        m.row (index + front.length) back := by
  cases front with
  | nil => cases hfront rfl
  | cons text more =>
    rw [List.cons_append, row, row, rest_append, rest_eq_row m _ hback, List.length_cons,
      Nat.add_assoc, Nat.add_comm 1]
    simp only [String.append_assoc]

/-- One more group that opens at the first arm puts a parenthesis in front. -/
theorem row_opening {index : Nat} {texts : List String} (htexts : texts ≠ [])
    (hfirst : m'.opens index = m.opens index + 1) (hcloses : m'.closes index = m.closes index)
    (hmore : m'.AgreeOn m (index + 1) (index + texts.length)) :
    m'.row index texts = "(" ++ m.row index texts := by
  cases texts with
  | nil => cases htexts rfl
  | cons text more =>
    rw [List.length_cons] at hmore
    have hrest : m'.rest (index + 1) more = m.rest (index + 1) more :=
      AgreeOn.rest_eq fun k hlo hhi => hmore k hlo (by omega)
    rw [row, row, arm, arm, hfirst, hcloses, hrest, repeated_succ]
    simp only [String.append_assoc]
    rfl

/-- One more group that closes at the last arm puts a parenthesis behind the rest of
a row. -/
theorem rest_closing {index : Nat} {texts : List String} (htexts : texts ≠ [])
    (hmarks : ∀ k, m'.slash k = m.slash k ∧ m'.opens k = m.opens k)
    (hcloses : ∀ k, index ≤ k → k + 1 < index + texts.length → m'.closes k = m.closes k)
    (hlast : ∀ k, k + 1 = index + texts.length → m'.closes k = m.closes k + 1) :
    m'.rest index texts = m.rest index texts ++ ")" := by
  induction texts generalizing index with
  | nil => cases htexts rfl
  | cons text more ih =>
    rw [List.length_cons] at hcloses hlast
    rw [rest, rest, separator, separator, arm, arm, (hmarks index).1, (hmarks index).2]
    cases hmore : more with
    | nil =>
      rw [hlast index (by rw [hmore]; rfl), repeated_succ']
      simp only [rest, String.append_assoc, String.append_empty]
      rfl
    | cons next others =>
      have hne : more ≠ [] := by simp [hmore]
      have hpos := List.length_pos_of_ne_nil hne
      rw [← hmore, ih hne (fun k hlo hhi => hcloses k (by omega) (by omega))
        (fun k hk => hlast k (by omega)), hcloses index (by omega) (by omega)]
      simp only [String.append_assoc]

/-- One more group that closes at the last arm puts a parenthesis behind a row. -/
theorem row_closing {index : Nat} {texts : List String} (htexts : texts ≠ [])
    (hmarks : ∀ k, m'.slash k = m.slash k ∧ m'.opens k = m.opens k)
    (hcloses : ∀ k, index ≤ k → k + 1 < index + texts.length → m'.closes k = m.closes k)
    (hlast : ∀ k, k + 1 = index + texts.length → m'.closes k = m.closes k + 1) :
    m'.row index texts = m.row index texts ++ ")" := by
  have hrest := rest_closing htexts hmarks hcloses hlast
  rw [rest_eq_row m' index htexts, rest_eq_row m index htexts, separator, separator,
    (hmarks index).1, String.append_assoc] at hrest
  exact (String.append_right_inj _).mp hrest

/-! ### Rows with groups -/

/-- The marks of a row with the given groups. -/
def ofGroups (slash : Nat → Bool) (groups : List (Int × Int)) : RowMarks where
  slash := slash
  opens i := (groups.map fun g => g.1.toNat).count i
  closes i := (groups.map fun g => g.2.toNat - 1).count i

/-- A group around a whole row puts it between parentheses. -/
theorem row_ofGroups_cons (slash : Nat → Bool) (groups : List (Int × Int)) (index : Nat)
    {texts : List String} (htexts : texts ≠ []) :
    (ofGroups slash (((index : Int), (index : Int) + texts.length) :: groups)).row index texts =
      "(" ++ (ofGroups slash groups).row index texts ++ ")" := by
  have hpos := List.length_pos_of_ne_nil htexts
  have hlo : ((index : Int)).toNat = index := Int.toNat_natCast index
  have hhi : ((index : Int) + texts.length).toNat - 1 = index + texts.length - 1 := by omega
  -- first the parenthesis in front, then the one behind
  let opened : RowMarks :=
    { ofGroups slash groups with
      opens := (ofGroups slash (((index : Int), (index : Int) + texts.length) :: groups)).opens }
  have hopened : opened.row index texts = "(" ++ (ofGroups slash groups).row index texts := by
    apply row_opening htexts
    · simp [opened, ofGroups]
    · rfl
    · intro k hk _
      have hne : index ≠ k := by omega
      simp [opened, ofGroups, List.count_cons, hne]
  rw [← hopened]
  apply row_closing htexts
  · intro k
    exact ⟨rfl, rfl⟩
  · intro k _ hk
    have hne : index + texts.length - 1 ≠ k := by omega
    simp [opened, ofGroups, hhi, List.count_cons, hne]
  · intro k hk
    have heq : index + texts.length - 1 = k := by omega
    simp [opened, ofGroups, hhi, List.count_cons, heq]

/-- Groups beside a row do not show in it. -/
theorem ofGroups_agreeOn (slash : Nat → Bool) {all others groups : List (Int × Int)}
    {lo hi : Nat} (hperm : all.Perm (others ++ groups))
    (h : ∀ g ∈ others, 0 ≤ g.1 ∧ g.1 < g.2 ∧ (g.2 ≤ lo ∨ (hi : Int) ≤ g.1)) :
    (ofGroups slash all).AgreeOn (ofGroups slash groups) lo hi := by
  intro k hlo hhi
  refine ⟨rfl, ?_, ?_⟩
  · have hzero : (others.map fun g => g.1.toNat).count k = 0 := by
      rw [List.count_eq_zero]
      intro hk
      rcases List.mem_map.mp hk with ⟨g, hg, hgk⟩
      have := h g hg
      omega
    simp only [ofGroups]
    rw [(hperm.map _).count_eq, List.map_append, List.count_append, hzero, Nat.zero_add]
  · have hzero : (others.map fun g => g.2.toNat - 1).count k = 0 := by
      rw [List.count_eq_zero]
      intro hk
      rcases List.mem_map.mp hk with ⟨g, hg, hgk⟩
      have := h g hg
      omega
    simp only [ofGroups]
    rw [(hperm.map _).count_eq, List.map_append, List.count_append, hzero, Nat.zero_add]

end RowMarks

namespace JoinTree

/-- An expression has operands. -/
theorem leaves_ne_nil {α : Type} (t : JoinTree α) : t.leaves ≠ [] :=
  List.ne_nil_of_length_pos t.size_pos

/-- The groups of a neighbour do not show in the row of a tree. -/
theorem row_beside (t u : JoinTree String) (place : Nat) {slash : Nat → Bool} {offset : Nat}
    {all others groups : List (Int × Int)} (hperm : all.Perm (others ++ groups))
    (hothers : others ⊆ u.sideGroup place ++ u.groupsFrom place)
    (hbeside : offset + t.size ≤ place ∨ place + u.size ≤ offset) :
    (RowMarks.ofGroups slash all).row offset t.leaves =
      (RowMarks.ofGroups slash groups).row offset t.leaves := by
  apply RowMarks.AgreeOn.row_eq
  apply RowMarks.ofGroups_agreeOn slash hperm
  intro g hg
  have hbounds := bounds_of_mem_side (hothers hg)
  have hsize : t.leaves.length = t.size := rfl
  omega

/-- A side of a `/` stands between parentheses if it is joined by `|`. -/
theorem row_side {t : JoinTree String} {slash : Nat → Bool} {offset : Nat}
    (h : (RowMarks.ofGroups slash (t.groupsFrom offset)).row offset t.leaves = t.text) :
    (RowMarks.ofGroups slash (t.sideGroup offset ++ t.groupsFrom offset)).row offset t.leaves =
      Token.spellAll (grouped t.isBar t.tokens) := by
  unfold sideGroup
  cases t.isBar with
  | false => exact h
  | true =>
    have hrow := RowMarks.row_ofGroups_cons slash (t.groupsFrom offset) offset t.leaves_ne_nil
    rw [if_pos rfl, List.singleton_append, size, hrow, h, spellAll_grouped, text]

/-- The row of the arms of a tree, with the groups of the tree, is the text of the
tree. -/
theorem row_groupsFrom_eq_text (t : JoinTree String) (slash : Nat → Bool) (offset : Nat)
    (hslash : ∀ s ∈ t.seamsFrom offset, slash s.mid.toNat = s.ordered) :
    (RowMarks.ofGroups slash (t.groupsFrom offset)).row offset t.leaves = t.text := by
  induction t generalizing offset with
  | leaf name =>
    simp [leaves, groupsFrom, RowMarks.row, RowMarks.rest, RowMarks.arm, RowMarks.ofGroups,
      text_leaf, Choice.repeated]
  | join location ordered left right ihl ihr =>
    have hl := ihl offset fun s hs => hslash s (by simp [seamsFrom, hs])
    have hr := ihr (offset + left.size) fun s hs => hslash s (by simp [seamsFrom, hs])
    have hroot : slash (offset + left.size) = ordered := by
      have hmid : ((offset : Int) + left.size).toNat = offset + left.size := by omega
      rw [← hmid]
      exact hslash _ (List.mem_append_right _ (List.mem_singleton_self _))
    have hseparator (groups : List (Int × Int)) :
        (RowMarks.ofGroups slash groups).separator (offset + left.size) =
          if ordered then " / " else " | " := by
      rw [← hroot]
      rfl
    rw [leaves, RowMarks.row_append _ _ left.leaves_ne_nil right.leaves_ne_nil]
    change _ ++ RowMarks.separator _ (offset + left.size) ++
      RowMarks.row _ (offset + left.size) right.leaves = _
    rw [hseparator]
    cases ordered with
    | false =>
      have hperm : (groupsFrom offset (join location false left right)).Perm
          (right.groupsFrom (offset + left.size) ++ left.groupsFrom offset) :=
        List.Perm.refl _
      rw [left.row_beside right (offset + left.size) hperm (List.subset_append_right _ _)
          (by omega), hl,
        right.row_beside left offset (hperm.trans List.perm_append_comm)
          (List.subset_append_right _ _) (by omega), hr]
      simp [text, tokens, Token.spell, String.append_assoc]
    | true =>
      have hperm : (groupsFrom offset (join location true left right)).Perm
          ((right.sideGroup (offset + left.size) ++ right.groupsFrom (offset + left.size)) ++
            (left.sideGroup offset ++ left.groupsFrom offset)) := by
        rw [List.perm_iff_count]
        intro g
        simp only [groupsFrom, if_true, List.count_append]
        omega
      rw [left.row_beside right (offset + left.size) hperm (List.Subset.refl _) (by omega),
        row_side hl,
        right.row_beside left offset (hperm.trans List.perm_append_comm) (List.Subset.refl _)
          (by omega), row_side hr]
      simp [text, tokens, Token.spell, String.append_assoc]

end JoinTree

/-! ## Printed choices -/

namespace Choice

variable {c : Choice String}

/-- The marks in the row of a choice. -/
def rowMarks {α : Type} (c : Choice α) : RowMarks :=
  RowMarks.ofGroups
    (fun i => decide (0 < ((c.seams.filter fun s => s.ordered && 0 ≤ s.mid).map
      fun s => s.mid.toNat).count i))
    c.groups

/-- What stands in front of an arm: the mark of the default, if the arm is that. -/
def defaultMark {α : Type} (c : Choice α) (index : Nat) : String :=
  if c.defaultArm = some (.arm index) then "default " else ""

/-- The arms with the mark of the default. -/
def markedArms (c : Choice String) : List String :=
  c.arms.zipIdx.map fun (text, index) => c.defaultMark index ++ text

/-- Without a default no arm is marked. -/
theorem markedArms_of_no_default (h : c.defaultArm = none) : c.markedArms = c.arms := by
  simp [markedArms, defaultMark, h]

/-- The arms behind the first one, each with the operator in front of it. -/
theorem join_renderArm_eq_rest (c : Choice String) (texts : List String) {index : Nat}
    (hpos : 0 < index) (hcount : index + texts.length ≤ c.arms.length) :
    String.join ((texts.zipIdx index).map fun (text, index) =>
        c.renderArm
          (tally c.arms.length
            ((c.seams.filter fun s => s.ordered && 0 ≤ s.mid).map fun s => s.mid.toNat))
          (tally c.arms.length (c.groups.map fun g => g.1.toNat))
          (tally c.arms.length (c.groups.map fun g => g.2.toNat - 1)) index text) =
      c.rowMarks.rest index
        ((texts.zipIdx index).map fun (text, index) => c.defaultMark index ++ text) := by
  induction texts generalizing index with
  | nil => rfl
  | cons text more ih =>
    rw [List.length_cons] at hcount
    have hindex : index < c.arms.length := by omega
    have hne : index ≠ 0 := by omega
    rw [List.zipIdx_cons, List.map_cons, String.join_cons, ih (by omega) (by omega)]
    simp only [renderArm, getD_tally _ hindex, if_neg hne]
    simp [-List.count_pos_iff, RowMarks.rest, RowMarks.separator, RowMarks.arm, rowMarks,
      RowMarks.ofGroups, defaultMark, String.append_assoc]

/-- The arms of a choice are printed as a row with its marks. -/
theorem renderRow_eq_row (c : Choice String) : c.renderRow = c.rowMarks.row 0 c.markedArms := by
  unfold renderRow markedArms
  cases harms : c.arms with
  | nil => rfl
  | cons text more =>
    have hfirst : 0 < c.arms.length := by simp [harms]
    have hmore := c.join_renderArm_eq_rest more Nat.one_pos (by simp [harms]; omega)
    rw [harms] at hmore hfirst
    simp only [List.zipIdx_cons, List.map_cons, String.join_cons]
    rw [hmore, renderArm, getD_tally _ hfirst, getD_tally _ hfirst, getD_tally _ hfirst]
    simp [RowMarks.row, RowMarks.arm, rowMarks, RowMarks.ofGroups, defaultMark,
      String.append_assoc]

end Choice

/-- A `/` stands in front of the second side of each `/` of the tree, and nowhere
else. -/
theorem JoinTree.count_slash {α : Type} (t : JoinTree α) {s : Seam} (hs : s ∈ t.seamsFrom 0) :
    decide (0 < (((t.seamsFrom 0).filter fun s => s.ordered && 0 ≤ s.mid).map
      fun s => s.mid.toNat).count s.mid.toNat) = s.ordered := by
  have hbounds := bounds_of_mem_seamsFrom hs
  -- no other seam has the same second side
  have hone : (t.seamsFrom 0).countP (fun u => u.mid = (s.mid.toNat : Int)) = 1 :=
    t.countP_mid_eq_one (by omega) (by omega)
  rw [List.countP_eq_length_filter, List.length_eq_one_iff] at hone
  rcases hone with ⟨only, honly⟩
  have hunique (u : Seam) (hu : u ∈ t.seamsFrom 0) (hmid : u.mid.toNat = s.mid.toNat) :
      u = only := by
    have hbounds := bounds_of_mem_seamsFrom hu
    rw [← List.mem_singleton, ← honly, List.mem_filter, decide_eq_true_eq]
    exact ⟨hu, by omega⟩
  rw [Bool.eq_iff_iff, decide_eq_true_eq, List.count_pos_iff, List.mem_map]
  constructor
  · rintro ⟨u, hu, hmid⟩
    rw [List.mem_filter, Bool.and_eq_true] at hu
    rw [hunique s hs rfl, ← hunique u hu.1 hmid]
    exact hu.2.1
  · intro hordered
    refine ⟨s, List.mem_filter.mpr ⟨hs, ?_⟩, rfl⟩
    rw [hordered, Bool.true_and, decide_eq_true_eq]
    omega

namespace Records

variable {c : Choice String} {t : JoinTree String}

/-- A choice without a default is printed as the tree behind its ledger. -/
theorem renderRow_eq_text (h : Records c.arms c.seams (some t)) (hsize : t.size ≤ 32767)
    (hdefault : c.defaultArm = none) : c.renderRow = t.text := by
  have hseams : c.seams = t.seamsFrom 0 := by
    rw [h.seams_eq]
    exact JoinTree.ledger_eq_seamsFrom hsize
  have harms : c.arms = t.leaves := h.arms_eq
  have hgroups : c.groups = t.groupsFrom 0 := by
    have hfound : Seam.groupsFrom c.arms.length [] (t.seamsFrom 0 ++ []) [] =
        Seam.groupsFrom c.arms.length ((t.seamsFrom 0).reverse ++ []) [] (t.groupsFrom 0 ++ []) :=
      t.groupsFrom_seamsFrom (by simp [harms, JoinTree.size]) (by simp)
    simpa [Choice.groups, hseams, Seam.groupsFrom] using hfound
  rw [Choice.renderRow_eq_row, Choice.markedArms_of_no_default hdefault, Choice.rowMarks, hgroups,
    hseams, harms]
  apply JoinTree.row_groupsFrom_eq_text
  intro s hs
  exact t.count_slash hs

end Records

end GrammarTree
