import GrammarTree.Expr.Assertion

/-!
# Placeholders in user code

User code is searched for each placeholder from left to right, and the search goes on behind
what it found.  It looks at what follows only then, so an occurrence that was found and turned
down, such as the start of a longer name, uses up its characters.

For words in general this misses occurrences: the search for `aa` in `aaa` finds the first one
and not the second, which overlaps it.  The first character of a placeholder does not come
again in it, so that occurrences of it never overlap.

Main results:

- Theorem `exists_gap_of_occurrences`: occurrences of a word whose first character does not
  come again do not overlap.
- Theorem `mem_behindEach_iff`: the search finds all occurrences of such a word.
- Theorem `mentionsPlaceholder_iff_split`: when user code mentions a placeholder.
-/

namespace GrammarTree

/-- If the first character of a word does not come again in it, an occurrence that starts later
than another one starts behind the end of it. -/
theorem exists_gap_of_occurrences {first : Char} {others lead rest tail : List Char}
    (hfirst : first ∉ others)
    (h : first :: others ++ rest = lead ++ (first :: others ++ tail)) (hlead : lead ≠ []) :
    ∃ gap, lead = first :: others ++ gap := by
  rcases List.append_eq_append_iff.mp h with ⟨gap, hgap, -⟩ | ⟨overlap, hword, hrest⟩
  · exact ⟨gap, hgap⟩
  · cases overlap with
    | nil => exact ⟨[], by simpa using hword.symm⟩
    | cons x overlap =>
      -- the later occurrence starts with `x`, inside of the earlier one
      exfalso
      obtain ⟨y, lead, rfl⟩ := List.exists_cons_of_ne_nil hlead
      have hx : first = x := (List.cons.inj hrest).1
      have hothers : others = lead ++ x :: overlap := (List.cons.inj hword).2
      apply hfirst
      rw [hothers, hx]
      simp

/-- What stands behind a word at the start of a text. -/
theorem drop_of_isPrefixOf {first c : Char} {others rest : List Char}
    (h : (first :: others).isPrefixOf (c :: rest) = true) :
    c :: rest = first :: others ++ rest.drop others.length := by
  obtain ⟨behind, hbehind⟩ := List.isPrefixOf_iff_prefix.mp h
  obtain ⟨rfl, rfl⟩ := List.cons.inj hbehind
  simp

/-- The search finds an occurrence of a word wherever there is one, if the first character of
the word does not come again in it. -/
theorem mem_behindEach_iff {first : Char} {others : List Char} (hfirst : first ∉ others)
    {text behind : List Char} :
    behind ∈ behindEach (first :: others) text ↔
      ∃ lead, text = lead ++ (first :: others ++ behind) := by
  fun_induction behindEach (first :: others) text with
  | case1 => simp
  | case2 c rest hfound next ih =>
    have htext : c :: rest = first :: others ++ next := drop_of_isPrefixOf hfound
    rw [List.mem_cons, ih]
    constructor
    · rintro (rfl | ⟨lead, hnext⟩)
      · exact ⟨[], htext⟩
      · exact ⟨first :: others ++ lead, by rw [htext, hnext, List.append_assoc]⟩
    · rintro ⟨lead, hlead⟩
      rw [htext] at hlead
      by_cases hnil : lead = []
      · rw [hnil, List.nil_append] at hlead
        exact Or.inl (List.append_cancel_left hlead).symm
      · -- what the search jumped over holds no other occurrence
        obtain ⟨gap, rfl⟩ := exists_gap_of_occurrences hfirst hlead hnil
        rw [List.append_assoc] at hlead
        exact Or.inr ⟨gap, List.append_cancel_left hlead⟩
  | case3 c rest hfound ih =>
    rw [ih]
    constructor
    · rintro ⟨lead, rfl⟩
      exact ⟨c :: lead, rfl⟩
    · rintro ⟨lead, hlead⟩
      cases lead with
      | nil =>
        apply absurd _ hfound
        rw [List.isPrefixOf_iff_prefix, hlead]
        exact List.prefix_append _ _
      | cons x lead => exact ⟨lead, (List.cons.inj hlead).2⟩

/-- The search for a word that overlaps itself can miss an occurrence. -/
example : behindEach ['a', 'a'] ['a', 'a', 'a'] = [['a']] := by decide +kernel

/-- A name ends in front of a text that is empty or starts with a character that is neither
alphanumeric nor an underscore. -/
theorem endsName_iff {text : String} :
    endsName text.toList = true ↔
      text = "" ∨ ∃ c rest, text.toList = c :: rest ∧ Text.isAlphanumeric c = false ∧ c ≠ '_' := by
  rw [← String.toList_eq_nil_iff]
  cases text.toList with
  | nil => simp [endsName]
  | cons c rest => simp [endsName, isNameChar]

/-- There are two placeholders. -/
theorem mem_placeholders_iff {word : String} :
    word ∈ placeholders ↔ word = "$LI" ∨ word = "$LA" := by
  simp [placeholders]

/-- The first character of a placeholder does not come again in it. -/
theorem exists_first_of_placeholder {word : String} (h : word ∈ placeholders) :
    ∃ first others, word.toList = first :: others ∧ first ∉ others := by
  rcases mem_placeholders_iff.mp h with rfl | rfl
  · exact ⟨'$', ['L', 'I'], rfl, by decide⟩
  · exact ⟨'$', ['L', 'A'], rfl, by decide⟩

/-- The search finds a placeholder wherever user code can be split around it. -/
theorem mem_behindEach_placeholder_iff {word : String} (h : word ∈ placeholders)
    {code tail : String} :
    tail.toList ∈ behindEach word.toList code.toList ↔
      ∃ lead : String, code = lead ++ word ++ tail := by
  obtain ⟨first, others, hword, hfirst⟩ := exists_first_of_placeholder h
  rw [hword, mem_behindEach_iff hfirst, ← hword]
  constructor
  · rintro ⟨lead, hlead⟩
    refine ⟨String.ofList lead, String.toList_injective ?_⟩
    simpa using hlead
  · rintro ⟨lead, rfl⟩
    exact ⟨lead.toList, by simp⟩

/-- User code mentions a placeholder exactly if it can be split around one that is not the start
of a longer name, whatever comes in front of it. -/
theorem mentionsPlaceholder_iff_split (code : String) :
    mentionsPlaceholder code = true ↔
      ∃ lead word tail : String, code = lead ++ word ++ tail ∧ (word = "$LI" ∨ word = "$LA") ∧
        (tail = "" ∨
          ∃ c rest, tail.toList = c :: rest ∧ Text.isAlphanumeric c = false ∧ c ≠ '_') := by
  simp only [mentionsPlaceholder, List.any_eq_true]
  constructor
  · rintro ⟨word, hword, behind, hbehind, hends⟩
    obtain ⟨tail, rfl⟩ : ∃ tail : String, tail.toList = behind :=
      ⟨String.ofList behind, String.toList_ofList⟩
    obtain ⟨lead, hlead⟩ := (mem_behindEach_placeholder_iff hword).mp hbehind
    exact ⟨lead, word, tail, hlead, mem_placeholders_iff.mp hword, endsName_iff.mp hends⟩
  · rintro ⟨lead, word, tail, hcode, hword, hends⟩
    have hmem : word ∈ placeholders := mem_placeholders_iff.mpr hword
    refine ⟨word, hmem, tail.toList, ?_, endsName_iff.mpr hends⟩
    exact (mem_behindEach_placeholder_iff hmem).mpr ⟨lead, hcode⟩

end GrammarTree
