import Mathlib.Order.Bounds.Defs
import GrammarTree.Text.Excerpt

/-!
# Excerpts cut at boundaries

An excerpt is found by offsets: the two ends of the span are checked, and from places that are
`width` bytes away from them the nearest boundaries are sought byte by byte.  Here a boundary is
told by splitting the text instead, without a look at its bytes.

The searches stay within the text because both of its ends are boundaries.  A character that is
cut through at one end of the context is shown whole; it stands for the bytes of it that were
wanted, so that there are never more than `width` characters.

Main results:

- Definition `IsBoundary`: a text can be split at an offset.
- Theorems `exists_boundaryBelow?` and `exists_boundaryAbove?`: the searches find the nearest
  boundaries.
- Theorem `slice?_eq_some_iff`: the text between two offsets.
- Theorem `excerpt?_eq_some`: where the parts of an excerpt stand.
- Theorem `excerpt_cuts_at_boundaries`: when there is an excerpt, and what it shows.
-/

namespace GrammarTree.Text

/-! ## Boundaries -/

/-- A text can be split after a number of bytes. -/
def IsBoundary (source : String) (offset : Nat) : Prop :=
  ∃ lead rest : String, source = lead ++ rest ∧ lead.utf8ByteSize = offset

variable {source : String} {offset start stop : Nat}

/-- The test of a single byte tells boundaries. -/
theorem isBoundary_iff : isBoundary source offset = true ↔ IsBoundary source offset := by
  rw [isBoundary, String.Pos.Raw.isValid_eq_true_iff, String.Pos.Raw.isValid_iff_exists_append]
  simp only [String.Pos.Raw.ext_iff, String.byteIdx_rawEndPos, IsBoundary, eq_comm]

/-- A text starts at a boundary. -/
theorem isBoundary_zero (source : String) : IsBoundary source 0 :=
  ⟨"", source, by simp, by simp⟩

/-- A text ends at a boundary. -/
theorem isBoundary_utf8ByteSize (source : String) : IsBoundary source source.utf8ByteSize :=
  ⟨source, "", by simp, rfl⟩

/-- No boundary lies behind the end. -/
theorem IsBoundary.le_utf8ByteSize (h : IsBoundary source offset) :
    offset ≤ source.utf8ByteSize := by
  obtain ⟨lead, rest, rfl, rfl⟩ := h
  rw [String.utf8ByteSize_append]
  exact Nat.le_add_right _ _

/-- Going back from any offset the search finds the nearest boundary. -/
theorem exists_boundaryBelow? (source : String) (offset : Nat) :
    ∃ b, boundaryBelow? source offset = some b ∧
      IsGreatest {b | IsBoundary source b ∧ b ≤ offset} b := by
  induction offset with
  | zero =>
    have hzero := isBoundary_zero source
    refine ⟨0, ?_, ⟨hzero, Nat.le_refl 0⟩, fun b hb => hb.2⟩
    rw [boundaryBelow?, if_pos (isBoundary_iff.mpr hzero)]
  | succ offset ih =>
    rw [boundaryBelow?]
    by_cases hhere : IsBoundary source (offset + 1)
    · rw [if_pos (isBoundary_iff.mpr hhere)]
      exact ⟨offset + 1, rfl, ⟨hhere, Nat.le_refl _⟩, fun b hb => hb.2⟩
    · rw [if_neg (mt isBoundary_iff.mp hhere)]
      obtain ⟨b, hfound, ⟨hb, hle⟩, hgreatest⟩ := ih
      refine ⟨b, hfound, ⟨hb, Nat.le_succ_of_le hle⟩, ?_⟩
      rintro other ⟨hother, hle⟩
      apply hgreatest
      have hne : other ≠ offset + 1 := fun heq => hhere (heq ▸ hother)
      exact ⟨hother, Nat.le_of_lt_succ (Nat.lt_of_le_of_ne hle hne)⟩

/-- Going on from an offset within the text the search finds the nearest boundary. -/
theorem exists_boundaryAbove? (h : offset ≤ source.utf8ByteSize) :
    ∃ b, boundaryAbove? source offset = some b ∧
      IsLeast {b | IsBoundary source b ∧ offset ≤ b} b := by
  fun_induction boundaryAbove? source offset with
  | case1 offset hhere =>
    exact ⟨offset, rfl, ⟨isBoundary_iff.mp hhere, Nat.le_refl _⟩, fun b hb => hb.2⟩
  | case2 offset hhere hlt ih =>
    obtain ⟨b, hfound, ⟨hb, hle⟩, hleast⟩ := ih hlt
    refine ⟨b, hfound, ⟨hb, Nat.le_of_succ_le hle⟩, ?_⟩
    rintro other ⟨hother, hle⟩
    apply hleast
    have hne : offset ≠ other := fun heq => hhere (isBoundary_iff.mpr (heq ▸ hother))
    exact ⟨hother, Nat.lt_of_le_of_ne hle hne⟩
  | case3 offset hhere hend =>
    -- the end is a boundary, so the search cannot have come there
    have heq : offset = source.utf8ByteSize := Nat.le_antisymm h (Nat.le_of_not_lt hend)
    exact absurd (isBoundary_iff.mpr (heq ▸ isBoundary_utf8ByteSize source)) hhere

/-! ## Slices -/

/-- A position is found by its offset. -/
theorem pos?_eq_some_iff {p : source.Pos} :
    source.pos? ⟨offset⟩ = some p ↔ p.offset.byteIdx = offset := by
  constructor
  · intro h
    simp only [String.pos?, String.Slice.pos?, Option.map_eq_some_iff] at h
    obtain ⟨q, hq, rfl⟩ := h
    split at hq
    · cases hq
      rfl
    · cases hq
  · rintro rfl
    have hvalid : String.Pos.Raw.isValidForSlice source.toSlice p.offset = true :=
      String.Pos.Raw.isValidForSlice_eq_true_iff.mpr p.isValid.toSlice
    simp only [String.pos?, String.Slice.pos?, dif_pos hvalid]
    rfl

/-- The text between two offsets is what stands there between two other stretches. -/
theorem slice?_eq_some_iff {text : String} :
    slice? source start stop = some text ↔
      ∃ lead rest : String, source = lead ++ text ++ rest ∧ lead.utf8ByteSize = start ∧
        (lead ++ text).utf8ByteSize = stop := by
  have hslice {first last : source.Pos} :
      (∃ slice, source.slice? first last = some slice ∧ slice.copy = text) ↔
        ∃ h, (source.slice first last h).copy = text := by
    simp only [String.slice?]
    split <;> simp_all
  simp only [slice?, Option.bind_eq_bind, Option.bind_eq_some_iff, Option.pure_def,
    Option.some_inj, hslice, pos?_eq_some_iff, String.copy_slice_eq_iff_splits]
  constructor
  · rintro ⟨first, rfl, last, rfl, lead, rest, hfirst, hlast⟩
    refine ⟨lead, rest, hlast.eq_append, ?_, ?_⟩
    · rw [hfirst.offset_eq_rawEndPos, String.byteIdx_rawEndPos]
    · rw [hlast.offset_eq_rawEndPos, String.byteIdx_rawEndPos]
  · rintro ⟨lead, rest, hsource, rfl, rfl⟩
    have hfirst : source = lead ++ (text ++ rest) := by rw [hsource, String.append_assoc]
    exact ⟨.ofEqAppend hfirst, rfl, .ofEqAppend hsource, rfl, lead, rest,
      String.Pos.splits_ofEqAppend hfirst, String.Pos.splits_ofEqAppend hsource⟩

/-- A text is split in one way at an offset. -/
theorem append_inj_of_utf8ByteSize_eq {a b c d : String} (h : a ++ b = c ++ d)
    (hsize : a.utf8ByteSize = c.utf8ByteSize) : a = c ∧ b = d := by
  have hleft : (String.Pos.ofEqAppend rfl : (a ++ b).Pos).Splits a b :=
    String.Pos.splits_ofEqAppend rfl
  have hright : (String.Pos.ofEqAppend rfl : (a ++ b).Pos).Splits c d :=
    ⟨h, String.Pos.Raw.ext hsize⟩
  exact hleft.eq hright

/-- There is a text between any two boundaries in order. -/
theorem IsBoundary.exists_slice? (hstart : IsBoundary source start)
    (hstop : IsBoundary source stop) (hle : start ≤ stop) :
    ∃ text, slice? source start stop = some text := by
  obtain ⟨lead, rest, hsource, rfl⟩ := hstart
  obtain ⟨lead', rest', hsource', rfl⟩ := hstop
  have hsplit := String.Pos.splits_ofEqAppend hsource
  have hsplit' := String.Pos.splits_ofEqAppend hsource'
  obtain ⟨text, rfl, -⟩ := (hsplit.le_iff_exists_eq_append hsplit').mp hle
  exact ⟨text, slice?_eq_some_iff.mpr ⟨lead, rest', hsource', rfl, rfl⟩⟩

/-! ## Characters and bytes -/

/-- A character has at least one byte. -/
theorem length_le_utf8ByteSize (text : String) : text.length ≤ text.utf8ByteSize := by
  induction text using String.push_induction with
  | empty => simp
  | push b c ih =>
    have hc := c.utf8Size_pos
    rw [String.length_push, String.utf8ByteSize_push]
    omega

/-- From the last boundary that is at least `width` bytes back there are at most `width`
characters: behind the first one there are fewer bytes than that. -/
theorem length_le_of_isGreatest {lead text rest : String} {width : Nat}
    (hsource : source = lead ++ text ++ rest) (hstart : (lead ++ text).utf8ByteSize = start)
    (h : IsGreatest {b | IsBoundary source b ∧ b ≤ start - width} lead.utf8ByteSize) :
    text.length ≤ width := by
  subst hsource hstart
  obtain ⟨chars, rfl⟩ := text.exists_eq_ofList
  cases chars with
  | nil => simp
  | cons c chars =>
    rw [String.ofList_cons] at h ⊢
    have hc := c.utf8Size_pos
    have hchars := length_le_utf8ByteSize (String.ofList chars)
    have hsecond : IsBoundary (lead ++ (String.singleton c ++ String.ofList chars) ++ rest)
        (lead ++ String.singleton c).utf8ByteSize :=
      ⟨_, String.ofList chars ++ rest, by simp only [String.append_assoc], rfl⟩
    have hbeyond : ¬ (lead ++ String.singleton c).utf8ByteSize ≤
        (lead ++ (String.singleton c ++ String.ofList chars)).utf8ByteSize - width := by
      intro hle
      have hback := h.2 ⟨hsecond, hle⟩
      simp only [String.utf8ByteSize_append, String.utf8ByteSize_singleton] at hback
      omega
    simp only [String.utf8ByteSize_append, String.utf8ByteSize_singleton] at hbeyond
    rw [String.length_append, String.length_singleton]
    omega

/-- Up to the first boundary that is at least `width` bytes on there are at most `width`
characters: in front of the last one there are fewer bytes than that. -/
theorem length_le_of_isLeast {lead text rest : String} {width : Nat}
    (hsource : source = lead ++ text ++ rest) (hstop : lead.utf8ByteSize = stop)
    (h : IsLeast {b | IsBoundary source b ∧ min (stop + width) source.utf8ByteSize ≤ b}
      (lead ++ text).utf8ByteSize) : text.length ≤ width := by
  subst hsource hstop
  cases text using String.push_induction with
  | empty => simp
  | push text c =>
    rw [← String.append_singleton] at h ⊢
    have hc := c.utf8Size_pos
    have htext := length_le_utf8ByteSize text
    have hlast : IsBoundary (lead ++ (text ++ String.singleton c) ++ rest)
        (lead ++ text).utf8ByteSize :=
      ⟨_, String.singleton c ++ rest, by simp only [String.append_assoc], rfl⟩
    have hshort : ¬ min (lead.utf8ByteSize + width)
        (lead ++ (text ++ String.singleton c) ++ rest).utf8ByteSize ≤
          (lead ++ text).utf8ByteSize := by
      intro hle
      have hon := h.2 ⟨hlast, hle⟩
      simp only [String.utf8ByteSize_append, String.utf8ByteSize_singleton] at hon
      omega
    simp only [String.utf8ByteSize_append, String.utf8ByteSize_singleton] at hshort
    rw [String.length_append, String.length_singleton]
    omega

/-! ## Excerpts -/

variable {span : Span} {width : Nat}

/-- The parts of an excerpt stand side by side, the marked one from one end of the span to the
other, and reach to where the two searches end. -/
theorem excerpt?_eq_some {x : Excerpt} (h : excerpt? source span width = some x) :
    ∃ lead trail : String, source = lead ++ x.before ++ x.marked ++ x.after ++ trail ∧
      (lead ++ x.before).utf8ByteSize = span.start ∧
      (lead ++ x.before ++ x.marked).utf8ByteSize = span.stop ∧
      boundaryBelow? source (span.start - width) = some lead.utf8ByteSize ∧
      boundaryAbove? source (min (span.stop + width) source.utf8ByteSize) =
        some (lead ++ x.before ++ x.marked ++ x.after).utf8ByteSize := by
  unfold excerpt? at h
  split at h
  · simp only [Option.bind_eq_bind, Option.bind_eq_some_iff, Option.pure_def,
      Option.some_inj] at h
    obtain ⟨first, hfirst, last, hlast, before, hbefore, marked, hmarked, after, hafter, rfl⟩ := h
    obtain ⟨lead, rest, hsource, rfl, hstart⟩ := slice?_eq_some_iff.mp hbefore
    obtain ⟨lead₁, rest₁, hsource₁, hstart₁, hstop⟩ := slice?_eq_some_iff.mp hmarked
    obtain ⟨lead₂, trail, hsource₂, hstop₂, rfl⟩ := slice?_eq_some_iff.mp hafter
    -- a slice starts where the one before it stops
    obtain ⟨rfl, -⟩ : lead ++ before = lead₁ ∧ rest = marked ++ rest₁ := by
      apply append_inj_of_utf8ByteSize_eq
      · rw [← hsource, hsource₁, String.append_assoc]
      · rw [hstart, hstart₁]
    obtain ⟨rfl, -⟩ : lead ++ before ++ marked = lead₂ ∧ rest₁ = after ++ trail := by
      apply append_inj_of_utf8ByteSize_eq
      · rw [← hsource₁, hsource₂, String.append_assoc]
      · rw [hstop, hstop₂]
    exact ⟨lead, trail, hsource₂, hstart, hstop, hfirst, hlast⟩
  · cases h

/-- There is an excerpt of spans between boundaries only. -/
theorem span_of_excerpt? {x : Excerpt} (h : excerpt? source span width = some x) :
    span.start ≤ span.stop ∧ span.stop ≤ source.utf8ByteSize ∧
      IsBoundary source span.start ∧ IsBoundary source span.stop := by
  obtain ⟨lead, trail, hsource, hstart, hstop, -, -⟩ := excerpt?_eq_some h
  have hbegin : IsBoundary source span.start :=
    ⟨_, x.marked ++ x.after ++ trail, by simpa only [String.append_assoc] using hsource, hstart⟩
  have hend : IsBoundary source span.stop :=
    ⟨_, x.after ++ trail, by simpa only [String.append_assoc] using hsource, hstop⟩
  refine ⟨?_, hend.le_utf8ByteSize, hbegin, hend⟩
  rw [← hstart, ← hstop, String.utf8ByteSize_append (t := x.marked)]
  exact Nat.le_add_right _ _

/-- There is an excerpt of every span between boundaries. -/
theorem exists_excerpt? (hle : span.start ≤ span.stop) (hstart : IsBoundary source span.start)
    (hstop : IsBoundary source span.stop) (width : Nat) :
    ∃ x, excerpt? source span width = some x := by
  have hend := hstop.le_utf8ByteSize
  obtain ⟨first, hfirst, ⟨hfirst', hback⟩, -⟩ :=
    exists_boundaryBelow? source (span.start - width)
  obtain ⟨last, hlast, ⟨hlast', hon⟩, -⟩ :=
    exists_boundaryAbove? (Nat.min_le_right (span.stop + width) source.utf8ByteSize)
  obtain ⟨before, hbefore⟩ := hfirst'.exists_slice? hstart (by omega)
  obtain ⟨marked, hmarked⟩ := hstart.exists_slice? hstop hle
  obtain ⟨after, hafter⟩ := hstop.exists_slice? hlast' (by omega)
  refine ⟨⟨before, marked, after⟩, ?_⟩
  rw [excerpt?, if_pos ⟨hle, hend⟩, hfirst, hlast]
  simp only [Option.bind_eq_bind, Option.bind_some, hbefore, hmarked, hafter, Option.pure_def]

/-- Both searches come to an end before they leave the text.  There is an excerpt exactly if the
span is in order and within the text and both of its ends are boundaries.  Its parts stand side
by side in the text, and the marked one is what the span marks.  The first one starts at the
last boundary that is at least `width` bytes in front of the span, or at the start of the text;
the last one stops at the first boundary that is at least `width` bytes behind the span, or at
the end of the text.  Neither has more than `width` characters. -/
theorem excerpt_cuts_at_boundaries (source : String) (span : Span) (width : Nat) :
    ((boundaryBelow? source (span.start - width)).isSome = true ∧
        (boundaryAbove? source (min (span.stop + width) source.utf8ByteSize)).isSome = true) ∧
      ((excerpt? source span width).isSome = true ↔
        span.start ≤ span.stop ∧ span.stop ≤ source.utf8ByteSize ∧
          IsBoundary source span.start ∧ IsBoundary source span.stop) ∧
      ∀ x, excerpt? source span width = some x →
        ∃ lead trail : String, source = lead ++ x.before ++ x.marked ++ x.after ++ trail ∧
          (lead ++ x.before).utf8ByteSize = span.start ∧
          (lead ++ x.before ++ x.marked).utf8ByteSize = span.stop ∧
          IsGreatest {b | IsBoundary source b ∧ b ≤ span.start - width} lead.utf8ByteSize ∧
          IsLeast {b | IsBoundary source b ∧ min (span.stop + width) source.utf8ByteSize ≤ b}
            (lead ++ x.before ++ x.marked ++ x.after).utf8ByteSize ∧
          x.before.length ≤ width ∧ x.after.length ≤ width := by
  obtain ⟨first, hfirst, hgreatest⟩ := exists_boundaryBelow? source (span.start - width)
  obtain ⟨last, hlast, hleast⟩ :=
    exists_boundaryAbove? (Nat.min_le_right (span.stop + width) source.utf8ByteSize)
  refine ⟨?_, ?_, ?_⟩
  · rw [hfirst, hlast]
    exact ⟨rfl, rfl⟩
  · rw [Option.isSome_iff_exists]
    constructor
    · rintro ⟨x, hx⟩
      exact span_of_excerpt? hx
    · rintro ⟨hle, -, hstart, hstop⟩
      exact exists_excerpt? hle hstart hstop width
  · intro x hx
    obtain ⟨lead, trail, hsource, hstart, hstop, hbelow, habove⟩ := excerpt?_eq_some hx
    rw [hfirst, Option.some_inj] at hbelow
    rw [hlast, Option.some_inj] at habove
    subst hbelow habove
    have hrest : source = lead ++ x.before ++ (x.marked ++ x.after ++ trail) := by
      simpa only [String.append_assoc] using hsource
    exact ⟨lead, trail, hsource, hstart, hstop, hgreatest, hleast,
      length_le_of_isGreatest hrest hstart hgreatest,
      length_le_of_isLeast hsource hstop hleast⟩

/-- One byte of context on either side would cut `é` and the last character apart: both are
shown whole. -/
theorem excerpt_cuts_at_boundaries_wide :
    excerpt? "aéß😀" ⟨3, 5⟩ 1 = some ⟨"é", "ß", "😀"⟩ ∧
      ∃ lead trail : String, "aéß😀" = lead ++ "é" ++ "ß" ++ "😀" ++ trail ∧
        (lead ++ "é").utf8ByteSize = 3 ∧ (lead ++ "é" ++ "ß").utf8ByteSize = 5 ∧
        IsGreatest {b | IsBoundary "aéß😀" b ∧ b ≤ 3 - 1} lead.utf8ByteSize ∧
        IsLeast {b | IsBoundary "aéß😀" b ∧ min (5 + 1) "aéß😀".utf8ByteSize ≤ b}
          (lead ++ "é" ++ "ß" ++ "😀").utf8ByteSize ∧
        "é".length ≤ 1 ∧ "😀".length ≤ 1 := by
  have h : excerpt? "aéß😀" ⟨3, 5⟩ 1 = some ⟨"é", "ß", "😀"⟩ := by decide +kernel
  have hparts := (excerpt_cuts_at_boundaries "aéß😀" ⟨3, 5⟩ 1).2.2 _ h
  dsimp only at hparts
  exact ⟨h, hparts⟩

end GrammarTree.Text
