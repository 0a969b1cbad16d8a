import GrammarTree.Proofs.Grouping

/-!
# Reading expressions

A reader for printed expressions over names, `|` and `/`.  A text is cut into
words and marks; then the tokens are read from left to right.  Parentheses group,
`/` binds tighter than `|`, and operators of one kind associate to the left.

Main results:

- Definition `JoinTree.read`: the expression that a text spells.
- Theorem `Token.lex_text`: the text of an expression is cut into the tokens it was
  spelled from.
- Theorem `JoinTree.read_text`: reading the text of an expression gives the
  expression back, up to associativity.
- Theorem `JoinTree.Reassociated.text_eq`: associativity does not show in the text.
-/

namespace GrammarTree

/-! ## Words and marks -/

namespace Token

/-- Whether a character ends a word. -/
def isDelimiter (c : Char) : Bool :=
  c == ' ' || c == '(' || c == ')' || c == '|' || c == '/'

/-- The token of a character that is no part of a word; a space is none. -/
def ofDelimiter? (c : Char) : Option Token :=
  if c = '(' then some opening
  else if c = ')' then some closing
  else if c = '|' then some bar
  else if c = '/' then some slash
  else none

/-- The token of the characters of a word, if there are any. -/
def ofWord? (word : List Char) : Option Token :=
  if word.isEmpty then none else some (name (String.ofList word))

/-- Cut a text into tokens; `word` holds the characters of the word at hand. -/
def lexFrom (word : List Char) : List Char → List Token
  | [] => (ofWord? word).toList
  | c :: rest =>
    if isDelimiter c then
      (ofWord? word).toList ++ (ofDelimiter? c).toList ++ lexFrom [] rest
    else lexFrom (word ++ [c]) rest

/-- The tokens of a text. -/
def lex (text : String) : List Token :=
  lexFrom [] text.toList

/-- A name that is read as one word. -/
def IsWord (name : String) : Prop :=
  name ≠ "" ∧ ∀ c ∈ name.toList, isDelimiter c = false

/-- Whether a text cannot go on with the word in front of it. -/
def EndsWord (rest : List Char) : Prop :=
  ∀ c ∈ rest.head?, isDelimiter c = true

/-- Characters that end no word are added to the word at hand. -/
theorem lexFrom_append {letters : List Char} (h : ∀ c ∈ letters, isDelimiter c = false)
    (word rest : List Char) : lexFrom word (letters ++ rest) = lexFrom (word ++ letters) rest := by
  induction letters generalizing word with
  | nil => simp
  | cons c more ih =>
    have hc : ¬ isDelimiter c = true := by simp [h c]
    rw [List.cons_append, lexFrom, if_neg hc, ih fun d hd => h d (List.mem_cons_of_mem c hd),
      List.append_assoc, List.singleton_append]

/-- A word is over where a character ends it. -/
theorem lexFrom_of_endsWord (word : List Char) {rest : List Char} (h : EndsWord rest) :
    lexFrom word rest = (ofWord? word).toList ++ lexFrom [] rest := by
  cases rest with
  | nil => simp [lexFrom, ofWord?]
  | cons c more =>
    have hc : isDelimiter c = true := h c rfl
    simp [lexFrom, hc, ofWord?]

/-- A name is read as one token. -/
theorem lexFrom_word {name : String} (hname : IsWord name) {rest : List Char}
    (hrest : EndsWord rest) :
    lexFrom [] (name.toList ++ rest) = Token.name name :: lexFrom [] rest := by
  have hne : name.toList.isEmpty = false := by simpa using hname.1
  rw [lexFrom_append hname.2, List.nil_append, lexFrom_of_endsWord _ hrest, ofWord?, hne]
  simp

end Token

namespace JoinTree

/-- The pieces of a side of a `/` are read one by one if those of the side itself
are. -/
theorem lexFrom_grouped {t : JoinTree String} {rest : List Char} (hrest : Token.EndsWord rest)
    (h : ∀ rest, Token.EndsWord rest →
      Token.lexFrom [] (t.text.toList ++ rest) = t.tokens ++ Token.lexFrom [] rest) :
    Token.lexFrom [] ((Token.spellAll (grouped t.isBar t.tokens)).toList ++ rest) =
      grouped t.isBar t.tokens ++ Token.lexFrom [] rest := by
  cases t.isBar with
  | false => exact h rest hrest
  | true =>
    have hclosing : Token.EndsWord (')' :: rest) := by simp [Token.EndsWord, Token.isDelimiter]
    have hinner := h (')' :: rest) hclosing
    simp only [text] at hinner
    rw [spellAll_grouped]
    simp [grouped, Token.lexFrom, Token.isDelimiter, Token.ofDelimiter?, Token.ofWord?, hinner]

/-- The text of an expression is read piece by piece. -/
theorem lexFrom_text {t : JoinTree String} (hwords : ∀ name ∈ t.leaves, Token.IsWord name)
    (rest : List Char) (hrest : Token.EndsWord rest) :
    Token.lexFrom [] (t.text.toList ++ rest) = t.tokens ++ Token.lexFrom [] rest := by
  induction t generalizing rest with
  | leaf name =>
    have hname := hwords name (by simp [leaves])
    rw [text_leaf]
    exact Token.lexFrom_word hname hrest
  | join location ordered left right ihl ihr =>
    have hl := ihl fun name hmem => hwords name (by simp [leaves, hmem])
    have hr := ihr fun name hmem => hwords name (by simp [leaves, hmem])
    have hspace (more : List Char) : Token.EndsWord (' ' :: more) := by
      simp [Token.EndsWord, Token.isDelimiter]
    cases ordered with
    | false =>
      have hleft := hl (' ' :: '|' :: ' ' :: (right.text.toList ++ rest)) (hspace _)
      simp only [text] at hleft hr
      simp [text, tokens, Token.spell, hleft, hr rest hrest, Token.lexFrom, Token.isDelimiter,
        Token.ofDelimiter?, Token.ofWord?]
    | true =>
      have hright := lexFrom_grouped hrest hr
      have hleft (more : List Char) := lexFrom_grouped (hspace more) hl
      simp [text, tokens, Token.spell, hleft, hright, Token.lexFrom, Token.isDelimiter,
        Token.ofDelimiter?, Token.ofWord?]

end JoinTree

/-- The text of an expression is cut into the tokens it was spelled from. -/
theorem Token.lex_text {t : JoinTree String} (hwords : ∀ name ∈ t.leaves, IsWord name) :
    lex t.text = t.tokens := by
  have h := JoinTree.lexFrom_text hwords [] (by simp [EndsWord])
  simpa [lex, lexFrom, ofWord?] using h

/-! ## The reader -/

/-- What stands in front of an operand inside one pair of parentheses: a part that
ends with `|`, then a part that ends with `/`. -/
structure ReaderFrame where
  bars : Option (JoinTree String) := none
  slashes : Option (JoinTree String) := none

namespace ReaderFrame

/-- Put an operand behind an operator and what stands in front of that. -/
def attach (ordered : Bool) : Option (JoinTree String) → JoinTree String → JoinTree String
  | none, operand => operand
  | some left, operand => .join none ordered left operand

/-- The whole expression in front of a closing parenthesis or the end. -/
def close (frame : ReaderFrame) (operand : JoinTree String) : JoinTree String :=
  attach false frame.bars (attach true frame.slashes operand)

end ReaderFrame

/-- A reader with the frames of the parentheses that are open, the innermost one
apart. -/
inductive Reader where
  /-- An operand has to follow. -/
  | waiting (outer : List ReaderFrame) (frame : ReaderFrame)
  /-- An operand was read. -/
  | holding (outer : List ReaderFrame) (frame : ReaderFrame) (operand : JoinTree String)

namespace Reader

/-- Read one token.  A `/` takes the operand at once, a `|` first ends the part
that is joined by `/`. -/
def step : Reader → Token → Option Reader
  | waiting outer frame, .name text => some (holding outer frame (.leaf text))
  | waiting outer frame, .opening => some (waiting (frame :: outer) {})
  | holding outer frame operand, .slash =>
    some (waiting outer ⟨frame.bars, some (ReaderFrame.attach true frame.slashes operand)⟩)
  | holding outer frame operand, .bar => some (waiting outer ⟨some (frame.close operand), none⟩)
  | holding (frame' :: outer) frame operand, .closing =>
    some (holding outer frame' (frame.close operand))
  | _, _ => none

/-- Read a list of tokens. -/
def run (r : Reader) (tokens : List Token) : Option Reader :=
  tokens.foldlM step r

/-- The expression that was read, if no parenthesis is open. -/
def result? : Reader → Option (JoinTree String)
  | holding [] frame operand => some (frame.close operand)
  | _ => none

/-- Reading goes on where it stopped. -/
theorem run_append (r : Reader) (front back : List Token) :
    r.run (front ++ back) = (r.run front).bind (·.run back) :=
  List.foldlM_append

end Reader

/-- The expression that a text spells. -/
def JoinTree.read (text : String) : Option (JoinTree String) :=
  ((Reader.waiting [] {}).run (Token.lex text)).bind Reader.result?

namespace JoinTree

open ReaderFrame (attach)

/-! ## Reading what was spelled -/

variable {α : Type} {t u v : JoinTree String}

/-- Only the expression behind the operator changes. -/
theorem Reassociated.attach (ordered : Bool) (front : Option (JoinTree String))
    (h : Reassociated t u) :
    Reassociated (ReaderFrame.attach ordered front t) (ReaderFrame.attach ordered front u) := by
  cases front with
  | none => exact h
  | some left => exact join none none ordered (refl left) h

/-- An operator behind an operator of the same kind can be read first. -/
theorem Reassociated.attach_attach (location : Location) (ordered : Bool)
    (front : Option (JoinTree String)) (left right : JoinTree String) :
    Reassociated (ReaderFrame.attach ordered (some (ReaderFrame.attach ordered front left)) right)
      (ReaderFrame.attach ordered front (.join location ordered left right)) := by
  cases front with
  | none => exact join none location ordered (refl left) (refl right)
  | some first => exact assoc none none none location ordered first left right

/-- What is read of an expression as a side of a `/`: the part that is joined by `/`
grows by the expression. -/
def ReadsAsSide (t : JoinTree String) : Prop :=
  ∀ (outer : List ReaderFrame) (bars slashes : Option (JoinTree String)),
    ∃ slashes' operand,
      (Reader.waiting outer ⟨bars, slashes⟩).run (grouped t.isBar t.tokens) =
        some (.holding outer ⟨bars, slashes'⟩ operand) ∧
      Reassociated (attach true slashes' operand) (attach true slashes t)

/-- What is read of an expression as a side of a `|`: the part that is joined by `|`
grows by the expression. -/
def ReadsWhole (t : JoinTree String) : Prop :=
  ∀ (outer : List ReaderFrame) (bars : Option (JoinTree String)),
    ∃ frame operand,
      (Reader.waiting outer ⟨bars, none⟩).run t.tokens = some (.holding outer frame operand) ∧
      Reassociated (frame.close operand) (attach false bars t)

/-- Without a `|` at the root nothing stands between parentheses, so an expression
is read in the same way on a side of a `|`. -/
theorem ReadsAsSide.readsWhole (h : t.ReadsAsSide) (hbar : t.isBar = false) : t.ReadsWhole := by
  intro outer bars
  rcases h outer bars none with ⟨slashes, operand, hrun, hre⟩
  rw [hbar, grouped, if_neg Bool.false_ne_true] at hrun
  exact ⟨⟨bars, slashes⟩, operand, hrun, hre.attach false bars⟩

/-- An expression between parentheses is one operand. -/
theorem ReadsWhole.readsAsSide (h : t.ReadsWhole) (hbar : t.isBar = true) : t.ReadsAsSide := by
  intro outer bars slashes
  rcases h (⟨bars, slashes⟩ :: outer) none with ⟨frame, operand, hrun, hre⟩
  refine ⟨slashes, frame.close operand, ?_, hre.attach true slashes⟩
  have hinner : (Reader.waiting outer ⟨bars, slashes⟩).run (.opening :: t.tokens) =
      some (.holding (⟨bars, slashes⟩ :: outer) frame operand) := hrun
  rw [hbar, grouped, if_pos rfl, Reader.run_append, hinner]
  rfl

/-- A name is one operand. -/
theorem readsAsSide_leaf (name : String) : (leaf name).ReadsAsSide := by
  intro outer bars slashes
  exact ⟨slashes, leaf name, rfl, Reassociated.refl _⟩

/-- The right side of a `/` is put behind what was read of the left side. -/
theorem readsAsSide_join {left right : JoinTree String} (location : Location)
    (hleft : left.ReadsAsSide) (hright : right.ReadsAsSide) :
    (join location true left right).ReadsAsSide := by
  intro outer bars slashes
  rcases hleft outer bars slashes with ⟨slashes₁, operand₁, hrun₁, hre₁⟩
  obtain ⟨slashes₂, operand₂, hrun₂, hre₂⟩ :=
    hright outer bars (some (attach true slashes₁ operand₁))
  refine ⟨slashes₂, operand₂, ?_, ?_⟩
  · have htokens : grouped (join location true left right).isBar
        (join location true left right).tokens =
        grouped left.isBar left.tokens ++ .slash :: grouped right.isBar right.tokens := rfl
    rw [htokens, Reader.run_append, hrun₁]
    exact hrun₂
  · have hmiddle : Reassociated (attach true (some (attach true slashes₁ operand₁)) right)
        (attach true (some (attach true slashes left)) right) :=
      .join none none true hre₁ (.refl right)
    exact (hre₂.trans hmiddle).trans (.attach_attach location true slashes left right)

/-- The right side of a `|` is put behind what was read of the left side. -/
theorem readsWhole_join {left right : JoinTree String} (location : Location)
    (hleft : left.ReadsWhole) (hright : right.ReadsWhole) :
    (join location false left right).ReadsWhole := by
  intro outer bars
  rcases hleft outer bars with ⟨frame₁, operand₁, hrun₁, hre₁⟩
  rcases hright outer (some (frame₁.close operand₁)) with ⟨frame₂, operand₂, hrun₂, hre₂⟩
  refine ⟨frame₂, operand₂, ?_, ?_⟩
  · rw [tokens, Reader.run_append, hrun₁]
    exact hrun₂
  · have hmiddle : Reassociated (attach false (some (frame₁.close operand₁)) right)
        (attach false (some (attach false bars left)) right) :=
      .join none none false hre₁ (.refl right)
    exact (hre₂.trans hmiddle).trans (.attach_attach location false bars left right)

/-- Every expression is read on either side of both operators. -/
theorem readsAsSide_and_readsWhole (t : JoinTree String) : t.ReadsAsSide ∧ t.ReadsWhole := by
  induction t with
  | leaf name =>
    have hside := readsAsSide_leaf name
    exact ⟨hside, hside.readsWhole rfl⟩
  | join location ordered left right ihl ihr =>
    cases ordered with
    | true =>
      have hside := readsAsSide_join location ihl.1 ihr.1
      exact ⟨hside, hside.readsWhole rfl⟩
    | false =>
      have hwhole := readsWhole_join location ihl.2 ihr.2
      exact ⟨hwhole.readsAsSide rfl, hwhole⟩

/-- Reading the text of an expression gives the expression back, up to
associativity. -/
theorem read_text (hwords : ∀ name ∈ t.leaves, Token.IsWord name) :
    ∃ u, read t.text = some u ∧ Reassociated u t := by
  rcases t.readsAsSide_and_readsWhole.2 [] none with ⟨frame, operand, hrun, hre⟩
  refine ⟨frame.close operand, ?_, hre⟩
  rw [read, Token.lex_text hwords]
  rw [hrun]
  rfl

/-! ## Associativity in the text -/

/-- Associativity keeps the operator at the root. -/
theorem Reassociated.isBar_eq {t u : JoinTree α} (h : Reassociated t u) : t.isBar = u.isBar := by
  induction h with
  | leaf operand => rfl
  | join location location' ordered hl hr ihl ihr => rfl
  | assoc location inner location' inner' ordered a b c => rfl
  | symm h ih => exact ih.symm
  | trans h h' ih ih' => exact ih.trans ih'

/-- Associativity does not show in the text. -/
theorem Reassociated.text_eq (h : Reassociated t u) : t.text = u.text := by
  have htokens : t.tokens = u.tokens := by
    induction h with
    | leaf operand => rfl
    | join location location' ordered hl hr ihl ihr =>
      cases ordered with
      | true => simp only [tokens, hl.isBar_eq, hr.isBar_eq, ihl, ihr]
      | false => simp only [tokens, ihl, ihr]
    | assoc location inner location' inner' ordered a b c =>
      cases ordered with
      | true => simp [tokens, grouped, isBar]
      | false => simp [tokens]
    | symm h ih => exact ih.symm
    | trans h h' ih ih' => exact ih.trans ih'
  rw [text, htokens, text]

/-- Two expressions have the same text exactly if they differ by associativity. -/
theorem text_eq_iff (ht : ∀ name ∈ t.leaves, Token.IsWord name)
    (hu : ∀ name ∈ u.leaves, Token.IsWord name) : t.text = u.text ↔ Reassociated t u := by
  constructor
  · intro heq
    rcases read_text ht with ⟨t', hread, ht'⟩
    rcases read_text hu with ⟨u', hread', hu'⟩
    rw [heq, hread'] at hread
    cases hread
    exact ht'.symm.trans hu'
  · exact Reassociated.text_eq

end JoinTree

end GrammarTree
