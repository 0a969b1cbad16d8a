import GrammarTree.Symbol.Basic
import GrammarTree.Text.Escape

/-!
# Token classes

A token class is a set of token kinds, which are known by their names.  The names
are kept in strictly increasing order of code points, so a class is printed the
same way however it was built.

Main results:

- Theorem `TokenClass.sorted_insertName`: inserting a name keeps the order.
-/

namespace GrammarTree

/-- A set of token kinds, and perhaps the end mark.  A kind is identified with the name
it is printed by: names are taken to tell kinds apart, so two kinds are equal exactly if
their names are.  The names are sorted when they are inserted, not when the class is
printed. -/
structure TokenClass where
  names : List String
  sorted : names.Pairwise (· < ·)
  hasEnd : Bool
deriving DecidableEq

namespace TokenClass

/-- Insert a name into a sorted list; a name that is there already stays. -/
def insertName (name : String) : List String → List String
  | [] => [name]
  | n :: rest =>
    if name < n then name :: n :: rest
    else if n < name then n :: insertName name rest
    else n :: rest

/-- The names of the result are the inserted one and the ones before. -/
theorem mem_insertName {name n : String} {names : List String}
    (h : n ∈ insertName name names) : n = name ∨ n ∈ names := by
  induction names with
  | nil => simpa [insertName] using h
  | cons m rest ih =>
    rw [insertName] at h
    split at h
    · simpa using h
    · split at h
      · rcases List.mem_cons.mp h with rfl | h
        · simp
        · rcases ih h with h | h <;> simp [h]
      · exact Or.inr h

/-- Inserting a name keeps a list sorted. -/
theorem sorted_insertName {name : String} {names : List String}
    (h : names.Pairwise (· < ·)) : (insertName name names).Pairwise (· < ·) := by
  induction names with
  | nil => simp [insertName]
  | cons n rest ih =>
    have hn : ∀ m ∈ rest, n < m := (List.pairwise_cons.mp h).1
    have hrest := (List.pairwise_cons.mp h).2
    rw [insertName]
    split
    · rename_i hlt
      refine List.pairwise_cons.mpr ⟨?_, h⟩
      intro m hm
      rcases List.mem_cons.mp hm with rfl | hm
      · exact hlt
      · exact String.lt_trans hlt (hn m hm)
    · split
      · rename_i hlt
        refine List.pairwise_cons.mpr ⟨?_, ih hrest⟩
        intro m hm
        rcases mem_insertName hm with rfl | hm
        · exact hlt
        · exact hn m hm
      · exact h

/-- Insert a token kind. -/
def insert (name : String) (s : TokenClass) : TokenClass :=
  { s with names := insertName name s.names, sorted := sorted_insertName s.sorted }

/-- The class without members. -/
def empty : TokenClass :=
  ⟨[], List.Pairwise.nil, false⟩

/-- The class of the listed kinds. -/
def ofItems (names : List String) : TokenClass :=
  names.foldr insert empty

/-- The class with the end mark. -/
def withEnd (s : TokenClass) : TokenClass :=
  { s with hasEnd := true }

/-- The class without the end mark. -/
def withoutEnd (s : TokenClass) : TokenClass :=
  { s with hasEnd := false }

/-- The members of either class. -/
def union (s t : TokenClass) : TokenClass :=
  { t.names.foldr insert s with hasEnd := s.hasEnd || t.hasEnd }

/-- Whether a kind is a member. -/
def contains (s : TokenClass) (name : String) : Bool :=
  s.names.contains name

/-- Whether there is no member, the end mark included. -/
def isEmpty (s : TokenClass) : Bool :=
  s.names.isEmpty && !s.hasEnd

/-- The text of a class: one member stands alone, more stand between
parentheses, and the end mark comes last. -/
def render (s : TokenClass) : String :=
  match if s.hasEnd then s.names ++ ["EOF"] else s.names with
  | [] => "()"
  | [only] => only
  | members => "(" ++ String.intercalate "|" members ++ ")"

/-- The text of a class in the structural view of a tree. -/
def inspect (s : TokenClass) : String :=
  "KindSet \x7b kinds: [" ++ String.intercalate ", " (s.names.map Text.quoteText) ++
    "], eof: " ++ toString s.hasEnd ++ " \x7d"

instance : SymbolSet TokenClass String where
  empty := empty
  ofItems := ofItems
  union := union
  withEnd := withEnd
  withoutEnd := withoutEnd
  hasEnd := hasEnd
  contains := contains
  isEmpty := isEmpty
  render := render
  inspect := inspect

end TokenClass

end GrammarTree
