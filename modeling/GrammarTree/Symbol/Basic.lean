/-!
# Sets of terminal symbols

A grammar tree needs little from the sets at its leaves: to build them, to unite
two of them, to compare and to print them.  Every set can also hold the mark for
the end of the input.
-/

namespace GrammarTree

/-- Sets of symbols of type `Item` and of the mark for the end of the input. -/
class SymbolSet (S : Type) (Item : outParam Type) extends BEq S where
  /-- The set without members. -/
  empty : S
  /-- The set of the listed symbols. -/
  ofItems : List Item → S
  /-- The symbols of either set. -/
  union : S → S → S
  /-- The set with the end mark. -/
  withEnd : S → S
  /-- The set without the end mark. -/
  withoutEnd : S → S
  /-- Whether the end mark is a member. -/
  hasEnd : S → Bool
  /-- Whether a symbol is a member. -/
  contains : S → Item → Bool
  /-- Whether there is no member, the end mark included. -/
  isEmpty : S → Bool
  /-- The text of a set in a printed grammar. -/
  render : S → String
  /-- The text of a set in the structural view of a tree. -/
  inspect : S → String

/-- The set of one symbol. -/
def SymbolSet.single {S Item : Type} [SymbolSet S Item] (item : Item) : S :=
  SymbolSet.ofItems [item]

end GrammarTree
