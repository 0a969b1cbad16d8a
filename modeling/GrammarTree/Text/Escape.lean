import GrammarTree.Text.CharProperty

/-!
# Escaped characters

Characters that cannot stand for themselves in printed text, and the quoted
form that the structural view of a tree uses for texts and characters.

Main definitions:

- `codeEscape`: a character by its code point.
- `quoteText` and `quoteChar`: the quoted form of a text and of a character.
-/

namespace GrammarTree.Text

/-- The control characters: U+0000 to U+001F and U+007F to U+009F. -/
def isControl (c : Char) : Bool :=
  c.toNat < 0x20 || (0x7f ≤ c.toNat && c.toNat < 0xa0)

/-- A character by its code point, in lower-case hexadecimal digits between
braces. -/
def codeEscape (c : Char) : List Char :=
  ['\\', 'u', '\x7b'] ++ Nat.toDigits 16 c.toNat ++ ['\x7d']

/-- A character inside quotes: the quote in use, the backslash and invisible
characters are escaped, all else stands for itself. -/
def quoted (quote c : Char) : List Char :=
  if c = quote || c = '\\' then ['\\', c]
  else if c = '\n' then ['\\', 'n']
  else if c = '\r' then ['\\', 'r']
  else if c = '\t' then ['\\', 't']
  else if c.toNat = 0 then ['\\', '0']
  else if isInvisible c then codeEscape c
  else [c]

/-- A text in double quotes. -/
def quoteText (text : String) : String :=
  String.ofList (['"'] ++ text.toList.flatMap (quoted '"') ++ ['"'])

/-- A character in single quotes. -/
def quoteChar (c : Char) : String :=
  String.ofList (['\''] ++ quoted '\'' c ++ ['\''])

end GrammarTree.Text
