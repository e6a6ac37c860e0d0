/-!
# Quoted text

Diagnostics show a piece of text between double quotes. Inside them the quote and the backslash
are written after a backslash, the common control characters by their letter, and every other
control character by its code point in braces. Any other character stands for itself.

We assume that texts have no other characters that do not print by themselves. A full account would
write these by their code points too: those that do not print at all, such as the soft hyphen
(U+00AD) and the zero-width space (U+200B), and those that extend the character before them, such
as the combining acute accent (U+0301). The tables of these characters are left out here.

* `quoteChar`: how one character is written.
* `quote`: how a text is written.
-/

namespace Rendezvous.Text

/-- The control characters: those below the space, delete, and the block after it. -/
def isControl (c : Char) : Bool :=
  c.toNat < 0x20 || (0x7f ≤ c.toNat && c.toNat < 0xa0)

/-- The code point of a character in hexadecimal, without leading zeros, between braces. -/
def codePoint (c : Char) : List Char :=
  ['\\', 'u', '{'] ++ Nat.toDigits 16 c.toNat ++ ['}']

/-- How one character is written inside quotes, if it is a control character or prints by
itself. -/
def quoteChar (c : Char) : List Char :=
  if c = '"' then ['\\', '"']
  else if c = '\\' then ['\\', '\\']
  else if c = '\n' then ['\\', 'n']
  else if c = '\r' then ['\\', 'r']
  else if c = '\t' then ['\\', 't']
  else if c = '\x00' then ['\\', '0']
  else if isControl c then codePoint c
  else [c]

/-- The characters of a text as they are written inside quotes. -/
def quoteChars (cs : List Char) : List Char := cs.flatMap quoteChar

/-- A text between quotes. -/
def quote (s : String) : String := String.ofList ('"' :: quoteChars s.toList ++ ['"'])

end Rendezvous.Text
