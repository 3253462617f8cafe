import Lexis.Text.Combining
import Lexis.Text.Printable

/-!
# Quoted text

Messages show a text between double quotes and a character between single quotes. The delimiter
itself, the backslash and what a reader would not see are escaped, so the quoted form is unambiguous
on one line.
-/

namespace Lexis.Text

/-- A character given by its code point in lower-case hexadecimal digits. -/
def codePointEscape (char : Char) : List Char :=
  ['\\', 'u', '{'] ++ Nat.toDigits 16 char.toNat ++ ['}']

/-- A character as it is written between two delimiters: as itself when it is printable and stands
alone, and as an escape otherwise. -/
def escapeWithin (delimiter char : Char) : List Char :=
  if char = delimiter ∨ char = '\\' then
    ['\\', char]
  else if char = '\x00' then
    ['\\', '0']
  else if char = '\t' then
    ['\\', 't']
  else if char = '\n' then
    ['\\', 'n']
  else if char = '\r' then
    ['\\', 'r']
  else if isPrintable char && !isCombining char then
    [char]
  else
    codePointEscape char

def enclose (delimiter : Char) (text : List Char) : List Char :=
  delimiter :: text.flatMap (escapeWithin delimiter) ++ [delimiter]

def quote (text : String) : String :=
  String.ofList (enclose '"' text.toList)

def quoteChar (char : Char) : String :=
  String.ofList (enclose '\'' [char])

end Lexis.Text
