/-
Text in quotes, for messages.

The quotes are single unless the text holds a single quote and no double one.
A backslash and the chosen quote are written after a backslash, line feed,
carriage return and tab as letters, and every other symbol that does not print
as its code point in two, four or eight hexadecimal digits.  The quoted form
therefore prints on one line.
-/

import ResolverChoice.Text.Printable

namespace ResolverChoice

def hexDigit (value : Nat) : Char :=
  "0123456789abcdef".toList.getD (value % 16) '0'

/-- The last `width` hexadecimal digits of a number, with leading zeros. -/
def hexDigits : (width : Nat) → Nat → List Char
  | 0, _ => []
  | width + 1, value => hexDigits width (value / 16) ++ [hexDigit value]

def quoteFor (text : Text) : Char :=
  if text.contains (.char '\'') && !text.contains (.char '"') then '"' else '\''

def escapedCodePoint (code : Nat) : List Char :=
  if code < 0x100 then '\\' :: 'x' :: hexDigits 2 code
  else if code < 0x10000 then '\\' :: 'u' :: hexDigits 4 code
  else '\\' :: 'U' :: hexDigits 8 code

def Symbol.escaped (quote : Char) (symbol : Symbol) : List Char :=
  if symbol = .char quote then ['\\', quote]
  else
    match symbol with
    | .char '\\' => ['\\', '\\']
    | .char '\n' => ['\\', 'n']
    | .char '\r' => ['\\', 'r']
    | .char '\t' => ['\\', 't']
    | .char character =>
        if symbol.isPrintable then [character] else escapedCodePoint symbol.code
    | .stray _ => escapedCodePoint symbol.code

def Text.quotedChars (text : Text) : List Char :=
  let quote := quoteFor text
  quote :: text.flatMap (Symbol.escaped quote) ++ [quote]

def Text.quoted (text : Text) : String :=
  String.ofList (Text.quotedChars text)

end ResolverChoice
