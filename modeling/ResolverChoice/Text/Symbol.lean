/-
Text as it comes out of configuration files.

A file is meant to be UTF-8 but may hold any bytes.  A byte that belongs to no
well-formed character is kept as a symbol of its own instead of being dropped
or replaced, so every file can be read and a name with such a byte still
differs from every other name.

This file has the symbols, their code points and tables of code points.  The
rules for particular classes of symbols are in the modules beside it.
-/

namespace ResolverChoice

/-- A character, or one byte that is part of no character. -/
inductive Symbol where
  | char (character : Char)
  | stray (byte : UInt8)
  deriving DecidableEq

abbrev Text := List Symbol

instance : Coe Char Symbol where
  coe := Symbol.char

/-- The code point that stands for the symbol when symbols are compared or
looked up in a table.  Stray bytes lie in a block that no character uses. -/
def Symbol.code : Symbol → Nat
  | .char character => character.toNat
  | .stray byte => 0xDC00 + byte.toNat

def Text.ofChars (characters : List Char) : Text :=
  characters.map Symbol.char

def Text.ofString (string : String) : Text :=
  Text.ofChars string.toList

/-! ### Tables of code points -/

/-- The code points from `first` to `last`, both included. -/
structure CodeRange where
  first : Nat
  last : Nat

def CodeRange.covers (range : CodeRange) (code : Nat) : Bool :=
  decide (range.first ≤ code) && decide (code ≤ range.last)

def Symbol.isIn (symbol : Symbol) (table : List CodeRange) : Bool :=
  table.any (fun range => range.covers symbol.code)

/-! ### ASCII case -/

/-- Folds the ASCII capitals and nothing else. -/
def Symbol.foldAscii : Symbol → Symbol
  | .char character => .char character.toLower
  | .stray byte => .stray byte

def Text.foldAscii (text : Text) : Text :=
  text.map Symbol.foldAscii

theorem Text.length_foldAscii (text : Text) :
    (Text.foldAscii text).length = text.length := by
  simp [Text.foldAscii]

end ResolverChoice
