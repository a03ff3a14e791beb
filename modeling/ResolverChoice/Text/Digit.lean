/-
Digits of every script.

Two classes have to be told apart.  A decimal digit stands for a place value and
can be part of a number; every script has its ten in a row, zero first.  Other
digits, such as superscripts and circled numbers, look like part of a number
and are none.
-/

import ResolverChoice.Text.Symbol

namespace ResolverChoice

/-- The code points of the zeros.  The nine that follow each are its digits one
to nine. -/
def decimalZeros : List Nat :=
  [0x0030, 0x0660, 0x06F0, 0x07C0, 0x0966, 0x09E6, 0x0A66, 0x0AE6, 0x0B66, 0x0BE6, 0x0C66,
    0x0CE6, 0x0D66, 0x0DE6, 0x0E50, 0x0ED0, 0x0F20, 0x1040, 0x1090, 0x17E0, 0x1810, 0x1946,
    0x19D0, 0x1A80, 0x1A90, 0x1B50, 0x1BB0, 0x1C40, 0x1C50, 0xA620, 0xA8D0, 0xA900, 0xA9D0,
    0xA9F0, 0xAA50, 0xABF0, 0xFF10, 0x104A0, 0x10D30, 0x11066, 0x110F0, 0x11136, 0x111D0,
    0x112F0, 0x11450, 0x114D0, 0x11650, 0x116C0, 0x11730, 0x118E0, 0x11950, 0x11C50, 0x11D50,
    0x11DA0, 0x16A60, 0x16AC0, 0x16B50, 0x1D7CE, 0x1D7D8, 0x1D7E2, 0x1D7EC, 0x1D7F6, 0x1E140,
    0x1E2F0, 0x1E950, 0x1FBF0]

/-- Digits without a place value. -/
def otherDigitRanges : List CodeRange :=
  [⟨0x00B2, 0x00B3⟩, ⟨0x00B9, 0x00B9⟩, ⟨0x1369, 0x1371⟩, ⟨0x19DA, 0x19DA⟩, ⟨0x2070, 0x2070⟩,
    ⟨0x2074, 0x2079⟩, ⟨0x2080, 0x2089⟩, ⟨0x2460, 0x2468⟩, ⟨0x2474, 0x247C⟩, ⟨0x2488, 0x2490⟩,
    ⟨0x24EA, 0x24EA⟩, ⟨0x24F5, 0x24FD⟩, ⟨0x24FF, 0x24FF⟩, ⟨0x2776, 0x277E⟩, ⟨0x2780, 0x2788⟩,
    ⟨0x278A, 0x2792⟩, ⟨0x10A40, 0x10A43⟩, ⟨0x10E60, 0x10E68⟩, ⟨0x11052, 0x1105A⟩,
    ⟨0x1F100, 0x1F10A⟩]

def Symbol.decimalValue? (symbol : Symbol) : Option Nat :=
  (decimalZeros.find? (fun start =>
    decide (start ≤ symbol.code) && decide (symbol.code < start + 10))).map
      (fun start => symbol.code - start)

def Symbol.isDecimal (symbol : Symbol) : Bool :=
  symbol.decimalValue?.isSome

def Symbol.isDigit (symbol : Symbol) : Bool :=
  symbol.isDecimal || symbol.isIn otherDigitRanges

def Symbol.isAsciiDigit (symbol : Symbol) : Bool :=
  decide (0x30 ≤ symbol.code) && decide (symbol.code ≤ 0x39)

theorem Symbol.isDigit_of_isDecimal {symbol : Symbol} (decimal : symbol.isDecimal = true) :
    symbol.isDigit = true := by
  simp [Symbol.isDigit, decimal]

/-- The ASCII digits come first in the table of zeros. -/
theorem Symbol.decimalValue?_of_isAsciiDigit {symbol : Symbol}
    (ascii : symbol.isAsciiDigit = true) :
    symbol.decimalValue? = some (symbol.code - 0x30) := by
  simp only [Symbol.isAsciiDigit, Bool.and_eq_true, decide_eq_true_eq] at ascii
  have below : symbol.code < 0x30 + 10 := by omega
  simp [Symbol.decimalValue?, decimalZeros, ascii.1, below]

end ResolverChoice
