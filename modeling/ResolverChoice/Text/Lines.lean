/-
Lines of text.

A line ends at a line feed, a carriage return, the two together, a vertical
tab, a form feed, one of the separators U+001C to U+001E, a next-line
character, or a line or paragraph separator.  Text that ends in a line end has
no empty line after it.
-/

import ResolverChoice.Text.Blank

namespace ResolverChoice

def lineEndRanges : List CodeRange :=
  [⟨0x000A, 0x000D⟩, ⟨0x001C, 0x001E⟩, ⟨0x0085, 0x0085⟩, ⟨0x2028, 0x2029⟩]

def Symbol.endsLine (symbol : Symbol) : Bool :=
  symbol.isIn lineEndRanges

def Text.lines : Text → List Text
  | [] => []
  | .char '\r' :: .char '\n' :: rest => [] :: Text.lines rest
  | symbol :: rest =>
      if symbol.endsLine then [] :: Text.lines rest
      else
        match Text.lines rest with
        | [] => [[symbol]]
        | line :: others => (symbol :: line) :: others

/-- Every line end is blank, so trimmed text never begins or ends with one. -/
theorem Symbol.isBlank_of_endsLine {symbol : Symbol} (ending : symbol.endsLine = true) :
    symbol.isBlank = true := by
  simp only [Symbol.endsLine, Symbol.isBlank, Symbol.isIn, lineEndRanges, blankRanges,
    CodeRange.covers, List.any_cons, List.any_nil, Bool.or_eq_true, Bool.and_eq_true,
    decide_eq_true_eq, Bool.or_false] at ending ⊢
  omega

end ResolverChoice
