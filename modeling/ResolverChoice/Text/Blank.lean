/-
Blank symbols, and the words between them.

Blank are the white-space characters of Unicode together with the four ASCII
separators U+001C to U+001F.  A stray byte is never blank.
-/

import ResolverChoice.Text.Pieces

namespace ResolverChoice

def blankRanges : List CodeRange :=
  [⟨0x0009, 0x000D⟩, ⟨0x001C, 0x0020⟩, ⟨0x0085, 0x0085⟩, ⟨0x00A0, 0x00A0⟩,
    ⟨0x1680, 0x1680⟩, ⟨0x2000, 0x200A⟩, ⟨0x2028, 0x2029⟩, ⟨0x202F, 0x202F⟩,
    ⟨0x205F, 0x205F⟩, ⟨0x3000, 0x3000⟩]

def Symbol.isBlank (symbol : Symbol) : Bool :=
  symbol.isIn blankRanges

def Text.trimStart (text : Text) : Text :=
  text.dropWhile Symbol.isBlank

def Text.trimEnd (text : Text) : Text :=
  (text.reverse.dropWhile Symbol.isBlank).reverse

def Text.trim (text : Text) : Text :=
  Text.trimEnd (Text.trimStart text)

/-- The non-empty stretches between blanks. -/
def Text.words (text : Text) : List Text :=
  (Text.pieces Symbol.isBlank text).filter (fun piece => !piece.isEmpty)

def Text.firstWord (text : Text) : Text :=
  text.takeWhile (fun symbol => !symbol.isBlank)

/-- What is left after the first word and the blanks that follow it. -/
def Text.afterFirstWord (text : Text) : Text :=
  Text.trimStart (text.dropWhile (fun symbol => !symbol.isBlank))

private theorem length_dropWhile_le (keep : Symbol → Bool) (text : Text) :
    (text.dropWhile keep).length ≤ text.length :=
  (List.dropWhile_sublist keep).length_le

theorem Text.length_trimStart_le (text : Text) :
    (Text.trimStart text).length ≤ text.length :=
  length_dropWhile_le Symbol.isBlank text

theorem Text.length_trim_le (text : Text) :
    (Text.trim text).length ≤ text.length := by
  have ends := length_dropWhile_le Symbol.isBlank (Text.trimStart text).reverse
  have starts := Text.length_trimStart_le text
  simp only [List.length_reverse] at ends
  simp only [Text.trim, Text.trimEnd, List.length_reverse]
  omega

theorem Text.length_afterFirstWord_lt {text : Text} (nonempty : text ≠ []) :
    (Text.afterFirstWord text).length < text.length := by
  cases text with
  | nil => exact absurd rfl nonempty
  | cons symbol rest =>
      unfold Text.afterFirstWord
      by_cases blank : symbol.isBlank = true
      · have dropped : Text.trimStart (symbol :: rest) = Text.trimStart rest := by
          simp [Text.trimStart, blank]
        have shorter := Text.length_trimStart_le rest
        simp only [List.dropWhile_cons, blank, Bool.not_true, Bool.false_eq_true, if_false]
        rw [dropped, List.length_cons]
        omega
      · have trimmed := Text.length_trimStart_le
          (rest.dropWhile (fun symbol => !symbol.isBlank))
        have dropped := length_dropWhile_le (fun symbol => !symbol.isBlank) rest
        simp only [Bool.not_eq_true] at blank
        simp only [List.dropWhile_cons, blank, Bool.not_false, if_true, List.length_cons]
        omega

end ResolverChoice
