/-
Small letters for capitals, in every script.

Almost every capital has one small letter whatever stands around it.  There are
two exceptions.  A capital I with a dot becomes an i and a combining dot.  A
capital sigma becomes the final form where it ends a word: some letter with case
comes before it and none after it, marks and apostrophes not counting.
-/

import ResolverChoice.Text.LowercaseTable

namespace ResolverChoice

def Symbol.isCased (symbol : Symbol) : Bool :=
  symbol.isIn casedRanges

def Symbol.isPassedOver (symbol : Symbol) : Bool :=
  symbol.isIn passedOverRanges

/-- The small letter of a capital that has exactly one, and any other symbol
itself. -/
def Symbol.smallLetter (symbol : Symbol) : Symbol :=
  match lowercaseRuns.findSome? (fun run => run.apply? symbol.code) with
  | some code => .char (Char.ofNat code)
  | none => symbol

/-- Whether the nearest symbol that counts is a letter with case. -/
def meetsCased (text : Text) : Bool :=
  ((text.dropWhile Symbol.isPassedOver).head?).any Symbol.isCased

/-- The text in small letters, where `before` is what precedes it, nearest symbol
first. -/
def Text.lowercaseAfter (before : Text) : Text → Text
  | [] => []
  | symbol :: rest =>
      let small : Text :=
        if symbol.code = 0x0130 then [.char 'i', .char '\u0307']
        else if symbol.code = 0x03A3 then
          if meetsCased before && !meetsCased rest then [.char 'ς'] else [.char 'σ']
        else [symbol.smallLetter]
      small ++ Text.lowercaseAfter (symbol :: before) rest

def Text.lowercase (text : Text) : Text :=
  Text.lowercaseAfter [] text

end ResolverChoice
