/-
Cutting text at marks.

`Text.pieces` returns everything between the marks, so there is always one
piece more than there are marks.  `Text.cutAt` stops at the first mark and says
whether there was one.
-/

import ResolverChoice.Text.Symbol

namespace ResolverChoice

/-- The stretches of text between the symbols that are marks. -/
def Text.pieces (isMark : Symbol → Bool) : Text → List Text
  | [] => [[]]
  | symbol :: rest =>
      if isMark symbol then [] :: Text.pieces isMark rest
      else
        match Text.pieces isMark rest with
        | [] => [[symbol]]
        | piece :: others => (symbol :: piece) :: others

/-- The text before the first mark and, if there is a mark, the text after it. -/
def Text.cutAt (isMark : Symbol → Bool) : Text → Text × Option Text
  | [] => ([], none)
  | symbol :: rest =>
      if isMark symbol then ([], some rest)
      else
        let (before, after) := Text.cutAt isMark rest
        (symbol :: before, after)

theorem Text.pieces_ne_nil (isMark : Symbol → Bool) (text : Text) :
    Text.pieces isMark text ≠ [] := by
  cases text with
  | nil => simp [Text.pieces]
  | cons symbol rest =>
      unfold Text.pieces
      split
      · simp
      · split <;> simp

theorem Text.cutAt_fst (isMark : Symbol → Bool) (text : Text) :
    (Text.cutAt isMark text).1 = text.takeWhile (fun symbol => !isMark symbol) := by
  induction text with
  | nil => rfl
  | cons symbol rest ih =>
      unfold Text.cutAt
      by_cases mark : isMark symbol = true
      · simp [mark]
      · simp [mark, ih]

theorem Text.cutAt_snd_length {isMark : Symbol → Bool} {text after : Text}
    (found : (Text.cutAt isMark text).2 = some after) :
    after.length < text.length := by
  induction text with
  | nil => simp [Text.cutAt] at found
  | cons symbol rest ih =>
      unfold Text.cutAt at found
      by_cases mark : isMark symbol = true
      · simp only [mark, if_true, Option.some.injEq] at found
        subst found
        simp
      · simp only [mark] at found
        have shorter := ih found
        simp only [List.length_cons]
        omega

end ResolverChoice
