/-
Reading the service switch table.

Each line names a database before its first colon and sources after it.  A source
may be followed by criteria in brackets.  A number sign starts a comment.  The
reading ends at the first flaw and keeps all that came before it, sources of the
faulty line included.
-/

import ResolverChoice.Switch.Table
import ResolverChoice.Text.Lines
import ResolverChoice.Text.Lowercase

namespace ResolverChoice

/-! ### Criteria -/

/-- One word of a block: a status and an action around an equals sign, in any
case, with an exclamation mark before the status to negate it. -/
def Criterion.ofWord? (word : Text) : Option Criterion :=
  let negated := word.head? == some (.char '!')
  let field := if negated then word.drop 1 else word
  if field.length < 3 then none
  else
    match Text.cutAt (· == .char '=') (Text.lowercase field) with
    | (_, none) => none
    | (status, some action) =>
        some { negated := negated, status := status, action := action }

def Criterion.ofBlock? (block : Text) : Option (List Criterion) :=
  (Text.words block).mapM Criterion.ofWord?

/-! ### Sources -/

/-- The criteria at the head of the text, if it starts with a bracket, and the
text that follows them. -/
def readCriteria (text : Text) : Except TableFlaw (List Criterion × Text) :=
  match text with
  | .char '[' :: inside =>
      match Text.cutAt (· == .char ']') inside with
      | (_, none) => .error .unclosedBracket
      | (block, some after) =>
          match Criterion.ofBlock? block with
          | none => .error (.invalidCriteria block)
          | some criteria => .ok (criteria, Text.trim after)
  | _ => .ok ([], text)

theorem length_readCriteria_le {text rest : Text} {criteria : List Criterion}
    (accepted : readCriteria text = .ok (criteria, rest)) :
    rest.length ≤ text.length := by
  unfold readCriteria at accepted
  split at accepted
  · rename_i inside
    split at accepted
    · exact nomatch accepted
    · rename_i block after closed
      split at accepted
      · exact nomatch accepted
      · simp only [Except.ok.injEq, Prod.mk.injEq] at accepted
        have shorter : after.length < inside.length :=
          @Text.cutAt_snd_length (· == .char ']') inside after (by rw [closed])
        have trimmed := Text.length_trim_le after
        rw [← accepted.2, List.length_cons]
        omega
  · simp only [Except.ok.injEq, Prod.mk.injEq] at accepted
    exact Nat.le_of_eq (congrArg List.length accepted.2.symm)

/-- What was understood up to the end or to the first flaw. -/
structure Understood (α : Type) where
  items : List α
  flaw : Option TableFlaw

namespace Understood

variable {α : Type}

def nothing : Understood α :=
  { items := [], flaw := none }

def stopped (flaw : TableFlaw) : Understood α :=
  { items := [], flaw := some flaw }

/-- What comes later counts only if there was no flaw before it. -/
def andThen (first later : Understood α) : Understood α :=
  match first.flaw with
  | some _ => first
  | none => { items := first.items ++ later.items, flaw := later.flaw }

end Understood

/-- The sources that the text lists.  Every source takes at least one symbol. -/
def readSources (text : Text) : Understood Source :=
  if _ended : text = [] then .nothing
  else
    match _accepted : readCriteria (Text.afterFirstWord text) with
    | .error flaw => .stopped flaw
    | .ok (criteria, rest) =>
        let later := readSources rest
        { items := Source.ofName (Text.firstWord text) criteria :: later.items
          flaw := later.flaw }
termination_by text.length
decreasing_by
  have shorter := Text.length_afterFirstWord_lt _ended
  have consumed := length_readCriteria_le _accepted
  omega

/-! ### Lines -/

def withoutComment (line : Text) : Text :=
  Text.trim (line.takeWhile (· != .char '#'))

def readTableLine (line : Text) : Understood TableEntry :=
  let line := withoutComment line
  if line.isEmpty then .nothing
  else
    match Text.cutAt (· == .char ':') line with
    | (_, none) => .stopped .noColon
    | (database, some rest) =>
        let sources := readSources (Text.trim rest)
        { items := sources.items.map (fun source =>
            { database := Text.trim database, source := source })
          flaw := sources.flaw }

def readTableLines (lines : List Text) : Understood TableEntry :=
  lines.foldr (fun line later => (readTableLine line).andThen later) .nothing

/-- The table that the text writes.  The path is only for the error. -/
def SwitchTable.ofText (path : Option String) (text : Text) : SwitchTable :=
  let understood := readTableLines (Text.lines text)
  { entries := understood.items
    error := understood.flaw.map (fun flaw => .malformed { path := path, flaw := flaw }) }

end ResolverChoice
