/-
Where the reading of a table stops.

A flaw is in one line: there is no colon in it, or a block behind one of its sources is
refused.  What is kept is what a text that ends there would give.  So every text that is
read with an error can be cut, before the line without a colon or before the source with
the refused block, and the part before the cut is read without error as the same table.
-/

import ResolverChoice.Proofs.SourceSyntax
import ResolverChoice.Proofs.TableConcatenation
import ResolverChoice.Route.Decision

namespace ResolverChoice

open Text

/-! ### Lines -/

theorem withoutComment_append {part comment : Text} (plain : .char '#' ∉ part)
    (marked : ∀ symbol ∈ comment.head?, symbol = .char '#') :
    withoutComment (part ++ comment) = trim part := by
  unfold withoutComment
  rw [List.takeWhile_append_of_pos]
  · cases comment with
    | nil => rw [List.takeWhile_nil, List.append_nil]
    | cons mark rest =>
        obtain rfl := marked mark rfl
        rw [List.takeWhile_cons_of_neg (by decide), List.append_nil]
  · intro symbol member
    rw [bne, unmarked_of_not_mem plain symbol member]
    rfl

/-- What stands before the comment, and the comment. -/
theorem exists_comment (line : Text) :
    ∃ part comment, line = part ++ comment ∧ .char '#' ∉ part ∧
      ∀ symbol ∈ comment.head?, symbol = .char '#' := by
  refine ⟨line.takeWhile (· != .char '#'), line.dropWhile (· != .char '#'),
    List.takeWhile_append_dropWhile.symm, ?_, ?_⟩
  · intro member
    exact absurd (List.all_eq_true.mp List.all_takeWhile _ member) (by decide)
  · intro symbol starts
    have edge := List.head?_dropWhile_not (· != Symbol.char '#') line
    rw [Option.mem_def.mp starts] at edge
    exact bne_eq_false_iff_eq.mp edge

/-- The line `database: rest`, with a comment or without one. -/
structure IsTableLine (line database rest comment : Text) : Prop where
  parts : line = database ++ .char ':' :: (rest ++ comment)
  colon : .char ':' ∉ database
  databasePlain : .char '#' ∉ database
  restPlain : .char '#' ∉ rest
  marked : ∀ symbol ∈ comment.head?, symbol = .char '#'

theorem IsTableLine.readTableLine {line database rest comment : Text} {sources : List Source}
    {flaw : Option TableFlaw} (isLine : IsTableLine line database rest comment)
    (lists : ListsSources rest sources flaw) :
    readTableLine line =
      { items := sources.map (fun source =>
          { database := trim database, source := source })
        flaw := flaw } := by
  have plain : .char '#' ∉ database ++ .char ':' :: rest := by
    simp only [List.mem_append, List.mem_cons, isLine.databasePlain, isLine.restPlain]
    decide
  have trimmed : withoutComment line = trimStart database ++ .char ':' :: trimEnd rest := by
    have whole := withoutComment_append plain isLine.marked
    rw [List.append_assoc, List.cons_append] at whole
    rw [isLine.parts, whole, ← trimStart_trimEnd, trimEnd_append_cons (by decide),
      trimStart_append_cons (by decide)]
  have cut : cutAt (· == .char ':') (withoutComment line) =
      (trimStart database, some (trimEnd rest)) := by
    obtain ⟨blanks, _, parts⟩ := exists_trimStart database
    have colon := isLine.colon
    rw [parts] at colon
    rw [trimmed]
    exact cutAt_of_first (fun member => colon (List.mem_append_right blanks member)) _
  have nonempty : (withoutComment line).isEmpty = false := by
    rw [trimmed, List.isEmpty_eq_false_iff]
    exact List.append_ne_nil_of_right_ne_nil _ (List.cons_ne_nil _ _)
  unfold ResolverChoice.readTableLine
  dsimp only
  rw [nonempty, if_neg Bool.false_ne_true, cut]
  simp only [trim_trimEnd, trim_trimStart, lists.readSources_trim]

/-- A line with a colon before its comment has the parts of a table line. -/
theorem exists_isTableLine {line : Text} (colon : .char ':' ∈ withoutComment line) :
    ∃ database rest comment, IsTableLine line database rest comment := by
  obtain ⟨part, comment, rfl, plain, marked⟩ := exists_comment line
  rw [withoutComment_append plain marked] at colon
  obtain ⟨database, rest, rfl, unmarked⟩ := List.eq_append_cons_of_mem (trim_subset part colon)
  refine ⟨database, rest, comment, by rw [List.append_assoc, List.cons_append], unmarked, ?_, ?_,
    marked⟩
  · exact fun member => plain (List.mem_append_left _ member)
  · exact fun member => plain (List.mem_append_right _ (List.mem_cons_of_mem _ member))

theorem readTableLine_of_colonless {line : Text} (colonless : .char ':' ∉ withoutComment line) :
    readTableLine line =
      if (withoutComment line).isEmpty then .nothing else .stopped .noColon := by
  unfold readTableLine
  dsimp only
  rw [cutAt_of_not_mem colonless]

/-- What is read in a table line is what its sources are read as. -/
theorem IsTableLine.readTableLine_eq {line database rest comment : Text}
    (isLine : IsTableLine line database rest comment) :
    ResolverChoice.readTableLine line =
      { items := (readSources (trim rest)).items.map (fun source =>
          { database := trim database, source := source })
        flaw := (readSources (trim rest)).flaw } :=
  isLine.readTableLine (ListsSources.iff_readSources_trim.mpr rfl)

/-- A line that stops the reading lacks a colon, or lists sources up to a flaw. -/
theorem stopped_line_cases {line : Text} {flaw : TableFlaw}
    (stopped : (readTableLine line).flaw = some flaw) :
    (flaw = .noColon ∧ (readTableLine line).items = [] ∧ withoutComment line ≠ [] ∧
      .char ':' ∉ withoutComment line) ∨
    ∃ database rest comment sources, IsTableLine line database rest comment ∧
      ListsSources rest sources (some flaw) ∧
      (readTableLine line).items = sources.map (fun source =>
        { database := trim database, source := source }) := by
  by_cases colon : .char ':' ∈ withoutComment line
  · right
    obtain ⟨database, rest, comment, isLine⟩ := exists_isTableLine colon
    rw [isLine.readTableLine_eq] at stopped
    refine ⟨database, rest, comment, _, isLine, ?_, by rw [isLine.readTableLine_eq]⟩
    rw [← show _ = some flaw from stopped]
    exact ListsSources.iff_readSources_trim.mpr rfl
  · left
    rw [readTableLine_of_colonless colon] at stopped ⊢
    cases empty : (withoutComment line).isEmpty with
    | true =>
        rw [empty] at stopped
        cases stopped
    | false =>
        rw [empty] at stopped
        obtain rfl := Option.some.inj stopped
        refine ⟨rfl, rfl, ?_, colon⟩
        rwa [← List.isEmpty_eq_false_iff]

/-! ### The faulty line -/

theorem readTableLines_concat {earlier : List Text}
    (whole : (readTableLines earlier).flaw = none) (line : Text) :
    readTableLines (earlier ++ [line]) =
      { items := (readTableLines earlier).items ++ (readTableLine line).items
        flaw := (readTableLine line).flaw } := by
  have alone : readTableLines [line] = readTableLine line :=
    Understood.andThen_nothing (readTableLine line)
  rw [readTableLines_append, alone, Understood.andThen, whole]

/-- The first line that is not read to its end ends the reading. -/
theorem exists_stopped_line {lines : List Text} {flaw : TableFlaw}
    (stopped : (readTableLines lines).flaw = some flaw) :
    ∃ earlier line later, lines = earlier ++ line :: later ∧
      (readTableLines earlier).flaw = none ∧ (readTableLine line).flaw = some flaw ∧
      (readTableLines lines).items =
        (readTableLines earlier).items ++ (readTableLine line).items := by
  induction lines with
  | nil => cases stopped
  | cons first rest ih =>
      change ((readTableLine first).andThen (readTableLines rest)).flaw = some flaw at stopped
      have read : readTableLines (first :: rest) =
          (readTableLine first).andThen (readTableLines rest) := rfl
      unfold Understood.andThen at stopped read
      cases found : (readTableLine first).flaw with
      | some other =>
          rw [found] at stopped read
          exact ⟨[], first, rest, rfl, rfl, stopped, congrArg Understood.items read⟩
      | none =>
          rw [found] at stopped read
          obtain ⟨earlier, line, later, rfl, whole, faulty, items⟩ := ih stopped
          have before : readTableLines (first :: earlier) =
              (readTableLine first).andThen (readTableLines earlier) := rfl
          unfold Understood.andThen at before
          rw [found] at before
          refine ⟨first :: earlier, line, later, rfl, ?_, faulty, ?_⟩
          · rw [before]
            exact whole
          · rw [read, before, items, List.append_assoc]

/-! ### The cut -/

/-- The text is cut where the flaw begins: before a line without a colon, or before a source
whose block is refused.  Up to the name of that source the text would be read with one
source more. -/
inductive StopsAt (kept rest : Text) : TableFlaw → Prop where
  | line {line : Text} {later : List Text}
      (border : lines (kept ++ rest) = lines kept ++ lines rest)
      (first : lines rest = line :: later) (content : withoutComment line ≠ [])
      (colonless : .char ':' ∉ withoutComment line) : StopsAt kept rest .noColon
  | source {name behind line database : Text} {later : List Text} {flaw : TableFlaw}
      (parts : rest = name ++ behind) (isName : IsWord name)
      (apart : ∃ symbol ∈ behind.head?, symbol.isBlank = true)
      (next : ∀ path, SwitchTable.ofText path (kept ++ name) =
        { SwitchTable.ofText path kept with
          entries := (SwitchTable.ofText path kept).entries ++
            [{ database := database, source := .ofName name [] }] })
      (first : lines behind = line :: later) (refused : RefusedBlock (withoutComment line) flaw) :
      StopsAt kept rest flaw

namespace SwitchTable

theorem ofText_of_lines_concat {path : Option String} {text line : Text} {earlier : List Text}
    {items : List TableEntry} (whole : (readTableLines earlier).flaw = none)
    (split : lines text = earlier ++ lines line) (inner : ∀ symbol ∈ line, symbol.endsLine = false)
    (nonempty : line ≠ []) (read : readTableLine line = { items := items, flaw := none }) :
    ofText path text = { entries := (readTableLines earlier).items ++ items, error := none } := by
  unfold ofText
  rw [split, lines_of_inner inner nonempty, readTableLines_concat whole, read]
  rfl

section

variable {path : Option String} {earlier later : List Text} {line before after : Text}
  {flaw : TableFlaw}

variable {database rest comment part : Text} {sources : List Source}

/-- A text that ends inside the sources of a line has the entries of the earlier lines and
of the sources before its end. -/
theorem ofText_of_cut_line (around : AroundLine earlier line later before after)
    (whole : (readTableLines earlier).flaw = none)
    (isLine : IsTableLine line database rest comment) (begins : part <+: rest)
    (lists : ListsSources part sources none) (path : Option String) :
    ofText path (before ++ (database ++ .char ':' :: part)) =
      { entries := (readTableLines earlier).items ++ sources.map (fun source =>
          { database := trim database, source := source })
        error := none } := by
  obtain ⟨more, rfl⟩ := begins
  have shorter : database ++ .char ':' :: part <+: line := by
    refine ⟨more ++ comment, ?_⟩
    rw [isLine.parts]
    simp only [List.append_assoc, List.cons_append]
  have isShorter : IsTableLine (database ++ .char ':' :: part) database part [] := by
    refine ⟨by rw [List.append_nil], isLine.colon, isLine.databasePlain, ?_, nofun⟩
    exact fun member => isLine.restPlain (List.mem_append_left more member)
  refine ofText_of_lines_concat whole (around.cut _ shorter) ?_ ?_ (isShorter.readTableLine lists)
  · exact fun symbol member => around.inner symbol (shorter.subset member)
  · exact List.append_ne_nil_of_right_ne_nil _ (List.cons_ne_nil _ _)

/-- The cut in a faulty line that has a colon. -/
theorem exists_cut_in_line (around : AroundLine earlier line later before after)
    (whole : (readTableLines earlier).flaw = none)
    (isLine : IsTableLine line database rest comment)
    (stops : ListsSources rest sources (some flaw)) :
    ∃ kept cutOff, before ++ (line ++ after) = kept ++ cutOff ∧
      (∀ path, ofText path kept =
        { entries := (readTableLines earlier).items ++ sources.map (fun source =>
            { database := trim database, source := source })
          error := none }) ∧
      StopsAt kept cutOff flaw := by
  obtain ⟨kept, name, gap, behind, rfl, isName, gapBlank, gapNonempty, refused, cut, named⟩ :=
    stops.exists_cut
  have readKept := ofText_of_cut_line around whole isLine (List.prefix_append _ _) cut
  have readNamed := ofText_of_cut_line around whole isLine
    (by rw [← List.append_assoc]; exact List.prefix_append _ _) named
  refine ⟨before ++ (database ++ .char ':' :: kept), name ++ ((gap ++ behind ++ comment) ++ after),
    ?_, readKept, ?_⟩
  · rw [isLine.parts]
    simp only [List.append_assoc, List.cons_append]
  · -- Of the faulty line the part behind the name is left, and it is one line as well.
    have remaining : gap ++ behind ++ comment <:+ line := by
      refine ⟨database ++ .char ':' :: (kept ++ name), ?_⟩
      rw [isLine.parts]
      simp only [List.append_assoc, List.cons_append]
    have first := around.replaced (gap ++ behind ++ comment)
      (List.append_ne_nil_of_left_ne_nil (List.append_ne_nil_of_left_ne_nil gapNonempty _) _)
      (fun symbol member => around.inner symbol (remaining.subset member))
    have plain : .char '#' ∉ gap ++ behind := by
      intro member
      apply isLine.restPlain
      exact List.mem_append_right kept (List.mem_append_right name member)
    refine @StopsAt.source _ _ name _ _ (trim database) _ _ rfl isName ?_ ?_ first ?_
    · obtain ⟨blank, others, rfl⟩ := List.exists_cons_of_ne_nil gapNonempty
      exact ⟨blank, rfl, gapBlank blank List.mem_cons_self⟩
    · intro path
      rw [readKept]
      simp only [List.append_assoc, List.cons_append] at readNamed ⊢
      rw [readNamed]
      simp only [List.map_append]
      rfl
    · rw [withoutComment_append plain isLine.marked, trim_append gapBlank]
      unfold trim
      rw [refused.trimStart]
      exact refused.trimEnd

/-- A text that is read with an error is malformed, and has a part at its start that is read
without an error as the same table.  The part ends where the flaw begins. -/
theorem error_keeps_what_came_before {path : Option String} {text : Text} {error : RecordedError}
    (stopped : (ofText path text).error = some error) :
    ∃ flaw kept rest, error = .malformed { path := path, flaw := flaw } ∧
      text = kept ++ rest ∧ ofText path kept = { ofText path text with error := none } ∧
      StopsAt kept rest flaw := by
  obtain ⟨flaw, found, rfl⟩ := Option.map_eq_some_iff.mp stopped
  obtain ⟨earlier, line, later, split, whole, faulty, items⟩ := exists_stopped_line found
  obtain ⟨before, after, rfl, around⟩ := exists_aroundLine split
  have entries : { ofText path (before ++ (line ++ after)) with error := none } =
      ({ entries := (readTableLines earlier).items ++ (readTableLine line).items } :
        SwitchTable) := by
    rw [← items]
    rfl
  rw [entries]
  rcases stopped_line_cases faulty with
    ⟨rfl, nothing, content, colonless⟩ | ⟨database, rest, comment, sources, isLine, stops, same⟩
  · have nonempty : line ≠ [] := by
      rintro rfl
      exact content rfl
    have beforeLine := around.cut [] List.nil_prefix
    rw [List.append_nil, lines.eq_1, List.append_nil] at beforeLine
    have fromLine := around.replaced line nonempty around.inner
    refine ⟨.noColon, before, line ++ after, rfl, rfl, ?_, ?_⟩
    · unfold ofText
      dsimp only
      rw [nothing, List.append_nil, beforeLine, whole]
      rfl
    · refine .line ?_ fromLine content colonless
      rw [split, beforeLine, fromLine]
  · obtain ⟨kept, cutOff, parts, read, stops⟩ := exists_cut_in_line around whole isLine stops
    refine ⟨flaw, kept, cutOff, rfl, parts, ?_, stops⟩
    rw [read, same]

/-- A source with criteria is read before the one whose block is refused. -/
def refusedBlockText : Text :=
  Text.ofString "services: a\nhosts: files [!notfound=return] dns [bad] # x\nhosts: dns"

theorem error_keeps_source_with_criteria :
    ∃ kept rest, refusedBlockText = kept ++ rest ∧ (ofText none kept).error = none ∧
      (ofText none kept).sources hostsDatabase =
        [.ofName (Text.ofString "files")
          [{ negated := true, status := Text.ofString "notfound",
             action := Text.ofString "return" }]] ∧
      StopsAt kept rest (.invalidCriteria (Text.ofString "bad")) := by
  have stopped : (ofText none refusedBlockText).error =
      some (.malformed { path := none, flaw := .invalidCriteria (Text.ofString "bad") }) := by
    decide +kernel
  have listed : (ofText none refusedBlockText).sources hostsDatabase =
      [.ofName (Text.ofString "files")
        [{ negated := true, status := Text.ofString "notfound",
           action := Text.ofString "return" }]] := by
    decide +kernel
  obtain ⟨flaw, kept, rest, same, parts, read, stops⟩ := error_keeps_what_came_before stopped
  obtain rfl := congrArg Malformed.flaw (RecordedError.malformed.inj same)
  refine ⟨kept, rest, parts, ?_, ?_, stops⟩
  · rw [read]
  · rw [read]
    exact listed

end

end SwitchTable

end ResolverChoice
