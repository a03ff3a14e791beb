/-
What is written is read back.

A line in canonical form holds nothing that could be taken for one of the marks around
its parts.  Text that consists of such lines reads without error, and its entries are
those of the lines, in order.
-/

import Mathlib.Data.List.TakeWhile
import ResolverChoice.Proofs.TextParts
import ResolverChoice.Switch.Reading
import ResolverChoice.Switch.Writing

namespace ResolverChoice

/-- The symbol neither ends a line nor starts a comment. -/
def Symbol.IsInLine (symbol : Symbol) : Prop :=
  symbol.endsLine = false ∧ symbol ≠ .char '#'

instance (symbol : Symbol) : Decidable symbol.IsInLine :=
  inferInstanceAs (Decidable (_ ∧ _))

theorem Symbol.isInLine_of_solid {symbol : Symbol} (solid : symbol.isBlank = false)
    (inner : symbol ≠ .char '#') : symbol.IsInLine := by
  refine ⟨?_, inner⟩
  cases ending : symbol.endsLine with
  | false => rfl
  | true =>
      rw [Symbol.isBlank_of_endsLine ending] at solid
      cases solid

/-! ### Criteria -/

namespace Criterion

/-- The criterion without its exclamation mark. -/
def field (criterion : Criterion) : Text :=
  criterion.status ++ .char '=' :: criterion.action

/-- A criterion whose word can only be read as it was written. -/
structure IsCanonical (criterion : Criterion) : Prop where
  status : ∀ symbol ∈ criterion.status, symbol ≠ .char '='
  inner : ∀ symbol ∈ criterion.status ++ criterion.action,
    symbol.isBlank = false ∧ symbol ≠ .char '#' ∧ symbol ≠ .char ']'
  length : 3 ≤ criterion.field.length
  lowercase : Text.lowercase criterion.field = criterion.field
  unmarked : criterion.negated = false → criterion.status.head? ≠ some (.char '!')

instance (criterion : Criterion) : Decidable criterion.IsCanonical :=
  decidable_of_iff
    ((∀ symbol ∈ criterion.status, symbol ≠ .char '=') ∧
      (∀ symbol ∈ criterion.status ++ criterion.action,
        symbol.isBlank = false ∧ symbol ≠ .char '#' ∧ symbol ≠ .char ']') ∧
      3 ≤ criterion.field.length ∧ Text.lowercase criterion.field = criterion.field ∧
      (criterion.negated = false → criterion.status.head? ≠ some (.char '!')))
    ⟨fun ⟨status, inner, length, lowercase, unmarked⟩ =>
      ⟨status, inner, length, lowercase, unmarked⟩,
      fun ⟨status, inner, length, lowercase, unmarked⟩ =>
        ⟨status, inner, length, lowercase, unmarked⟩⟩

variable {criterion : Criterion}

theorem written_of_negated (negated : criterion.negated = true) :
    criterion.written = .char '!' :: criterion.field := by
  unfold written field
  rw [negated, if_pos rfl]
  rfl

theorem written_of_not_negated (negated : criterion.negated = false) :
    criterion.written = criterion.field := by
  unfold written field
  rw [negated, if_neg Bool.false_ne_true]
  rfl

theorem IsCanonical.head?_field (canonical : criterion.IsCanonical)
    (negated : criterion.negated = false) : criterion.field.head? ≠ some (.char '!') := by
  have unmarked := canonical.unmarked negated
  unfold field
  cases parts : criterion.status with
  | nil =>
      intro same
      exact absurd (Option.some.inj same) (by decide)
  | cons symbol rest =>
      rw [parts] at unmarked
      exact unmarked

theorem IsCanonical.ofWord?_written (canonical : criterion.IsCanonical) :
    ofWord? criterion.written = some criterion := by
  have cut : Text.cutAt (· == .char '=') criterion.field =
      (criterion.status, some criterion.action) := by
    refine Text.cutAt_append_mark ?_ rfl criterion.action
    exact fun symbol member => beq_eq_false_iff_ne.mpr (canonical.status symbol member)
  have long : ¬ criterion.field.length < 3 := Nat.not_lt.mpr canonical.length
  unfold ofWord?
  cases negated : criterion.negated with
  | true =>
      have marked : (criterion.written.head? == some (.char '!')) = true := by
        rw [written_of_negated negated]
        rfl
      have dropped : criterion.written.drop 1 = criterion.field := by
        rw [written_of_negated negated]
        rfl
      dsimp only
      rw [marked, if_pos rfl, dropped, if_neg long, canonical.lowercase, cut, ← negated]
  | false =>
      have marked : (criterion.written.head? == some (.char '!')) = false := by
        rw [written_of_not_negated negated, beq_eq_false_iff_ne]
        exact canonical.head?_field negated
      dsimp only
      rw [marked, if_neg Bool.false_ne_true, written_of_not_negated negated, if_neg long,
        canonical.lowercase, cut, ← negated]

theorem IsCanonical.forall_mem_written (canonical : criterion.IsCanonical) :
    ∀ symbol ∈ criterion.written,
      symbol.isBlank = false ∧ symbol ≠ .char '#' ∧ symbol ≠ .char ']' := by
  obtain ⟨status, action⟩ := List.forall_mem_append.mp canonical.inner
  have field : ∀ symbol ∈ criterion.field,
      symbol.isBlank = false ∧ symbol ≠ .char '#' ∧ symbol ≠ .char ']' :=
    List.forall_mem_append.mpr ⟨status, List.forall_mem_cons.mpr ⟨by decide, action⟩⟩
  cases negated : criterion.negated with
  | true =>
      rw [written_of_negated negated]
      exact List.forall_mem_cons.mpr ⟨by decide, field⟩
  | false =>
      rw [written_of_not_negated negated]
      exact field

theorem written_ne_nil (criterion : Criterion) : criterion.written ≠ [] := by
  intro empty
  unfold written at empty
  exact List.cons_ne_nil _ _ (List.append_eq_nil_iff.mp empty).2

end Criterion

section

variable {criteria : List Criterion}

theorem ofBlock?_intercalate (canonical : ∀ criterion ∈ criteria, criterion.IsCanonical) :
    Criterion.ofBlock? ([.char ' '].intercalate (criteria.map Criterion.written)) =
      some criteria := by
  unfold Criterion.ofBlock?
  rw [Text.words_intercalate (by decide)]
  · induction criteria with
    | nil => rfl
    | cons criterion rest ih =>
        obtain ⟨first, others⟩ := List.forall_mem_cons.mp canonical
        rw [List.map_cons, List.mapM_cons, first.ofWord?_written, ih others]
        rfl
  · intro word member
    obtain ⟨criterion, listed, rfl⟩ := List.mem_map.mp member
    exact ⟨criterion.written_ne_nil,
      fun symbol inside => ((canonical criterion listed).forall_mem_written symbol inside).1⟩

theorem forall_mem_block (canonical : ∀ criterion ∈ criteria, criterion.IsCanonical) :
    ∀ symbol ∈ [Symbol.char ' '].intercalate (criteria.map Criterion.written),
      symbol.IsInLine ∧ symbol ≠ .char ']' := by
  refine Text.forall_mem_intercalate (by decide) ?_
  intro word member symbol inside
  obtain ⟨criterion, listed, rfl⟩ := List.mem_map.mp member
  obtain ⟨solid, inner, unclosed⟩ :=
    (canonical criterion listed).forall_mem_written symbol inside
  exact ⟨Symbol.isInLine_of_solid solid inner, unclosed⟩

theorem readCriteria_writtenBlock (canonical : ∀ criterion ∈ criteria, criterion.IsCanonical)
    (rest : Text) :
    readCriteria (writtenBlock criteria ++ rest) = .ok (criteria, Text.trim rest) := by
  have cut : Text.cutAt (· == .char ']')
      ([.char ' '].intercalate (criteria.map Criterion.written) ++ .char ']' :: rest) =
        ([.char ' '].intercalate (criteria.map Criterion.written), some rest) := by
    refine Text.cutAt_append_mark ?_ rfl rest
    exact fun symbol inside =>
      beq_eq_false_iff_ne.mpr (forall_mem_block canonical symbol inside).2
  unfold writtenBlock
  rw [List.append_assoc, List.cons_append, List.singleton_append]
  unfold readCriteria
  simp only [cut, ofBlock?_intercalate canonical]

theorem isInLine_of_mem_writtenBlock
    (canonical : ∀ criterion ∈ criteria, criterion.IsCanonical) :
    ∀ symbol ∈ writtenBlock criteria, symbol.IsInLine := by
  unfold writtenBlock
  refine List.forall_mem_append.mpr ⟨List.forall_mem_cons.mpr ⟨by decide, ?_⟩, by decide⟩
  exact fun symbol inside => (forall_mem_block canonical symbol inside).1

end

/-! ### Sources -/

/-- A name that is one word, with criteria that can only be read as they were written. -/
structure IsCanonicalSource (source : Text × List Criterion) : Prop where
  named : source.1 ≠ []
  name : ∀ symbol ∈ source.1, symbol.isBlank = false ∧ symbol ≠ .char '#'
  criteria : ∀ criterion ∈ source.2, criterion.IsCanonical

instance (source : Text × List Criterion) : Decidable (IsCanonicalSource source) :=
  decidable_of_iff
    (source.1 ≠ [] ∧ (∀ symbol ∈ source.1, symbol.isBlank = false ∧ symbol ≠ .char '#') ∧
      ∀ criterion ∈ source.2, criterion.IsCanonical)
    ⟨fun ⟨named, name, criteria⟩ => ⟨named, name, criteria⟩,
      fun ⟨named, name, criteria⟩ => ⟨named, name, criteria⟩⟩

theorem readSources_of_readCriteria {text rest : Text} {criteria : List Criterion}
    (nonempty : text ≠ [])
    (accepted : readCriteria (Text.afterFirstWord text) = .ok (criteria, rest)) :
    readSources text =
      { items := Source.ofName (Text.firstWord text) criteria :: (readSources rest).items
        flaw := (readSources rest).flaw } := by
  rw [readSources, dif_neg nonempty]
  split
  · rename_i flaw refused
    rw [accepted] at refused
    cases refused
  · rename_i found after same
    rw [accepted] at same
    cases same
    rfl

section

variable {source : Text × List Criterion} {sources : List (Text × List Criterion)}

theorem writtenSource_append (source : Text × List Criterion) (rest : Text) :
    writtenSource source ++ rest =
      .char ' ' :: (source.1 ++ .char ' ' :: (writtenBlock source.2 ++ rest)) := by
  unfold writtenSource
  rw [List.append_assoc, List.cons_append, List.cons_append]

theorem getLast?_writtenSource (source : Text × List Criterion) :
    (writtenSource source).getLast? = some (.char ']') := by
  simp only [writtenSource, writtenBlock, ← List.cons_append, ← List.append_assoc,
    List.getLast?_concat]

theorem isBlank_getLast?_writtenSources (sources : List (Text × List Criterion)) :
    ∀ symbol ∈ (sources.flatMap writtenSource).getLast?, symbol.isBlank = false := by
  induction sources with
  | nil => exact nofun
  | cons source rest ih =>
      intro symbol last
      rw [List.flatMap_cons, List.getLast?_append] at last
      cases tail : (rest.flatMap writtenSource).getLast? with
      | some final =>
          rw [tail] at last
          exact ih symbol (tail.trans last)
      | none =>
          rw [tail, Option.none_or, getLast?_writtenSource] at last
          obtain rfl : Symbol.char ']' = symbol := Option.some.inj last
          decide

/-- Behind the first word of the sources stands its block, and behind that the sources
that are left. -/
theorem trim_writtenSources (canonical : IsCanonicalSource source) :
    Text.trim ((source :: sources).flatMap writtenSource) =
      source.1 ++ .char ' ' :: (writtenBlock source.2 ++ sources.flatMap writtenSource) := by
  have last := isBlank_getLast?_writtenSources (source :: sources)
  obtain ⟨named, name, _⟩ := canonical
  obtain ⟨letter, rest, parts⟩ := List.exists_cons_of_ne_nil named
  rw [parts] at name
  rw [List.flatMap_cons, writtenSource_append, parts, List.cons_append] at last ⊢
  rw [List.getLast?_cons_cons] at last
  rw [Text.trim_cons_blank (by decide), Text.trim_of_edges _ last]
  intro symbol first
  obtain rfl : letter = symbol := Option.some.inj first
  exact (name letter List.mem_cons_self).1

theorem readSources_written
    (canonical : ∀ source ∈ sources, IsCanonicalSource source) :
    readSources (Text.trim (sources.flatMap writtenSource)) =
      { items := sources.map (fun source => Source.ofName source.1 source.2)
        flaw := none } := by
  induction sources with
  | nil =>
      change readSources [] = _
      rw [readSources, dif_pos rfl]
      rfl
  | cons source rest ih =>
      obtain ⟨formed, others⟩ := List.forall_mem_cons.mp canonical
      have solid : ∀ symbol ∈ source.1, symbol.isBlank = false :=
        fun symbol member => (formed.name symbol member).1
      have nonempty : source.1 ++ .char ' ' ::
          (writtenBlock source.2 ++ rest.flatMap writtenSource) ≠ [] :=
        List.append_ne_nil_of_left_ne_nil formed.named _
      -- A block is written after every name, so what follows starts with a bracket.
      have block : Text.trimStart (writtenBlock source.2 ++ rest.flatMap writtenSource) =
          writtenBlock source.2 ++ rest.flatMap writtenSource := rfl
      rw [trim_writtenSources formed, readSources_of_readCriteria nonempty,
        Text.firstWord_append solid (by decide), ih others]
      · rfl
      · rw [Text.afterFirstWord_append solid (by decide), block]
        exact readCriteria_writtenBlock formed.criteria _

theorem isInLine_of_mem_writtenSource (canonical : IsCanonicalSource source) :
    ∀ symbol ∈ writtenSource source, symbol.IsInLine := by
  have name : ∀ symbol ∈ source.1, symbol.IsInLine := fun symbol member =>
    Symbol.isInLine_of_solid (canonical.name symbol member).1 (canonical.name symbol member).2
  have block := isInLine_of_mem_writtenBlock canonical.criteria
  exact List.forall_mem_append.mpr ⟨List.forall_mem_cons.mpr ⟨by decide, name⟩,
    List.forall_mem_cons.mpr ⟨by decide, block⟩⟩

end

/-! ### Lines -/

/-- A database name that the colon ends, and sources that can only be read as they were
written.  The name may be empty and may hold blanks inside. -/
structure TableLine.IsCanonical (line : TableLine) : Prop where
  colon : ∀ symbol ∈ line.database, symbol ≠ .char ':'
  inLine : ∀ symbol ∈ line.database, symbol.IsInLine
  first : ∀ symbol ∈ line.database.head?, symbol.isBlank = false
  last : ∀ symbol ∈ line.database.getLast?, symbol.isBlank = false
  sources : ∀ source ∈ line.sources, IsCanonicalSource source

instance (line : TableLine) : Decidable line.IsCanonical :=
  decidable_of_iff
    ((∀ symbol ∈ line.database, symbol ≠ .char ':') ∧
      (∀ symbol ∈ line.database, symbol.IsInLine) ∧
      (∀ symbol ∈ line.database.head?, symbol.isBlank = false) ∧
      (∀ symbol ∈ line.database.getLast?, symbol.isBlank = false) ∧
      ∀ source ∈ line.sources, IsCanonicalSource source)
    ⟨fun ⟨colon, inLine, first, last, sources⟩ => ⟨colon, inLine, first, last, sources⟩,
      fun ⟨colon, inLine, first, last, sources⟩ => ⟨colon, inLine, first, last, sources⟩⟩

namespace TableLine

variable {line : TableLine} {lines : List TableLine}

theorem written_ne_nil (line : TableLine) : line.written ≠ [] :=
  List.append_ne_nil_of_right_ne_nil _ (List.cons_ne_nil _ _)

theorem IsCanonical.isInLine (canonical : line.IsCanonical) :
    ∀ symbol ∈ line.written, symbol.IsInLine := by
  refine List.forall_mem_append.mpr ⟨canonical.inLine, List.forall_mem_cons.mpr
    ⟨by decide, ?_⟩⟩
  intro symbol member
  obtain ⟨source, listed, inside⟩ := List.mem_flatMap.mp member
  exact isInLine_of_mem_writtenSource (canonical.sources source listed) symbol inside

theorem IsCanonical.trim_written (canonical : line.IsCanonical) :
    Text.trim line.written = line.written := by
  refine Text.trim_of_edges ?_ ?_
  · intro symbol first
    have start := canonical.first
    unfold written at first
    cases parts : line.database with
    | nil =>
        rw [parts] at first
        obtain rfl : Symbol.char ':' = symbol := Option.some.inj first
        decide
    | cons letter rest =>
        rw [parts] at start first
        exact start symbol first
  · intro symbol last
    unfold written at last
    rw [List.getLast?_append, List.getLast?_cons, Option.some_or] at last
    cases ends : (line.sources.flatMap writtenSource).getLast? with
    | none =>
        rw [ends] at last
        obtain rfl : Symbol.char ':' = symbol := Option.some.inj last
        decide
    | some final =>
        rw [ends] at last
        obtain rfl : final = symbol := Option.some.inj last
        exact isBlank_getLast?_writtenSources line.sources final ends

theorem IsCanonical.withoutComment_written (canonical : line.IsCanonical) :
    withoutComment line.written = line.written := by
  unfold withoutComment
  rw [List.takeWhile_eq_self_iff.mpr, canonical.trim_written]
  exact fun symbol member => bne_iff_ne.mpr (canonical.isInLine symbol member).2

/-- A line reads as the entries that it writes. -/
theorem IsCanonical.readTableLine_written (canonical : line.IsCanonical) :
    readTableLine line.written = { items := line.entries, flaw := none } := by
  have cut : Text.cutAt (· == .char ':') line.written =
      (line.database, some (line.sources.flatMap writtenSource)) := by
    refine Text.cutAt_append_mark ?_ rfl _
    exact fun symbol member => beq_eq_false_iff_ne.mpr (canonical.colon symbol member)
  have present : List.isEmpty line.written = false :=
    List.isEmpty_eq_false_iff.mpr line.written_ne_nil
  unfold readTableLine entries
  simp only [canonical.withoutComment_written, present, cut, readSources_written canonical.sources,
    Text.trim_of_edges canonical.first canonical.last, List.map_map, Bool.false_eq_true, if_false]
  rfl

theorem readTableLines_written (canonical : ∀ line ∈ lines, line.IsCanonical) :
    readTableLines (lines.map written) = { items := lines.flatMap entries, flaw := none } := by
  induction lines with
  | nil => rfl
  | cons line rest ih =>
      obtain ⟨formed, others⟩ := List.forall_mem_cons.mp canonical
      change (readTableLine line.written).andThen (readTableLines (rest.map written)) = _
      rw [formed.readTableLine_written, ih others]
      rfl

theorem mem_entries_iff {entry : TableEntry} :
    entry ∈ line.entries ↔ ∃ source ∈ line.sources,
      { database := line.database, source := Source.ofName source.1 source.2 } = entry :=
  List.mem_map

theorem sources_entries (line : TableLine) (database : Text) :
    (line.entries.filter (fun entry => entry.database == database)).map (·.source) =
      if line.database == database then
        line.sources.map (fun source => Source.ofName source.1 source.2)
      else [] := by
  have own : (fun (entry : TableEntry) => entry.database == database) ∘
      (fun source : Text × List Criterion =>
        { database := line.database, source := Source.ofName source.1 source.2 }) =
      fun _ => line.database == database := rfl
  unfold entries
  rw [List.filter_map, own, List.map_map]
  cases line.database == database with
  | true =>
      rw [List.filter_eq_self.mpr (fun _ _ => rfl), if_pos rfl]
      rfl
  | false =>
      rw [List.filter_eq_nil_iff.mpr (fun _ _ => Bool.false_ne_true), if_neg Bool.false_ne_true]
      rfl

end TableLine

/-! ### Tables -/

section

variable {lines : List TableLine}

theorem lines_writtenTable (canonical : ∀ line ∈ lines, line.IsCanonical) :
    Text.lines (writtenTable lines) = lines.map TableLine.written := by
  induction lines with
  | nil => rfl
  | cons line rest ih =>
      obtain ⟨formed, others⟩ := List.forall_mem_cons.mp canonical
      unfold writtenTable at ih ⊢
      rw [List.flatMap_cons, List.append_assoc, List.singleton_append,
        Text.lines_cons_lineFeed (fun symbol member => (formed.isInLine symbol member).1),
        ih others]
      rfl

/-- The last line need not be ended. -/
theorem lines_intercalate (canonical : ∀ line ∈ lines, line.IsCanonical) :
    Text.lines ([.char '\n'].intercalate (lines.map TableLine.written)) =
      lines.map TableLine.written := by
  induction lines with
  | nil => rfl
  | cons line rest ih =>
      obtain ⟨formed, others⟩ := List.forall_mem_cons.mp canonical
      have inner : ∀ symbol ∈ line.written, symbol.endsLine = false :=
        fun symbol member => (formed.isInLine symbol member).1
      cases rest with
      | nil =>
          rw [List.map_singleton, List.intercalate_singleton]
          exact Text.lines_of_inner inner line.written_ne_nil
      | cons other rest =>
          rw [List.map_cons, List.map_cons, List.intercalate_cons_cons, List.append_assoc,
            List.singleton_append, Text.lines_cons_lineFeed inner]
          exact congrArg (line.written :: ·) (ih others)

namespace SwitchTable

theorem ofText_of_lines {text : Text} (canonical : ∀ line ∈ lines, line.IsCanonical)
    (path : Option String) (read : Text.lines text = lines.map TableLine.written) :
    ofText path text = { entries := lines.flatMap TableLine.entries } := by
  unfold ofText
  rw [read, TableLine.readTableLines_written canonical]
  rfl

theorem mem_databases_iff {table : SwitchTable} {database : Text} :
    database ∈ table.databases ↔ ∃ entry ∈ table.entries, entry.database = database := by
  unfold databases
  rw [List.mem_eraseDups, List.mem_map]

/-- The sources of a database are those of the lines that name it. -/
theorem sources_flatMap_entries (lines : List TableLine) (database : Text) :
    sources { entries := lines.flatMap TableLine.entries } database =
      (lines.filter (fun line => line.database == database)).flatMap (fun line =>
        line.sources.map (fun source => Source.ofName source.1 source.2)) := by
  unfold sources
  induction lines with
  | nil => rfl
  | cons line rest ih =>
      dsimp only at ih ⊢
      rw [List.flatMap_cons, List.filter_append, List.map_append, ih, line.sources_entries,
        List.filter_cons]
      split
      · rw [List.flatMap_cons]
      · rfl

/-- Every list of canonical lines is read back from its text: there is no error, each
database has the sources of its lines in order, and databases without sources are absent. -/
theorem ofText_written {text : Text} (canonical : ∀ line ∈ lines, line.IsCanonical)
    (form : text = writtenTable lines ∨
      text = [.char '\n'].intercalate (lines.map TableLine.written))
    (path : Option String) :
    (ofText path text).error = none ∧
    (∀ database, (ofText path text).sources database =
      (lines.filter (fun line => line.database == database)).flatMap (fun line =>
        line.sources.map (fun (name, criteria) =>
          { name := name, kind := SourceKind.ofName name, criteria := criteria }))) ∧
    (∀ database, database ∈ (ofText path text).databases ↔
      ∃ line ∈ lines, line.database = database ∧ line.sources ≠ []) := by
  have read : Text.lines text = lines.map TableLine.written := by
    rcases form with rfl | rfl
    · exact lines_writtenTable canonical
    · exact lines_intercalate canonical
  rw [ofText_of_lines canonical path read]
  refine ⟨rfl, sources_flatMap_entries lines, ?_⟩
  intro database
  rw [mem_databases_iff]
  constructor
  · rintro ⟨entry, member, rfl⟩
    obtain ⟨line, listed, inside⟩ := List.mem_flatMap.mp member
    obtain ⟨source, written, rfl⟩ := TableLine.mem_entries_iff.mp inside
    exact ⟨line, listed, rfl, List.ne_nil_of_mem written⟩
  · rintro ⟨line, listed, rfl, some⟩
    obtain ⟨source, written⟩ := List.exists_mem_of_ne_nil line.sources some
    have inside := TableLine.mem_entries_iff.mpr ⟨source, written, rfl⟩
    exact ⟨_, List.mem_flatMap.mpr ⟨line, listed, inside⟩, rfl⟩

/-- Names that look like blocks, a block that is empty, a criterion with two exclamation
marks, a database without a name or a source, and one on two lines. -/
def trickyLines : List TableLine :=
  let name := Text.ofString
  [{ database := name "hosts"
     sources := [(name "files", []),
       (name "[x]:", [{ negated := true, status := name "!a", action := name "=" },
         { negated := false, status := [], action := name "go" }])] },
    { database := [], sources := [] },
    { database := name "[two words]", sources := [(name "]", [])] },
    { database := name "hosts"
      sources := [(name "dns",
        [{ negated := false, status := name "notfound", action := name "return" }])] }]

theorem ofText_trickyLines :
    (ofText none (writtenTable trickyLines)).error = none ∧
    ((ofText none (writtenTable trickyLines)).sources (Text.ofString "hosts")).map
        (·.name) =
      [Text.ofString "files", Text.ofString "[x]:", Text.ofString "dns"] ∧
    [] ∉ (ofText none (writtenTable trickyLines)).databases := by
  have canonical : ∀ line ∈ trickyLines, line.IsCanonical := by decide +kernel
  obtain ⟨whole, sources, present⟩ := ofText_written canonical (.inl rfl) none
  refine ⟨whole, ?_, ?_⟩
  · rw [sources]
    decide +kernel
  · rw [present]
    decide +kernel

end SwitchTable

end

end ResolverChoice
