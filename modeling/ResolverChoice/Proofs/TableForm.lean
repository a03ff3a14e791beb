/-
The form of what is read from a table.

The sources of a line are read off one after the other.  Before each of them what is left has
no blank at its start, so it begins with a word, and at least this word is taken away.  This is
why the reading ends and why every source has a name.  Names of databases and sources come from
between the marks, and so they hold none of them.
-/

import ResolverChoice.Proofs.TableCut

namespace ResolverChoice

open Text

/-! ### What sources and databases look like -/

structure Source.IsWellFormed (source : Source) : Prop where
  /-- At least one symbol, and none of them blank. -/
  isWord : IsWord source.name
  plain : .char '#' ∉ source.name
  kind : source.kind = SourceKind.ofName source.name
  statuses : ∀ criterion ∈ source.criteria, .char '=' ∉ criterion.status

/-- What can stand before a colon.  It may be empty. -/
structure IsDatabaseName (database : Text) : Prop where
  colon : .char ':' ∉ database
  plain : .char '#' ∉ database
  first : ∀ symbol ∈ database.head?, symbol.isBlank = false
  last : ∀ symbol ∈ database.getLast?, symbol.isBlank = false

theorem isDatabaseName_trim {database : Text} (colon : .char ':' ∉ database)
    (plain : .char '#' ∉ database) : IsDatabaseName (trim database) where
  colon := fun member => colon (trim_subset database member)
  plain := fun member => plain (trim_subset database member)
  first := isBlank_head?_trim database
  last := isBlank_getLast?_trimEnd (trimStart database)

/-! ### Criteria -/

theorem status_of_ofWord? {word : Text} {criterion : Criterion}
    (read : Criterion.ofWord? word = some criterion) : .char '=' ∉ criterion.status := by
  unfold Criterion.ofWord? at read
  dsimp only at read
  generalize (if word.head? == some (.char '!') then word.drop 1 else word) = field at read
  split at read
  · cases read
  · split at read
    · cases read
    · rename_i status action cut
      obtain rfl := Option.some.inj read
      have before := congrArg Prod.fst cut
      rw [cutAt_fst] at before
      dsimp only at before ⊢
      intro member
      rw [← before] at member
      exact absurd (List.all_eq_true.mp List.all_takeWhile _ member) (by decide)

theorem statuses_of_ofBlock? {block : Text} {criteria : List Criterion}
    (valid : Criterion.ofBlock? block = some criteria) :
    ∀ criterion ∈ criteria, .char '=' ∉ criterion.status := by
  unfold Criterion.ofBlock? at valid
  generalize words block = listed at valid
  induction listed generalizing criteria with
  | nil =>
      obtain rfl := Option.some.inj valid
      exact List.forall_mem_nil _
  | cons word rest ih =>
      rw [List.mapM_cons] at valid
      obtain ⟨first, read, others⟩ := Option.bind_eq_some_iff.mp valid
      obtain ⟨later, readLater, same⟩ := Option.bind_eq_some_iff.mp others
      obtain rfl := Option.some.inj same
      exact List.forall_mem_cons.mpr ⟨status_of_ofWord? read, ih readLater⟩

/-- Whether there is a block or not, what follows is part of the text and begins with no
blank. -/
theorem of_readCriteria {text rest : Text} {criteria : List Criterion}
    (edge : ∀ symbol ∈ text.head?, symbol.isBlank = false)
    (accepted : readCriteria text = .ok (criteria, rest)) :
    (∀ criterion ∈ criteria, .char '=' ∉ criterion.status) ∧ rest ⊆ text ∧
      ∀ symbol ∈ rest.head?, symbol.isBlank = false := by
  rcases criteria_cases text with
    unblocked | ⟨block, after, others, rfl, closed, valid⟩ | ⟨flaw, refused⟩
  · rw [readCriteria_of_other unblocked] at accepted
    cases accepted
    exact ⟨List.forall_mem_nil _, List.Subset.refl text, edge⟩
  · rw [readCriteria_of_block closed valid] at accepted
    cases accepted
    refine ⟨statuses_of_ofBlock? valid, ?_, isBlank_head?_trim after⟩
    intro symbol member
    have behind := List.mem_cons_of_mem (.char ']') (trim_subset after member)
    exact List.mem_cons_of_mem _ (List.mem_append_right block behind)
  · rw [readCriteria_of_refused refused] at accepted
    cases accepted

/-! ### Sources one by one -/

/-- One round of the reading: the source that is read, and what is left for the next round. -/
inductive ReadsNext : Text → Source → Text → Prop where
  | read {left rest : Text} {criteria : List Criterion} (more : left ≠ [])
      (accepted : readCriteria (afterFirstWord left) = .ok (criteria, rest)) :
      ReadsNext left (Source.ofName (firstWord left) criteria) rest

/-- The sources that were read off the text so far, and what is left of it. -/
inductive ReadOff (text : Text) : List Source → Text → Prop where
  | start : ReadOff text [] text
  | next {sources : List Source} {source : Source} {left rest : Text}
      (reached : ReadOff text sources left) (reads : ReadsNext left source rest) :
      ReadOff text (sources ++ [source]) rest

/-- What is left is read as if it stood alone, behind the sources before it. -/
theorem ReadOff.readSources_eq {text left : Text} {sources : List Source}
    (readOff : ReadOff text sources left) :
    readSources text =
      { items := sources ++ (readSources left).items, flaw := (readSources left).flaw } := by
  induction readOff with
  | start => rfl
  | next reached reads ih =>
      cases reads with
      | read more accepted =>
          rw [ih, readSources_of_readCriteria more accepted]
          simp only [List.append_assoc, List.singleton_append]

/-- The rounds go on until nothing is left or the next block is refused. -/
theorem ReadOff.exists_end {text left : Text} {sources : List Source}
    (readOff : ReadOff text sources left) :
    ∃ last, ReadOff text (sources ++ (readSources left).items) last ∧
      ((readSources left).flaw = none → last = []) := by
  induction left using readSources.induct generalizing sources with
  | case1 =>
      rw [readSources, dif_pos rfl]
      refine ⟨[], ?_, fun _ => rfl⟩
      rwa [Understood.nothing, List.append_nil]
  | case2 left nonempty flaw refused =>
      rw [ListsSources.readSources_of_refused nonempty refused]
      refine ⟨left, ?_, ?_⟩
      · rwa [Understood.stopped, List.append_nil]
      · intro whole
        cases whole
  | case3 left nonempty criteria rest accepted ih =>
      obtain ⟨last, reached, ended⟩ := ih (readOff.next (.read nonempty accepted))
      rw [readSources_of_readCriteria nonempty accepted]
      refine ⟨last, ?_, ended⟩
      rwa [List.append_assoc, List.singleton_append] at reached

/-- What one round does to text without a blank at its start. -/
structure TakesOne (left : Text) (source : Source) (rest : Text) : Prop where
  wellFormed : .char '#' ∉ left → source.IsWellFormed
  edge : ∀ symbol ∈ rest.head?, symbol.isBlank = false
  inside : rest ⊆ left
  shorter : rest.length < left.length

theorem ReadsNext.takesOne {left rest : Text} {source : Source}
    (reads : ReadsNext left source rest)
    (edge : ∀ symbol ∈ left.head?, symbol.isBlank = false) : TakesOne left source rest := by
  cases reads with
  | @read _ criteria more accepted =>
      obtain ⟨word, behind, rfl, isWord, apart⟩ := exists_firstWord more edge
      have named := length_afterFirstWord_lt more
      have shorter := Nat.lt_of_le_of_lt (length_readCriteria_le accepted) named
      rw [isWord.afterFirstWord apart] at accepted
      obtain ⟨statuses, inside, starts⟩ :=
        of_readCriteria (isBlank_head?_trimStart behind) accepted
      have remaining := List.Subset.trans inside (trimStart_subset behind)
      rw [isWord.firstWord apart]
      exact {
        wellFormed := fun plain => {
          isWord := isWord
          plain := fun member => plain (List.mem_append_left behind member)
          kind := rfl
          statuses := statuses }
        edge := starts
        inside := List.subset_append_of_subset_right word remaining
        shorter := shorter }

/-- What holds before every round. -/
structure Advanced (text : Text) (sources : List Source) (left : Text) : Prop where
  edge : ∀ symbol ∈ left.head?, symbol.isBlank = false
  inside : left ⊆ text
  wellFormed : ∀ source ∈ sources, source.IsWellFormed
  consumed : sources.length + left.length ≤ text.length

theorem ReadOff.advanced {text left : Text} {sources : List Source}
    (readOff : ReadOff text sources left)
    (edge : ∀ symbol ∈ text.head?, symbol.isBlank = false) (plain : .char '#' ∉ text) :
    Advanced text sources left := by
  induction readOff with
  | start =>
      exact {
        edge := edge
        inside := List.Subset.refl text
        wellFormed := List.forall_mem_nil _
        consumed := Nat.le_of_eq (Nat.zero_add _) }
  | next reached reads ih =>
      have taken := reads.takesOne ih.edge
      have before := ih.consumed
      have shorter := taken.shorter
      refine {
        edge := taken.edge
        inside := List.Subset.trans taken.inside ih.inside
        wellFormed := ?_
        consumed := ?_ }
      · rw [List.forall_mem_append, List.forall_mem_singleton]
        exact ⟨ih.wellFormed, taken.wellFormed (fun member => plain (ih.inside member))⟩
      · rw [List.length_append, List.length_singleton]
        omega

/-! ### Lines -/

/-- How the sources of a line are read from what stands behind its colon. -/
structure ReadsForward (line rest : Text) : Prop where
  fewer : (readTableLine line).items.length ≤ rest.length
  ended : ∃ last, ReadOff (trim rest) ((readTableLine line).items.map (·.source)) last ∧
    ((readTableLine line).flaw = none → last = [])
  advanced : ∀ sources left, ReadOff (trim rest) sources left →
    Advanced (trim rest) sources left ∧ sources <+: (readTableLine line).items.map (·.source)
  next : ∀ sources left source after, ReadOff (trim rest) sources left →
    ReadsNext left source after → TakesOne left source after

theorem IsTableLine.map_source_readTableLine {line database rest comment : Text}
    (isLine : IsTableLine line database rest comment) :
    (ResolverChoice.readTableLine line).items.map (·.source) =
      (readSources (trim rest)).items := by
  rw [isLine.readTableLine_eq]
  dsimp only
  rw [List.map_map]
  exact List.map_id _

theorem IsTableLine.readsForward {line database rest comment : Text}
    (isLine : IsTableLine line database rest comment) : ReadsForward line rest := by
  have edge := isBlank_head?_trim rest
  have plain : .char '#' ∉ trim rest := fun member => isLine.restPlain (trim_subset rest member)
  have read := isLine.map_source_readTableLine
  have flaw := congrArg Understood.flaw isLine.readTableLine_eq
  obtain ⟨last, reached, ended⟩ := (ReadOff.start : ReadOff (trim rest) [] _).exists_end
  rw [List.nil_append] at reached
  refine {
    fewer := ?_
    ended := ⟨last, by rwa [read], by rwa [flaw]⟩
    advanced := ?_
    next := ?_ }
  · have consumed := (reached.advanced edge plain).consumed
    have trimmed := length_trim_le rest
    rw [← read, List.length_map] at consumed
    omega
  · intro sources left readOff
    refine ⟨readOff.advanced edge plain, ?_⟩
    rw [read, readOff.readSources_eq]
    exact List.prefix_append sources _
  · intro sources left source after readOff reads
    exact reads.takesOne (readOff.advanced edge plain).edge

structure TableEntry.IsWellFormed (entry : TableEntry) : Prop where
  isDatabaseName : IsDatabaseName entry.database
  source : entry.source.IsWellFormed

theorem wellFormed_of_mem_readTableLine {line : Text} {entry : TableEntry}
    (member : entry ∈ (readTableLine line).items) : entry.IsWellFormed := by
  by_cases colon : .char ':' ∈ withoutComment line
  · obtain ⟨database, rest, comment, isLine⟩ := exists_isTableLine colon
    obtain ⟨last, reached, _⟩ := isLine.readsForward.ended
    have formed := ((isLine.readsForward.advanced _ _ reached).1).wellFormed
    refine ⟨?_, formed _ (List.mem_map_of_mem member)⟩
    rw [isLine.readTableLine_eq] at member
    obtain ⟨source, _, rfl⟩ := List.mem_map.mp member
    exact isDatabaseName_trim isLine.colon isLine.databasePlain
  · rw [readTableLine_of_colonless colon] at member
    split at member <;> cases member

theorem mem_readTableLines {lines : List Text} {entry : TableEntry}
    (member : entry ∈ (readTableLines lines).items) :
    ∃ line ∈ lines, entry ∈ (readTableLine line).items := by
  induction lines with
  | nil => cases member
  | cons first rest ih =>
      change entry ∈ ((readTableLine first).andThen (readTableLines rest)).items at member
      unfold Understood.andThen at member
      split at member
      · exact ⟨first, List.mem_cons_self, member⟩
      · rcases List.mem_append.mp member with here | later
        · exact ⟨first, List.mem_cons_self, here⟩
        · obtain ⟨line, listed, found⟩ := ih later
          exact ⟨line, List.mem_cons_of_mem first listed, found⟩

namespace SwitchTable

/-- What holds of everything in a table. -/
structure IsWellFormed (table : SwitchTable) : Prop where
  listed : ∀ database ∈ table.databases, table.sources database ≠ []
  databases : ∀ database ∈ table.databases, IsDatabaseName database
  sources : ∀ database, ∀ source ∈ table.sources database, source.IsWellFormed

theorem mem_sources_iff {table : SwitchTable} {database : Text} {source : Source} :
    source ∈ table.sources database ↔
      { database := database, source := source } ∈ table.entries := by
  unfold sources
  rw [List.mem_map]
  constructor
  · rintro ⟨entry, member, rfl⟩
    obtain ⟨inside, same⟩ := List.mem_filter.mp member
    rwa [← beq_iff_eq.mp same]
  · intro member
    exact ⟨_, List.mem_filter.mpr ⟨member, beq_self_eq_true database⟩, rfl⟩

theorem isWellFormed_of_entries {table : SwitchTable}
    (formed : ∀ entry ∈ table.entries, entry.IsWellFormed) : table.IsWellFormed where
  listed := by
    intro database member
    obtain ⟨entry, inside, rfl⟩ := mem_databases_iff.mp member
    exact List.ne_nil_of_mem (mem_sources_iff.mpr inside)
  databases := by
    intro database member
    obtain ⟨entry, inside, rfl⟩ := mem_databases_iff.mp member
    exact (formed entry inside).isDatabaseName
  sources := by
    intro database source member
    exact (formed _ (mem_sources_iff.mp member)).source

/-- Whatever the text and whether or not it is read with an error, the table is well-formed.
Each of its lines is read with every round getting ahead. -/
theorem ofText_isWellFormed (path : Option String) (text : Text) :
    (ofText path text).IsWellFormed ∧
    ∀ line ∈ lines text,
      (.char ':' ∉ withoutComment line → (readTableLine line).items = []) ∧
      ∀ database rest comment, IsTableLine line database rest comment →
        ReadsForward line rest := by
  refine ⟨isWellFormed_of_entries ?_, ?_⟩
  · intro entry member
    obtain ⟨line, _, found⟩ := mem_readTableLines member
    exact wellFormed_of_mem_readTableLine found
  · intro line _
    refine ⟨?_, fun database rest comment isLine => isLine.readsForward⟩
    intro colonless
    rw [readTableLine_of_colonless colonless]
    split <;> rfl

/-- Blanks, equals signs and brackets wherever they can stand, and an error at the end. -/
def oddText : Text :=
  Text.ofString "hosts : files [!NOTFOUND=return success=a=b] dns #c\n:mdns4[\npasswd: [a] x ["

theorem oddText_isWellFormed :
    (ofText none oddText).databases = [hostsDatabase, [], Text.ofString "passwd"] ∧
      (ofText none oddText).error ≠ none ∧
      (∀ database ∈ [hostsDatabase, [], Text.ofString "passwd"],
        IsDatabaseName database ∧ (ofText none oddText).sources database ≠ []) ∧
      (∀ source ∈ (ofText none oddText).sources hostsDatabase, source.IsWellFormed) ∧
      ReadsForward (Text.ofString ":mdns4[") (Text.ofString "mdns4[") := by
  obtain ⟨formed, forward⟩ := ofText_isWellFormed none oddText
  have databases : (ofText none oddText).databases =
      [hostsDatabase, [], Text.ofString "passwd"] := by decide +kernel
  have second : Text.ofString ":mdns4[" ∈ lines oddText := by decide +kernel
  have isLine : IsTableLine (Text.ofString ":mdns4[") [] (Text.ofString "mdns4[") [] :=
    ⟨rfl, List.not_mem_nil, List.not_mem_nil, by decide, nofun⟩
  refine ⟨databases, by decide +kernel, ?_, formed.sources hostsDatabase,
    (forward _ second).2 _ _ _ isLine⟩
  rw [← databases]
  exact fun database member => ⟨formed.databases database member, formed.listed database member⟩

end SwitchTable

end ResolverChoice
