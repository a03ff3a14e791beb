/-
What the part of a line behind the colon is read as.

`ListsSources` describes the text: sources one after the other, each a word that a block of
criteria may follow, up to the end or up to a block that is refused.  The reader finds just
this.  Text that ends in a refused block can be cut before the source that the block stands
behind, and then it lists the sources before that one and no flaw.
-/

import ResolverChoice.Proofs.TableRoundTrip
import ResolverChoice.Proofs.TextCuts

namespace ResolverChoice

open Text

/-! ### Blocks -/

/-- The text begins with a bracket that is not closed, or with a block in which some word
is no criterion. -/
inductive RefusedBlock : Text → TableFlaw → Prop where
  | unclosed {inside : Text} (unclosed : .char ']' ∉ inside) :
      RefusedBlock (.char '[' :: inside) .unclosedBracket
  | invalid {block after word : Text} (closed : .char ']' ∉ block)
      (listed : word ∈ words block) (invalid : Criterion.ofWord? word = none) :
      RefusedBlock (.char '[' :: (block ++ .char ']' :: after)) (.invalidCriteria block)

theorem ofBlock?_eq_none_iff (block : Text) :
    Criterion.ofBlock? block = none ↔ ∃ word ∈ words block, Criterion.ofWord? word = none := by
  unfold Criterion.ofBlock?
  induction words block with
  | nil => simp
  | cons word rest ih =>
      rw [List.mapM_cons]
      cases first : Criterion.ofWord? word with
      | none => simp [first]
      | some criterion =>
          cases others : rest.mapM Criterion.ofWord? with
          | none => simpa [others, first] using ih
          | some criteria => simpa [others, first] using ih

theorem readCriteria_of_refused {text : Text} {flaw : TableFlaw}
    (refused : RefusedBlock text flaw) : readCriteria text = .error flaw := by
  cases refused with
  | unclosed unclosed => simp only [readCriteria, cutAt_of_not_mem unclosed]
  | invalid closed listed invalid =>
      have none := (ofBlock?_eq_none_iff _).mpr ⟨_, listed, invalid⟩
      simp only [readCriteria, cutAt_of_first closed, none]

theorem readCriteria_of_block {block after : Text} {criteria : List Criterion}
    (closed : .char ']' ∉ block) (valid : Criterion.ofBlock? block = some criteria) :
    readCriteria (.char '[' :: (block ++ .char ']' :: after)) = .ok (criteria, trim after) := by
  simp only [readCriteria, cutAt_of_first closed, valid]

theorem readCriteria_of_other {text : Text} (other : text.head? ≠ some (.char '[')) :
    readCriteria text = .ok ([], text) := by
  unfold readCriteria
  split
  · exact absurd rfl other
  · rfl

/-- Every text is of one of the three kinds. -/
theorem criteria_cases (text : Text) :
    text.head? ≠ some (.char '[') ∨
    (∃ block after criteria, text = .char '[' :: (block ++ .char ']' :: after) ∧
      .char ']' ∉ block ∧ Criterion.ofBlock? block = some criteria) ∨
    ∃ flaw, RefusedBlock text flaw := by
  by_cases bracket : text.head? = some (.char '[')
  · right
    obtain ⟨inside, rfl⟩ := List.head?_eq_some_iff.mp bracket
    by_cases closed : .char ']' ∈ inside
    · obtain ⟨block, after, rfl, first⟩ := List.eq_append_cons_of_mem closed
      cases found : Criterion.ofBlock? block with
      | some criteria => exact Or.inl ⟨block, after, criteria, rfl, first, found⟩
      | none =>
          obtain ⟨word, listed, invalid⟩ := (ofBlock?_eq_none_iff block).mp found
          exact Or.inr ⟨_, .invalid first listed invalid⟩
    · exact Or.inr ⟨_, .unclosed closed⟩
  · exact Or.inl bracket

theorem RefusedBlock.head? {text : Text} {flaw : TableFlaw} (refused : RefusedBlock text flaw) :
    text.head? = some (.char '[') := by
  cases refused with
  | unclosed unclosed => rfl
  | invalid closed listed invalid => rfl

theorem RefusedBlock.trimStart {text : Text} {flaw : TableFlaw}
    (refused : RefusedBlock text flaw) : trimStart text = text := by
  obtain ⟨rest, rfl⟩ := List.head?_eq_some_iff.mp refused.head?
  exact trimStart_cons (by decide) rest

theorem RefusedBlock.trimEnd {text : Text} {flaw : TableFlaw}
    (refused : RefusedBlock text flaw) : RefusedBlock (trimEnd text) flaw := by
  cases refused with
  | @unclosed inside unclosed =>
      obtain ⟨blanks, _, parts⟩ := exists_trimEnd inside
      have trimmed := @trimEnd_append_cons (.char '[') (by decide) [] inside
      rw [List.nil_append] at trimmed
      rw [trimmed]
      refine .unclosed ?_
      intro member
      apply unclosed
      rw [parts]
      exact List.mem_append_left blanks member
  | @invalid block after word closed listed invalid =>
      have trimmed := @trimEnd_append_cons (.char ']') (by decide)
        (.char '[' :: block) after
      rw [List.cons_append, List.cons_append] at trimmed
      rw [trimmed]
      exact .invalid closed listed invalid

theorem RefusedBlock.append {text blanks : Text} {flaw : TableFlaw}
    (refused : RefusedBlock text flaw) (blank : IsBlank blanks) :
    RefusedBlock (text ++ blanks) flaw := by
  cases refused with
  | unclosed unclosed =>
      refine .unclosed ?_
      intro member
      rcases List.mem_append.mp member with inside | behind
      · exact unclosed inside
      · exact absurd (blank _ behind) (by decide)
  | invalid closed listed invalid =>
      rw [List.cons_append, List.append_assoc, List.cons_append]
      exact .invalid closed listed invalid

/-! ### Lists of sources -/

inductive ListsSources : Text → List Source → Option TableFlaw → Prop where
  | ended {blanks : Text} (blank : IsBlank blanks) : ListsSources blanks [] none
  | plain {blanks word rest : Text} {sources : List Source} {flaw : Option TableFlaw}
      (blank : IsBlank blanks) (isWord : IsWord word)
      (apart : ∀ symbol ∈ rest.head?, symbol.isBlank = true)
      (unblocked : (trimStart rest).head? ≠ some (.char '['))
      (later : ListsSources rest sources flaw) :
      ListsSources (blanks ++ (word ++ rest)) (Source.ofName word [] :: sources) flaw
  | block {blanks word gap block rest : Text} {criteria : List Criterion}
      {sources : List Source} {flaw : Option TableFlaw}
      (blank : IsBlank blanks) (isWord : IsWord word) (gapBlank : IsBlank gap)
      (apart : gap ≠ []) (closed : .char ']' ∉ block)
      (valid : Criterion.ofBlock? block = some criteria)
      (later : ListsSources rest sources flaw) :
      ListsSources (blanks ++ (word ++ (gap ++ .char '[' :: (block ++ .char ']' :: rest))))
        (Source.ofName word criteria :: sources) flaw
  | stopped {blanks word gap behind : Text} {flaw : TableFlaw}
      (blank : IsBlank blanks) (isWord : IsWord word) (gapBlank : IsBlank gap)
      (apart : gap ≠ []) (refused : RefusedBlock behind flaw) :
      ListsSources (blanks ++ (word ++ (gap ++ behind))) [] (some flaw)

namespace ListsSources

variable {text blanks : Text} {sources : List Source} {flaw : Option TableFlaw}

theorem blanks_append (lists : ListsSources text sources flaw) (blank : IsBlank blanks) :
    ListsSources (blanks ++ text) sources flaw := by
  cases lists with
  | ended also => exact .ended (blank.append also)
  | plain also isWord apart unblocked later =>
      rw [← List.append_assoc]
      exact .plain (blank.append also) isWord apart unblocked later
  | block also isWord gapBlank apart closed valid later =>
      rw [← List.append_assoc]
      exact .block (blank.append also) isWord gapBlank apart closed valid later
  | stopped also isWord gapBlank apart refused =>
      rw [← List.append_assoc]
      exact .stopped (blank.append also) isWord gapBlank apart refused

/-- Behind a name stands something that is no block, and so it is in the part of the text
that begins there, however short. -/
theorem plain_of_prefix {word rest part : Text} (blank : IsBlank blanks) (isWord : IsWord word)
    (apart : ∀ symbol ∈ rest.head?, symbol.isBlank = true)
    (unblocked : (trimStart rest).head? ≠ some (.char '[')) (begins : part <+: rest)
    (later : ListsSources part sources flaw) :
    ListsSources (blanks ++ (word ++ part)) (Source.ofName word [] :: sources) flaw := by
  obtain ⟨more, rfl⟩ := begins
  refine .plain blank isWord ?_ ?_ later
  · intro symbol starts
    apply apart symbol
    rw [List.head?_append, Option.mem_def.mp starts, Option.some_or]
    rfl
  · intro starts
    exact unblocked (head?_trimStart_append starts more)

theorem append_blanks (lists : ListsSources text sources flaw) (blank : IsBlank blanks) :
    ListsSources (text ++ blanks) sources flaw := by
  induction lists with
  | ended also => exact .ended (also.append blank)
  | @plain first word rest _ _ also isWord apart unblocked later ih =>
      rw [List.append_assoc, List.append_assoc]
      refine .plain also isWord ?_ ?_ ih
      · intro symbol starts
        rw [List.head?_append] at starts
        cases found : rest.head? with
        | none =>
            rw [found, Option.none_or] at starts
            exact blank symbol (List.mem_of_head? starts)
        | some other =>
            rw [found, Option.some_or] at starts
            obtain rfl := Option.some.inj starts
            exact apart other found
      · rw [head?_trimStart_append_blanks blank]
        exact unblocked
  | block also isWord gapBlank apart closed valid later ih =>
      simp only [List.append_assoc, List.cons_append]
      exact .block also isWord gapBlank apart closed valid ih
  | stopped also isWord gapBlank apart refused =>
      simp only [List.append_assoc]
      exact .stopped also isWord gapBlank apart (refused.append blank)

/-! ### The reader -/

theorem readSources_of_refused {text : Text} {flaw : TableFlaw} (nonempty : text ≠ [])
    (refused : readCriteria (afterFirstWord text) = .error flaw) :
    readSources text = .stopped flaw := by
  rw [readSources, dif_neg nonempty]
  split
  · rename_i found same
    obtain rfl := Except.error.inj (refused.symm.trans same)
    rfl
  · rename_i criteria rest accepted
    cases refused.symm.trans accepted

/-- Between a word and a bracket there is a blank, or the bracket would belong to the
word. -/
theorem gap_ne_nil {rest gap : Text} (apart : ∀ symbol ∈ rest.head?, symbol.isBlank = true)
    (parts : rest = gap ++ trimStart rest)
    (bracket : (trimStart rest).head? = some (.char '[')) : gap ≠ [] := by
  rintro rfl
  rw [List.nil_append] at parts
  rw [← parts] at bracket
  exact absurd (apart _ bracket) (by decide)

/-- Text without a blank at its start is read as what it lists. -/
theorem of_readSources {text : Text} (edge : ∀ symbol ∈ text.head?, symbol.isBlank = false) :
    ListsSources text (readSources text).items (readSources text).flaw := by
  -- On the length: the reader goes on behind a word, and behind its block if there is one.
  induction size : text.length using Nat.strong_induction_on generalizing text with
  | _ size ih =>
    by_cases nonempty : text = []
    · subst nonempty
      rw [readSources, dif_pos rfl]
      exact .ended (List.forall_mem_nil _)
    · obtain ⟨word, rest, rfl, isWord, apart⟩ := exists_firstWord nonempty edge
      have behind := isWord.afterFirstWord apart
      have shorter := length_afterFirstWord_lt nonempty
      rw [size] at shorter
      obtain ⟨gap, gapBlank, parts⟩ := exists_trimStart rest
      rcases criteria_cases (trimStart rest) with
        unblocked | ⟨block, after, criteria, found, closed, valid⟩ | ⟨flaw, refused⟩
      · have accepted : readCriteria (afterFirstWord (word ++ rest)) =
            .ok ([], trimStart rest) := by
          rw [behind, readCriteria_of_other unblocked]
        have later := ih _ (behind ▸ shorter) (isBlank_head?_trimStart rest) rfl
        have whole := later.blanks_append gapBlank
        rw [← parts] at whole
        rw [readSources_of_readCriteria nonempty accepted, isWord.firstWord apart]
        exact .plain (List.forall_mem_nil _) isWord apart unblocked whole
      · have accepted : readCriteria (afterFirstWord (word ++ rest)) =
            .ok (criteria, trim after) := by
          rw [behind, found, readCriteria_of_block closed valid]
        have consumed := length_readCriteria_le accepted
        have later := ih _ (Nat.lt_of_le_of_lt consumed shorter) (isBlank_head?_trim after) rfl
        obtain ⟨first, last, firstBlank, lastBlank, around⟩ := exists_trim after
        have whole := (later.append_blanks lastBlank).blanks_append firstBlank
        rw [← around] at whole
        have nonemptyGap := gap_ne_nil apart parts (by rw [found]; rfl)
        rw [readSources_of_readCriteria nonempty accepted, isWord.firstWord apart, parts, found]
        exact .block (List.forall_mem_nil _) isWord gapBlank nonemptyGap closed valid whole
      · have nonemptyGap := gap_ne_nil apart parts refused.head?
        rw [readSources_of_refused nonempty (by rw [behind, readCriteria_of_refused refused])]
        have lists := @stopped [] word gap _ flaw (List.forall_mem_nil _) isWord gapBlank
          nonemptyGap refused
        rw [← parts] at lists
        exact lists

/-- Trimmed text is read as what the text lists. -/
theorem readSources_trim {text : Text} {sources : List Source} {flaw : Option TableFlaw}
    (lists : ListsSources text sources flaw) :
    readSources (trim text) = { items := sources, flaw := flaw } := by
  induction lists with
  | ended blank =>
      rw [trim_of_isBlank blank, readSources, dif_pos rfl]
      rfl
  | @plain blanks word rest sources flaw blank isWord apart unblocked later ih =>
      have stillApart : ∀ symbol ∈ (trimEnd rest).head?, symbol.isBlank = true :=
        fun symbol starts => apart symbol (head?_of_trimEnd starts)
      have stillUnblocked : (trim rest).head? ≠ some (.char '[') :=
        fun starts => unblocked (head?_of_trimEnd starts)
      have accepted : readCriteria (afterFirstWord (word ++ trimEnd rest)) =
          .ok ([], trim rest) := by
        rw [isWord.afterFirstWord stillApart, trimStart_trimEnd,
          readCriteria_of_other stillUnblocked]
      rw [trim_append blank, isWord.trim,
        readSources_of_readCriteria (List.append_ne_nil_of_left_ne_nil isWord.nonempty _) accepted,
        isWord.firstWord stillApart, ih]
  | @block blanks word gap block rest criteria sources flaw blank isWord gapBlank apart closed
      valid later ih =>
      have ended := @trimEnd_append_cons (.char ']') (by decide)
        (gap ++ .char '[' :: block) rest
      rw [List.append_assoc, List.append_assoc, List.cons_append, List.cons_append] at ended
      have stillApart := gapBlank.isBlank_head? apart
        (.char '[' :: (block ++ .char ']' :: Text.trimEnd rest))
      have accepted : readCriteria (afterFirstWord
          (word ++ (gap ++ .char '[' :: (block ++ .char ']' :: Text.trimEnd rest)))) =
            .ok (criteria, trim rest) := by
        rw [isWord.afterFirstWord stillApart, trimStart_append gapBlank]
        exact (readCriteria_of_block closed valid).trans (by rw [trim_trimEnd])
      rw [trim_append blank, isWord.trim, ended,
        readSources_of_readCriteria (List.append_ne_nil_of_left_ne_nil isWord.nonempty _) accepted,
        isWord.firstWord stillApart, ih]
  | @stopped blanks word gap behind flaw blank isWord gapBlank apart refused =>
      obtain ⟨others, starts⟩ := List.head?_eq_some_iff.mp refused.head?
      have ended : Text.trimEnd (gap ++ behind) = gap ++ Text.trimEnd behind := by
        rw [starts, trimEnd_append_cons (by decide)]
        exact congrArg (gap ++ ·) (trimEnd_append_cons (by decide) [] others).symm
      have stillApart := gapBlank.isBlank_head? apart (Text.trimEnd behind)
      rw [trim_append blank, isWord.trim, ended, readSources_of_refused]
      · rfl
      · exact List.append_ne_nil_of_left_ne_nil isWord.nonempty _
      · rw [isWord.afterFirstWord stillApart, trimStart_append gapBlank,
          refused.trimEnd.trimStart]
        exact readCriteria_of_refused refused.trimEnd

/-- What a text is read as, whatever blanks stand at its edges. -/
theorem iff_readSources_trim {text : Text} {sources : List Source} {flaw : Option TableFlaw} :
    ListsSources text sources flaw ↔
      readSources (trim text) = { items := sources, flaw := flaw } := by
  constructor
  · exact readSources_trim
  · intro read
    have lists := of_readSources (isBlank_head?_trim text)
    rw [read] at lists
    obtain ⟨first, last, firstBlank, lastBlank, around⟩ := exists_trim text
    rw [around]
    exact (lists.append_blanks lastBlank).blanks_append firstBlank

/-! ### The cut -/

/-- Text that stops at a flaw is cut before the source whose block is refused.  What stands
before the cut lists the same sources, and with the name of that source one more. -/
theorem exists_cut {text : Text} {sources : List Source} {flaw : TableFlaw}
    (stops : ListsSources text sources (some flaw)) :
    ∃ kept name gap behind, text = kept ++ (name ++ (gap ++ behind)) ∧
      IsWord name ∧ IsBlank gap ∧ gap ≠ [] ∧ RefusedBlock behind flaw ∧
      ListsSources kept sources none ∧
      ListsSources (kept ++ name) (sources ++ [Source.ofName name []]) none := by
  generalize found : some flaw = result at stops
  induction stops with
  | ended blank => cases found
  | @plain blanks word rest sources result blank isWord apart unblocked later ih =>
      obtain ⟨kept, name, gap, behind, rfl, isName, gapBlank, gapNonempty, refused, before,
        named⟩ := ih found
      refine ⟨blanks ++ (word ++ kept), name, gap, behind, ?_, isName, gapBlank, gapNonempty,
        refused, ?_, ?_⟩
      · simp only [List.append_assoc]
      · exact plain_of_prefix blank isWord apart unblocked (List.prefix_append _ _) before
      · rw [← List.append_assoc] at apart unblocked
        rw [List.append_assoc, List.append_assoc]
        exact plain_of_prefix blank isWord apart unblocked (List.prefix_append _ _) named
  | @block blanks word gap block rest criteria sources result blank isWord gapBlank apart closed
      valid later ih =>
      obtain ⟨kept, name, space, behind, rfl, isName, spaceBlank, spaceNonempty, refused,
        before, named⟩ := ih found
      refine ⟨blanks ++ (word ++ (gap ++ .char '[' :: (block ++ .char ']' :: kept))), name,
        space, behind, ?_, isName, spaceBlank, spaceNonempty, refused, ?_, ?_⟩
      · simp only [List.append_assoc, List.cons_append]
      · exact .block blank isWord gapBlank apart closed valid before
      · simp only [List.append_assoc, List.cons_append]
        exact .block blank isWord gapBlank apart closed valid named
  | @stopped blanks word gap behind flaw blank isWord gapBlank apart refused =>
      obtain rfl := Option.some.inj found
      refine ⟨blanks, word, gap, behind, rfl, isWord, gapBlank, apart, refused, .ended blank, ?_⟩
      have alone := @plain blanks word [] [] none blank isWord nofun
        (by decide) (.ended (List.forall_mem_nil _))
      rwa [List.append_nil] at alone

end ListsSources

end ResolverChoice
