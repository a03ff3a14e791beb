/-
Criteria that pass for neutral, and what they change.

Only a `return` in the last place of a block can pass for neutral and still differ from
the default.  It ends the lookup early after the status that it names.  That makes a
difference exactly when a kind that has not been asked yet is still to come.
-/

import ResolverChoice.Proofs.HostRoute

namespace ResolverChoice

/-! ### A single criterion -/

theorem Status.eq_of_ofWord?_eq_some {word : Text} {status : Status}
    (named : Status.ofWord? word = some status) : word = status.word := by
  have same := List.find?_some named
  exact (eq_of_beq same).symm

theorem Action.ofWord_word (action : Action) :
    (if action.word = Action.stop.word then Action.stop else .goOn) = action := by
  cases action <;> decide

namespace Criterion

variable {criterion : Criterion} {kind : SourceKind} {last : Bool} {status : Status}

theorem status_eq_of_concerns (neutral : criterion.isNeutral kind last = true)
    (concerns : criterion.concerns status = true) : criterion.status = status.word := by
  unfold isNeutral at neutral
  unfold Criterion.concerns at concerns
  cases named : Status.ofWord? criterion.status with
  | none => rw [named] at neutral; cases neutral
  | some word =>
      rw [named] at neutral concerns
      simp only [Bool.and_eq_true, Bool.not_eq_true'] at neutral
      simp only [neutral.1, Bool.false_eq_true, if_false, beq_iff_eq] at concerns
      rw [Status.eq_of_ofWord?_eq_some named, concerns]

theorem action_eq_of_concerns (neutral : criterion.isNeutral kind last = true)
    (concerns : criterion.concerns status = true) :
    (last = true ∧ criterion.action = Action.stop.word) ∨
      criterion.action = (kind.defaultAction status).word := by
  have same := status_eq_of_concerns neutral concerns
  have named : Status.ofWord? status.word = some status := by cases status <;> decide
  unfold isNeutral at neutral
  rw [same, named] at neutral
  simp only [Bool.and_eq_true, Bool.or_eq_true, beq_iff_eq] at neutral
  exact neutral.2

theorem exists_concerns (neutral : criterion.isNeutral kind last = true) :
    ∃ status, criterion.concerns status = true := by
  unfold isNeutral at neutral
  cases named : Status.ofWord? criterion.status with
  | none => rw [named] at neutral; cases neutral
  | some status =>
      rw [named] at neutral
      simp only [Bool.and_eq_true, Bool.not_eq_true'] at neutral
      refine ⟨status, ?_⟩
      simp only [Criterion.concerns, named, neutral.1, Bool.false_eq_true, if_false,
        beq_self_eq_true]

theorem isNeutral_last (neutral : criterion.isNeutral kind false = true) :
    criterion.isNeutral kind true = true := by
  unfold isNeutral at neutral ⊢
  cases named : Status.ofWord? criterion.status with
  | none => rw [named] at neutral; cases neutral
  | some word =>
      rw [named] at neutral
      simp only [Bool.false_and, Bool.false_or, Bool.and_eq_true] at neutral
      simp only [neutral.1, neutral.2, Bool.or_true, Bool.and_true]

end Criterion

/-! ### A block -/

namespace Source

theorem isNeutralBlock_append (kind : SourceKind) (others : List Criterion)
    (final : Criterion) :
    isNeutralBlock kind (others ++ [final]) =
      (others.all (fun criterion => criterion.isNeutral kind false) &&
        final.isNeutral kind true) := by
  induction others with
  | nil => simp only [List.nil_append, isNeutralBlock, List.all_nil, Bool.true_and]
  | cons criterion rest ih =>
      have split : isNeutralBlock kind (criterion :: (rest ++ [final])) =
          (criterion.isNeutral kind false && isNeutralBlock kind (rest ++ [final])) := by
        cases rest <;> rfl
      rw [List.cons_append, split, ih, List.all_cons, Bool.and_assoc]

/-- The source ends the lookup after some failure, where the default goes on. -/
def endsEarly (source : Source) : Bool :=
  source.criteria.getLast?.any (fun final =>
    final.action == Action.stop.word && final.status != Status.success.word)

variable {source : Source} {status : Status}

/-- A neutral block is empty, or has a last criterion that is held to less than the
others. -/
theorem block_cases (neutral : source.hasNeutralCriteria = true) :
    source.criteria = [] ∨ ∃ others final, source.criteria = others ++ [final] ∧
      (∀ criterion ∈ others, criterion.isNeutral source.kind false = true) ∧
        final.isNeutral source.kind true = true := by
  rcases List.eq_nil_or_concat source.criteria with empty | ⟨others, final, parts⟩
  · exact Or.inl empty
  · rw [List.concat_eq_append] at parts
    rw [hasNeutralCriteria, parts, isNeutralBlock_append, Bool.and_eq_true,
      List.all_eq_true] at neutral
    exact Or.inr ⟨others, final, parts, neutral⟩

theorem endsEarly_of_final {others : List Criterion} {final : Criterion}
    (parts : source.criteria = others ++ [final]) :
    source.endsEarly =
      (final.action == Action.stop.word && final.status != Status.success.word) := by
  simp only [endsEarly, parts, List.getLast?_append, List.getLast?_singleton, Option.some_or,
    Option.any_some]

theorem actionAfter_of_forall {expected : Action}
    (agreed : ∀ criterion ∈ source.criteria, criterion.concerns status = true →
      criterion.action = expected.word)
    (default : source.kind.defaultAction status = expected) :
    source.actionAfter status = expected := by
  unfold actionAfter
  cases last : (source.criteria.filter (fun criterion =>
      criterion.concerns status)).getLast? with
  | none => exact default
  | some criterion =>
      obtain ⟨listed, concerns⟩ := List.mem_filter.mp (List.mem_of_getLast? last)
      simp only [agreed criterion listed concerns, Action.ofWord_word]

theorem actionAfter_success (neutral : source.hasNeutralCriteria = true) :
    source.actionAfter .success = .stop := by
  refine actionAfter_of_forall ?_ rfl
  intro criterion listed concerns
  have atLast : criterion.isNeutral source.kind true = true := by
    rcases block_cases neutral with empty | ⟨others, final, parts, plain, last⟩
    · rw [empty] at listed
      cases listed
    · rw [parts, List.mem_append, List.mem_singleton] at listed
      rcases listed with earlier | rfl
      · exact Criterion.isNeutral_last (plain criterion earlier)
      · exact last
  rcases Criterion.action_eq_of_concerns atLast concerns with ⟨_, stops⟩ | default
  · exact stops
  · exact default

theorem actionAfter_of_not_endsEarly (neutral : source.hasNeutralCriteria = true)
    (patient : source.endsEarly = false) (status : Status) :
    source.actionAfter status = source.kind.defaultAction status := by
  refine actionAfter_of_forall ?_ rfl
  intro criterion listed concerns
  -- All but the last criterion agree with the default word for word.
  rcases block_cases neutral with empty | ⟨others, final, parts, plain, last⟩
  · rw [empty] at listed
    cases listed
  · rw [parts, List.mem_append, List.mem_singleton] at listed
    rcases listed with earlier | rfl
    · have default := Criterion.action_eq_of_concerns (plain criterion earlier) concerns
      simp only [Bool.false_eq_true, false_and, false_or] at default
      exact default
    · rcases Criterion.action_eq_of_concerns last concerns with ⟨_, stops⟩ | default
      · -- A final `return` that does not end early can only be the one after a success.
        have named := Criterion.status_eq_of_concerns last concerns
        rw [endsEarly_of_final parts, stops, named, beq_self_eq_true, Bool.true_and,
          bne_eq_false_iff_eq] at patient
        cases status with
        | success => exact stops
        | notFound => exact absurd patient (by decide)
        | unavailable => exact absurd patient (by decide)
        | tryAgain => exact absurd patient (by decide)
      · exact default

theorem exists_stop_of_endsEarly (neutral : source.hasNeutralCriteria = true)
    (early : source.endsEarly = true) :
    ∃ status, status ≠ .success ∧ source.actionAfter status = .stop := by
  rcases block_cases neutral with empty | ⟨others, final, parts, _, last⟩
  · rw [endsEarly, empty] at early
    cases early
  · obtain ⟨status, concerns⟩ := Criterion.exists_concerns last
    have named := Criterion.status_eq_of_concerns last concerns
    rw [endsEarly_of_final parts, named, Bool.and_eq_true, beq_iff_eq, bne_iff_ne] at early
    refine ⟨status, ?_, ?_⟩
    · rintro rfl
      exact early.2 rfl
    · simp only [actionAfter, parts, List.filter_append, List.filter_cons, concerns, if_true,
        List.filter_nil, List.getLast?_append, List.getLast?_singleton, Option.some_or, early.1]

end Source

/-! ### A list -/

theorem SourceKind.defaultAction_of_failure (kind : SourceKind) {status : Status}
    (failed : status ≠ .success) : kind.defaultAction status = .goOn := by
  cases status with
  | success => exact absurd rfl failed
  | notFound => rfl
  | unavailable => rfl
  | tryAgain => rfl

/-- Of two kinds only one differs from a given one. -/
private theorem kind_eq_of_ne {kind one another : SourceKind}
    (asked : kind = .files ∨ kind = .dns) (askedOne : one = .files ∨ one = .dns)
    (askedAnother : another = .files ∨ another = .dns)
    (left : one ≠ kind) (right : another ≠ kind) : one = another := by
  rcases asked with rfl | rfl
  · rw [askedOne.resolve_left left, askedAnother.resolve_left right]
  · rw [askedOne.resolve_right left, askedAnother.resolve_right right]

private theorem skips_nothing {kind : SourceKind} (asked : kind = .files ∨ kind = .dns) :
    kind ≠ .other ∧ kind ≠ .myhostname ∧ kind ≠ .mdns := by
  rcases asked with rfl | rfl <;> decide

/-- A source ends the lookup early, and a kind that no source up to it has stands after
it. -/
def HidesKind (sources : List Source) : Prop :=
  ∃ before source after later, sources = before ++ source :: after ∧
    source.endsEarly = true ∧ (∀ earlier ∈ before, earlier.kind = source.kind) ∧
      later ∈ after ∧ later.kind ≠ source.kind

section

variable {sources : List Source}
  (neutral : ∀ source ∈ sources, source.hasNeutralCriteria = true)

include neutral

/-- The hidden kind finds the name, and the other fails in the way that ends the lookup. -/
theorem exists_difference_of_hidesKind (hides : HidesKind sources) :
    ∃ statusOf, Source.answering? statusOf sources ≠
      Source.answering? statusOf (sources.map Source.withoutCriteria) := by
  obtain ⟨before, source, after, later, rfl, early, same, listed, other⟩ := hides
  have member : source ∈ before ++ source :: after :=
    List.mem_append_right before List.mem_cons_self
  obtain ⟨status, failed, stops⟩ :=
    Source.exists_stop_of_endsEarly (neutral source member) early
  refine ⟨fun kind => if kind = source.kind then status else .success, ?_⟩
  have hidden : Source.answering? (fun kind => if kind = source.kind then status else .success)
      (before ++ source :: after) = none := by
    apply Source.answering?_eq_none_of_stop
    · intro earlier inBefore
      rw [if_pos (same earlier inBefore)]
      exact failed
    · rw [if_pos rfl]
      exact stops
    · rw [if_pos rfl]
      exact failed
  rw [hidden, Source.answering?_map_withoutCriteria]
  intro nobody
  have laterListed : later.kind ∈ (before ++ source :: after).map Source.kind :=
    List.mem_map_of_mem (List.mem_append_right before (List.mem_cons_of_mem source listed))
  apply List.find?_eq_none.mp nobody.symm later.kind laterListed
  simp only [finds, if_neg other, beq_self_eq_true]

/-- Before a source that finds the name, no source of the other kind ends the lookup. -/
theorem goOn_of_not_hidesKind {statusOf : SourceKind → Status}
    (asked : ∀ source ∈ sources, source.kind = .files ∨ source.kind = .dns)
    (visible : ¬HidesKind sources) {before after : List Source} {source : Source}
    (parts : sources = before ++ source :: after)
    (found : statusOf source.kind = .success)
    (unfound : ∀ earlier ∈ before, statusOf earlier.kind ≠ .success) :
    ∀ earlier ∈ before, earlier.actionAfter (statusOf earlier.kind) = .goOn := by
  intro earlier inBefore
  have inSources {other : Source} (member : other ∈ before) : other ∈ sources := by
    rw [parts]
    exact List.mem_append_left _ member
  have differs {other : Source} (member : other ∈ before) : other.kind ≠ source.kind := by
    intro equal
    apply unfound other member
    rw [equal]
    exact found
  have patient : earlier.endsEarly = false := by
    rw [Bool.eq_false_iff]
    intro early
    obtain ⟨first, rest, split⟩ := List.append_of_mem inBefore
    apply visible
    refine ⟨first, earlier, rest ++ source :: after, source, ?_, early, ?_, ?_, ?_⟩
    · rw [parts, split, List.append_assoc, List.cons_append]
    · intro other inFirst
      have member : other ∈ before := by
        rw [split]
        exact List.mem_append_left _ inFirst
      have target : source ∈ sources := by
        rw [parts]
        exact List.mem_append_right before List.mem_cons_self
      exact kind_eq_of_ne (asked source target) (asked other (inSources member))
        (asked earlier (inSources inBefore)) (differs member) (differs inBefore)
    · exact List.mem_append_right rest List.mem_cons_self
    · exact (differs inBefore).symm
  rw [Source.actionAfter_of_not_endsEarly (neutral earlier (inSources inBefore)) patient]
  exact SourceKind.defaultAction_of_failure _ (unfound earlier inBefore)

theorem answering?_eq_of_not_hidesKind
    (asked : ∀ source ∈ sources, source.kind = .files ∨ source.kind = .dns)
    (visible : ¬HidesKind sources) (statusOf : SourceKind → Status) :
    Source.answering? statusOf sources =
      Source.answering? statusOf (sources.map Source.withoutCriteria) := by
  rw [Source.answering?_map_withoutCriteria, List.find?_map]
  cases search : sources.find? (finds statusOf ∘ Source.kind) with
  | none =>
      cases answered : Source.answering? statusOf sources with
      | none => rfl
      | some kind =>
          obtain ⟨listed, found⟩ := Source.finds_of_answering?_eq_some answered
          obtain ⟨source, member, rfl⟩ := List.mem_map.mp listed
          exact absurd found (List.find?_eq_none.mp search source member)
  | some source =>
      obtain ⟨found, before, after, parts, unfound⟩ := List.find?_eq_some_iff_append.mp search
      have success : statusOf source.kind = .success := eq_of_beq found
      have failures : ∀ earlier ∈ before, statusOf earlier.kind ≠ .success := by
        intro earlier member
        have refused := unfound earlier member
        rw [Bool.not_eq_true'] at refused
        exact finds_eq_false_iff.mp refused
      have passed := goOn_of_not_hidesKind neutral asked visible parts success failures
      have member : source ∈ sources := by
        rw [parts]
        exact List.mem_append_right before List.mem_cons_self
      rw [parts, Source.answering?_append_of_goOn _ passed]
      simp only [Source.answering?, success, Source.actionAfter_success (neutral source member),
        if_true, Option.map_some]

theorem answering?_eq_iff_not_hidesKind
    (asked : ∀ source ∈ sources, source.kind = .files ∨ source.kind = .dns) :
    (∀ statusOf, Source.answering? statusOf sources =
      Source.answering? statusOf (sources.map Source.withoutCriteria)) ↔
        ¬HidesKind sources := by
  constructor
  · intro same hides
    obtain ⟨statusOf, different⟩ := exists_difference_of_hidesKind neutral hides
    exact different (same statusOf)
  · intro visible
    exact answering?_eq_of_not_hidesKind neutral asked visible

theorem exists_route_of_neutral (nonempty : sources ≠ [])
    (asked : ∀ source ∈ sources, source.kind = .files ∨ source.kind = .dns)
    (allowsMulticast : Bool) (host : Text) (machine : Machine) :
    ∃ route, routeOfSources? allowsMulticast host machine.ownHostName sources = some route ∧
      route.kinds? = some (tallyOf sources).kinds := by
  have certain : ¬LeavesDoubt allowsMulticast host machine.hostName sources := by
    intro doubt
    cases doubt with
    | unknownKind listed kind => exact (skips_nothing (asked _ listed)).1 kind
    | changedCriteria listed kind changed =>
        rw [neutral _ listed] at changed
        cases changed
    | ownName listed kind own => exact (skips_nothing (asked _ listed)).2.1 kind
    | multicast listed kind allowed => exact (skips_nothing (asked _ listed)).2.2 kind
    | nothingToAsk absent =>
        obtain ⟨source, rest, parts⟩ := List.exists_cons_of_ne_nil nonempty
        have member : source ∈ sources := by rw [parts]; exact List.mem_cons_self
        rcases asked source member with files | dns
        · exact (absent source member).1 files
        · exact (absent source member).2 dns
  have found := routeOfSources?_eq_some_of_no_doubt certain
  exact ⟨_, found, (kinds?_of_routeOfSources? found).1⟩

end

/-! ### What passing for neutral is worth -/

/-- For files and name servers whose criteria all pass for neutral, the criteria change
no outcome, and the route has the meaning of the list with its criteria, exactly when no
kind is hidden. -/
theorem neutral_criteria_harmless_iff {sources : List Source} (nonempty : sources ≠ [])
    (asked : ∀ source ∈ sources, source.kind = .files ∨ source.kind = .dns)
    (neutral : ∀ source ∈ sources, source.hasNeutralCriteria = true) :
    ((∀ statusOf, Source.answering? statusOf sources =
        Source.answering? statusOf (sources.map Source.withoutCriteria)) ↔
      ¬HidesKind sources) ∧
    ∀ allowsMulticast host (machine : Machine), ∃ route kinds,
      routeOfSources? allowsMulticast host machine.ownHostName sources = some route ∧
        route.kinds? = some kinds ∧
          ((∀ statusOf, Source.answering? statusOf sources = kinds.find? (finds statusOf)) ↔
            ¬HidesKind sources) := by
  have exactly := answering?_eq_iff_not_hidesKind neutral asked
  refine ⟨exactly, ?_⟩
  intro allowsMulticast host machine
  obtain ⟨route, found, kinds⟩ :=
    exists_route_of_neutral neutral nonempty asked allowsMulticast host machine
  refine ⟨route, _, found, kinds, ?_⟩
  rw [← exactly]
  have meaning (statusOf : SourceKind → Status) :
      Source.answering? statusOf (sources.map Source.withoutCriteria) =
        (tallyOf sources).kinds.find? (finds statusOf) := by
    apply answering?_eq_find?_kinds_tallyOf
    intro source member ignored
    rcases asked source member with kind | kind <;> rw [kind] at ignored <;> cases ignored
  simp only [meaning]

/-- Files that end the lookup when they do not have the name. -/
def impatientFiles : Source :=
  .ofName (Text.ofString "files") [⟨false, Status.notFound.word, Action.stop.word⟩]

def plainServers : Source :=
  .ofName (Text.ofString "dns") []

/-- In the last place the early end hides nothing. -/
theorem neutral_criteria_harmless_at_end :
    (∀ source ∈ [plainServers, impatientFiles], source.hasNeutralCriteria = true) ∧
    ∀ statusOf, Source.answering? statusOf [plainServers, impatientFiles] =
      Source.answering? statusOf
        ([plainServers, impatientFiles].map Source.withoutCriteria) := by
  refine ⟨by decide, ?_⟩
  refine (neutral_criteria_harmless_iff (List.cons_ne_nil _ _) (by decide) (by decide)).1.mpr ?_
  rintro ⟨before, source, after, later, parts, early, _, listed, _⟩
  rcases before with _ | ⟨first, _ | ⟨second, rest⟩⟩
  · simp only [List.nil_append, List.cons.injEq] at parts
    rw [← parts.1] at early
    exact absurd early (by decide)
  · simp only [List.cons_append, List.nil_append, List.cons.injEq] at parts
    rw [← parts.2.2] at listed
    cases listed
  · simp only [List.cons_append, List.cons.injEq, List.nil_eq, List.append_eq_nil_iff,
      List.cons_ne_nil, and_false] at parts

/-- In the first place it keeps the name servers from being asked.  The criteria pass for
neutral all the same, and the route goes on to the name servers. -/
theorem neutral_criteria_not_harmless :
    (∀ source ∈ [impatientFiles, plainServers],
      (source.kind = .files ∨ source.kind = .dns) ∧ source.hasNeutralCriteria = true) ∧
    routeOfSources? false (Text.ofString "x.com") (.ok (Text.ofString "myhostname"))
      [impatientFiles, plainServers] = some .filesThenDns ∧
    ∃ statusOf, Source.answering? statusOf [impatientFiles, plainServers] ≠
      Source.answering? statusOf
        ([impatientFiles, plainServers].map Source.withoutCriteria) := by
  refine ⟨by decide, by decide, fun kind => if kind = .files then .notFound else .success, ?_⟩
  decide

end ResolverChoice
