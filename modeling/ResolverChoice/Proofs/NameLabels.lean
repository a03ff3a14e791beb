/-
Names by their labels.

The tests on names compare whole texts and their ends.  Domain names are about labels, the
pieces between the dots, and the tests are right about them: every ending that is tested
begins with a dot, so what it ends in are whole labels, and where a name may consist of these
labels alone, it is tested apart.
-/

import ResolverChoice.Proofs.LookupEffect
import ResolverChoice.Proofs.OwnName

namespace ResolverChoice

/-! ### Pieces -/

namespace Text

variable {mark : Symbol} {text word : Text} {parts : List Text}

theorem pieces_eq_splitOn (mark : Symbol) (text : Text) :
    pieces (· == mark) text = text.splitOn mark := by
  induction text with
  | nil => rfl
  | cons symbol rest ih =>
      rw [List.splitOn_cons_eq_if_modifyHead, pieces, ih]
      split
      · rfl
      · cases found : List.splitOn mark rest with
        | nil => exact absurd found (List.splitOn_ne_nil mark rest)
        | cons piece others => rfl

theorem pieces_append (mark : Symbol) (first second : Text) :
    pieces (· == mark) (first ++ mark :: second) =
      pieces (· == mark) first ++ pieces (· == mark) second := by
  simp only [pieces_eq_splitOn]
  exact List.splitOn_append_cons_self first second

theorem intercalate_append (mark : Symbol) {first second : List Text} (begun : first ≠ [])
    (continued : second ≠ []) :
    [mark].intercalate (first ++ second) =
      [mark].intercalate first ++ mark :: [mark].intercalate second := by
  induction first with
  | nil => exact absurd rfl begun
  | cons part rest ih =>
      rw [List.cons_append,
        List.intercalate_cons_of_ne_nil (List.append_ne_nil_of_right_ne_nil rest continued)]
      by_cases last : rest = []
      · rw [last, List.nil_append, List.intercalate_singleton, List.append_assoc,
          List.singleton_append]
      · rw [ih last, List.intercalate_cons_of_ne_nil last, List.append_assoc, List.append_assoc,
          List.append_assoc]

/-- A text has these pieces at its end if it is made of them, or ends in them behind a mark. -/
theorem suffix_pieces_iff (nonempty : parts ≠ []) (unmarked : ∀ part ∈ parts, mark ∉ part) :
    parts <:+ pieces (· == mark) text ↔
      text = [mark].intercalate parts ∨ mark :: [mark].intercalate parts <:+ text := by
  have again : pieces (· == mark) ([mark].intercalate parts) = parts := by
    rw [pieces_eq_splitOn]
    exact List.splitOn_intercalate mark unmarked nonempty
  constructor
  · rintro ⟨front, cut⟩
    have whole : text = [mark].intercalate (front ++ parts) := by
      rw [cut, pieces_eq_splitOn, List.intercalate_splitOn]
    by_cases alone : front = []
    · left
      rw [whole, alone, List.nil_append]
    · right
      refine ⟨[mark].intercalate front, ?_⟩
      rw [whole, intercalate_append mark alone nonempty]
  · rintro (rfl | ⟨start, rfl⟩)
    · simp only [again, List.suffix_refl]
    · rw [pieces_append, again]
      exact List.suffix_append _ parts

/-- A text ends in a word behind a mark if the word is its last piece, and not its only one. -/
theorem mark_cons_suffix_iff (unmarked : mark ∉ word) :
    mark :: word <:+ text ↔
      2 ≤ (pieces (· == mark) text).length ∧
        (pieces (· == mark) text).getLast? = some word := by
  have alone : pieces (· == mark) word = [word] := by
    rw [pieces_eq_splitOn, List.splitOn_eq_singleton unmarked]
  constructor
  · rintro ⟨start, rfl⟩
    have before := List.length_pos_of_ne_nil (pieces_ne_nil (· == mark) start)
    rw [pieces_append, alone, List.length_append, List.length_singleton, List.getLast?_concat]
    exact ⟨by omega, rfl⟩
  · rintro ⟨several, last⟩
    have ends := List.singleton_suffix_iff_getLast?_eq_some.mpr last
    rw [suffix_pieces_iff (List.cons_ne_nil word []) (List.forall_mem_singleton.mpr unmarked),
      List.intercalate_singleton] at ends
    rcases ends with rfl | behind
    · rw [alone] at several
      exact absurd several (Nat.not_succ_le_self 1)
    · exact behind

end Text

/-! ### Names -/

namespace HostName

/-- A name that is a word or ends in it behind a dot has the labels of the word at its end. -/
theorem equals_or_endsIn_iff {word : String} {final : List Text} (nonempty : final ≠ [])
    (undotted : ∀ label ∈ final, .char '.' ∉ label)
    (spelled : Text.ofString word = [.char '.'].intercalate final)
    {ending : String} (dotted : Text.ofString ending = .char '.' :: Text.ofString word)
    (name : Text) :
    equals name word = true ∨ endsIn name ending = true ↔ final <:+ labels name := by
  unfold equals endsIn labels
  rw [Text.suffix_pieces_iff nonempty undotted, beq_iff_eq, List.isSuffixOf_iff_suffix, dotted,
    spelled]

theorem isLoopback_iff (name : Text) :
    isLoopback name = true ↔
      (labels name).getLast? = some (Text.ofString "localhost") ∨
        [Text.ofString "localhost", Text.ofString "localdomain"] <:+ labels name := by
  have one := @equals_or_endsIn_iff "localhost" [Text.ofString "localhost"]
    (List.cons_ne_nil _ _) (by decide) (by decide) ".localhost" (by decide) name
  have two := @equals_or_endsIn_iff "localhost.localdomain"
    [Text.ofString "localhost", Text.ofString "localdomain"]
    (List.cons_ne_nil _ _) (by decide) (by decide) ".localhost.localdomain" (by decide) name
  unfold isLoopback
  rw [← List.singleton_suffix_iff_getLast?_eq_some, ← one, ← two, Bool.or_eq_true,
    Bool.or_eq_true, Bool.or_eq_true, or_assoc, or_or_or_comm]

/-- The labels without the empty one behind a dot at the end. -/
def properLabels (name : Text) : List Text :=
  if 2 ≤ (labels name).length ∧ (labels name).getLast? = some [] then (labels name).dropLast
  else labels name

theorem labels_withoutFinalDot (name : Text) :
    labels (withoutFinalDot name) = properLabels name := by
  have complete : 2 ≤ (labels name).length ∧ (labels name).getLast? = some [] ↔
      (Text.foldAscii name).getLast? = some (.char '.') := by
    unfold labels
    rw [← Text.mark_cons_suffix_iff List.not_mem_nil]
    exact List.singleton_suffix_iff_getLast?_eq_some
  unfold properLabels
  rw [if_congr complete rfl rfl]
  unfold labels
  rw [← withoutFinalDot_foldAscii]
  split
  · rename_i dotted
    obtain ⟨front, cut⟩ := List.getLast?_eq_some_iff.mp dotted
    have behind := Text.pieces_append (.char '.') front []
    rw [cut, withoutFinalDot_concat, behind]
    exact List.dropLast_concat.symm
  · rename_i incomplete
    unfold withoutFinalDot
    rw [if_neg incomplete]

/-- What is reserved for multicast lookups are the names below `local`, not `local` alone. -/
def IsBelowLocal (name : Text) : Prop :=
  2 ≤ (properLabels name).length ∧ (properLabels name).getLast? = some (Text.ofString "local")

instance (name : Text) : Decidable (IsBelowLocal name) :=
  inferInstanceAs (Decidable (_ ∧ _))

theorem isMulticast_withoutFinalDot_iff (host : Text) :
    isMulticast (withoutFinalDot host) = true ↔ IsBelowLocal host := by
  unfold IsBelowLocal
  rw [← labels_withoutFinalDot]
  unfold labels
  rw [← Text.mark_cons_suffix_iff (by decide)]
  exact List.isSuffixOf_iff_suffix

end HostName

/-! ### Lookups -/

/-- Nothing but the labels of the name can keep the lookup from the table. -/
structure DependsOnLabels (profile : Profile) (host : Text) : Prop where
  family : profile.family ∉ [.windows, .plan9, .android, .openbsd]
  notForced : profile.forcesNative = false
  understood : profile.settings.unknownOption = false
  unescaped : .char '\\' ∉ host
  zoneless : .char '%' ∉ host

theorem DependsOnLabels.consultsTable_iff {profile : Profile} {host : Text}
    (depends : DependsOnLabels profile host) :
    ConsultsTable profile host ↔ ¬HostName.IsBelowLocal host := by
  rw [← HostName.isMulticast_withoutFinalDot_iff, Bool.not_eq_true]
  constructor
  · exact fun consults => consults.notMulticast
  · intro free
    by_contra settled
    cases needsNoTable_iff.mpr settled with
    | family listed => exact depends.family listed
    | forced native => cases native.symm.trans depends.notForced
    | settings unknown => cases unknown.symm.trans depends.understood
    | escape marked => exact marked.elim depends.unescaped depends.zoneless
    | multicast parts reserved =>
        cases ((HostName.endsIn_iff (by decide) _).mpr ⟨_, _, parts, reserved⟩).symm.trans free

theorem TableCache.Course.readings_ne_nil {cache later : TableCache} {machine : Machine}
    {readings : List Seconds} {events : List Event} {table : SwitchTable}
    (course : Course cache machine readings events table later) : readings ≠ [] := by
  cases course with
  | served held fresh =>
      rintro rfl
      cases fresh
  | kept held stale current => exact List.concat_ne_nil _ _
  | reread outdated => exact List.concat_ne_nil _ _

namespace ResolverState

section

variable {profile : Profile} {host : Text}

/-- A lookup that consults the table reads the clock at least. -/
theorem not_touchedLike_of_consults (consults : ConsultsTable profile host)
    (options : Option LookupOptions) (state : ResolverState) :
    ¬((route profile host options).run state).2.TouchedLike state := by
  intro untouched
  have touched := (touchedLike_consulted profile host options state).machine
  rw [untouched.machine, consulted_of_consults consults, run_systemTable] at touched
  obtain ⟨readings, events, trace, course⟩ := state.tables.lookup_course state.machine
  obtain ⟨first, others, rfl⟩ := List.exists_cons_of_ne_nil course.readings_ne_nil
  have same := congrArg Machine.trace touched
  change state.machine.trace.filter _ = List.filter _ _ at same
  rw [trace, List.filter_append] at same
  have unread := List.self_eq_append_right.mp same
  have read : Event.clockRead first ∈ ((first :: others).map Event.clockRead ++ events).filter
      (fun event => event.notice?.isNone) :=
    List.mem_filter.mpr ⟨List.mem_cons_self, rfl⟩
  rw [unread] at read
  cases read

theorem fst_run_route_of_settled (settled : ¬ConsultsTable profile host)
    (notOpenbsd : profile.family ≠ .openbsd) (options : Option LookupOptions)
    (state : ResolverState) :
    ((route profile host options).run state).1 = fallbackRoute profile options := by
  rw [run_route]
  unfold decideRoute
  rcases routeBeforeTable?_eq_fallback_or_none notOpenbsd (fallbackRoute profile options) host with
    early | undecided
  · rw [early, Option.getD_some]
  · exact absurd ((routeBeforeTable?_eq_none_iff _ _ _).mp undecided) settled

end

/-- Names that a `myhostname` source answers for and names that are reserved for multicast
lookups are told by their labels, however many dots there are and wherever they stand. -/
theorem names_tested_by_labels :
    (∀ name, HostName.isLoopback name = true ↔
      (HostName.labels name).getLast? = some (Text.ofString "localhost") ∨
        [Text.ofString "localhost", Text.ofString "localdomain"] <:+ HostName.labels name) ∧
    ∀ profile host, DependsOnLabels profile host → ∀ options state,
      ((route profile host options).run state).1 = fallbackRoute profile options ∧
          ((route profile host options).run state).2.TouchedLike state ↔
        HostName.IsBelowLocal host := by
  refine ⟨HostName.isLoopback_iff, ?_⟩
  intro profile host depends options state
  have settled_iff := not_iff_comm.mp depends.consultsTable_iff.symm
  constructor
  · rintro ⟨_, untouched⟩
    rw [← settled_iff]
    exact fun consults => not_touchedLike_of_consults consults options state untouched
  · intro reserved
    have settled := settled_iff.mpr reserved
    have touched := touchedLike_consulted profile host options state
    rw [consulted_of_settled settled] at touched
    refine ⟨fst_run_route_of_settled settled ?_ options state, touched⟩
    intro openbsd
    apply depends.family
    rw [openbsd]
    decide

/-- The name `local` is no name below it, also with a dot at its end. -/
theorem dotted_names_by_labels :
    HostName.isLoopback (Text.ofString "a..LocalHost.localdomain") = true ∧
      HostName.isLoopback (Text.ofString "notlocalhost") = false ∧
      ((route {} (Text.ofString ".Local.") none).run askingItself).1 = .native ∧
      ((route {} (Text.ofString ".Local.") none).run askingItself).2.TouchedLike askingItself ∧
      ¬(((route {} (Text.ofString "local.") none).run askingItself).1 = .native ∧
        ((route {} (Text.ofString "local.") none).run askingItself).2.TouchedLike
          askingItself) := by
  have below : DependsOnLabels {} (Text.ofString ".Local.") :=
    ⟨by decide, rfl, rfl, by decide, by decide⟩
  have alone : DependsOnLabels {} (Text.ofString "local.") :=
    ⟨by decide, rfl, rfl, by decide, by decide⟩
  refine ⟨?_, ?_, ?_⟩
  · exact (names_tested_by_labels.1 _).mpr (by decide)
  · exact Bool.eq_false_iff.mpr fun loops =>
      absurd ((names_tested_by_labels.1 _).mp loops) (by decide)
  · obtain ⟨chosen, untouched⟩ := (names_tested_by_labels.2 _ _ below none askingItself).mpr
      (by decide)
    refine ⟨chosen, untouched, ?_⟩
    intro treated
    exact absurd ((names_tested_by_labels.2 _ _ alone none askingItself).mp treated) (by decide)

end ResolverState

end ResolverChoice
