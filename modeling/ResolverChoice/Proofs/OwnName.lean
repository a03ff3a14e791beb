/-
The machine's own name as a host.

Where the machine is asked for its name, a host of that name leaves a doubt, so it leads to
the fallback whatever else is listed.  But only the host is freed of a dot at its end before
the two are compared.  A machine whose own name ends in a dot does not recognize that name:
the lookup goes as it would on a machine that is called something else.
-/

import ResolverChoice.Proofs.NameSpelling

namespace ResolverChoice

variable {profile : Profile} {host name : Text}

/-! ### Doubts and the fallback -/

/-- Except on OpenBSD, what is decided without the table is decided by the fallback. -/
theorem routeBeforeTable?_eq_fallback_or_none (notOpenbsd : profile.family ≠ .openbsd)
    (fallback : Route) (host : Text) :
    routeBeforeTable? profile fallback host = some fallback ∨
      routeBeforeTable? profile fallback host = none := by
  unfold routeBeforeTable?
  rw [beq_eq_false_iff_ne.mpr notOpenbsd, if_neg Bool.false_ne_true]
  split
  · exact Or.inl rfl
  · split
    · exact Or.inl rfl
    · split
      · exact Or.inl rfl
      · split
        · exact Or.inl rfl
        · exact Or.inr rfl

theorem decideRoute_of_doubt {machine : Machine} {table : SwitchTable} {source : Source}
    (notOpenbsd : profile.family ≠ .openbsd) (intact : table.error = none)
    (listed : source ∈ table.sources hostsDatabase)
    (doubt : LeavesDoubt profile.allowsMulticast (HostName.withoutFinalDot host)
      machine.hostName (table.sources hostsDatabase)) (fallback : Route) :
    decideRoute profile fallback host machine.ownHostName table = fallback := by
  unfold decideRoute
  rcases routeBeforeTable?_eq_fallback_or_none notOpenbsd fallback host with early | undecided
  · rw [early]
    rfl
  · rw [undecided, Option.getD_none, routeByTable_of_sources intact (List.ne_nil_of_mem listed),
      routeOfSources?_eq_none_of_doubt doubt]
    rfl

/-! ### Names that are recognized -/

/-- The host in front of its final dot is the name, in some case of its letters. -/
theorem mayAnswerItself_of_sameSpelling
    (same : Text.SameSpelling (HostName.withoutFinalDot host) name) :
    MayAnswerItself (HostName.withoutFinalDot host) (.ok name) :=
  Or.inr (Or.inr (Or.inr (Or.inr ((Text.foldAscii_eq_iff _ _).mpr same))))

theorem sameSpelling_of_finalDot (same : Text.SameSpelling host (name ++ [.char '.'])) :
    Text.SameSpelling (HostName.withoutFinalDot host) name := by
  have folded := (HostName.ReadAlike.of_sameSpelling same).folded
  rw [HostName.withoutFinalDot_concat] at folded
  exact (Text.foldAscii_eq_iff _ _).mp folded

theorem sameSpelling_of_incomplete (same : Text.SameSpelling host name)
    (incomplete : name.getLast? ≠ some (.char '.')) :
    Text.SameSpelling (HostName.withoutFinalDot host) name := by
  have folded := (HostName.ReadAlike.of_sameSpelling same).folded
  have whole : HostName.withoutFinalDot name = name := if_neg incomplete
  rw [whole] at folded
  exact (Text.foldAscii_eq_iff _ _).mp folded

/-- A host that is spelled like a name with a final dot is shorter than the name when the
two are compared. -/
theorem mayAnswerItself_iff_of_finalDot {other : Text} (same : Text.SameSpelling host name)
    (complete : name.getLast? = some (.char '.')) (nonempty : other ≠ [])
    (apart : ¬Text.SameSpelling name.dropLast other) :
    MayAnswerItself (HostName.withoutFinalDot host) (.ok name) ↔
      MayAnswerItself (HostName.withoutFinalDot host) (.ok other) := by
  have folded := (HostName.ReadAlike.of_sameSpelling same).folded
  have dropped : HostName.withoutFinalDot name = name.dropLast := if_pos complete
  rw [dropped] at folded
  have named : name ≠ [] := by
    rintro rfl
    cases complete
  have shorter : Text.foldAscii name.dropLast ≠ Text.foldAscii name := by
    intro equal
    have lengths := congrArg List.length equal
    rw [Text.length_foldAscii, Text.length_foldAscii, List.length_dropLast] at lengths
    have positive := List.length_pos_iff.mpr named
    omega
  rw [← Text.foldAscii_eq_iff] at apart
  unfold MayAnswerItself
  simp only [folded, named, nonempty, shorter, apart, or_false]

/-! ### Lookups -/

section

open ResolverState

variable {options : Option LookupOptions} {state : ResolverState} {source : Source}

theorem named_of_hostName (named : state.machine.hostName = .ok name) :
    state.named name = state := by
  unfold ResolverState.named Machine.named
  rw [← named]

theorem fst_run_route_of_own (notOpenbsd : profile.family ≠ .openbsd)
    (intact : (systemTable.run state).1.error = none)
    (listed : source ∈ (systemTable.run state).1.sources hostsDatabase)
    (kind : source.kind = .myhostname) (named : state.machine.hostName = .ok name)
    (own : Text.SameSpelling (HostName.withoutFinalDot host) name) :
    ((route profile host options).run state).1 = fallbackRoute profile options := by
  rw [run_route]
  refine decideRoute_of_doubt notOpenbsd intact listed (.ownName listed kind ?_) _
  rw [named]
  exact mayAnswerItself_of_sameSpelling own

/-- A host that is the machine's name with one more dot leads to the fallback, and so does
the name itself unless it ends in a dot.  A name that does is taken for a name that is not
the machine's: the route is the one on a machine called otherwise. -/
theorem own_name_known_unless_complete (notOpenbsd : profile.family ≠ .openbsd)
    (intact : (systemTable.run state).1.error = none)
    (listed : source ∈ (systemTable.run state).1.sources hostsDatabase)
    (kind : source.kind = .myhostname) (named : state.machine.hostName = .ok name) :
    (∀ host, Text.SameSpelling host (name ++ [.char '.']) →
      ((route profile host options).run state).1 = fallbackRoute profile options) ∧
    (name.getLast? ≠ some (.char '.') → ∀ host, Text.SameSpelling host name →
      ((route profile host options).run state).1 = fallbackRoute profile options) ∧
    (name.getLast? = some (.char '.') → ∀ host, Text.SameSpelling host name →
      ∀ other, other ≠ [] → ¬Text.SameSpelling name.dropLast other →
        ((route profile host options).run state).1 =
          ((route profile host options).run (state.named other)).1) := by
  refine ⟨?_, ?_, ?_⟩
  · intro host same
    exact fst_run_route_of_own notOpenbsd intact listed kind named
      (sameSpelling_of_finalDot same)
  · intro incomplete host same
    exact fst_run_route_of_own notOpenbsd intact listed kind named
      (sameSpelling_of_incomplete same incomplete)
  · intro complete host same other nonempty apart
    have unrecognized : mayBeOwnName (HostName.withoutFinalDot host)
        (state.machine.named name).ownHostName =
        mayBeOwnName (HostName.withoutFinalDot host)
          (state.machine.named other).ownHostName := by
      rw [Bool.eq_iff_iff, mayBeOwnName_iff, mayBeOwnName_iff]
      exact mayAnswerItself_iff_of_finalDot same complete nonempty apart
    rw [← named_of_hostName named, run_route_named]
    change _ = ((route profile host options).run (state.named other)).1
    rw [run_route_named]
    unfold decideRoute
    rw [routeByTable_congr unrecognized]

theorem own_name_known_in_capitals :
    askingItself.machine.hostName = .ok (Text.ofString "myhostname") ∧
      ((route {} (Text.ofString "MYHOSTNAME.") none).run askingItself).1 = .native ∧
      ((route {} (Text.ofString "MyHostName") none).run askingItself).1 = .native := by
  obtain ⟨intact, sources⟩ := sources_serving {} rfl ownNameSources
  have listed : Source.ofName (Text.ofString "myhostname") [] ∈
      (systemTable.run askingItself).1.sources hostsDatabase := by
    change _ ∈ (systemTable.run (serving {} (.ofHosts ownNameSources))).1.sources _
    rw [sources]
    decide
  have known := @own_name_known_unless_complete {} (Text.ofString "myhostname") none
    askingItself _ (by decide) intact listed rfl rfl
  refine ⟨rfl, ?_, ?_⟩
  · exact known.1 _ ((Text.foldAscii_eq_iff _ _).mp (by decide))
  · exact known.2.1 (by decide) _ ((Text.foldAscii_eq_iff _ _).mp (by decide))

/-- A machine that is called "box." takes no notice when it is asked for. -/
theorem complete_own_name_unknown :
    ¬∀ (profile : Profile) (options : Option LookupOptions) (state : ResolverState)
      (source : Source) (name host : Text), profile.family ≠ .openbsd →
        (systemTable.run state).1.error = none →
        source ∈ (systemTable.run state).1.sources hostsDatabase →
        source.kind = .myhostname → state.machine.hostName = .ok name → name ≠ [] →
        Text.SameSpelling host name ∨ Text.SameSpelling host (name ++ [.char '.']) →
        ((route profile host options).run state).1 = fallbackRoute profile options := by
  intro known
  obtain ⟨intact, sources⟩ := sources_serving
    (Machine.named {} (Text.ofString "box.")) rfl ownNameSources
  have listed : Source.ofName (Text.ofString "myhostname") [] ∈
      (systemTable.run (serving (Machine.named {} (Text.ofString "box."))
        (.ofHosts ownNameSources))).1.sources hostsDatabase := by
    rw [sources]
    decide
  have fallback := known {} none _ _ (Text.ofString "box.") (Text.ofString "box.") (by decide)
    intact listed rfl rfl (by decide) (Or.inl ((Text.foldAscii_eq_iff _ _).mp rfl))
  have missed : ((route {} (Text.ofString "box.") none).run
      (serving (Machine.named {} (Text.ofString "box.")) (.ofHosts ownNameSources))).1 =
        .filesThenDns := by
    decide +kernel
  rw [missed] at fallback
  cases fallback

end

end ResolverChoice
