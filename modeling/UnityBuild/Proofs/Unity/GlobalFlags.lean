import UnityBuild.Proofs.CommonDefines

/-!
# Options and their values among the flags of the merged source

The flags of the included units are put together token by token and each token is kept where it
stands first. An option that takes its value from the next token therefore keeps the value behind it
only when nothing new stands between the first occurrence of the option and that of the value. An
option that is given twice with different values loses the second one, see
`repeated_option_loses_value`.

Main statement: `option_value_adjacent_iff`.
-/

namespace UnityBuild.Unity

/-- The flags of units that define no macro, one unit after the other. -/
def otherFlags (units : List SourceUnit) : List String :=
  units.flatMap SourceUnit.others

/-- Every flag of the merged source is given once. -/
theorem Plan.nodup_globalFlags (p : Plan) (included : List SourceUnit) (common : CommonDefines) :
    (p.globalFlags included common).Nodup :=
  Lists.nodup_eraseDups _

/-- The flags of the merged source begin with the flags of the included units, each once. -/
theorem Plan.exists_globalFlags (p : Plan) (included : List SourceUnit) (common : CommonDefines) :
    ∃ shared, p.globalFlags included common = (otherFlags included).eraseDups ++ shared := by
  rw [Plan.globalFlags, List.append_assoc, List.append_assoc, List.eraseDups_append]
  exact ⟨_, rfl⟩

/-- An option and the value behind it in the flags of an included unit are flags of the merged source,
each once, and the value stands directly behind the option exactly when, among the flags of all
included units, every flag between the first occurrence of the option and the first occurrence of the
value is the option or stands in front of both. -/
theorem option_value_adjacent_iff (p : Plan) (units : List SourceUnit) (common : CommonDefines)
    (skip : SkipSet) (table : RenamingTable) (u : SourceUnit) (hu : u ∈ p.retained skip units)
    (option value : String) (hpair : [option, value] <:+: u.others) :
    let flags := (p.build units common skip table).globalFlags
    flags.count option = 1 ∧ flags.count value = 1 ∧
      ([option, value] <:+: flags ↔
        ∃ front middle behind,
          otherFlags (p.retained skip units) = front ++ option :: (middle ++ value :: behind) ∧
            option ∉ front ∧ value ∉ front ∧ value ≠ option ∧
              ∀ flag ∈ middle, flag = option ∨ flag ∈ front) := by
  intro flags
  have hnodup : flags.Nodup := p.nodup_globalFlags _ _
  obtain ⟨shared, hshared⟩ := p.exists_globalFlags (p.retained skip units) common
  have hmem (flag : String) (hflag : flag ∈ [option, value]) :
      flag ∈ (otherFlags (p.retained skip units)).eraseDups :=
    List.mem_eraseDups.mpr (List.mem_flatMap.mpr ⟨u, hu, hpair.subset hflag⟩)
  have honce (flag : String) (hflag : flag ∈ [option, value]) : flags.count flag = 1 := by
    apply List.count_eq_one_of_mem hnodup
    show flag ∈ p.globalFlags (p.retained skip units) common
    rw [hshared]
    exact List.mem_append_left _ (hmem flag hflag)
  refine ⟨honce option (by simp), honce value (by simp), ?_⟩
  have hfront : [option, value] <:+: flags ↔
      [option, value] <:+: (otherFlags (p.retained skip units)).eraseDups := by
    show [option, value] <:+: p.globalFlags (p.retained skip units) common ↔ _
    rw [hshared]
    exact Lists.pair_infix_append_iff _ _ _ _ (hshared ▸ hnodup) (hmem value (by simp))
  rw [hfront, Lists.pair_infix_eraseDups_iff]

/-- Two units that give the same option with the same value behind other flags. -/
def agreeingUnits : List SourceUnit :=
  [⟨⟨"/p/x.c"⟩, "x.c", ["-O2", "-isystem", "inc"], [], ["-O2", "-isystem", "inc"]⟩,
    ⟨⟨"/p/y.c"⟩, "y.c", ["-isystem", "inc", "-O2"], [], ["-isystem", "inc", "-O2"]⟩]

/-- The option keeps its value. -/
theorem option_value_adjacent_agreeingUnits :
    agreeingUnits[1] ∈ Plan.sample.retained .empty agreeingUnits ∧
      ["-isystem", "inc"] <:+: agreeingUnits[1].others ∧
        let flags := (Plan.sample.build agreeingUnits (.hoist agreeingUnits) .empty .empty).globalFlags
        flags.count "-isystem" = 1 ∧ flags.count "inc" = 1 ∧ ["-isystem", "inc"] <:+: flags := by
  have hu : agreeingUnits[1] ∈ Plan.sample.retained .empty agreeingUnits := by decide
  have hpair : ["-isystem", "inc"] <:+: agreeingUnits[1].others := by decide
  obtain ⟨hoption, hvalue, hiff⟩ := option_value_adjacent_iff Plan.sample agreeingUnits
    (.hoist agreeingUnits) .empty .empty _ hu "-isystem" "inc" hpair
  exact ⟨hu, hpair, hoption, hvalue,
    hiff.mpr ⟨["-O2"], [], ["-isystem", "inc", "-O2"], by decide +kernel, by decide⟩⟩

/-- A unit that gives one option twice, each time with another value. -/
def repeatingUnit : SourceUnit :=
  ⟨⟨"/p/x.c"⟩, "x.c", ["-I", "a", "-I", "b"], [], ["-I", "a", "-I", "b"]⟩

/-- The second value stands behind the first one instead of its option. -/
theorem repeated_option_loses_value :
    SourceUnit.ofFlags ⟨"/p/x.c"⟩ "x.c" ["-I", "a", "-I", "b"] = .ok repeatingUnit ∧
      repeatingUnit ∈ Plan.sample.retained .empty [repeatingUnit] ∧
        ["-I", "b"] <:+: repeatingUnit.others ∧
          let flags := (Plan.sample.build [repeatingUnit] (.hoist [repeatingUnit]) .empty .empty).globalFlags
          flags = ["-I", "a", "b", "-Wno-unknown-warning-option", "-I/p"] ∧
            ¬ ["-I", "b"] <:+: flags := by
  decide +kernel

end UnityBuild.Unity
