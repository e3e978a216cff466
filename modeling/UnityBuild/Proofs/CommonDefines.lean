import UnityBuild.Proofs.Lists
import UnityBuild.Unity.Basic

/-!
# Definitions of units and of all units

A unit that is made from its flags holds exactly the definitions that its flags spell out. What all
units share is the intersection of their definitions, and among the flags of the merged source the
shared ones are the only definitions.
-/

namespace UnityBuild

namespace Define

/-- A definition keeps the flag that it was read from. -/
theorem flag_of_parse (flag : String) (d : Define) (h : parse flag = .ok d) : d.flag = flag := by
  unfold parse at h
  split at h
  · cases h
  · split at h
    · cases h
    · cases h
      rfl

/-- Only flags that are meant to define a macro are read as definitions. -/
theorem isDefineFlag_of_parse (flag : String) (d : Define) (h : parse flag = .ok d) :
    isDefineFlag flag = true := by
  unfold parse at h
  split at h
  · cases h
  · rename_i body hbody
    simp [isDefineFlag, hbody]

end Define

namespace SourceUnit

/-- A unit that was made from its flags. -/
def IsMade (u : SourceUnit) : Prop :=
  ofFlags u.source u.path u.flags = .ok u

/-- What making a unit from its flags gives. -/
theorem ofFlags_eq_ok_iff (source : Path) (path : String) (flags : List String) (u : SourceUnit) :
    ofFlags source path flags = .ok u ↔
      ∃ defines, (flags.filter Define.isDefineFlag).mapM Define.parse = .ok defines ∧
        u = ⟨source, path, flags, defines, flags.filter fun flag => !Define.isDefineFlag flag⟩ := by
  simp only [ofFlags, Results.bind_eq_ok_iff, pure, Except.pure, Except.ok.injEq, eq_comm (a := u)]

/-- Every definition of a made unit is what its flag spells out. -/
theorem parse_flag_of_mem_defines (u : SourceUnit) (hmade : u.IsMade) (d : Define)
    (hd : d ∈ u.defines) : Define.parse d.flag = .ok d := by
  obtain ⟨defines, hdefines, hu⟩ := (ofFlags_eq_ok_iff _ _ _ _).mp hmade
  rw [hu] at hd
  obtain ⟨flag, -, hflag⟩ := Lists.exists_of_mem_mapM _ _ _ hdefines d hd
  rw [Define.flag_of_parse flag d hflag]
  exact hflag

/-- The other flags of a made unit define nothing. -/
theorem isDefineFlag_of_mem_others (u : SourceUnit) (hmade : u.IsMade) (flag : String)
    (hflag : flag ∈ u.others) : Define.isDefineFlag flag = false := by
  obtain ⟨defines, -, hu⟩ := (ofFlags_eq_ok_iff _ _ _ _).mp hmade
  rw [hu] at hflag
  simpa using (List.mem_filter.mp hflag).2

/-- The flags of a made unit's definitions are meant to define macros. -/
theorem isDefineFlag_of_mem_defineFlags (u : SourceUnit) (hmade : u.IsMade) (flag : String)
    (hflag : flag ∈ u.defineFlags) : Define.isDefineFlag flag = true := by
  obtain ⟨d, hd, rfl⟩ := List.mem_map.mp hflag
  exact Define.isDefineFlag_of_parse _ d (u.parse_flag_of_mem_defines hmade d hd)

end SourceUnit

namespace CommonDefines

/-- A flag is shared exactly when there is a unit and every unit has it. -/
theorem mem_hoist_iff (units : List SourceUnit) (flag : String) :
    flag ∈ (hoist units).flags ↔ units ≠ [] ∧ ∀ u ∈ units, flag ∈ u.defineFlags := by
  cases units with
  | nil => simp [hoist, ofList]
  | cons first others => simp [hoist, ofList]

/-- No flag is shared twice. -/
theorem nodup_hoist (units : List SourceUnit) : (hoist units).flags.Nodup := by
  cases units with
  | nil => exact List.nodup_nil
  | cons first others => exact Lists.nodup_eraseDups _

/-- The local definitions of a unit are its definitions that are not shared. -/
theorem mem_localDefines_iff (c : CommonDefines) (u : SourceUnit) (d : Define) :
    d ∈ c.localDefines u ↔ d ∈ u.defines ∧ d.flag ∉ c.flags := by
  simp [localDefines, contains]

/-- A flag of a definition is the flag of a local one exactly when it is not shared. -/
theorem exists_localDefine_iff (c : CommonDefines) (u : SourceUnit) (flag : String)
    (hflag : flag ∈ u.defineFlags) : (∃ d ∈ c.localDefines u, d.flag = flag) ↔ flag ∉ c.flags := by
  obtain ⟨d, hd, rfl⟩ := List.mem_map.mp hflag
  constructor
  · rintro ⟨e, he, hsame⟩
    rw [← hsame]
    exact ((c.mem_localDefines_iff u e).mp he).2
  · intro hlocal
    exact ⟨d, (c.mem_localDefines_iff u d).mpr ⟨hd, hlocal⟩, rfl⟩

/-- A shared flag of made units is the flag of a definition of each of them. -/
theorem exists_define_of_mem_hoist (units : List SourceUnit)
    (hmade : ∀ u ∈ units, u.IsMade) (flag : String) (hflag : flag ∈ (hoist units).flags)
    (u : SourceUnit) (hu : u ∈ units) : ∃ d ∈ u.defines, Define.parse flag = .ok d := by
  have hshared := ((mem_hoist_iff units flag).mp hflag).2 u hu
  obtain ⟨d, hd, rfl⟩ := List.mem_map.mp hshared
  exact ⟨d, hd, u.parse_flag_of_mem_defines (hmade u hu) d hd⟩

/-- Shared flags of made units are all definitions. -/
theorem isDefineFlag_of_mem_hoist (units : List SourceUnit) (hmade : ∀ u ∈ units, u.IsMade)
    (flag : String) (hflag : flag ∈ (hoist units).flags) : Define.isDefineFlag flag = true := by
  obtain ⟨hsome, hshared⟩ := (mem_hoist_iff units flag).mp hflag
  obtain ⟨u, hu⟩ := List.exists_mem_of_ne_nil units hsome
  exact u.isDefineFlag_of_mem_defineFlags (hmade u hu) flag (hshared u hu)

end CommonDefines

namespace Unity.Plan

/-- A plan for a project at a fixed root, with nothing special to it. -/
def sample : Plan :=
  ⟨⟨"/p"⟩, "cc", ⟨⟨"/p/amalgamated"⟩, "app", by decide⟩, defaultTestMarker⟩

/-- The definitions among the flags of the merged source are the shared ones, in their order. -/
theorem filter_isDefineFlag_globalFlags (p : Plan) (units included : List SourceUnit)
    (hmade : ∀ u ∈ units, u.IsMade) (hincluded : included ⊆ units) :
    (p.globalFlags included (.hoist units)).filter Define.isDefineFlag =
      (CommonDefines.hoist units).flags := by
  have hothers : (included.flatMap SourceUnit.others).filter Define.isDefineFlag = [] := by
    apply List.filter_eq_nil_iff.mpr
    intro flag hflag
    obtain ⟨u, hu, hmem⟩ := List.mem_flatMap.mp hflag
    rw [u.isDefineFlag_of_mem_others (hmade u (hincluded hu)) flag hmem]
    exact Bool.false_ne_true
  have hshared : (CommonDefines.hoist units).flags.filter Define.isDefineFlag =
      (CommonDefines.hoist units).flags :=
    List.filter_eq_self.mpr (CommonDefines.isDefineFlag_of_mem_hoist units hmade)
  have hportability : portabilityFlags.filter Define.isDefineFlag = [] := by decide
  have hinclude : ["-I" ++ p.root.display].filter Define.isDefineFlag = [] := by
    simp [Define.isDefineFlag, Define.body?, String.toList_append]
  rw [globalFlags, Lists.filter_eraseDups]
  simp only [List.filter_append, hothers, hshared, hportability, hinclude, List.nil_append,
    List.append_nil]
  exact Lists.eraseDups_eq_self _ (CommonDefines.nodup_hoist units)

end Unity.Plan

end UnityBuild
