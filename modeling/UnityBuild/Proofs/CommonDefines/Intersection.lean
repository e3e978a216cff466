import UnityBuild.Proofs.CommonDefines

/-!
# Shared definitions as an intersection

The shared definitions are found by going through the first unit and asking the others. No unit has a
part of its own in what is found: a flag is shared exactly when every unit has it, so the order of the
units and units that are listed twice do not count. The first unit gives the order of the flags, and a
further unit takes away those that it does not have.

Main statement: `hoist_is_intersection`.
-/

namespace UnityBuild.CommonDefines

section Shared

variable (first : SourceUnit) (others : List SourceUnit)

/-- The shared flags are the flags of the first unit, each where it stands first, that the others
have. -/
theorem flags_hoist_cons :
    (hoist (first :: others)).flags = first.defineFlags.eraseDups.filter fun flag =>
      others.all fun u => u.defineFlags.contains flag :=
  (Lists.filter_eraseDups _ _).symm

/-- The shared flags stand in the order of the first unit. -/
theorem inOrderOf_hoist : Lists.InOrderOf first.defineFlags (hoist (first :: others)).flags := by
  rw [flags_hoist_cons]
  exact (Lists.inOrderOf_eraseDups first.defineFlags).sublist List.filter_sublist

/-- A further unit takes away the flags that it does not have. -/
theorem flags_hoist_concat (u : SourceUnit) :
    (hoist (first :: others ++ [u])).flags =
      (hoist (first :: others)).flags.filter fun flag => u.defineFlags.contains flag := by
  rw [List.cons_append, flags_hoist_cons, flags_hoist_cons, List.filter_filter]
  refine List.filter_congr fun flag _ => ?_
  rw [List.all_append, List.all_cons, List.all_nil, Bool.and_true, Bool.and_comm]

end Shared

/-- The same units share the same flags, in whatever order and however often they are listed. -/
theorem perm_flags_hoist (units units' : List SourceUnit) (h : ∀ u, u ∈ units' ↔ u ∈ units) :
    (hoist units').flags.Perm (hoist units).flags := by
  have hnone : units' = [] ↔ units = [] := by
    simp only [List.eq_nil_iff_forall_not_mem, h]
  rw [List.perm_ext_iff_of_nodup (nodup_hoist units') (nodup_hoist units)]
  intro flag
  simp only [mem_hoist_iff, ne_eq, hnone, h]

/-- A definition is local as often as the unit has it, or not at all when it is shared. -/
theorem count_localDefines (c : CommonDefines) (u : SourceUnit) (d : Define) :
    (c.localDefines u).count d = if d.flag ∈ c.flags then 0 else u.defines.count d := by
  split
  · rename_i hshared
    exact List.count_eq_zero.mpr fun hmem => ((c.mem_localDefines_iff u d).mp hmem).2 hshared
  · rename_i hlocal
    exact List.count_filter (by simpa [contains] using hlocal)

/-- The shared flags of units are the flags that every unit has, each once and in the order of the first
unit. Listing the units in another order or one of them again shares the same flags, and a further unit
leaves the flags that it has. The local definitions of any unit are its definitions that are not shared,
in order and each as often as the unit has it. -/
theorem hoist_is_intersection (first : SourceUnit) (others : List SourceUnit) :
    let units := first :: others
    let shared := (hoist units).flags
    shared.Nodup ∧ Lists.InOrderOf first.defineFlags shared ∧
      (∀ flag, flag ∈ shared ↔ ∀ u ∈ units, flag ∈ u.defineFlags) ∧
      (∀ units', units'.Perm units → (hoist units').flags.Perm shared) ∧
      (∀ u ∈ units, ∀ units', units'.Perm (u :: units) → (hoist units').flags.Perm shared) ∧
      (∀ u, (hoist (units ++ [u])).flags = shared.filter fun flag => u.defineFlags.contains flag) ∧
      ∀ u, ((hoist units).localDefines u).Sublist u.defines ∧
        ∀ d, ((hoist units).localDefines u).count d =
          if d.flag ∈ shared then 0 else u.defines.count d := by
  intro units shared
  have hmem (flag : String) : flag ∈ shared ↔ ∀ u ∈ units, flag ∈ u.defineFlags := by
    rw [mem_hoist_iff, and_iff_right (List.cons_ne_nil first others)]
  have hreordered (units' : List SourceUnit) (h : units'.Perm units) :
      (hoist units').flags.Perm shared :=
    perm_flags_hoist units units' fun _ => h.mem_iff
  have hrepeated (u : SourceUnit) (hu : u ∈ units) (units' : List SourceUnit)
      (h : units'.Perm (u :: units)) : (hoist units').flags.Perm shared := by
    refine perm_flags_hoist units units' fun v => h.mem_iff.trans ?_
    rw [List.mem_cons, or_iff_right_of_imp]
    rintro rfl
    exact hu
  exact ⟨nodup_hoist units, inOrderOf_hoist first others, hmem, hreordered, hrepeated,
    flags_hoist_concat first others, fun u => ⟨List.filter_sublist, count_localDefines _ u⟩⟩

/-- A unit that has one of its definitions twice. -/
def doublingUnit : SourceUnit :=
  ⟨⟨"/p/x.c"⟩, "x.c", ["-DA", "-DB", "-DA", "-DC"],
    [⟨"A", none, "-DA"⟩, ⟨"B", none, "-DB"⟩, ⟨"A", none, "-DA"⟩, ⟨"C", none, "-DC"⟩], []⟩

/-- A unit with two of these definitions in another order. -/
def reversingUnit : SourceUnit :=
  ⟨⟨"/p/y.c"⟩, "y.c", ["-DC", "-DA"], [⟨"C", none, "-DC"⟩, ⟨"A", none, "-DA"⟩], []⟩

/-- The two units share the same flags in either order, and when one of them is listed again. -/
theorem hoist_is_intersection_reversed :
    let units := [doublingUnit, reversingUnit]
    (hoist units).flags = ["-DA", "-DC"] ∧
      [reversingUnit, doublingUnit].Perm units ∧
      (hoist [reversingUnit, doublingUnit]).flags.Perm (hoist units).flags ∧
      reversingUnit ∈ units ∧ (units ++ [reversingUnit]).Perm (reversingUnit :: units) ∧
      (hoist (units ++ [reversingUnit])).flags.Perm (hoist units).flags := by
  intro units
  have hswap : [reversingUnit, doublingUnit].Perm units := List.Perm.swap doublingUnit reversingUnit []
  have hmem : reversingUnit ∈ units := List.mem_cons_of_mem _ List.mem_cons_self
  have hagain : (units ++ [reversingUnit]).Perm (reversingUnit :: units) := List.perm_append_comm
  obtain ⟨-, -, -, hreordered, hrepeated, -, -⟩ := hoist_is_intersection doublingUnit [reversingUnit]
  exact ⟨by decide, hswap, hreordered _ hswap, hmem, hagain, hrepeated _ hmem _ hagain⟩

end UnityBuild.CommonDefines
