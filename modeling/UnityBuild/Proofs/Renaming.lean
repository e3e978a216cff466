import UnityBuild.Renaming

/-!
# What a renaming table holds

A table holds the pairs that were added to it and whose name is an identifier of C, and the
renamings of a file are read off its pairs alone.
-/

namespace UnityBuild.RenamingTable

/-- Putting a pair in its place adds this pair alone. -/
theorem mem_insertPair (pair other : String × String) (pairs : List (String × String)) :
    other ∈ insertPair pair pairs ↔ other = pair ∨ other ∈ pairs := by
  induction pairs with
  | nil => simp [insertPair]
  | cons next rest ih =>
    rw [insertPair]
    split
    · rename_i hpair
      rw [hpair]
      simp
    · split
      · exact List.mem_cons
      · rw [List.mem_cons, ih, List.mem_cons]
        exact or_left_comm

/-- Adding a pair adds it when its name is an identifier, and changes nothing else. -/
theorem mem_insert (t : RenamingTable) (file identifier : String) (pair : String × String) :
    pair ∈ (t.insert file identifier).pairs ↔
      pair ∈ t.pairs ∨ (pair = (file, identifier) ∧ Naming.isIdentifier identifier = true) := by
  rw [insert]
  split
  · rename_i hidentifier
    rw [mem_insertPair]
    simp [hidentifier, or_comm]
  · rename_i hidentifier
    simp [hidentifier]

/-- A table that is filled one pair after the other holds what it held and what was added. -/
theorem mem_foldl_insert (t : RenamingTable) (pairs : List (String × String))
    (pair : String × String) :
    pair ∈ (pairs.foldl (fun t pair => t.insert pair.1 pair.2) t).pairs ↔
      pair ∈ t.pairs ∨ (pair ∈ pairs ∧ Naming.isIdentifier pair.2 = true) := by
  induction pairs generalizing t with
  | nil => simp
  | cons first rest ih =>
    rw [List.foldl_cons, ih, mem_insert, List.mem_cons, or_assoc]
    apply or_congr_right
    constructor
    · rintro (⟨rfl, hidentifier⟩ | ⟨hmem, hidentifier⟩)
      · exact ⟨.inl rfl, hidentifier⟩
      · exact ⟨.inr hmem, hidentifier⟩
    · rintro ⟨rfl | hmem, hidentifier⟩
      · exact .inl ⟨rfl, hidentifier⟩
      · exact .inr ⟨hmem, hidentifier⟩

/-- The table of a list holds the pairs of the list that name an identifier. -/
theorem mem_ofList (pairs : List (String × String)) (pair : String × String) :
    pair ∈ (ofList pairs).pairs ↔ pair ∈ pairs ∧ Naming.isIdentifier pair.2 = true := by
  rw [ofList, mem_foldl_insert]
  simp [empty]

/-- The identifiers of a file are those that the table pairs with it. -/
theorem mem_identifiersFor (t : RenamingTable) (file identifier : String) :
    identifier ∈ t.identifiersFor file ↔ (file, identifier) ∈ t.pairs := by
  simp only [identifiersFor, List.mem_map, List.mem_filter, beq_iff_eq]
  constructor
  · rintro ⟨⟨_, _⟩, ⟨hpair, rfl⟩, rfl⟩
    exact hpair
  · intro hpair
    exact ⟨(file, identifier), ⟨hpair, rfl⟩, rfl⟩

/-- The renamings of a file put the file's name in front of the identifiers paired with it. -/
theorem mem_renamingsFor (t : RenamingTable) (file fileName : String) (change : Renaming) :
    change ∈ t.renamingsFor file fileName ↔
      (file, change.identifier) ∈ t.pairs ∧
        change.newName = Naming.qualify fileName change.identifier := by
  obtain ⟨identifier, newName⟩ := change
  simp only [renamingsFor, List.mem_map, mem_identifiersFor, Renaming.mk.injEq]
  constructor
  · rintro ⟨_, hpair, rfl, rfl⟩
    exact ⟨hpair, rfl⟩
  · rintro ⟨hpair, rfl⟩
    exact ⟨identifier, hpair, rfl, rfl⟩

/-- A file that the table pairs with nothing has no renamings. -/
theorem renamingsFor_eq_nil (t : RenamingTable) (file fileName : String)
    (hfree : ∀ identifier, (file, identifier) ∉ t.pairs) : t.renamingsFor file fileName = [] := by
  rw [List.eq_nil_iff_forall_not_mem]
  intro change hchange
  exact hfree _ ((mem_renamingsFor t file fileName change).mp hchange).1

end UnityBuild.RenamingTable
