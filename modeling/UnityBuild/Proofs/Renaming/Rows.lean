import UnityBuild.Proofs.Renaming.Order

/-!
# The rows of a renaming table

A table can be kept by rows, too: one for each file, in increasing order of the files, with the
identifiers of the file in increasing order. Adding a pair puts the identifier in the row of its file,
and a file without a row gets one. Rows of this form are determined by the pairs that they list, so
the rows of a table change in this way when a pair is added to the table.

Main statement: `rows_insert`.
-/

namespace UnityBuild.RenamingTable

/-- Puts an identifier in its place in an increasing list, unless it is there. -/
def addIdentifier (identifier : String) (identifiers : List String) : List String :=
  if identifier ∈ identifiers then identifiers else identifiers.orderedInsert (· ≤ ·) identifier

/-- Puts an identifier in the row of its file; a file without a row gets one. -/
def addToRow (file identifier : String) : List (String × List String) → List (String × List String)
  | [] => [(file, [identifier])]
  | row :: rows =>
    if file = row.1 then (row.1, addIdentifier identifier row.2) :: rows
    else if file < row.1 then (file, [identifier]) :: row :: rows
    else row :: addToRow file identifier rows

/-- Rows list an identifier for a file when it stands in a row of this file. -/
def Listed (rows : List (String × List String)) (file identifier : String) : Prop :=
  ∃ identifiers, (file, identifiers) ∈ rows ∧ identifier ∈ identifiers

/-- Rows in strictly increasing order of their files, none of them empty, each with its identifiers in
strictly increasing order. -/
structure AreRows (rows : List (String × List String)) : Prop where
  files : rows.Pairwise fun a b => a.1 < b.1
  filled : ∀ row ∈ rows, row.2 ≠ []
  identifiers : ∀ row ∈ rows, row.2.Pairwise (· < ·)

section Identifiers

/-- Putting an identifier in its place adds it alone. -/
theorem mem_addIdentifier (x y : String) (identifiers : List String) :
    y ∈ addIdentifier x identifiers ↔ y = x ∨ y ∈ identifiers := by
  rw [addIdentifier]
  split
  · rename_i hx
    exact ⟨.inr, fun h => h.elim (fun heq => heq ▸ hx) id⟩
  · exact List.mem_orderedInsert _

/-- Putting an identifier in its place keeps a list increasing. -/
theorem pairwise_addIdentifier (x : String) (identifiers : List String)
    (h : identifiers.Pairwise (· < ·)) : (addIdentifier x identifiers).Pairwise (· < ·) := by
  rw [addIdentifier]
  split
  · exact h
  · rename_i hx
    have hle : (identifiers.orderedInsert (· ≤ ·) x).Pairwise (· ≤ ·) :=
      (h.imp le_of_lt).orderedInsert x identifiers
    have hnodup : (identifiers.orderedInsert (· ≤ ·) x).Nodup :=
      (List.perm_orderedInsert _ x identifiers).nodup_iff.mpr
        (List.nodup_cons.mpr ⟨hx, h.imp ne_of_lt⟩)
    exact (hle.and hnodup).imp fun hboth => lt_of_le_of_ne hboth.1 hboth.2

end Identifiers

namespace AreRows

variable {rows others : List (String × List String)}

/-- A file has one row. -/
theorem listed_iff (h : AreRows rows) (file : String) (identifiers : List String)
    (hrow : (file, identifiers) ∈ rows) (x : String) : Listed rows file x ↔ x ∈ identifiers := by
  have hnodup : (rows.map Prod.fst).Nodup := List.pairwise_map.mpr (h.files.imp ne_of_lt)
  constructor
  · rintro ⟨other, hother, hx⟩
    obtain ⟨-, rfl⟩ := Prod.mk.inj (List.inj_on_of_nodup_map hnodup hother hrow rfl)
    exact hx
  · exact fun hx => ⟨identifiers, hrow, hx⟩

/-- Rows that list no more than others are among them when the others list no more for these files. -/
theorem mem_of_listed_iff (h : AreRows rows) (hothers : AreRows others)
    (hlisted : ∀ file x, Listed rows file x ↔ Listed others file x) :
    ∀ row ∈ rows, row ∈ others := by
  rintro ⟨file, identifiers⟩ hrow
  obtain ⟨x, hx⟩ := List.exists_mem_of_ne_nil _ (h.filled _ hrow)
  obtain ⟨same, hsame, -⟩ := (hlisted file x).mp ⟨identifiers, hrow, hx⟩
  have heq : identifiers = same := by
    refine (h.identifiers _ hrow).eq_of_mem_iff (hothers.identifiers _ hsame) fun y => ?_
    rw [← h.listed_iff file identifiers hrow y, hlisted, hothers.listed_iff file same hsame y]
  rwa [heq]

/-- Rows are determined by what they list. -/
theorem eq_of_listed_iff (h : AreRows rows) (hothers : AreRows others)
    (hlisted : ∀ file x, Listed rows file x ↔ Listed others file x) : rows = others :=
  Lists.eq_of_increasing Prod.fst rows others h.files hothers.files fun row =>
    ⟨h.mem_of_listed_iff hothers hlisted row,
      hothers.mem_of_listed_iff h (fun file x => (hlisted file x).symm) row⟩

end AreRows

section Adding

/-- A row in front of rows lists its identifiers for its file. -/
theorem listed_cons (row : String × List String) (rows : List (String × List String))
    (file x : String) : Listed (row :: rows) file x ↔ (file = row.1 ∧ x ∈ row.2) ∨ Listed rows file x := by
  constructor
  · rintro ⟨identifiers, hrow, hx⟩
    rcases List.mem_cons.mp hrow with rfl | hrow
    · exact .inl ⟨rfl, hx⟩
    · exact .inr ⟨identifiers, hrow, hx⟩
  · rintro (⟨rfl, hx⟩ | ⟨identifiers, hrow, hx⟩)
    · exact ⟨row.2, List.mem_cons_self, hx⟩
    · exact ⟨identifiers, List.mem_cons_of_mem row hrow, hx⟩

/-- Adding a pair to rows lists this pair and nothing else besides what was listed. -/
theorem listed_addToRow (file x : String) (rows : List (String × List String)) (other y : String) :
    Listed (addToRow file x rows) other y ↔ (other = file ∧ y = x) ∨ Listed rows other y := by
  have hnew : y ∈ [x] ↔ y = x := List.mem_singleton
  induction rows with
  | nil => rw [addToRow, listed_cons, hnew]
  | cons row rows ih =>
    rw [addToRow]
    split
    · rename_i hfile
      rw [listed_cons, listed_cons, mem_addIdentifier, and_or_left, or_assoc, hfile]
    · split
      · rw [listed_cons, hnew]
      · rw [listed_cons, listed_cons, or_left_comm]
        exact or_congr_right ih

/-- Adding a pair to rows brings no other file. -/
theorem fst_of_mem_addToRow (file x : String) (rows : List (String × List String)) :
    ∀ row ∈ addToRow file x rows, row.1 = file ∨ ∃ old ∈ rows, row.1 = old.1 := by
  induction rows with
  | nil => exact List.forall_mem_singleton.mpr (.inl rfl)
  | cons first rows ih =>
    have hold (row) (hrow : row ∈ rows) : ∃ old ∈ first :: rows, row.1 = old.1 :=
      ⟨row, List.mem_cons_of_mem first hrow, rfl⟩
    rw [addToRow]
    split
    · refine List.forall_mem_cons.mpr ⟨.inr ⟨first, List.mem_cons_self, rfl⟩, ?_⟩
      exact fun row hrow => .inr (hold row hrow)
    · split
      · exact List.forall_mem_cons.mpr ⟨.inl rfl, fun row hrow => .inr ⟨row, hrow, rfl⟩⟩
      · refine List.forall_mem_cons.mpr ⟨.inr ⟨first, List.mem_cons_self, rfl⟩, ?_⟩
        intro row hrow
        refine (ih row hrow).imp_right ?_
        rintro ⟨old, hmem, heq⟩
        exact ⟨old, List.mem_cons_of_mem first hmem, heq⟩

/-- A row can stand in front of rows of later files. -/
theorem areRows_cons (row : String × List String) (rows : List (String × List String)) :
    AreRows (row :: rows) ↔
      (∀ other ∈ rows, row.1 < other.1) ∧ row.2 ≠ [] ∧ row.2.Pairwise (· < ·) ∧ AreRows rows := by
  constructor
  · rintro ⟨hfiles, hfilled, hidentifiers⟩
    obtain ⟨hfirst, hfiles⟩ := List.pairwise_cons.mp hfiles
    obtain ⟨hne, hfilled⟩ := List.forall_mem_cons.mp hfilled
    obtain ⟨hincreasing, hidentifiers⟩ := List.forall_mem_cons.mp hidentifiers
    exact ⟨hfirst, hne, hincreasing, hfiles, hfilled, hidentifiers⟩
  · rintro ⟨hfirst, hne, hincreasing, hfiles, hfilled, hidentifiers⟩
    exact ⟨List.pairwise_cons.mpr ⟨hfirst, hfiles⟩, List.forall_mem_cons.mpr ⟨hne, hfilled⟩,
      List.forall_mem_cons.mpr ⟨hincreasing, hidentifiers⟩⟩

/-- Adding a pair keeps the form of rows. -/
theorem AreRows.add {rows : List (String × List String)} (h : AreRows rows) (file x : String) :
    AreRows (addToRow file x rows) := by
  induction rows with
  | nil =>
    exact (areRows_cons _ _).mpr
      ⟨List.forall_mem_nil _, List.cons_ne_nil x [], List.pairwise_singleton _ x, h⟩
  | cons row rows ih =>
    obtain ⟨hfirst, hne, hincreasing, hrows⟩ := (areRows_cons row rows).mp h
    rw [addToRow]
    split
    · have hx := (mem_addIdentifier x x row.2).mpr (.inl rfl)
      exact (areRows_cons _ _).mpr ⟨hfirst, List.ne_nil_of_mem hx,
        pairwise_addIdentifier x row.2 hincreasing, hrows⟩
    · rename_i hfile
      split
      · rename_i hbefore
        refine (areRows_cons _ _).mpr ⟨?_, List.cons_ne_nil x [], List.pairwise_singleton _ x, h⟩
        exact List.forall_mem_cons.mpr
          ⟨hbefore, fun other hother => hbefore.trans (hfirst other hother)⟩
      · rename_i hbehind
        have hlt : row.1 < file := lt_of_le_of_ne (not_lt.mp hbehind) (Ne.symm hfile)
        refine (areRows_cons _ _).mpr ⟨?_, hne, hincreasing, ih hrows⟩
        -- The rows behind the first one are for later files, as is the row that may be new.
        intro other hother
        rcases fst_of_mem_addToRow file x rows other hother with heq | ⟨old, hold, heq⟩
        · exact heq ▸ hlt
        · exact heq ▸ hfirst old hold

end Adding

section Tables

variable (t : RenamingTable)

/-- The files of a table are those that it pairs with something. -/
theorem mem_files (file : String) : file ∈ t.files ↔ ∃ x, (file, x) ∈ t.pairs := by
  rw [files, List.mem_eraseDups, List.mem_map]
  constructor
  · rintro ⟨⟨_, x⟩, hpair, rfl⟩
    exact ⟨x, hpair⟩
  · rintro ⟨x, hpair⟩
    exact ⟨(file, x), hpair, rfl⟩

/-- The rows of a table list its pairs. -/
theorem listed_rows (file x : String) : Listed t.rows file x ↔ (file, x) ∈ t.pairs := by
  constructor
  · rintro ⟨identifiers, hrow, hx⟩
    obtain ⟨_, -, heq⟩ := List.mem_map.mp hrow
    obtain ⟨rfl, rfl⟩ := Prod.mk.inj heq
    exact (t.mem_identifiersFor _ x).mp hx
  · intro hpair
    exact ⟨t.identifiersFor file, List.mem_map_of_mem ((t.mem_files file).mpr ⟨x, hpair⟩),
      (t.mem_identifiersFor file x).mpr hpair⟩

/-- No file of a table is repeated. -/
theorem nodup_files : t.files.Nodup :=
  Lists.nodup_eraseDups _

/-- The files of an increasing table increase strictly. -/
theorem IsIncreasing.pairwise_files (ht : t.IsIncreasing) : t.files.Pairwise (· < ·) := by
  have hle : (t.pairs.map Prod.fst).Pairwise (· ≤ ·) := by
    refine List.pairwise_map.mpr (ht.imp fun hlt => ?_)
    rcases Prod.Lex.toLex_lt_toLex.mp hlt with hfirst | ⟨hsame, -⟩
    · exact hfirst.le
    · exact hsame.le
  have hfiles : t.files.Pairwise (· ≤ ·) := hle.sublist (Lists.eraseDups_sublist _)
  exact (hfiles.and t.nodup_files).imp fun hboth => lt_of_le_of_ne hboth.1 hboth.2

/-- The rows of an increasing table. -/
theorem IsIncreasing.areRows (ht : t.IsIncreasing) : AreRows t.rows where
  files := List.pairwise_map.mpr (ht.pairwise_files t)
  filled := by
    refine List.forall_mem_map.mpr fun file hfile => ?_
    obtain ⟨x, hpair⟩ := (t.mem_files file).mp hfile
    exact List.ne_nil_of_mem ((t.mem_identifiersFor file x).mpr hpair)
  identifiers := List.forall_mem_map.mpr fun file _ => ht.pairwise_identifiersFor t file

/-- A table is empty when it has no rows. -/
theorem isEmpty_iff_rows_eq_nil : t.isEmpty = true ↔ t.rows = [] := by
  rw [isEmpty, List.isEmpty_iff]
  constructor
  · intro hpairs
    rw [rows, files, hpairs]
    rfl
  · intro hrows
    refine List.eq_nil_iff_forall_not_mem.mpr fun pair hpair => ?_
    obtain ⟨identifiers, hrow, -⟩ := (t.listed_rows pair.1 pair.2).mpr hpair
    rw [hrows] at hrow
    exact absurd hrow List.not_mem_nil

/-- The rows of a table change as rows do when a pair is added to it; a name that is no identifier
leaves them alone. -/
theorem rows_insert (ht : t.IsIncreasing) (file x : String) :
    (t.insert file x).rows =
      if Naming.isIdentifier x = true then addToRow file x t.rows else t.rows := by
  split
  · rename_i hx
    refine ((ht.insert t file x).areRows _).eq_of_listed_iff ((ht.areRows t).add file x) ?_
    intro other y
    rw [listed_rows, mem_insert, listed_addToRow, listed_rows, Prod.mk.injEq, and_iff_left hx, or_comm]
  · rename_i hx
    rw [insert, if_neg hx]

end Tables

/-- Adds a pair to rows unless its name is no identifier. -/
def addCall (rows : List (String × List String)) (call : String × String) :
    List (String × List String) :=
  if Naming.isIdentifier call.2 = true then addToRow call.1 call.2 rows else rows

/-- The rows of a table that is filled one pair after the other. -/
theorem rows_foldl_insert (t : RenamingTable) (ht : t.IsIncreasing) (calls : List (String × String)) :
    (calls.foldl (fun t call => t.insert call.1 call.2) t).rows = calls.foldl addCall t.rows := by
  induction calls generalizing t with
  | nil => rfl
  | cons first rest ih =>
    rw [List.foldl_cons, List.foldl_cons, ih _ (ht.insert t first.1 first.2), rows_insert t ht, addCall]

end UnityBuild.RenamingTable
