import Mathlib.Algebra.BigOperators.Group.Finset.Basic
import Mathlib.Data.Finset.Card
import UnityBuild.Proofs.Renaming.Rows

/-!
# What a sequence of insertions leaves in a table

A table is filled one pair after the other. Some pairs are rejected, since their name is no identifier
of C, and some are in the table already, so a call may change nothing. What the table is in the end is
the set of the valid pairs among the calls: it has a row for each of their files and no other, its
counts are the sizes of sets, and the calls that added something are the first ones of the valid pairs.

Main statement: `ofList_holds_validPairs`.
-/

namespace UnityBuild.RenamingTable

/-- What the calls answer one after the other: whether the pair was new to the table at its turn. -/
def answers (t : RenamingTable) : List (String × String) → List Bool
  | [] => []
  | pair :: rest => t.isNew pair.1 pair.2 :: (t.insert pair.1 pair.2).answers rest

/-- The pairs among the calls whose name is an identifier of C. -/
def validPairs (calls : List (String × String)) : Finset (String × String) :=
  {pair ∈ calls.toFinset | Naming.isIdentifier pair.2 = true}

/-- A pair is valid when it is among the calls and names an identifier. -/
theorem mem_validPairs (calls : List (String × String)) (pair : String × String) :
    pair ∈ validPairs calls ↔ pair ∈ calls ∧ Naming.isIdentifier pair.2 = true := by
  rw [validPairs, Finset.mem_filter, List.mem_toFinset]

section Answers

/-- There is one answer for each call. -/
theorem length_answers (t : RenamingTable) (calls : List (String × String)) :
    (t.answers calls).length = calls.length := by
  induction calls generalizing t with
  | nil => rfl
  | cons first rest ih => rw [answers, List.length_cons, List.length_cons, ih]

/-- A pair is new when its name is an identifier and the table does not have it. -/
theorem isNew_iff (t : RenamingTable) (file identifier : String) :
    t.isNew file identifier = true ↔
      Naming.isIdentifier identifier = true ∧ (file, identifier) ∉ t.pairs := by
  simp [isNew]

/-- A call is answered with yes when it is the first one of its pair, unless the table had the pair
before or its name is no identifier. -/
theorem getElem?_answers (t : RenamingTable) (calls : List (String × String)) (i : Nat) :
    (t.answers calls)[i]? = some true ↔
      ∃ pair ∈ calls, Naming.isIdentifier pair.2 = true ∧ pair ∉ t.pairs ∧ calls.idxOf pair = i := by
  induction calls generalizing t i with
  | nil => simp [answers]
  | cons first rest ih =>
    have hother (pair : String × String) (hne : pair ≠ first) :
        (first :: rest).idxOf pair = rest.idxOf pair + 1 := by
      rw [List.idxOf_cons, (beq_eq_false_iff_ne).mpr hne.symm, cond_false]
    cases i with
    | zero =>
      rw [answers, List.getElem?_cons_zero, Option.some.injEq, isNew_iff]
      constructor
      · rintro ⟨hvalid, hnew⟩
        exact ⟨first, List.mem_cons_self, hvalid, hnew, List.idxOf_cons_self⟩
      · rintro ⟨pair, -, hvalid, hnew, hplace⟩
        have hsame : pair = first := by
          by_contra hne
          rw [hother pair hne] at hplace
          exact absurd hplace (Nat.succ_ne_zero _)
        rw [← hsame]
        exact ⟨hvalid, hnew⟩
    | succ i =>
      -- Behind its first call a pair is in the table, unless its name is no identifier.
      rw [answers, List.getElem?_cons_succ, ih]
      refine exists_congr fun pair => ?_
      rw [mem_insert]
      constructor
      · rintro ⟨hpair, hvalid, hnew, hplace⟩
        obtain ⟨hnew, hfirst⟩ := not_or.mp hnew
        have hne : pair ≠ first := fun heq => hfirst ⟨heq, heq ▸ hvalid⟩
        exact ⟨List.mem_cons_of_mem first hpair, hvalid, hnew, by rw [hother pair hne, hplace]⟩
      · rintro ⟨hpair, hvalid, hnew, hplace⟩
        have hne : pair ≠ first := by
          rintro rfl
          rw [List.idxOf_cons_self] at hplace
          exact absurd hplace.symm (Nat.succ_ne_zero i)
        rw [hother pair hne] at hplace
        exact ⟨(List.mem_cons.mp hpair).resolve_left hne, hvalid,
          not_or.mpr ⟨hnew, fun hfirst => hne hfirst.1⟩, Nat.succ.inj hplace⟩

/-- Adding a pair makes an increasing table longer by one when the pair is new. -/
theorem identifierCount_insert (t : RenamingTable) (ht : t.IsIncreasing) (file identifier : String) :
    (t.insert file identifier).identifierCount =
      t.identifierCount + if t.isNew file identifier = true then 1 else 0 := by
  have hafter := (ht.insert t file identifier).nodup
  have hbefore := ht.nodup t
  split
  · rename_i hnew
    obtain ⟨hvalid, hnotMem⟩ := (t.isNew_iff file identifier).mp hnew
    have hperm : (t.insert file identifier).pairs.Perm ((file, identifier) :: t.pairs) := by
      refine (List.perm_ext_iff_of_nodup hafter (List.nodup_cons.mpr ⟨hnotMem, hbefore⟩)).mpr ?_
      intro pair
      rw [mem_insert, and_iff_left hvalid, List.mem_cons, or_comm]
    exact hperm.length_eq
  · rename_i hold
    have hperm : (t.insert file identifier).pairs.Perm t.pairs := by
      refine (List.perm_ext_iff_of_nodup hafter hbefore).mpr fun pair => ?_
      rw [mem_insert, or_iff_left_of_imp]
      rintro ⟨rfl, hvalid⟩
      by_contra hnotMem
      exact hold ((t.isNew_iff file identifier).mpr ⟨hvalid, hnotMem⟩)
    exact hperm.length_eq

/-- A table that is filled one pair after the other grows by one with each yes. -/
theorem identifierCount_foldl_insert (t : RenamingTable) (ht : t.IsIncreasing)
    (calls : List (String × String)) :
    (calls.foldl (fun t call => t.insert call.1 call.2) t).identifierCount =
      t.identifierCount + (t.answers calls).count true := by
  induction calls generalizing t with
  | nil => rfl
  | cons first rest ih =>
    rw [List.foldl_cons, ih _ (ht.insert t first.1 first.2), identifierCount_insert t ht, answers,
      List.count_cons, Nat.add_assoc, Nat.add_comm (List.count _ _)]
    simp only [beq_iff_eq]

end Answers

section Sizes

variable (calls : List (String × String))

/-- The pairs of the table are the valid ones. -/
theorem toFinset_pairs_ofList : (ofList calls).pairs.toFinset = validPairs calls := by
  ext pair
  rw [List.mem_toFinset, mem_ofList, mem_validPairs]

/-- The table is as long as there are valid pairs. -/
theorem identifierCount_ofList : (ofList calls).identifierCount = (validPairs calls).card := by
  rw [identifierCount, ← toFinset_pairs_ofList,
    List.toFinset_card_of_nodup ((isIncreasing_ofList calls).nodup)]

/-- The files of the table are those of the valid pairs. -/
theorem toFinset_files_ofList : (ofList calls).files.toFinset = (validPairs calls).image Prod.fst := by
  ext file
  rw [List.mem_toFinset, mem_files, Finset.mem_image, ← toFinset_pairs_ofList]
  simp only [List.mem_toFinset, Prod.exists, exists_and_right, exists_eq_right]

/-- The table has as many files as the valid pairs. -/
theorem fileCount_ofList : (ofList calls).fileCount = ((validPairs calls).image Prod.fst).card := by
  rw [fileCount, ← toFinset_files_ofList, List.toFinset_card_of_nodup (nodup_files _)]

/-- The row of a file is as long as there are valid pairs of the file. -/
theorem length_identifiersFor_ofList (file : String) :
    ((ofList calls).identifiersFor file).length = {pair ∈ validPairs calls | pair.1 = file}.card := by
  rw [identifiersFor, List.length_map, ← toFinset_pairs_ofList, List.filter_toFinset,
    List.toFinset_card_of_nodup ((isIncreasing_ofList calls).nodup.filter _)]
  rfl

/-- The rows together are as long as there are valid pairs. -/
theorem length_flatMap_rows_ofList :
    ((ofList calls).rows.flatMap Prod.snd).length = (validPairs calls).card := by
  rw [Finset.card_eq_sum_card_image Prod.fst, ← toFinset_files_ofList,
    List.sum_toFinset _ (nodup_files _), List.length_flatMap, rows, List.map_map]
  simp only [Function.comp_def, length_identifiersFor_ofList]

end Sizes

/-- The table of a sequence of calls is the set of the valid pairs among them. Its rows are what adding
the pairs to rows one after the other gives, so none is empty, and the identifiers in the row of a file
are those of the valid pairs of the file, in strictly increasing order of their bytes. The table is
empty when no pair is valid; it counts the files of the valid pairs and the valid pairs themselves,
which are as many as its rows list. As many calls are answered with yes, namely the first call of each
valid pair. The order of the calls does not matter. -/
theorem ofList_holds_validPairs (calls : List (String × String)) :
    let table : RenamingTable := ofList calls
    let valid := validPairs calls
    let yes := empty.answers calls
    (table.rows = calls.foldl addCall [] ∧
      ∀ row ∈ table.rows, row.2 = table.identifiersFor row.1 ∧ row.2 ≠ []) ∧
    (∀ file, (table.identifiersFor file).Pairwise (fun x y => Text.octets x < Text.octets y) ∧
      ∀ x, x ∈ table.identifiersFor file ↔ (file, x) ∈ valid) ∧
    ((table.isEmpty = true ↔ valid = ∅) ∧ (table.isEmpty = true ↔ table.rows = [])) ∧
    (table.fileCount = (valid.image Prod.fst).card ∧ table.fileCount = table.rows.length) ∧
    (table.identifierCount = valid.card ∧
      table.identifierCount = (table.rows.flatMap Prod.snd).length) ∧
    (yes.length = calls.length ∧ yes.count true = table.identifierCount ∧
      ∀ i, yes[i]? = some true ↔ ∃ pair ∈ valid, calls.idxOf pair = i) ∧
    ∀ others, others.Perm calls → ofList others = table := by
  intro table valid yes
  refine ⟨⟨rows_foldl_insert empty List.Pairwise.nil calls, ?_⟩, ?_, ⟨?_, table.isEmpty_iff_rows_eq_nil⟩,
    ⟨fileCount_ofList calls, ?_⟩, ⟨identifierCount_ofList calls, ?_⟩,
    ⟨empty.length_answers calls, ?_, ?_⟩, ?_⟩
  · intro row hrow
    refine ⟨?_, ((isIncreasing_ofList calls).areRows _).filled row hrow⟩
    obtain ⟨file, -, rfl⟩ := List.mem_map.mp hrow
    rfl
  · intro file
    refine ⟨pairwise_octets_identifiersFor calls file, fun x => ?_⟩
    rw [mem_identifiersFor, mem_ofList, mem_validPairs]
  · rw [isEmpty, List.isEmpty_iff, ← List.toFinset_eq_empty_iff, toFinset_pairs_ofList]
  · rw [fileCount, rows, List.length_map]
  · rw [length_flatMap_rows_ofList, identifierCount_ofList]
  · have hgrowth := identifierCount_foldl_insert empty List.Pairwise.nil calls
    exact ((Nat.zero_add _).symm.trans hgrowth.symm)
  · intro i
    rw [getElem?_answers]
    refine exists_congr fun pair => ?_
    simp only [valid, mem_validPairs, empty, List.not_mem_nil, not_false_eq_true, true_and, and_assoc]
  · intro others hperm
    exact ofList_congr others calls fun pair => hperm.mem_iff

/-- Calls for three files, with a name that is no identifier and a repetition. -/
def mixedCalls : List (String × String) :=
  [("y.c", "helper"), ("x.c", "1x"), ("y.c", "_a"), ("y.c", "helper"), ("z.c", "helper")]

/-- A file with rejected names alone gets no row, and the calls can be made in opposite order. -/
theorem ofList_holds_validPairs_mixedCalls :
    (ofList mixedCalls).rows = [("y.c", ["_a", "helper"]), ("z.c", ["helper"])] ∧
      (empty.answers mixedCalls).count true = 3 ∧
      mixedCalls.reverse.Perm mixedCalls ∧ ofList mixedCalls.reverse = ofList mixedCalls := by
  obtain ⟨⟨hrows, -⟩, -, -, -, -, ⟨-, hyes, -⟩, horder⟩ := ofList_holds_validPairs mixedCalls
  have hcount : (ofList mixedCalls).identifierCount = 3 := by decide
  refine ⟨hrows.trans (by decide), hyes.trans hcount, List.reverse_perm mixedCalls, ?_⟩
  exact horder mixedCalls.reverse (List.reverse_perm mixedCalls)

end UnityBuild.RenamingTable
