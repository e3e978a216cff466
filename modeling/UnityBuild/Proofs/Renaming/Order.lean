import Mathlib.Data.List.Sort
import Mathlib.Data.Prod.Lex
import Mathlib.Data.String.Basic
import UnityBuild.Proofs.Lists
import UnityBuild.Proofs.Naming
import UnityBuild.Proofs.Renaming
import UnityBuild.Text.Utf8

/-!
# The order of a renaming table

The pairs of a table increase strictly, first by the file and then by the identifier. So a table is
determined by the pairs it holds, whatever the order in which they were added, and the identifiers
of a file increase strictly. Identifiers of C have one byte for each character, so they increase as
bytes, too.

Main statements: `ofList_congr` and `pairwise_octets_identifiersFor`.
-/

namespace UnityBuild

namespace Text

/-- The bytes of a text, one after the other. -/
def octets (s : String) : List UInt8 :=
  (encode s).data.toList

/-- The bytes of a text are those of its characters. -/
theorem octets_eq (s : String) : octets s = s.toList.flatMap String.utf8EncodeChar := by
  have hbytes : encode s = (s.toList.flatMap String.utf8EncodeChar).toByteArray :=
    s.utf8Encode_toList.symm
  rw [octets, hbytes, List.data_toByteArray]

/-- The first 128 characters are written as one byte with their number. -/
theorem utf8EncodeChar_of_ascii (c : Char) (h : c.toNat < 128) :
    String.utf8EncodeChar c = [UInt8.ofNat c.toNat] :=
  if_pos (Nat.le_of_lt_succ h)

/-- On the first 128 characters the order of texts is the order of their bytes. -/
theorem octets_lt_of_lt (s t : String) (hs : ∀ c ∈ s.toList, c.toNat < 128)
    (ht : ∀ c ∈ t.toList, c.toNat < 128) (h : s < t) : octets s < octets t := by
  rw [String.lt_iff_toList_lt] at h
  rw [octets_eq, octets_eq]
  generalize s.toList = s at hs h
  generalize t.toList = t at ht h
  induction s generalizing t with
  | nil =>
    cases t with
    | nil => exact absurd h (List.lt_irrefl [])
    | cons d t =>
      rw [List.flatMap_cons, utf8EncodeChar_of_ascii d (ht d List.mem_cons_self)]
      exact List.nil_lt_cons _ _
  | cons c s ih =>
    cases t with
    | nil => exact absurd h (List.not_lt_nil _)
    | cons d t =>
      have hc := hs c List.mem_cons_self
      have hd := ht d List.mem_cons_self
      rw [List.flatMap_cons, List.flatMap_cons, utf8EncodeChar_of_ascii c hc,
        utf8EncodeChar_of_ascii d hd]
      refine List.cons_lt_cons_iff.mpr ?_
      rcases List.cons_lt_cons_iff.mp h with hlt | ⟨rfl, hrest⟩
      · left
        have hnat : c.toNat < d.toNat := hlt
        rw [UInt8.lt_iff_toNat_lt, UInt8.toNat_ofNat', UInt8.toNat_ofNat']
        omega
      · right
        exact ⟨rfl, ih (fun e he => hs e (List.mem_cons_of_mem _ he)) t
          (fun e he => ht e (List.mem_cons_of_mem _ he)) hrest⟩

end Text

namespace Naming

/-- An identifier consists of characters among the first 128. -/
theorem toNat_lt_of_isIdentifier (name : String) (h : isIdentifier name = true) :
    ∀ c ∈ name.toList, c.toNat < 128 := by
  intro c hc
  obtain ⟨-, hlast⟩ := toNat_of_isIdentifierRest c (isIdentifierRest_of_mem name.toList h c hc)
  exact Nat.lt_of_le_of_lt hlast (by decide)

end Naming

namespace RenamingTable

/-- Pairs are ordered lexicographically. -/
theorem precedes_iff (a b : String × String) : precedes a b = true ↔ toLex a < toLex b := by
  simp only [precedes, Prod.Lex.toLex_lt_toLex, Bool.or_eq_true, decide_eq_true_eq,
    Bool.and_eq_true, beq_iff_eq]

/-- The pairs of a table increase strictly. -/
def IsIncreasing (t : RenamingTable) : Prop :=
  t.pairs.Pairwise fun a b => toLex a < toLex b

/-- Putting a pair in its place keeps a list increasing. -/
theorem pairwise_insertPair (pair : String × String) (pairs : List (String × String))
    (h : pairs.Pairwise fun a b => toLex a < toLex b) :
    (insertPair pair pairs).Pairwise fun a b => toLex a < toLex b := by
  induction pairs with
  | nil => exact List.pairwise_singleton _ _
  | cons next rest ih =>
    obtain ⟨hnext, hrest⟩ := List.pairwise_cons.mp h
    rw [insertPair]
    split
    · exact h
    · rename_i hne
      split
      · rename_i hbefore
        have hlt := (precedes_iff pair next).mp hbefore
        refine List.pairwise_cons.mpr ⟨?_, h⟩
        intro other hother
        rcases List.mem_cons.mp hother with rfl | hmem
        · exact hlt
        · exact hlt.trans (hnext other hmem)
      · rename_i hbehind
        have hlt : toLex next < toLex pair := by
          rcases lt_trichotomy (toLex next) (toLex pair) with hlt | heq | hgt
          · exact hlt
          · exact absurd (toLex.injective heq).symm hne
          · exact absurd ((precedes_iff pair next).mpr hgt) hbehind
        refine List.pairwise_cons.mpr ⟨?_, ih hrest⟩
        intro other hother
        rcases (mem_insertPair pair other rest).mp hother with rfl | hmem
        · exact hlt
        · exact hnext other hmem

/-- Adding a pair keeps a table increasing. -/
theorem IsIncreasing.insert (t : RenamingTable) (ht : t.IsIncreasing) (file identifier : String) :
    (t.insert file identifier).IsIncreasing := by
  rw [RenamingTable.insert]
  split
  · exact pairwise_insertPair (file, identifier) t.pairs ht
  · exact ht

/-- A table that is filled one pair after the other stays increasing. -/
theorem IsIncreasing.foldl_insert (t : RenamingTable) (ht : t.IsIncreasing)
    (pairs : List (String × String)) :
    (pairs.foldl (fun t pair => t.insert pair.1 pair.2) t).IsIncreasing := by
  induction pairs generalizing t with
  | nil => exact ht
  | cons first rest ih => exact ih _ (ht.insert t first.1 first.2)

/-- The table of a list of pairs is increasing. -/
theorem isIncreasing_ofList (pairs : List (String × String)) : (ofList pairs).IsIncreasing :=
  IsIncreasing.foldl_insert empty List.Pairwise.nil pairs

/-- No pair stands in an increasing table twice. -/
theorem IsIncreasing.nodup (t : RenamingTable) (ht : t.IsIncreasing) : t.pairs.Nodup :=
  Lists.nodup_of_increasing toLex t.pairs ht

/-- Increasing tables with the same pairs are equal. -/
theorem IsIncreasing.eq_of_mem_iff (s t : RenamingTable) (hs : s.IsIncreasing) (ht : t.IsIncreasing)
    (h : ∀ pair, pair ∈ s.pairs ↔ pair ∈ t.pairs) : s = t := by
  have hpairs : s.pairs = t.pairs := Lists.eq_of_increasing toLex _ _ hs ht h
  cases s
  cases t
  exact congrArg mk hpairs

/-- Lists that hold the same pairs give the same table, whatever their order and repetitions. -/
theorem ofList_congr (pairs others : List (String × String))
    (h : ∀ pair, pair ∈ pairs ↔ pair ∈ others) : ofList pairs = ofList others :=
  (isIncreasing_ofList pairs).eq_of_mem_iff _ _ (isIncreasing_ofList others) fun pair => by
    rw [mem_ofList, mem_ofList, h pair]

/-- The identifiers of a file increase strictly. -/
theorem IsIncreasing.pairwise_identifiersFor (t : RenamingTable) (ht : t.IsIncreasing)
    (file : String) : (t.identifiersFor file).Pairwise (· < ·) := by
  rw [identifiersFor, List.pairwise_map]
  refine (ht.filter fun pair => pair.1 == file).imp_of_mem ?_
  intro a b ha hb hlt
  have hfile : a.1 = b.1 := by
    rw [beq_iff_eq.mp (List.mem_filter.mp ha).2, beq_iff_eq.mp (List.mem_filter.mp hb).2]
  rcases Prod.Lex.toLex_lt_toLex.mp hlt with hfirst | ⟨-, hsecond⟩
  · exact absurd hfile hfirst.ne
  · exact hsecond

/-- Pairs of other files do not matter for the identifiers of a file. -/
theorem identifiersFor_congr (pairs others : List (String × String)) (file : String)
    (h : ∀ identifier, (file, identifier) ∈ pairs ↔ (file, identifier) ∈ others) :
    (ofList pairs).identifiersFor file = (ofList others).identifiersFor file := by
  have hpairs := (isIncreasing_ofList pairs).pairwise_identifiersFor _ file
  have hothers := (isIncreasing_ofList others).pairwise_identifiersFor _ file
  refine hpairs.eq_of_mem_iff hothers fun identifier => ?_
  rw [mem_identifiersFor, mem_identifiersFor, mem_ofList, mem_ofList, h identifier]

/-- The identifiers of a file increase strictly as bytes. -/
theorem pairwise_octets_identifiersFor (pairs : List (String × String)) (file : String) :
    ((ofList pairs).identifiersFor file).Pairwise fun x y => Text.octets x < Text.octets y := by
  have hidentifier (x : String) (hx : x ∈ (ofList pairs).identifiersFor file) :
      Naming.isIdentifier x = true :=
    ((mem_ofList pairs (file, x)).mp ((mem_identifiersFor _ file x).mp hx)).2
  refine ((isIncreasing_ofList pairs).pairwise_identifiersFor _ file).imp_of_mem ?_
  intro x y hx hy hlt
  exact Text.octets_lt_of_lt x y (Naming.toNat_lt_of_isIdentifier x (hidentifier x hx))
    (Naming.toNat_lt_of_isIdentifier y (hidentifier y hy)) hlt

end RenamingTable

end UnityBuild
