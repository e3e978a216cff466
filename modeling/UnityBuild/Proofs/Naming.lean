import Mathlib.Data.List.Basic
import UnityBuild.Naming

/-!
# When qualified names of two files can agree

The name of a file keeps less than its path, and it is put in front of an identifier with nothing
but underscores between them. So two files can give one qualified name to identifiers of theirs,
and this depends on their names alone: it happens exactly when one name is the other, followed by
nothing, by one underscore, or by the separator and possibly an identifier.

Main statement: `exists_qualify_eq_iff`.
-/

namespace UnityBuild.Naming

/-- Whether characters that follow a file's name can be read as a start of the separator and an
identifier behind it. -/
def startsQualified : List Char → Bool
  | [] => true
  | [c] => c == '_'
  | c :: d :: rest => c == '_' && d == '_' && (rest.isEmpty || isIdentifierChars rest)

/-- A name goes on from another when what follows the other is a start of the separator and an
identifier. -/
def GoesOn (a b : String) : Prop :=
  ∃ rest, b.toList = a.toList ++ rest ∧ startsQualified rest = true

/-- Two names of files overlap when one of them goes on from the other. -/
def Overlap (a b : String) : Prop :=
  GoesOn a b ∨ GoesOn b a

/-- A name goes on from another when it starts with the other and the rest is such a start. -/
theorem goesOn_iff (a b : String) :
    GoesOn a b ↔
      a.toList <+: b.toList ∧ startsQualified (b.toList.drop a.toList.length) = true := by
  constructor
  · rintro ⟨rest, hb, hrest⟩
    rw [hb, List.drop_left]
    exact ⟨List.prefix_append _ rest, hrest⟩
  · rintro ⟨⟨rest, hb⟩, hrest⟩
    rw [← hb, List.drop_left] at hrest
    exact ⟨rest, hb.symm, hrest⟩

instance (a b : String) : Decidable (GoesOn a b) :=
  decidable_of_iff _ (goesOn_iff a b).symm

instance (a b : String) : Decidable (Overlap a b) :=
  inferInstanceAs (Decidable (_ ∨ _))

/-- The name of a file consists of word characters. -/
theorem isWordChar_of_mem_collapseRuns (inRun : Bool) (s : List Char) :
    ∀ c ∈ collapseRuns inRun s, Text.isWordChar c = true := by
  fun_induction collapseRuns inRun s with
  | case1 => exact fun c hc => absurd hc List.not_mem_nil
  | case2 inRun c s hc ih => exact List.forall_mem_cons.mpr ⟨hc, ih⟩
  | case3 c s _ ih => exact ih
  | case4 inRun c s _ _ ih => exact List.forall_mem_cons.mpr ⟨rfl, ih⟩

/-- The characters of a qualified name. -/
theorem toList_qualify (fileName identifier : String) :
    (qualify fileName identifier).toList =
      fileName.toList ++ '_' :: '_' :: identifier.toList := by
  rw [qualify, String.toList_append, String.toList_append, List.append_assoc]
  rfl

/-- An identifier goes on behind a start of it in any way that its characters allow. -/
theorem isIdentifierChars_append (start rest : List Char) (hstart : start ≠ []) :
    isIdentifierChars (start ++ rest) = (isIdentifierChars start && rest.all isIdentifierRest) := by
  cases start with
  | nil => exact absurd rfl hstart
  | cons c start =>
    rw [List.cons_append, isIdentifierChars, isIdentifierChars, List.all_append, Bool.and_assoc]

/-- All characters of an identifier can stand in one. -/
theorem isIdentifierRest_of_mem (name : List Char) (hname : isIdentifierChars name = true) :
    ∀ c ∈ name, isIdentifierRest c = true := by
  cases name with
  | nil => exact fun c hc => absurd hc List.not_mem_nil
  | cons d name =>
    obtain ⟨hd, hrest⟩ := Bool.and_eq_true_iff.mp hname
    intro c hc
    rcases List.mem_cons.mp hc with rfl | hc
    · exact Bool.or_eq_true_iff.mpr (.inl hd)
    · exact List.all_eq_true.mp hrest c hc

/-- The characters of identifiers lie between the first digit and the last letter. -/
theorem toNat_of_isIdentifierRest (c : Char) (hc : isIdentifierRest c = true) :
    '0'.toNat ≤ c.toNat ∧ c.toNat ≤ 'z'.toNat := by
  have hbounds (first last : Char) (hfirst : '0'.toNat ≤ first.toNat) (hlast : last.toNat ≤ 'z'.toNat)
      (hlow : first.val ≤ c.val) (hhigh : c.val ≤ last.val) :
      '0'.toNat ≤ c.toNat ∧ c.toNat ≤ 'z'.toNat :=
    ⟨Nat.le_trans hfirst (UInt32.le_iff_toNat_le.mp hlow),
      Nat.le_trans (UInt32.le_iff_toNat_le.mp hhigh) hlast⟩
  rw [isIdentifierRest, isIdentifierStart, Bool.or_eq_true, Bool.or_eq_true, beq_iff_eq] at hc
  rcases hc with (halpha | rfl) | hdigit
  · rcases Bool.or_eq_true_iff.mp halpha with hupper | hlower
    · obtain ⟨hlow, hhigh⟩ := of_decide_eq_true hupper
      exact hbounds 'A' 'Z' (by decide) (by decide) hlow hhigh
    · obtain ⟨hlow, hhigh⟩ := Bool.and_eq_true_iff.mp hlower
      exact hbounds 'a' 'z' (by decide) (by decide) (of_decide_eq_true hlow) (of_decide_eq_true hhigh)
  · decide
  · obtain ⟨hlow, hhigh⟩ := Bool.and_eq_true_iff.mp hdigit
    exact hbounds '0' '9' (by decide) (by decide) (of_decide_eq_true hlow) (of_decide_eq_true hhigh)

/-- The separator and an identifier can be read as such behind a start of them exactly when the
start can be followed by the separator and an identifier. -/
theorem exists_identifiers_iff_startsQualified (start : List Char) :
    (∃ x y, isIdentifierChars x = true ∧ isIdentifierChars y = true ∧
        '_' :: '_' :: x = start ++ '_' :: '_' :: y) ↔ startsQualified start = true := by
  match start with
  | [] => exact ⟨fun _ => rfl, fun _ => ⟨['_'], ['_'], rfl, rfl, rfl⟩⟩
  | [c] =>
    constructor
    · rintro ⟨x, y, -, -, h⟩
      obtain ⟨rfl, -⟩ := List.cons.inj h
      rfl
    · intro h
      obtain rfl := beq_iff_eq.mp h
      exact ⟨['_', '_'], ['_'], rfl, rfl, rfl⟩
  | c :: d :: rest =>
    have hempty (y : List Char) (hy : isIdentifierChars y = true) :
        isIdentifierChars (rest ++ '_' :: '_' :: y) = (rest.isEmpty || isIdentifierChars rest) := by
      have hall : y.all isIdentifierRest = true := by
        cases y with
        | nil => rfl
        | cons e y =>
          rw [isIdentifierChars, Bool.and_eq_true] at hy
          rw [List.all_cons, Bool.and_eq_true, isIdentifierRest, hy.1]
          exact ⟨rfl, hy.2⟩
      cases rest with
      | nil => simp [isIdentifierChars, isIdentifierRest, isIdentifierStart, hall]
      | cons e rest =>
        rw [isIdentifierChars_append _ _ (List.cons_ne_nil e rest)]
        simp [isIdentifierRest, isIdentifierStart, hall]
    rw [startsQualified, Bool.and_eq_true, Bool.and_eq_true, beq_iff_eq, beq_iff_eq]
    constructor
    · rintro ⟨x, y, hx, hy, h⟩
      rw [List.cons_append, List.cons_append, List.cons.injEq, List.cons.injEq] at h
      obtain ⟨rfl, rfl, rfl⟩ := h
      exact ⟨⟨rfl, rfl⟩, by rw [← hempty y hy, hx]⟩
    · rintro ⟨⟨rfl, rfl⟩, hrest⟩
      exact ⟨rest ++ ['_', '_', '_'], ['_'], by rw [hempty ['_'] rfl, hrest], rfl, rfl⟩

/-- When a name goes on from another, some identifiers have one qualified name in both files. -/
theorem exists_qualify_eq_of_goesOn (a b : String) (h : GoesOn a b) :
    ∃ x y, isIdentifier x = true ∧ isIdentifier y = true ∧ qualify a x = qualify b y := by
  obtain ⟨rest, hb, hrest⟩ := h
  obtain ⟨x, y, hx, hy, hxy⟩ := (exists_identifiers_iff_startsQualified rest).mpr hrest
  refine ⟨String.ofList x, String.ofList y, ?_, ?_, String.toList_inj.mp ?_⟩
  · rwa [isIdentifier, String.toList_ofList]
  · rwa [isIdentifier, String.toList_ofList]
  · rw [toList_qualify, toList_qualify, String.toList_ofList, String.toList_ofList, hxy, hb,
      List.append_assoc]

/-- Identifiers of two files can have one qualified name exactly when the names of the files
overlap. -/
theorem exists_qualify_eq_iff (a b : String) :
    (∃ x y, isIdentifier x = true ∧ isIdentifier y = true ∧ qualify a x = qualify b y) ↔
      Overlap a b := by
  constructor
  · rintro ⟨x, y, hx, hy, h⟩
    have hlist := congrArg String.toList h
    rw [toList_qualify, toList_qualify] at hlist
    rcases List.append_eq_append_iff.mp hlist with ⟨rest, hb, hrest⟩ | ⟨rest, ha, hrest⟩
    · exact .inl ⟨rest, hb,
        (exists_identifiers_iff_startsQualified rest).mp ⟨x.toList, y.toList, hx, hy, hrest⟩⟩
    · exact .inr ⟨rest, ha,
        (exists_identifiers_iff_startsQualified rest).mp ⟨y.toList, x.toList, hy, hx, hrest⟩⟩
  · rintro (hab | hba)
    · exact exists_qualify_eq_of_goesOn a b hab
    · obtain ⟨y, x, hy, hx, h⟩ := exists_qualify_eq_of_goesOn b a hba
      exact ⟨x, y, hx, hy, h.symm⟩

end UnityBuild.Naming
