import Mathlib.Data.List.Basic
import Mathlib.Data.List.Chain
import Mathlib.Data.List.Forall2
import Mathlib.Data.List.Induction
import Mathlib.Data.List.Nodup
import Mathlib.Order.Basic
import UnityBuild.Proofs.Results

/-!
# Lists of first occurrences and of results

Sets are kept as lists without repetition in the order of first occurrence, and a list of inputs
is read one by one until one fails. The laws here say how both fit in with choosing members: a
choice can be made before or after repetitions are removed, and a reading succeeds exactly when
every input gives its own result. A set that is kept in increasing order is one list only. Members
that stand next to each other are pairs that are part of the list.
-/

namespace UnityBuild.Lists

variable {α β ε : Type}

section Increasing

variable {κ : Type} [Preorder κ] (key : α → κ)

/-- A list whose keys increase strictly repeats nothing. -/
theorem nodup_of_increasing (l : List α) (h : l.Pairwise fun a b => key a < key b) : l.Nodup :=
  h.imp fun hlt heq => hlt.ne (congrArg key heq)

/-- Lists whose keys increase strictly are equal when they have the same members. -/
theorem eq_of_increasing (l l' : List α) (h : l.Pairwise fun a b => key a < key b)
    (h' : l'.Pairwise fun a b => key a < key b) (hmem : ∀ a, a ∈ l ↔ a ∈ l') : l = l' := by
  have hperm : l.Perm l' :=
    (List.perm_ext_iff_of_nodup (nodup_of_increasing key l h) (nodup_of_increasing key l' h')).mpr hmem
  exact hperm.eq_of_pairwise (fun _ _ _ _ hab hba => absurd hab hba.asymm) h h'

end Increasing

/-- First occurrences of chosen members are the chosen first occurrences. -/
theorem filter_eraseDups [BEq α] [LawfulBEq α] (keep : α → Bool) (l : List α) :
    l.eraseDups.filter keep = (l.filter keep).eraseDups := by
  match l with
  | [] => rfl
  | a :: l =>
    have hlength : (l.filter fun b => !b == a).length < l.length + 1 :=
      Nat.lt_succ_of_le (List.length_filter_le _ l)
    rw [List.eraseDups_cons, List.filter_cons, filter_eraseDups keep (l.filter fun b => !b == a)]
    have hswap : (l.filter fun b => !b == a).filter keep = (l.filter keep).filter fun b => !b == a := by
      simp only [List.filter_filter, Bool.and_comm]
    by_cases ha : keep a = true
    · rw [if_pos ha, List.filter_cons_of_pos ha, List.eraseDups_cons, hswap]
    · have hself : (l.filter keep).filter (fun b => !b == a) = l.filter keep := by
        apply List.filter_eq_self.mpr
        intro b hb
        have hne : b ≠ a := fun heq => ha (heq ▸ (List.mem_filter.mp hb).2)
        simpa using hne
      rw [if_neg ha, List.filter_cons_of_neg ha, hswap, hself]
termination_by l.length

/-- No first occurrence is listed twice. -/
theorem nodup_eraseDups [BEq α] [LawfulBEq α] (l : List α) : l.eraseDups.Nodup := by
  match l with
  | [] => exact List.nodup_nil
  | a :: l =>
    have hlength : (l.filter fun b => !b == a).length < l.length + 1 :=
      Nat.lt_succ_of_le (List.length_filter_le _ l)
    rw [List.eraseDups_cons, List.nodup_cons]
    exact ⟨by simp, nodup_eraseDups _⟩
termination_by l.length

/-- A list without repetition is the list of its first occurrences. -/
theorem eraseDups_eq_self [BEq α] [LawfulBEq α] (l : List α) (h : l.Nodup) : l.eraseDups = l := by
  induction l with
  | nil => rfl
  | cons a l ih =>
    obtain ⟨ha, hl⟩ := List.nodup_cons.mp h
    have hself : l.filter (fun b => !b == a) = l := by
      apply List.filter_eq_self.mpr
      intro b hb
      have hne : b ≠ a := fun heq => ha (heq ▸ hb)
      simpa using hne
    rw [List.eraseDups_cons, hself, ih hl]

/-- First occurrences stand in the order of the list. -/
theorem eraseDups_sublist [BEq α] (l : List α) : l.eraseDups.Sublist l := by
  match l with
  | [] => exact List.Sublist.slnil
  | a :: l =>
    have hlength : (l.filter fun b => !b == a).length < l.length + 1 :=
      Nat.lt_succ_of_le (List.length_filter_le _ l)
    rw [List.eraseDups_cons]
    exact ((eraseDups_sublist _).trans List.filter_sublist).cons_cons a
termination_by l.length

/-- The members of a list stand in the order in which they first occur in another list. -/
def InOrderOf [BEq α] (source l : List α) : Prop :=
  l.Pairwise fun a b => source.idxOf a < source.idxOf b

/-- First occurrences stand in the order in which the members first occur. -/
theorem inOrderOf_eraseDups [BEq α] [LawfulBEq α] (l : List α) : InOrderOf l l.eraseDups := by
  induction l using List.reverseRecOn with
  | nil => exact List.Pairwise.nil
  | append_singleton l a ih =>
    -- The members of the shorter list keep their places, and a new one has the last place.
    have hold : l.eraseDups.Pairwise fun b c => (l ++ [a]).idxOf b < (l ++ [a]).idxOf c := by
      refine ih.imp_of_mem fun {b c} hb hc hbc => ?_
      rwa [List.idxOf_append_of_mem (List.mem_eraseDups.mp hb),
        List.idxOf_append_of_mem (List.mem_eraseDups.mp hc)]
    rw [InOrderOf, List.eraseDups_append, List.cons_removeAll]
    split
    · rename_i hnew
      have ha : a ∉ l := by simpa using hnew
      refine List.pairwise_append.mpr ⟨hold, List.pairwise_singleton _ _, fun b hb c hc => ?_⟩
      have hb' := List.mem_eraseDups.mp hb
      obtain rfl : c = a := by simpa using hc
      rw [List.idxOf_append_of_mem hb', List.idxOf_append_of_notMem ha]
      exact Nat.lt_add_right _ (List.idxOf_lt_length_of_mem hb')
    · simpa using hold

/-- A list without repetition is what a partial map makes of it, repetitions removed, exactly when the
map leaves every member as it is. -/
theorem eraseDups_filterMap_eq_self_iff [BEq α] [LawfulBEq α] (f : α → Option α) (l : List α)
    (hl : l.Nodup) : (l.filterMap f).eraseDups = l ↔ ∀ a ∈ l, f a = some a := by
  have hself : l.filterMap f = l ↔ ∀ a ∈ l, f a = some a := by
    clear hl
    induction l with
    | nil => simp
    | cons a l ih =>
      cases ha : f a with
      | none =>
        have hshort : l.filterMap f ≠ a :: l := by
          intro h
          have hlength := List.length_filterMap_le f l
          rw [h] at hlength
          exact Nat.not_succ_le_self _ hlength
        simp [ha, hshort]
      | some b => simp [ha, ih]
  rw [← hself]
  constructor
  · intro h
    have hlength : (l.filterMap f).length ≤ (l.filterMap f).eraseDups.length := by
      rw [h]
      exact List.length_filterMap_le f l
    rw [← (eraseDups_sublist _).eq_of_length_le hlength, h]
  · intro h
    rw [h, eraseDups_eq_self l hl]

/-- A member that was not there before splits the first occurrences into those in front of it and the
new ones behind it. -/
theorem eraseDups_append_cons [BEq α] [LawfulBEq α] (front rest : List α) (a : α) (ha : a ∉ front) :
    (front ++ a :: rest).eraseDups =
      front.eraseDups ++ a :: (rest.filter fun c => !(c == a) && !front.contains c).eraseDups := by
  have hremove : (a :: rest).removeAll front = a :: rest.removeAll front := by
    rw [List.cons_removeAll, if_pos (by simpa using ha)]
  rw [List.eraseDups_append, hremove, List.eraseDups_cons, List.removeAll, List.filter_filter]

/-- Two members stand next to each other among the first occurrences exactly when nothing new stands
between the first occurrence of the one and the first occurrence of the other. -/
theorem pair_infix_eraseDups_iff [BEq α] [LawfulBEq α] (l : List α) (a b : α) :
    [a, b] <:+: l.eraseDups ↔
      ∃ front middle behind, l = front ++ a :: (middle ++ b :: behind) ∧ a ∉ front ∧ b ∉ front ∧
        b ≠ a ∧ ∀ c ∈ middle, c = a ∨ c ∈ front := by
  constructor
  · rintro ⟨before, after, hpair⟩
    have ha : a ∈ l := by
      rw [← List.mem_eraseDups, ← hpair]
      simp
    obtain ⟨front, rest, rfl, hfront⟩ := List.eq_append_cons_of_mem ha
    rw [eraseDups_append_cons front rest a hfront, List.append_assoc] at hpair
    have ha' : a ∉ (rest.filter fun c => !(c == a) && !front.contains c).eraseDups := by
      rw [List.mem_eraseDups, List.mem_filter]
      simp
    obtain ⟨-, -, hnew⟩ :=
      (List.append_cons_inj_of_notMem (mt List.mem_eraseDups.mp hfront) ha').mp hpair.symm
    cases hfilter : rest.filter fun c => !(c == a) && !front.contains c with
    | nil =>
      rw [hfilter] at hnew
      cases hnew
    | cons c others =>
      rw [hfilter, List.eraseDups_cons] at hnew
      obtain rfl : c = b := (List.cons.inj hnew).1
      obtain ⟨middle, behind, rfl, hmiddle, hc, -⟩ := List.filter_eq_cons_iff.mp hfilter
      have hc' : c ≠ a ∧ c ∉ front := by simpa using hc
      refine ⟨front, middle, behind, rfl, hfront, hc'.2, hc'.1, fun d hd => ?_⟩
      by_contra hnone
      exact hmiddle d hd (by simpa [not_or] using hnone)
  · rintro ⟨front, middle, behind, rfl, ha, hb, hne, hmiddle⟩
    have hnone : middle.filter (fun c => !(c == a) && !front.contains c) = [] := by
      rw [List.filter_eq_nil_iff]
      intro c hc
      rcases hmiddle c hc with rfl | hfront
      · simp
      · simp [hfront]
    rw [eraseDups_append_cons front _ a ha, List.filter_append, hnone, List.nil_append,
      List.filter_cons_of_pos (by simp [hne, hb]), List.eraseDups_cons]
    exact ⟨front.eraseDups, _, by rw [List.append_assoc]; rfl⟩

/-- Two members of a list without repetition stand next to each other in a part that holds the second
when they do in the list. -/
theorem pair_infix_append_iff (l l' : List α) (a b : α) (h : (l ++ l').Nodup) (hb : b ∈ l) :
    [a, b] <:+: l ++ l' ↔ [a, b] <:+: l := by
  constructor
  · rintro ⟨before, after, hpair⟩
    obtain ⟨front, rest, rfl⟩ := List.append_of_mem hb
    rw [List.append_assoc, List.cons_append] at h
    have hb' := List.nodup_middle.mp h
    obtain ⟨hfront, hrest⟩ := not_or.mp (mt List.mem_append.mpr (List.nodup_cons.mp hb').1)
    have hcut : front ++ b :: (rest ++ l') = (before ++ [a]) ++ b :: after := by
      simpa using hpair.symm
    obtain ⟨rfl, -, -⟩ := (List.append_cons_inj_of_notMem hfront hrest).mp hcut
    exact ⟨before, rest, by simp⟩
  · exact fun hpair => List.infix_append_of_infix_left hpair

/-- Some neighbours are related unless all neighbours are unrelated. -/
theorem exists_pair_infix_iff (R : α → α → Prop) (l : List α) :
    (∃ a b, [a, b] <:+: l ∧ R a b) ↔ ¬ l.IsChain fun a b => ¬ R a b := by
  constructor
  · rintro ⟨a, b, hpair, hR⟩ hall
    have hunrelated : [a, b].IsChain fun a b => ¬ R a b := List.IsChain.infix hall hpair
    exact List.isChain_pair.mp hunrelated hR
  · intro hsome
    by_contra hnone
    exact hsome ((List.isChain_isInfix l).imp fun a b hpair hR => hnone ⟨a, b, hpair, hR⟩)

/-- Reading a list succeeds exactly when every member gives the result at its place. -/
theorem mapM_eq_ok_iff (f : α → Except ε β) (l : List α) (results : List β) :
    l.mapM f = .ok results ↔ List.Forall₂ (fun a b => f a = .ok b) l results := by
  induction l generalizing results with
  | nil => cases results <;> simp [pure, Except.pure]
  | cons a l ih =>
    simp only [List.mapM_cons, Results.bind_eq_ok_iff, pure, Except.pure, Except.ok.injEq, ih]
    constructor
    · rintro ⟨b, hb, others, hothers, rfl⟩
      exact .cons hb hothers
    · rintro (_ | ⟨hb, hothers⟩)
      exact ⟨_, hb, _, hothers, rfl⟩

/-- Every member of the second of two lists that are related place by place is related to one of the
first. -/
theorem exists_of_mem_right {R : α → β → Prop} (l : List α) (l' : List β) (h : List.Forall₂ R l l')
    (b : β) (hb : b ∈ l') : ∃ a ∈ l, R a b := by
  obtain ⟨i, hi, rfl⟩ := List.getElem_of_mem hb
  have hlength : i < l.length := h.length_eq ▸ hi
  exact ⟨l[i], List.getElem_mem hlength, h.get hlength hi⟩

/-- Every member of the first of two lists that are related place by place is related to one of the
second. -/
theorem exists_of_mem_left {R : α → β → Prop} (l : List α) (l' : List β) (h : List.Forall₂ R l l')
    (a : α) (ha : a ∈ l) : ∃ b ∈ l', R a b :=
  exists_of_mem_right l' l (R := flip R) h.flip a ha

/-- Every result of a reading comes from a member. -/
theorem exists_of_mem_mapM (f : α → Except ε β) (l : List α) (results : List β)
    (h : l.mapM f = .ok results) (b : β) (hb : b ∈ results) : ∃ a ∈ l, f a = .ok b :=
  exists_of_mem_right l results ((mapM_eq_ok_iff f l results).mp h) b hb

end UnityBuild.Lists
