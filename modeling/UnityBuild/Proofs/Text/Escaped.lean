import Mathlib.Data.List.Infix
import UnityBuild.Text.Escaped

/-!
# Backslashes in front of quotes

Taking the backslashes away from a text that is put together of two parts takes them away from each
part, unless the cut goes through a pair. A text without pairs is left alone, so what is left after
one pass depends on the pairs of the text alone. A text in which every quote was given a backslash
is got back, also when it had backslashes in front of its quotes before.

Main statements: `unescapeQuotes_append` and `unescapeQuotes_escapeQuotes`.
-/

namespace UnityBuild.Text

/-- A character other than a backslash in front of a text stays. -/
theorem unescapeQuotes_cons (c : Char) (s : List Char) (hc : c ≠ '\\') :
    unescapeQuotes (c :: s) = c :: unescapeQuotes s := by
  rw [unescapeQuotes]
  intro t hbackslash
  exact absurd hbackslash hc

/-- Two texts of which the first does not end within a pair can be taken by themselves. -/
theorem unescapeQuotes_append (s t : List Char)
    (h : s.getLast? = some '\\' → t.head? ≠ some '"') :
    unescapeQuotes (s ++ t) = unescapeQuotes s ++ unescapeQuotes t := by
  fun_induction unescapeQuotes s with
  | case1 => rfl
  | case2 s ih =>
    have hlast : s.getLast? = some '\\' → ('\\' :: '"' :: s).getLast? = some '\\' := by
      intro hs
      rw [List.getLast?_cons, List.getLast?_cons, hs]
      rfl
    rw [List.cons_append, List.cons_append, unescapeQuotes, ih fun hs => h (hlast hs)]
    rfl
  | case3 c s hpair ih =>
    have hlast : s.getLast? = some '\\' → (c :: s).getLast? = some '\\' := by
      intro hs
      rw [List.getLast?_cons, hs]
      rfl
    rw [List.cons_append, unescapeQuotes, ih fun hs => h (hlast hs), List.cons_append]
    -- The first character starts no pair with what follows: neither within the text nor over its end.
    intro u hc hu
    cases s with
    | nil =>
      subst hc
      rw [List.nil_append] at hu
      exact h rfl (by rw [hu]; rfl)
    | cons d s =>
      obtain rfl := (List.cons.inj hu).1
      exact hpair s hc rfl

/-- A text without pairs stays as it is. -/
theorem unescapeQuotes_eq_self (s : List Char) (h : ¬ ['\\', '"'] <:+: s) : unescapeQuotes s = s := by
  fun_induction unescapeQuotes s with
  | case1 => rfl
  | case2 s _ => exact absurd ⟨[], s, rfl⟩ h
  | case3 c s _ ih => rw [ih fun hs => h (hs.trans (List.suffix_cons c s).isInfix)]

/-- All characters but backslashes stay. -/
theorem count_unescapeQuotes (s : List Char) (q : Char) (hq : q ≠ '\\') :
    (unescapeQuotes s).count q = s.count q := by
  fun_induction unescapeQuotes s with
  | case1 => rfl
  | case2 s ih => rw [List.count_cons, List.count_cons_of_ne hq.symm, List.count_cons, ih]
  | case3 c s _ ih => rw [List.count_cons, List.count_cons, ih]

/-- So a text has the same characters besides backslashes before and after. -/
theorem mem_unescapeQuotes_iff (s : List Char) (q : Char) (hq : q ≠ '\\') :
    q ∈ unescapeQuotes s ↔ q ∈ s := by
  rw [← List.count_pos_iff, count_unescapeQuotes s q hq, List.count_pos_iff]

/-- A text in which every quote was given a backslash is got back. -/
theorem unescapeQuotes_escapeQuotes (s : List Char) : unescapeQuotes (escapeQuotes s) = s := by
  induction s with
  | nil => rfl
  | cons c s ih =>
    by_cases hc : c = '"'
    · rw [escapeQuotes, if_pos hc, unescapeQuotes, ih, hc]
    · -- What follows starts with no quote, since a quote would have got a backslash.
      have hhead : ∀ u, escapeQuotes s ≠ '"' :: u := by
        intro u hu
        cases s with
        | nil => cases hu
        | cons d s =>
          rw [escapeQuotes] at hu
          split at hu
          · cases hu
          · rename_i hd
            exact hd (List.cons.inj hu).1
      rw [escapeQuotes, if_neg hc, unescapeQuotes, ih]
      exact fun u _ hu => hhead u hu

end UnityBuild.Text
