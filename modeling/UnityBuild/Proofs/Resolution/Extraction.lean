import Mathlib.Data.Finset.Card
import UnityBuild.Proofs.Renaming.Order
import UnityBuild.Proofs.Resolution

/-!
# What is drawn from the diagnostics of a compilation

The clashes are read off the diagnostics in the order in which they stand, each before those below
it. The table holds the file and the identifier of every clash and nothing else, since whatever a
message names as clashing is an identifier, and the diagnostics that count as ignored are those with
no clash at any depth. So neither depends on the order of the diagnostics, at the top or below.

Main statement: `extract_exact`.
-/

namespace UnityBuild

namespace Diagnostic

/-- Diagnostics and all below them in order: a diagnostic, then those below it, then those behind
it. -/
inductive Preorder : List Diagnostic → List Diagnostic → Prop where
  | nil : Preorder [] []
  | cons (d : Diagnostic) (rest below behind : List Diagnostic) (hbelow : Preorder d.children below)
      (hbehind : Preorder rest behind) : Preorder (d :: rest) (d :: below ++ behind)

/-- The same diagnostics in another order, at the top or below one of them. -/
inductive Rearranged : List Diagnostic → List Diagnostic → Prop where
  | order (ds others : List Diagnostic) (h : ds.Perm others) : Rearranged ds others
  | children (before after : List Diagnostic) (d : Diagnostic) (others : List Diagnostic)
      (h : Rearranged d.children others) :
      Rearranged (before ++ d :: after) (before ++ { d with children := others } :: after)
  | trans (ds between others : List Diagnostic) (hfirst : Rearranged ds between)
      (hsecond : Rearranged between others) : Rearranged ds others

/-- A diagnostic reports a clash at a known place when its message names an identifier and one of
its locations has a caret. -/
def ReportsClash (d : Diagnostic) : Prop :=
  (collisionIdentifier? d.message).isSome ∧ d.caret?.isSome

/-- A diagnostic stands before all that is below it. -/
theorem flatten_eq (d : Diagnostic) : d.flatten = d :: flattenAll d.children := by
  cases d
  rw [flatten]

/-- Flattening a list lists its members and all below them in order. -/
theorem preorder_flattenAll (ds : List Diagnostic) : Preorder ds (flattenAll ds) := by
  match ds with
  | [] => rw [flattenAll]; exact .nil
  | ⟨kind, message, locations, children⟩ :: rest =>
    rw [flattenAll, flatten]
    exact .cons _ rest _ _ (preorder_flattenAll children) (preorder_flattenAll rest)

end Diagnostic

namespace Resolution

/-- The clashes of diagnostics are those of all that they hold, in order. -/
theorem filterMap_flattenAll (root : Path) (ds : List Diagnostic) :
    (Diagnostic.flattenAll ds).filterMap (collisionAt? root) = ds.flatMap (collisionsOf root) := by
  induction ds with
  | nil => rfl
  | cons first rest ih =>
    rw [Diagnostic.flattenAll, List.filterMap_append, ih, List.flatMap_cons, collisionsOf]

/-- The clashes of a diagnostic are its own one, if it reports one, and those below it. -/
theorem collisionsOf_eq (root : Path) (d : Diagnostic) :
    collisionsOf root d =
      (collisionAt? root d).toList ++ d.children.flatMap (collisionsOf root) := by
  rw [collisionsOf, d.flatten_eq, ← filterMap_flattenAll]
  cases hown : collisionAt? root d with
  | none => rw [List.filterMap_cons_none hown, Option.toList_none, List.nil_append]
  | some c => rw [List.filterMap_cons_some hown, Option.toList_some, List.singleton_append]

/-- The clash of a diagnostic is what its message names, at its first caret. -/
theorem collisionAt?_eq (root : Path) (d : Diagnostic) :
    collisionAt? root d =
      match Diagnostic.collisionIdentifier? d.message, d.caret? with
      | some identifier, some place =>
        some ⟨unitPath root place.file, identifier, place.line, place.column⟩
      | _, _ => none := by
  rw [collisionAt?]
  cases Diagnostic.collisionIdentifier? d.message with
  | none => rfl
  | some identifier => cases d.caret? <;> rfl

/-- A diagnostic has no clash of its own exactly when it reports none. -/
theorem collisionAt?_eq_none_iff (root : Path) (d : Diagnostic) :
    collisionAt? root d = none ↔ ¬ d.ReportsClash := by
  rw [collisionAt?_eq, Diagnostic.ReportsClash]
  cases Diagnostic.collisionIdentifier? d.message with
  | none => simp
  | some identifier => cases d.caret? <;> simp

/-- A diagnostic with the same message and places reports the same clash, whatever is below it. -/
theorem collisionAt?_children (root : Path) (d : Diagnostic) (others : List Diagnostic) :
    collisionAt? root { d with children := others } = collisionAt? root d := rfl

/-- Another order of the diagnostics gives the same clashes in another order, and as many
diagnostics without a clash. -/
theorem rearranged_collisions (root : Path) (ds others : List Diagnostic)
    (h : Diagnostic.Rearranged ds others) :
    (ds.flatMap (collisionsOf root)).Perm (others.flatMap (collisionsOf root)) ∧
      (ds.countP fun d => (collisionsOf root d).isEmpty) =
        others.countP fun d => (collisionsOf root d).isEmpty := by
  induction h with
  | order ds others h => exact ⟨h.flatMap_right _, h.countP_eq _⟩
  | children before after d others _ ih =>
    have hbelow : (collisionsOf root d).Perm (collisionsOf root { d with children := others }) := by
      rw [collisionsOf_eq root d, collisionsOf_eq root { d with children := others },
        collisionAt?_children]
      exact ih.1.append_left _
    have hempty : (collisionsOf root d).isEmpty =
        (collisionsOf root { d with children := others }).isEmpty := by
      rw [Bool.eq_iff_iff, List.isEmpty_iff, List.isEmpty_iff]
      exact ⟨fun hnil => (hnil ▸ hbelow).nil_eq.symm, fun hnil => (hnil ▸ hbelow).eq_nil⟩
    constructor
    · simp only [List.flatMap_append, List.flatMap_cons]
      exact (hbelow.append_right _).append_left _
    · simp only [List.countP_append, List.countP_cons, hempty]
  | trans ds between others _ _ hfirst hsecond =>
    exact ⟨hfirst.1.trans hsecond.1, hfirst.2.trans hsecond.2⟩

/-- The table holds the file and the identifier of every clash and nothing else. -/
theorem mem_tableOf_extract (root : Path) (succeeded : Bool) (diagnostics : List Diagnostic)
    (file identifier : String) :
    (file, identifier) ∈ (extract root succeeded diagnostics).table.pairs ↔
      ∃ c ∈ (extract root succeeded diagnostics).collisions,
        c.file = file ∧ c.identifier = identifier := by
  rw [extract, tableOf, RenamingTable.mem_ofList, List.mem_map]
  constructor
  · rintro ⟨⟨c, hc, hpair⟩, -⟩
    obtain ⟨hfile, hidentifier⟩ := Prod.mk.inj hpair
    exact ⟨c, hc, hfile, hidentifier⟩
  · rintro ⟨c, hc, rfl, rfl⟩
    refine ⟨⟨c, hc, rfl⟩, ?_⟩
    obtain ⟨d, -, hd⟩ := List.mem_flatMap.mp hc
    obtain ⟨node, -, hnode⟩ := List.mem_filterMap.mp hd
    obtain ⟨-, -, hidentifier, -⟩ := (collisionAt?_eq_some_iff root node c).mp hnode
    exact Diagnostic.isIdentifier_of_collisionIdentifier node.message c.identifier hidentifier

/-- The table counts the distinct pairs of a file and an identifier among the clashes. -/
theorem identifierCount_extract (root : Path) (succeeded : Bool) (diagnostics : List Diagnostic) :
    (extract root succeeded diagnostics).table.identifierCount =
      ((extract root succeeded diagnostics).collisions.map
        fun c => (c.file, c.identifier)).toFinset.card := by
  have hnodup : (extract root succeeded diagnostics).table.pairs.Nodup :=
    (RenamingTable.isIncreasing_ofList _).nodup
  rw [RenamingTable.identifierCount, ← List.toFinset_card_of_nodup hnodup]
  congr 1
  ext ⟨file, identifier⟩
  rw [List.mem_toFinset, List.mem_toFinset, mem_tableOf_extract, List.mem_map]
  simp only [Prod.mk.injEq]

/-- A diagnostic has no clashes exactly when none that it holds reports one. -/
theorem collisionsOf_eq_nil_iff (root : Path) (d : Diagnostic) :
    collisionsOf root d = [] ↔ ∀ node : Diagnostic, node.Within d → ¬ node.ReportsClash := by
  rw [collisionsOf, List.filterMap_eq_nil_iff]
  simp only [Diagnostic.mem_flatten_iff, collisionAt?_eq_none_iff]

open scoped Classical in
/-- The clashes are those of the diagnostics in order, each before those below it: a node gives one
exactly when its message names an identifier and it has a caret, namely the file, line and column of
its first caret. An identifier is renamed in a file exactly when some clash has this file and this
identifier, so the table counts the distinct pairs. The ignored diagnostics are those of the list
that hold no such node. Neither the table nor the number of ignored diagnostics depends on the order
of the diagnostics, at the top or below one of them. -/
theorem extract_exact (root : Path) (succeeded : Bool) (diagnostics : List Diagnostic) :
    let r := extract root succeeded diagnostics
    (∃ nodes, Diagnostic.Preorder diagnostics nodes ∧
      r.collisions = nodes.filterMap fun node =>
        match Diagnostic.collisionIdentifier? node.message, node.caret? with
        | some identifier, some place =>
          some ⟨unitPath root place.file, identifier, place.line, place.column⟩
        | _, _ => none) ∧
    (∀ file identifier, identifier ∈ r.table.identifiersFor file ↔
      ∃ c ∈ r.collisions, c.file = file ∧ c.identifier = identifier) ∧
    r.table.identifierCount =
      (r.collisions.map fun c => (c.file, c.identifier)).toFinset.card ∧
    r.ignored = (diagnostics.countP fun d =>
      decide (∀ node : Diagnostic, node.Within d → ¬ node.ReportsClash)) ∧
    ∀ others, Diagnostic.Rearranged diagnostics others →
      (extract root succeeded others).table = r.table ∧
        (extract root succeeded others).ignored = r.ignored := by
  intro r
  refine ⟨⟨_, Diagnostic.preorder_flattenAll diagnostics, ?_⟩, ?_, ?_, ?_, ?_⟩
  · rw [← funext (collisionAt?_eq root), filterMap_flattenAll]
    rfl
  · intro file identifier
    rw [RenamingTable.mem_identifiersFor]
    exact mem_tableOf_extract root succeeded diagnostics file identifier
  · exact identifierCount_extract root succeeded diagnostics
  · apply List.countP_congr
    intro d _
    rw [List.isEmpty_iff, collisionsOf_eq_nil_iff, decide_eq_true_eq]
  · intro others hothers
    obtain ⟨hperm, hcount⟩ := rearranged_collisions root diagnostics others hothers
    refine ⟨?_, hcount.symm⟩
    apply RenamingTable.ofList_congr
    intro pair
    exact (hperm.map _).mem_iff.symm

/-- A clash without a place. -/
def unplacedReport : Diagnostic := ⟨"note", "redefinition of 'b'", [⟨none⟩], []⟩

/-- A clash at the second location. -/
def placedReport : Diagnostic :=
  ⟨"note", "redefinition of typedef 'a'", [⟨none⟩, ⟨some ⟨⟨"./x.c"⟩, 3, 5⟩⟩], []⟩

/-- Clashes below a message of another kind, a clash of its own, and a message without any. -/
def nestedReports : List Diagnostic :=
  [⟨"warning", "unused variable", [], [unplacedReport, placedReport]⟩,
    ⟨"error", "redeclaration of 'struct s' with no linkage", [⟨some ⟨⟨"/p/y.c"⟩, 1, 2⟩⟩], []⟩,
    ⟨"error", "expected ';'", [⟨some ⟨⟨"x.c"⟩, 9, 1⟩⟩], [unplacedReport]⟩]

/-- The same reports, those below the first one exchanged and the last one moved to the front. -/
def rearrangedReports : List Diagnostic :=
  [⟨"error", "expected ';'", [⟨some ⟨⟨"x.c"⟩, 9, 1⟩⟩], [unplacedReport]⟩,
    ⟨"warning", "unused variable", [], [placedReport, unplacedReport]⟩,
    ⟨"error", "redeclaration of 'struct s' with no linkage", [⟨some ⟨⟨"/p/y.c"⟩, 1, 2⟩⟩], []⟩]

/-- Rearranged reports give the same table and the same number of ignored diagnostics. -/
theorem extract_rearrangedReports :
    Diagnostic.Rearranged nestedReports rearrangedReports ∧
      (extract ⟨"/p"⟩ false rearrangedReports).table.pairs = [("x.c", "a"), ("y.c", "s")] ∧
      (extract ⟨"/p"⟩ false rearrangedReports).ignored = 1 := by
  have hrearranged : Diagnostic.Rearranged nestedReports rearrangedReports :=
    .trans _ _ _ (.children [] _ _ [placedReport, unplacedReport] (.order _ _ (.swap _ _ _)))
      (.order _ _ (@List.perm_append_comm _ [_, _] [_]))
  obtain ⟨-, -, -, -, hsame⟩ := extract_exact ⟨"/p"⟩ false nestedReports
  obtain ⟨htable, hignored⟩ := hsame rearrangedReports hrearranged
  refine ⟨hrearranged, ?_, ?_⟩
  · rw [htable]
    decide
  · rw [hignored]
    decide

end Resolution

end UnityBuild
