import UnityBuild.Proofs.Diagnostic.Grammar
import UnityBuild.Proofs.Path.Detours
import UnityBuild.Proofs.Renaming
import UnityBuild.Resolution

/-!
# Which files a report of clashes renames in

The diagnostics of a compilation form trees, and every node that reports a clash at a known place
counts. The table that is drawn from them pairs a file with an identifier exactly when some node
reports the identifier at a place in this file, however the node spells the file, as long as the
spellings lose no bytes.

Main statement: `mem_extract_table_iff_reported`.
-/

namespace UnityBuild

namespace Diagnostic

/-- The diagnostics that a diagnostic holds at any depth, itself included. -/
inductive Within (inner : Diagnostic) : Diagnostic → Prop where
  | self : Within inner inner
  | child (outer child : Diagnostic) (hchild : child ∈ outer.children)
      (hinner : Within inner child) : Within inner outer

mutual

/-- Flattening a diagnostic lists all that it holds. -/
theorem mem_flatten_iff (inner : Diagnostic) :
    (outer : Diagnostic) → (inner ∈ outer.flatten ↔ inner.Within outer)
  | ⟨kind, message, locations, children⟩ => by
    rw [flatten, List.mem_cons, mem_flattenAll_iff inner children]
    constructor
    · rintro (rfl | ⟨child, hchild, hinner⟩)
      · exact .self
      · exact .child _ child hchild hinner
    · intro hinner
      cases hinner with
      | self => exact .inl rfl
      | child _ child hchild hinner => exact .inr ⟨child, hchild, hinner⟩

/-- Flattening a list of diagnostics lists all that any of them holds. -/
theorem mem_flattenAll_iff (inner : Diagnostic) :
    (outers : List Diagnostic) →
      (inner ∈ flattenAll outers ↔ ∃ outer ∈ outers, inner.Within outer)
  | [] => by simp [flattenAll]
  | outer :: outers => by
    rw [flattenAll, List.mem_append, mem_flatten_iff inner outer, mem_flattenAll_iff inner outers,
      List.exists_mem_cons_iff]

end

/-- What a message reports as clashing is an identifier. -/
theorem isIdentifier_of_collisionIdentifier (message identifier : String)
    (h : collisionIdentifier? message = some identifier) :
    Naming.isIdentifier identifier = true :=
  (Grammar.mem_identifier_iff identifier.toList).mp
    ((collisionIdentifier?_eq_some_iff message identifier).mp h).1

/-- Some diagnostic of the list, at any depth, reports a clash of the identifier, and its first
caret stands in the file. -/
def Reported (root : Path) (diagnostics : List Diagnostic) (file : Path) (identifier : String) :
    Prop :=
  ∃ outer ∈ diagnostics, ∃ d : Diagnostic, d.Within outer ∧
    collisionIdentifier? d.message = some identifier ∧
      ∃ place : Position, d.caret? = some place ∧ place.file.resolve root = file

/-- No place that counts, at any depth, loses bytes in its spelling: texts write the ways to their
files. -/
def NamesTexts (root : Path) (diagnostics : List Diagnostic) : Prop :=
  ∀ outer ∈ diagnostics, ∀ d : Diagnostic, d.Within outer →
    ∀ place : Position, d.caret? = some place → ((place.file.resolve root).relativeTo root).IsText

/-- The places that count are those of the diagnostics and of all that they hold. -/
theorem namesTexts_iff (root : Path) (diagnostics : List Diagnostic) :
    NamesTexts root diagnostics ↔ ∀ d ∈ flattenAll diagnostics, ∀ place : Position,
      d.caret? = some place → ((place.file.resolve root).relativeTo root).IsText := by
  simp only [NamesTexts, mem_flattenAll_iff]
  constructor
  · rintro h d ⟨outer, houter, hd⟩
    exact h outer houter d hd
  · exact fun h outer houter d hd => h d ⟨outer, houter, hd⟩

/-- Places that texts write lose nothing, whatever the root is: the ways to them have nothing of it. -/
theorem namesTexts_of_isText (root : Path) (diagnostics : List Diagnostic)
    (hroot : root.isAbsolute = true)
    (h : ∀ d ∈ flattenAll diagnostics, ∀ place : Position, d.caret? = some place → place.file.IsText) :
    NamesTexts root diagnostics :=
  (namesTexts_iff root diagnostics).mpr fun d hd place hplace =>
    (h d hd place hplace).relativeTo_resolve root hroot

end Diagnostic

namespace Resolution

/-- A diagnostic reports a clash when its message names an identifier and it has a caret. -/
theorem collisionAt?_eq_some_iff (root : Path) (d : Diagnostic) (c : Collision) :
    collisionAt? root d = some c ↔
      ∃ place, d.caret? = some place ∧
        Diagnostic.collisionIdentifier? d.message = some c.identifier ∧
          c = ⟨unitPath root place.file, c.identifier, place.line, place.column⟩ := by
  obtain ⟨file, identifier, line, column⟩ := c
  simp only [collisionAt?, bind, Option.bind_eq_some_iff, pure, Option.some.injEq,
    Collision.mk.injEq, true_and]
  constructor
  · rintro ⟨_, hidentifier, place, hplace, rfl, rfl, rfl, rfl⟩
    exact ⟨place, hplace, hidentifier, rfl, rfl, rfl⟩
  · rintro ⟨place, hplace, hidentifier, rfl, rfl, rfl⟩
    exact ⟨identifier, hidentifier, place, hplace, rfl, rfl, rfl, rfl⟩

/-- The table pairs a file with an identifier when a diagnostic reports the identifier at a place
that is known under the file's spelling. -/
theorem mem_extract_table_iff (root : Path) (succeeded : Bool) (diagnostics : List Diagnostic)
    (file identifier : String) :
    (file, identifier) ∈ (extract root succeeded diagnostics).table.pairs ↔
      ∃ outer ∈ diagnostics, ∃ d : Diagnostic, d.Within outer ∧
        Diagnostic.collisionIdentifier? d.message = some identifier ∧
          ∃ place : Position, d.caret? = some place ∧ unitPath root place.file = file := by
  simp only [extract, tableOf, RenamingTable.mem_ofList, List.mem_map, List.mem_flatMap,
    collisionsOf, List.mem_filterMap, Diagnostic.mem_flatten_iff, collisionAt?_eq_some_iff]
  constructor
  · rintro ⟨⟨c, ⟨outer, houter, d, hd, place, hplace, hidentifier, hc⟩, hpair⟩, -⟩
    obtain ⟨hfile, rfl⟩ := Prod.mk.inj hpair
    rw [hc] at hfile
    dsimp only at hfile
    exact ⟨outer, houter, d, hd, hidentifier, place, hplace, hfile⟩
  · rintro ⟨outer, houter, d, hd, hidentifier, place, hplace, rfl⟩
    refine ⟨⟨⟨unitPath root place.file, identifier, place.line, place.column⟩,
      ⟨outer, houter, d, hd, place, hplace, hidentifier, ?_⟩, ?_⟩,
      Diagnostic.isIdentifier_of_collisionIdentifier _ _ hidentifier⟩
    · dsimp only
    · dsimp only

/-- A place is known under the spelling of a file exactly when it leads to the file. -/
theorem unitPath_eq_iff (root place file : Path) (hroot : root.isAbsolute = true)
    (hfile : file.isAbsolute = true) (hnormal : file.normalize = file)
    (hplace : ((place.resolve root).relativeTo root).IsText) (htext : (file.relativeTo root).IsText) :
    unitPath root place = file.relativeSlash root ↔ place.resolve root = file := by
  rw [unitPath, Path.relativeSlash_eq_iff _ root file hplace htext,
    Path.relativeTo_eq_iff _ file root (Path.isAbsolute_resolve place root hroot) hfile hroot,
    Path.normalize_resolve, hnormal]

/-- The table pairs the spelling of a file with exactly the identifiers that are reported in it. -/
theorem mem_extract_table_iff_reported (root : Path) (succeeded : Bool)
    (diagnostics : List Diagnostic) (file : Path) (identifier : String)
    (hroot : root.isAbsolute = true) (hfile : file.isAbsolute = true)
    (hnormal : file.normalize = file) (htext : (file.relativeTo root).IsText)
    (htexts : Diagnostic.NamesTexts root diagnostics) :
    (file.relativeSlash root, identifier) ∈ (extract root succeeded diagnostics).table.pairs ↔
      Diagnostic.Reported root diagnostics file identifier := by
  rw [mem_extract_table_iff, Diagnostic.Reported]
  constructor
  · rintro ⟨outer, houter, d, hd, hidentifier, place, hplace, hknown⟩
    have hway := htexts outer houter d hd place hplace
    exact ⟨outer, houter, d, hd, hidentifier, place, hplace,
      (unitPath_eq_iff root place.file file hroot hfile hnormal hway htext).mp hknown⟩
  · rintro ⟨outer, houter, d, hd, hidentifier, place, hplace, hleads⟩
    have hway := htexts outer houter d hd place hplace
    exact ⟨outer, houter, d, hd, hidentifier, place, hplace,
      (unitPath_eq_iff root place.file file hroot hfile hnormal hway htext).mpr hleads⟩

end Resolution

end UnityBuild
