import UnityBuild.Proofs.Path.Joining
import UnityBuild.Settings.File

/-!
# Resolved settings

The root of resolved settings and all their files are absolute and in normal form, the default skip
list below the output directory included. Such a path is read from any directory as itself, so a layer
that sets everything as some resolved settings have it is resolved to these settings again: no default
is left to be put in. The root counts only by its normal form, since every path is read from it.

Main statement: `resolved_settings_are_fixed`.
-/

namespace UnityBuild

namespace Path

/-- A path that leads to one place from everywhere, written in normal form. -/
structure IsAnchored (p : Path) : Prop where
  absolute : p.isAbsolute = true
  normal : p.normalize = p

/-- The normal form of an absolute path is anchored. -/
theorem isAnchored_normalize (p : Path) (hp : p.isAbsolute = true) : p.normalize.IsAnchored :=
  ⟨isAbsolute_normalize p hp, normalize_normalize p⟩

/-- What is read from an absolute directory is anchored. -/
theorem isAnchored_resolve (p directory : Path) (hdirectory : directory.isAbsolute = true) :
    (p.resolve directory).IsAnchored :=
  ⟨isAbsolute_resolve p directory hdirectory, normalize_resolve p directory⟩

namespace IsAnchored

variable {p : Path}

/-- An anchored path is read from any directory as itself. -/
theorem resolve_eq_self (h : p.IsAnchored) (directory : Path) : p.resolve directory = p := by
  rw [resolve, if_pos h.absolute, h.normal]

/-- The components of an anchored path are the root and names behind it. -/
theorem exists_names (h : p.IsAnchored) : ∃ names, p.components = .root :: names ∧ AreNames names := by
  obtain ⟨names, hcomponents, hnames⟩ := exists_names_of_isAbsolute p h.absolute
  have hread := p.components_normalize
  rw [h.normal, hcomponents, if_neg (List.cons_ne_nil _ _)] at hread
  exact ⟨names, hread, hnames⟩

/-- A file of an anchored directory is anchored. -/
theorem join_fileName (h : p.IsAnchored) (name : String) (hname : IsFileName name) :
    (p.join ⟨name⟩).IsAnchored := by
  obtain ⟨names, hcomponents, hnames⟩ := h.exists_names
  have hfile : (p.join ⟨name⟩).components = p.components ++ [.normal name] :=
    components_join_fileName p name hname
  have hwritten : ofComponents p.components = p :=
    (p.normalize_eq_self_iff.mp h.normal).2
  refine ⟨isAbsolute_join p _ h.absolute, (normalize_eq_self_iff _).mpr ⟨?_, ?_⟩⟩
  · rw [hfile, hcomponents, List.cons_append]
    exact .absolute _ (hnames.append (.cons hname .nil))
  · rw [hfile, ofComponents, List.foldl_append, ← ofComponents, hwritten]
    rfl

end IsAnchored

end Path

namespace Layer

/-- A layer that is laid over nothing stays as it is. -/
theorem overlay_empty (layer : Layer) : layer.overlay {} = layer := by
  have hlist (l : List String) : orList l [] = l := by
    cases l with
    | nil => rfl
    | cons first rest => rfl
  simp [overlay, hlist]

end Layer

namespace Settings

/-- The layer that sets everything as some settings have it. -/
def toLayer (s : Settings) : Layer where
  name := some s.name
  database := some s.database
  outputDir := some s.outputDir
  skipList := some s.skipList
  compiler := some s.compiler
  dropFlags := s.denied
  testMarker := some s.testMarker
  linkArguments := s.linkArguments
  verify := some s.verify

/-- The paths that settings hold. -/
def paths (s : Settings) : List Path := [s.root, s.database, s.outputDir, s.skipList]

section Resolving

variable (files : FileSystem) (root : Path) (upper lower : Layer) (name : String)

/-- All paths of the settings of a layer are anchored. -/
theorem isAnchored_of_mem_paths_ofLayer (hroot : root.isAbsolute = true) :
    ∀ p ∈ (ofLayer root name upper).paths, p.IsAnchored := by
  have hnormal := root.isAnchored_normalize hroot
  have hresolve (path : Path) : (path.resolve root.normalize).IsAnchored :=
    path.isAnchored_resolve _ hnormal.absolute
  have hskipList : (ofLayer root name upper).skipList.IsAnchored := by
    cases hlist : upper.skipList with
    | none =>
      have hname : Path.IsFileName (Text.toOctets Artifacts.skipListName) := by
        unfold Path.IsFileName
        decide
      simp only [ofLayer, hlist, Option.map_none, Option.getD_none]
      exact (hresolve _).join_fileName _ hname
    | some path =>
      simp only [ofLayer, hlist, Option.map_some, Option.getD_some]
      exact hresolve path
  simp only [paths, List.forall_mem_cons, List.not_mem_nil, false_implies, implies_true, and_true]
  exact ⟨hnormal, hresolve _, hresolve _, hskipList⟩

/-- Settings whose paths are anchored are the settings of the layer that sets everything as they have
it. -/
theorem ofLayer_toLayer (s : Settings) (h : ∀ p ∈ s.paths, p.IsAnchored) :
    ofLayer s.root s.name s.toLayer = s := by
  simp only [paths, List.forall_mem_cons, List.not_mem_nil, false_implies, implies_true, and_true] at h
  obtain ⟨hroot, hdatabase, houtputDir, hskipList⟩ := h
  simp only [ofLayer, toLayer, Option.getD_some, Option.map_some, hroot.normal,
    hdatabase.resolve_eq_self, houtputDir.resolve_eq_self, hskipList.resolve_eq_self]

/-- The settings of two layers under which a name is given. -/
theorem resolve_eq_ok (file : Option Path) (hfile : fileLayer files root file = .ok lower)
    (hname : (upper.overlay lower).name = some name) :
    resolve files root upper file = .ok (ofLayer root name (upper.overlay lower)) := by
  simp [resolve, hfile, hname, bind, Except.bind, pure, Except.pure]

/-- Settings depend on the normal form of the root only. -/
theorem ofLayer_congr (root' : Path) (h : root'.normalize = root.normalize) :
    ofLayer root' name upper = ofLayer root name upper := by
  simp only [ofLayer, h]

/-- A settings file is found by the normal form of the root only. -/
theorem fileLayer_congr (root' : Path) (h : root'.normalize = root.normalize) (file : Option Path) :
    fileLayer files root' file = fileLayer files root file := by
  cases file with
  | none => rfl
  | some file =>
    rw [fileLayer, fileLayer, Path.resolve_congr root file file root' rfl h]

/-- Resolving settings depends on the normal form of the root only. -/
theorem resolve_congr (root' : Path) (h : root'.normalize = root.normalize) (file : Option Path) :
    resolve files root' upper file = resolve files root upper file := by
  simp only [resolve, fileLayer_congr files root root' h, ofLayer_congr root _ _ root' h]

end Resolving

/-- Settings are resolved from an absolute root and two layers that name the artifacts, the lower of
which may be read from a file. Their paths are all absolute and in normal form; resolving a layer that
sets everything as they have it under their own root gives them again; and so does every other spelling
of the root that has the same normal form, with a file or without one. -/
theorem resolved_settings_are_fixed (root : Path) (upper lower : Layer) (name : String)
    (hroot : root.isAbsolute = true) (hname : (upper.overlay lower).name = some name) :
    let s := ofLayer root name (upper.overlay lower)
    (∀ files file, fileLayer files root file = .ok lower → resolve files root upper file = .ok s) ∧
      (∀ p ∈ [s.root, s.database, s.outputDir, s.skipList],
        p.isAbsolute = true ∧ p.normalize = p) ∧
      (∀ files, resolve files s.root s.toLayer none = .ok s) ∧
      ∀ root' : Path, root'.normalize = root.normalize →
        ofLayer root' name (upper.overlay lower) = s ∧
          ∀ files file, resolve files root' upper file = resolve files root upper file := by
  intro s
  have hanchored := isAnchored_of_mem_paths_ofLayer root (upper.overlay lower) name hroot
  refine ⟨?_, ?_, ?_, ?_⟩
  · intro files file hfile
    exact resolve_eq_ok files root upper lower name file hfile hname
  · intro p hp
    exact ⟨(hanchored p hp).absolute, (hanchored p hp).normal⟩
  · intro files
    have hover : s.toLayer.overlay {} = s.toLayer := s.toLayer.overlay_empty
    have hagain := resolve_eq_ok files s.root s.toLayer {} s.name none rfl (by rw [hover]; rfl)
    rw [hagain, hover, ofLayer_toLayer s hanchored]
  · intro root' h
    exact ⟨ofLayer_congr root _ name root' h, fun files file =>
      resolve_congr files root upper root' h file⟩

/-- What a command line sets. -/
def commandLayer : Layer := { outputDir := some ⟨"out/../gen"⟩, dropFlags := ["-O3"] }

/-- What a file sets below it. -/
def fileSettings : Layer :=
  { name := some "app", database := some ⟨"../db.json"⟩, outputDir := some ⟨"build"⟩,
    dropFlags := ["-Wall"], verify := some true }

/-- The settings of both under a root with detours: the skip list lies below the output directory of the
command line, and the settings are got back from their own values and from the plain root. -/
theorem resolved_settings_are_fixed_layered :
    let root : Path := ⟨"/x/../proj/./build/.."⟩
    let s := ofLayer root "app" (commandLayer.overlay fileSettings)
    root.isAbsolute = true ∧ (commandLayer.overlay fileSettings).name = some "app" ∧
      s.skipList = ⟨"/proj/gen/files_with_errors.txt"⟩ ∧ s.skipList.normalize = s.skipList ∧
      (∀ files, resolve files s.root s.toLayer none = .ok s) ∧
      ofLayer ⟨"/proj"⟩ "app" (commandLayer.overlay fileSettings) = s := by
  intro root s
  have hroot : root.isAbsolute = true := by decide
  have hname : (commandLayer.overlay fileSettings).name = some "app" := rfl
  have hskipList : s.skipList = ⟨"/proj/gen/files_with_errors.txt"⟩ := by decide +kernel
  obtain ⟨-, hpaths, hagain, hspelled⟩ :=
    resolved_settings_are_fixed root commandLayer fileSettings "app" hroot hname
  exact ⟨hroot, hname, hskipList, (hpaths s.skipList (by simp [s])).2, hagain,
    (hspelled ⟨"/proj"⟩ (by decide +kernel)).1⟩

end Settings

end UnityBuild
