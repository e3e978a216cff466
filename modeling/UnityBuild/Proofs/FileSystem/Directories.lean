import Mathlib.Data.List.Basic
import UnityBuild.Proofs.FileSystem.Evolution
import UnityBuild.Proofs.Results

/-!
# Directories that are there

A directory that was made can be found, and stays when the file system grows. A directory that can
be found is not made again: on the way to it all directories are there, so making it ends at its
last name. So when the directories above a file were made once, making them again changes nothing.

Main statement: `FileM.makeParents_again`.
-/

namespace UnityBuild

namespace FileSystem

section Ways

variable (fs : FileSystem) (middle goal : Location) (rest : List String)

/-- How a way goes on behind a link when it may lead through so many links. -/
def followBehind : Nat → Location → List String → Except SystemError Location
  | 0 => fun _ _ => .error .tooManyLevels
  | links + 1 => fs.followWithin true links

/-- A way is followed from link to link. -/
theorem followWithin_eq_followBy (links : Nat) :
    fs.followWithin true links = fs.followBy true (fs.followBehind links) := by
  cases links with
  | zero => rfl
  | succ links => rfl

/-- A way goes on behind the place that it led to, when what lies behind its links does. -/
theorem followBy_append (jump : Location → List String → Except SystemError Location)
    (hjump : ∀ place names, jump place names = .ok middle → jump place (names ++ rest) = .ok goal)
    (hrest : fs.followBy true jump middle rest = .ok goal) (place : Location) (names : List String)
    (h : fs.followBy true jump place names = .ok middle) :
    fs.followBy true jump place (names ++ rest) = .ok goal := by
  induction names generalizing place with
  | nil =>
    cases h
    exact hrest
  | cons name names ih =>
    rw [followBy_cons] at h
    rw [List.cons_append, followBy_cons]
    cases hcheck : fs.checkDirectory place with
    | error e =>
      rw [hcheck] at h
      cases h
    | ok _ =>
      rw [hcheck] at h
      dsimp only at h ⊢
      split at h
      · cases h
      · rename_i hsize
        rw [if_neg hsize]
        cases hlink : fs.linkAt? (stepTo place name) with
        | none =>
          rw [hlink] at h
          exact ih _ h
        | some target =>
          rw [hlink] at h
          simp only [Bool.not_true, Bool.and_false, Bool.false_eq_true, if_false] at h ⊢
          rw [← List.append_assoc]
          exact hjump _ _ h

/-- The same through any number of links, when the rest of the way leads through none. -/
theorem followWithin_append (links : Nat)
    (hrest : ∀ links, fs.followWithin true links middle rest = .ok goal) (place : Location)
    (names : List String) (h : fs.followWithin true links place names = .ok middle) :
    fs.followWithin true links place (names ++ rest) = .ok goal := by
  induction links generalizing place names with
  | zero =>
    refine fs.followBy_append middle goal rest (fs.followBehind 0) ?_ (hrest 0) place names h
    intro place names hnone
    cases hnone
  | succ links ih =>
    exact fs.followBy_append middle goal rest (fs.followBehind (links + 1)) ih (hrest (links + 1))
      place names h

/-- A way that leads somewhere leads somewhere after each part of it, when what lies behind its
links does. -/
theorem exists_followBy_of_append (reaches : Location → Prop)
    (jump : Location → List String → Except SystemError Location)
    (hjump : ∀ place names, jump place (names ++ rest) = .ok goal →
      ∃ middle, jump place names = .ok middle ∧ reaches middle)
    (hrest : ∀ place, fs.followBy true jump place rest = .ok goal → reaches place)
    (place : Location) (names : List String)
    (h : fs.followBy true jump place (names ++ rest) = .ok goal) :
    ∃ middle, fs.followBy true jump place names = .ok middle ∧ reaches middle := by
  induction names generalizing place with
  | nil => exact ⟨place, rfl, hrest place h⟩
  | cons name names ih =>
    rw [List.cons_append, followBy_cons] at h
    rw [followBy_cons]
    cases hcheck : fs.checkDirectory place with
    | error e =>
      rw [hcheck] at h
      cases h
    | ok _ =>
      rw [hcheck] at h
      dsimp only at h ⊢
      split at h
      · cases h
      · rename_i hsize
        rw [if_neg hsize]
        cases hlink : fs.linkAt? (stepTo place name) with
        | none =>
          rw [hlink] at h
          exact ih _ h
        | some target =>
          rw [hlink] at h
          simp only [Bool.not_true, Bool.and_false, Bool.false_eq_true, if_false] at h ⊢
          rw [← List.append_assoc] at h
          exact hjump _ _ h

/-- The same through any number of links, of which the rest of the way leads through some. -/
theorem exists_followWithin_of_append (links : Nat) (place : Location) (names : List String)
    (h : fs.followWithin true links place (names ++ rest) = .ok goal) :
    ∃ middle, fs.followWithin true links place names = .ok middle ∧
      ∃ links, fs.followWithin true links middle rest = .ok goal := by
  induction links generalizing place names with
  | zero =>
    refine fs.exists_followBy_of_append goal rest _ (fs.followBehind 0) ?_ (fun _ h => ⟨0, h⟩)
      place names h
    intro place names hnone
    cases hnone
  | succ links ih =>
    exact fs.exists_followBy_of_append goal rest _ (fs.followBehind (links + 1)) ih
      (fun _ h => ⟨links + 1, h⟩) place names h

/-- The first step of a way that leads somewhere leaves a directory by a name that is not too long,
to a link or to a place from which the way leads on. -/
theorem followWithin_cons_eq_ok (links : Nat) (place : Location) (name : String)
    (names : List String) (h : fs.followWithin true links place (name :: names) = .ok goal) :
    fs.checkDirectory place = .ok () ∧ ¬ maxNameSize < name.length ∧
      (fs.linkAt? (stepTo place name) ≠ none ∨
        fs.followWithin true links (stepTo place name) names = .ok goal) := by
  rw [followWithin_eq_followBy, followBy_cons] at h
  cases hcheck : fs.checkDirectory place with
  | error e =>
    rw [hcheck] at h
    cases h
  | ok _ =>
    rw [hcheck] at h
    dsimp only at h
    split at h
    · cases h
    · rename_i hsize
      refine ⟨rfl, hsize, ?_⟩
      cases hlink : fs.linkAt? (stepTo place name) with
      | some target => exact .inl (Option.some_ne_none target)
      | none =>
        rw [hlink, ← followWithin_eq_followBy] at h
        exact .inr h

/-- A step that leaves a directory by a name that is not too long, and to no link. -/
theorem followWithin_cons_of_plain (links : Nat) (place : Location) (name : String)
    (names : List String) (hcheck : fs.checkDirectory place = .ok ())
    (hsize : ¬ maxNameSize < name.length) (hplain : fs.linkAt? (stepTo place name) = none) :
    fs.followWithin true links place (name :: names) =
      fs.followWithin true links (stepTo place name) names := by
  rw [followWithin_eq_followBy, followBy_cons, hcheck]
  dsimp only
  rw [if_neg hsize, hplain]

end Ways

/-- A directory that was checked stands there. -/
theorem checkDirectory_eq_ok_iff (fs : FileSystem) (place : Location) :
    fs.checkDirectory place = .ok () ↔ fs.get? place = some .directory := by
  unfold checkDirectory
  cases fs.get? place with
  | none => simp
  | some entry => cases entry <;> simp

/-- A path leads to a directory when one stands at the place that it leads to. -/
theorem isDirectory_iff (fs : FileSystem) (p : Path) :
    fs.isDirectory p = true ↔
      ∃ place, fs.locate p = .ok place ∧ fs.get? place = some .directory := by
  unfold isDirectory entryAt present
  cases fs.locate p with
  | error e => simp [bind, Except.bind]
  | ok place =>
    simp only [bind, Except.bind, Except.ok.injEq, exists_eq_left']
    cases fs.get? place with
    | none => simp
    | some entry => cases entry <;> simp

/-- A path that leads to a directory still does when the file system has grown. -/
theorem Grows.isDirectory {written : Location → Prop} {fs fs' : FileSystem} (h : Grows written fs fs')
    (p : Path) (hp : fs.isDirectory p = true) : fs'.isDirectory p = true := by
  obtain ⟨place, hplace, hdirectory⟩ := (fs.isDirectory_iff p).mp hp
  refine (fs'.isDirectory_iff p).mpr ⟨place, ?_, ?_⟩
  · rw [h.locate_eq p (ne_noEntry_of_eq_ok hplace), hplace]
  · have hentry := h.entry place
    rw [hdirectory] at hentry
    generalize fs'.get? place = entry at hentry ⊢
    cases hentry with
    | same => rfl

/-- A name that is no step leads to the place of that name. -/
theorem stepTo_of_not_isStep (place : Location) (name : String) (h : isStep name = false) :
    stepTo place name = place ++ [name] := by
  obtain ⟨hcurrent, hparent⟩ := Bool.or_eq_false_iff.mp h
  rw [stepTo, if_neg (by simpa using hcurrent), if_neg (by simpa using hparent)]

/-- What is known of a path when its directory and its last name are. -/
theorem locateParent_eq_ok (fs : FileSystem) (p : Path) (parent : Location) (name : String)
    (h : fs.locateParent p = .ok (some (parent, name))) :
    checkText p = .ok () ∧ p.names.dropLast ++ [name] = p.names ∧
      fs.follow (fs.start p) p.names.dropLast = .ok parent ∧ fs.checkDirectory parent = .ok () := by
  obtain ⟨_, htext, hplace⟩ := (Results.bind_eq_ok_iff _ _ _).mp h
  split at hplace
  · cases hplace
  · rename_i last hlast
    simp only [Results.bind_eq_ok_iff, pure, Except.pure, Except.ok.injEq, Option.some.injEq,
      Prod.mk.injEq] at hplace
    obtain ⟨found, hparent, _, hcheck, rfl, rfl⟩ := hplace
    exact ⟨htext, List.dropLast_append_getLast? last hlast, hparent, hcheck⟩

/-- The steps that stay at the end of a path. -/
theorem steps_eq (p : Path) (names : List String) (name : String) (h : names ++ [name] = p.names) :
    ∃ stay, p.steps = names ++ name :: stay ∧ (stay = [] ∨ stay = ["."]) := by
  refine ⟨if p.endsInSeparator then ["."] else [], ?_, ?_⟩
  · rw [Path.steps, ← h, List.append_assoc]
    rfl
  · split
    · exact .inr rfl
    · exact .inl rfl

/-- A directory is made in a free place, and its path leads there. -/
theorem locate_of_makeDirectory (fs fs' : FileSystem) (p : Path) (h : fs.makeDirectory p = .ok fs') :
    ∃ place, place ≠ [] ∧ fs.get? place = none ∧ fs' = fs.set place .directory ∧
      fs'.locate p = .ok place := by
  have hgrows : Grows (fun _ => False) fs fs' := Grows.of_makeDirectory p h
  obtain ⟨parent, name, hlocate, hstep, hsize, hfree, hmade⟩ := fs.makeDirectory_eq_ok fs' p h
  obtain ⟨htext, hnames, hway, hcheck⟩ := fs.locateParent_eq_ok p parent name hlocate
  have hplace : parent ++ [name] ≠ [] := List.append_ne_nil_of_right_ne_nil _ (List.cons_ne_nil _ _)
  have hnew : fs'.get? (parent ++ [name]) = some .directory := by
    rw [hmade, get?_set fs _ _ _ hplace, if_pos rfl]
  have hwithin : fs'.checkDirectory parent = .ok () :=
    (hgrows.checkDirectory_eq parent (ne_noEntry_of_eq_ok hcheck)).trans hcheck
  have hplain : fs'.linkAt? (parent ++ [name]) = none := by
    rw [linkAt?, hnew]
  obtain ⟨stay, hsteps, hstay⟩ := steps_eq p _ name hnames
  have hrest : ∀ links, fs'.followWithin true links parent (name :: stay) = .ok (parent ++ [name]) := by
    intro links
    rw [fs'.followWithin_cons_of_plain links parent name stay hwithin hsize
        (by rw [stepTo_of_not_isStep parent name hstep, hplain]),
      stepTo_of_not_isStep parent name hstep]
    rcases hstay with rfl | rfl
    · rw [followWithin_eq_followBy]
      rfl
    · rw [fs'.followWithin_cons_of_plain links _ "." [] ((fs'.checkDirectory_eq_ok_iff _).mpr hnew)
        (by decide) hplain, followWithin_eq_followBy]
      rfl
  refine ⟨parent ++ [name], hplace, hfree, hmade, ?_⟩
  have hparent : fs'.follow (fs'.start p) p.names.dropLast = .ok parent := by
    rw [hgrows.start_eq, hgrows.follow_eq _ _ (ne_noEntry_of_eq_ok hway), hway]
  rw [locate, htext, hsteps]
  exact fs'.followWithin_append parent (parent ++ [name]) (name :: stay) maxLinks hrest _ _ hparent

/-- A directory that was made can be found. -/
theorem isDirectory_of_makeDirectory (fs fs' : FileSystem) (p : Path)
    (h : fs.makeDirectory p = .ok fs') : fs'.isDirectory p = true := by
  obtain ⟨place, hplace, -, rfl, hlocate⟩ := fs.locate_of_makeDirectory fs' p h
  exact (isDirectory_iff _ p).mpr ⟨place, hlocate, by rw [get?_set fs _ _ _ hplace, if_pos rfl]⟩

/-- A directory that can be found is not made again. -/
theorem makeDirectory_of_isDirectory (fs : FileSystem) (p : Path) (h : fs.isDirectory p = true) :
    fs.makeDirectory p = .error .alreadyExists := by
  obtain ⟨goal, hgoal, hdirectory⟩ := (fs.isDirectory_iff p).mp h
  have htext : checkText p = .ok () := by
    cases htext : checkText p with
    | ok _ => rfl
    | error e =>
      rw [locate, htext] at hgoal
      cases hgoal
  rw [locate, htext] at hgoal
  change fs.follow (fs.start p) p.steps = .ok goal at hgoal
  cases hlast : p.names.getLast? with
  | none =>
    have hroot : fs.locateParent p = .ok none := by
      rw [locateParent, htext, hlast]
      rfl
    rw [makeDirectory, hroot]
    rfl
  | some name =>
    obtain ⟨stay, hsteps, hstay⟩ :=
      steps_eq p _ name (List.dropLast_append_getLast? name hlast)
    rw [hsteps] at hgoal
    obtain ⟨parent, hway, links, hrest⟩ :=
      fs.exists_followWithin_of_append goal (name :: stay) maxLinks _ _ hgoal
    obtain ⟨hcheck, hsize, hreached⟩ := fs.followWithin_cons_eq_ok goal links parent name stay hrest
    have hparent : fs.locateParent p = .ok (some (parent, name)) := by
      rw [locateParent, htext, hlast]
      simp only [bind, Except.bind, follow, hway, hcheck]
      rfl
    rw [makeDirectory, hparent]
    simp only [bind, Except.bind, throw, throwThe, MonadExceptOf.throw, child, if_neg hsize]
    split
    · rfl
    · rename_i hstep
      rw [stepTo_of_not_isStep parent name (by simpa using hstep)] at hreached
      have htaken : fs.get? (parent ++ [name]) ≠ none := by
        rcases hreached with hlink | hfound
        · intro hfree
          rw [linkAt?, hfree] at hlink
          exact hlink rfl
        · rcases hstay with rfl | rfl
          · rw [followWithin_eq_followBy] at hfound
            rw [Except.ok.inj hfound, hdirectory]
            exact Option.some_ne_none _
          · obtain ⟨hcheck', -, -⟩ := fs.followWithin_cons_eq_ok goal links _ _ _ hfound
            rw [(fs.checkDirectory_eq_ok_iff _).mp hcheck']
            exact Option.some_ne_none _
      split
      · rfl
      · rename_i hfree
        exact absurd hfree htaken

end FileSystem

namespace FileM

open FileSystem

/-- Making a directory and those above it, step by step. -/
theorem makeDirectoriesWithin_succ (fuel : Nat) (p : Path) (hp : p.octets ≠ "") (fs : FileSystem) :
    makeDirectoriesWithin (fuel + 1) p fs =
      match fs.makeDirectory p with
      | .ok fs' => (.ok (), fs')
      | .error .noEntry =>
        match p.parent? with
        | none => (.error .noTree, fs)
        | some above => (makeDirectoriesWithin fuel above >>= fun _ => ensureDirectory p) fs
      | .error e => (if fs.isDirectory p then .ok () else .error e, fs) := by
  rw [makeDirectoriesWithin, if_neg hp]
  have hget (next : FileSystem → FileM Unit) : (get >>= next : FileM Unit) fs = next fs fs := rfl
  rw [hget]
  cases fs.makeDirectory p with
  | ok fs' => rfl
  | error e =>
    cases e with
    | noEntry => cases p.parent? <;> rfl
    | _ =>
      dsimp only
      rw [hget]
      split <;> rfl

/-- Making sure of a directory leaves one that can be found. -/
theorem isDirectory_of_ensureDirectory (p : Path) (fs fs' : FileSystem)
    (h : ensureDirectory p fs = (.ok (), fs')) : fs'.isDirectory p = true := by
  unfold ensureDirectory at h
  cases hmake : fs.makeDirectory p with
  | ok made =>
    rw [hmake] at h
    cases h
    exact fs.isDirectory_of_makeDirectory fs' p hmake
  | error e =>
    rw [hmake] at h
    obtain ⟨hfound, rfl⟩ := Prod.mk.inj h
    cases hthere : fs.isDirectory p with
    | true => rfl
    | false =>
      rw [hthere] at hfound
      cases hfound

/-- Making a directory and those above it leaves one that can be found. -/
theorem isDirectory_of_makeDirectoriesWithin (fuel : Nat) (p : Path) (hp : p.octets ≠ "")
    (fs fs' : FileSystem) (h : makeDirectoriesWithin fuel p fs = (.ok (), fs')) :
    fs'.isDirectory p = true := by
  cases fuel with
  | zero => cases h
  | succ fuel =>
    rw [makeDirectoriesWithin_succ fuel p hp] at h
    split at h
    · rename_i made hmake
      cases h
      exact fs.isDirectory_of_makeDirectory fs' p hmake
    · split at h
      · cases h
      · obtain ⟨_, middle, -, hlast⟩ := exists_of_bind_eq_ok _ _ _ _ _ h
        exact isDirectory_of_ensureDirectory p middle fs' hlast
    · obtain ⟨hfound, rfl⟩ := Prod.mk.inj h
      cases hthere : fs.isDirectory p with
      | true => rfl
      | false =>
        rw [hthere] at hfound
        cases hfound

/-- Where a directory can be found nothing is made. -/
theorem makeDirectories_of_isDirectory (p : Path) (hp : p.octets ≠ "") (fs : FileSystem)
    (h : fs.isDirectory p = true) : makeDirectories p fs = (.ok (), fs) := by
  rw [makeDirectories, makeDirectoriesWithin_succ _ p hp, fs.makeDirectory_of_isDirectory p h]
  dsimp only
  rw [if_pos h]

/-- When the directories above a file were made, making them again changes nothing, nor when the
file system has grown in between. -/
theorem makeParents_again (p : Path) {written : Location → Prop} (fs fs' fs'' : FileSystem)
    (h : makeParents p fs = (.ok (), fs')) (hgrows : Grows written fs' fs'') :
    makeParents p fs'' = (.ok (), fs'') := by
  unfold makeParents at h ⊢
  cases hparent : p.parent? with
  | none => rfl
  | some above =>
    rw [hparent] at h
    dsimp only at h ⊢
    by_cases hempty : above.octets = ""
    · rw [if_pos hempty]
      rfl
    · rw [if_neg hempty] at h ⊢
      have hmade := isDirectory_of_makeDirectoriesWithin _ above hempty fs fs' h
      exact makeDirectories_of_isDirectory above hempty fs'' (hgrows.isDirectory above hmade)

end FileM

end UnityBuild
