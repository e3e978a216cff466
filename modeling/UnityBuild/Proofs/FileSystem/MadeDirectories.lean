import UnityBuild.Proofs.FileSystem.Rewriting

/-!
# Which directories are made

Writing a file makes the directories above it that are missing, and no others. Each of them is found
afterwards by following a path above the path of the file, and it stays there when more is written,
so it can be said of the file system at the end which directories were made.

Main statement: `FileM.moves_growsAbove_writeWithParents`.
-/

namespace UnityBuild

/-- A path above another, which taking away last steps leads to. -/
inductive Path.Above (p : Path) : Path → Prop where
  | parent (above : Path) (hparent : p.parent? = some above) : Above p above
  | step (below above : Path) (hbelow : Above p below) (hparent : below.parent? = some above) :
      Above p above

namespace FileSystem

/-- One file system has become another by writing to the given path and by making directories to
which the given paths lead. -/
structure GrowsBy (outputs : List Path) (made : Path → Prop) (fs fs' : FileSystem) : Prop where
  evolves : Evolves outputs fs fs'
  directories : ∀ place, fs.get? place = none → fs'.get? place = some .directory →
    ∃ p, made p ∧ fs'.locate p = .ok place

instance (outputs : List Path) (made : Path → Prop) :
    IsPreorder FileSystem (GrowsBy outputs made) where
  refl fs := by
    refine ⟨refl_of _ fs, fun place hfree hdirectory => ?_⟩
    rw [hfree] at hdirectory
    cases hdirectory
  trans fs fs' fs'' h h' := by
    refine ⟨trans_of _ h.evolves h'.evolves, fun place hfree hdirectory => ?_⟩
    cases hbetween : fs'.get? place with
    | none => exact h'.directories place hbetween hdirectory
    | some entry =>
      -- What stood there in between was a directory already, and its path still leads there.
      have hentry := h'.evolves.entry place
      rw [hbetween, hdirectory] at hentry
      cases hentry with
      | same =>
        obtain ⟨p, hmade, hplace⟩ := h.directories place hfree hbetween
        refine ⟨p, hmade, ?_⟩
        rw [Grows.locate_eq h'.evolves p (ne_noEntry_of_eq_ok hplace), hplace]

/-- Making a directory to which a path may lead is a step of such a change. -/
theorem growsBy_makeDirectory (outputs : List Path) (made : Path → Prop) (fs fs' : FileSystem)
    (p : Path) (hmade : made p) (h : fs.makeDirectory p = .ok fs') : GrowsBy outputs made fs fs' := by
  refine ⟨evolves_makeDirectory outputs fs fs' p h, fun place hfree hdirectory => ?_⟩
  obtain ⟨new, hnew, -, rfl, hlocate⟩ := fs.locate_of_makeDirectory fs' p h
  rw [get?_set fs new place _ hnew] at hdirectory
  split at hdirectory
  · rename_i hplace
    exact ⟨p, hmade, hplace ▸ hlocate⟩
  · rw [hfree] at hdirectory
    cases hdirectory

/-- Writing at a place makes no directory. -/
theorem get?_ne_directory_of_writeAt (fs fs' : FileSystem) (place other : Location)
    (content : ByteArray) (h : fs.writeAt place content = .ok fs') (hfree : fs.get? other = none) :
    fs'.get? other ≠ some .directory := by
  rcases fs.writeAt_eq_ok fs' place content h with ⟨_, rights, -, rfl⟩ | ⟨device, -, hwrite⟩ |
    ⟨hplace, rfl⟩
  · have hother : (fs.setFile place content rights).get? other = none := by
      refine (fs.get?_overwrite content rights _ other).trans ?_
      rw [if_neg, hfree]
      rintro ⟨-, hfile⟩
      rw [isFileAt, hfree] at hfile
      cases hfile
    rw [hother]
    exact fun h => nomatch h
  · rw [(fs.writeDevice_eq_ok fs' device content hwrite).1, hfree]
    exact fun h => nomatch h
  · have hroot : place ≠ [] := by
      rintro rfl
      cases hplace
    rw [get?_set fs place other _ hroot]
    split
    · exact fun h => nomatch h
    · rw [hfree]
      exact fun h => nomatch h

/-- Writing a file is a step of such a change. -/
theorem growsBy_writeBytes (outputs : List Path) (made : Path → Prop) (fs fs' : FileSystem)
    (p : Path) (content : ByteArray) (houtput : p ∈ outputs)
    (h : fs.writeBytes p content = .ok fs') : GrowsBy outputs made fs fs' := by
  obtain ⟨place, -, hwrite⟩ := (fs.writeBytes_eq_ok_iff fs' p content).mp h
  refine ⟨evolves_writeBytes outputs fs fs' p content houtput h, fun other hfree hdirectory => ?_⟩
  exact absurd hdirectory (fs.get?_ne_directory_of_writeAt fs' place other content hwrite hfree)

end FileSystem

namespace FileM

open FileSystem

variable (outputs : List Path) (made : Path → Prop)

/-- Making sure of a directory makes at most this one. -/
theorem moves_growsBy_ensureDirectory (p : Path) (hmade : made p) :
    Moves (GrowsBy outputs made) (ensureDirectory p) := by
  intro fs
  cases hresult : fs.makeDirectory p with
  | ok fs' =>
    have hstate : (ensureDirectory p fs).2 = fs' := by simp only [ensureDirectory, hresult]
    rw [hstate]
    exact growsBy_makeDirectory outputs made fs fs' p hmade hresult
  | error e =>
    have hstate : (ensureDirectory p fs).2 = fs := by simp only [ensureDirectory, hresult]
    rw [hstate]
    exact refl_of _ fs

/-- Making a directory makes at most this one and those above it. -/
theorem moves_growsBy_makeDirectoriesWithin
    (hclosed : ∀ p above, made p → p.parent? = some above → made above) (fuel : Nat) (p : Path)
    (hmade : made p) : Moves (GrowsBy outputs made) (makeDirectoriesWithin fuel p) := by
  induction fuel generalizing p with
  | zero => exact Moves.throw _
  | succ fuel ih =>
    by_cases hempty : p.octets = ""
    · rw [makeDirectoriesWithin, if_pos hempty]
      exact Moves.pure ()
    · intro fs
      rw [makeDirectoriesWithin_succ fuel p hempty]
      split
      · rename_i fs' hresult
        exact growsBy_makeDirectory outputs made fs fs' p hmade hresult
      · split
        · exact refl_of _ fs
        · rename_i above hparent
          exact Moves.bind _ _ (ih above (hclosed p above hmade hparent))
            (fun _ => moves_growsBy_ensureDirectory outputs made p hmade) fs
      · exact refl_of _ fs

/-- Writing a file makes at most directories above it. -/
theorem moves_growsAbove_writeWithParents (p : Path) (content : String) (houtput : p ∈ outputs) :
    Moves (GrowsBy outputs p.Above) (writeWithParents p content) := by
  refine Moves.bind _ _ ?_ fun _ fs => ?_
  · unfold makeParents
    split
    · rename_i above hparent
      split
      · exact Moves.pure ()
      · exact moves_growsBy_makeDirectoriesWithin outputs p.Above
          (fun below above => Path.Above.step below above) _ above (.parent above hparent)
    · exact Moves.pure ()
  · unfold change
    split
    · rename_i fs' hresult
      exact growsBy_writeBytes outputs p.Above fs fs' p _ houtput hresult
    · exact refl_of _ fs

end FileM

/-- What stands at a place after writing a file that is not there: the same as before, or a new
directory above the file. -/
theorem FileSystem.get?_of_writeWithParents (fs fs' : FileSystem) (p : Path) (content : String)
    (h : FileM.writeWithParents p content fs = (.ok (), fs')) (place : Location)
    (hunwritten : ¬ fs'.Writes p place) :
    fs'.get? place = fs.get? place ∨
      fs.get? place = none ∧ fs'.get? place = some .directory ∧
        ∃ above, p.Above above ∧ fs'.locate above = .ok place := by
  have hgrows : GrowsBy [p] p.Above fs fs' := by
    have hmoves := FileM.moves_growsAbove_writeWithParents [p] p content List.mem_cons_self fs
    rwa [h] at hmoves
  have hother : ∀ output ∈ [p], ¬ fs'.Writes output place := by
    intro output houtput
    rwa [List.mem_singleton.mp houtput]
  rcases hgrows.evolves.get?_eq_or place hother with hsame | ⟨hfree, hdirectory⟩
  · exact .inl hsame
  · exact .inr ⟨hfree, hdirectory, hgrows.directories place hfree hdirectory⟩

end UnityBuild
