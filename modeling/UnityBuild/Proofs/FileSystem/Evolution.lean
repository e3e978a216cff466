import UnityBuild.Proofs.Effects
import UnityBuild.Proofs.FileSystem.Growth

/-!
# What writing files does to a file system

Making directories and writing files lets a file system grow. What is written is the file that the
path leads to, under all its names, and since ways stay as they are, it can be said of the file
system at the end which places were written.

Main statements: `evolves_writeBytes` and `moves_writeWithParents`.
-/

namespace UnityBuild

namespace FileSystem

/-- A place is among the names of what stands there. -/
theorem mem_namesOf_self (fs : FileSystem) (place : Location) : place ∈ fs.namesOf place := by
  rw [namesOf]
  cases hgroup : fs.twins.find? fun group => group.contains place with
  | none => exact List.mem_singleton.mpr rfl
  | some group => simpa using List.find?_some hgroup

/-- A directory is made under a new name in a directory. -/
theorem makeDirectory_eq_ok (fs fs' : FileSystem) (p : Path) (h : fs.makeDirectory p = .ok fs') :
    ∃ parent name, fs.locateParent p = .ok (some (parent, name)) ∧ isStep name = false ∧
      ¬ maxNameSize < name.length ∧ fs.get? (parent ++ [name]) = none ∧
      fs' = fs.set (parent ++ [name]) .directory := by
  unfold makeDirectory at h
  cases hparent : fs.locateParent p with
  | error e => simp [hparent, bind, Except.bind] at h
  | ok found =>
    match found with
    | none => simp [hparent, bind, Except.bind, throw, throwThe, MonadExceptOf.throw] at h
    | some (parent, name) =>
      simp only [hparent, bind, Except.bind, throw, throwThe, MonadExceptOf.throw, pure,
        Except.pure, child] at h
      split at h
      · cases h
      · rename_i hstep
        by_cases hsize : maxNameSize < name.length
        · simp [hsize] at h
        · simp only [hsize, if_false] at h
          split at h
          · cases h
          · rename_i hfree
            split at h
            · cases h
            · cases h
              exact ⟨parent, name, rfl, by simpa using hstep, hsize, hfree, rfl⟩

/-- A device that takes a content takes it in every file system, and changes none. -/
theorem writeDevice_eq_ok (fs fs' : FileSystem) (device : Device) (content : ByteArray)
    (h : fs.writeDevice device content = .ok fs') :
    fs' = fs ∧ ∀ other : FileSystem, other.writeDevice device content = .ok other := by
  unfold writeDevice at h ⊢
  split at h
  · split at h
    · rename_i hempty
      cases h
      exact ⟨rfl, fun other => if_pos hempty⟩
    · cases h
  · cases h
  · cases h
    exact ⟨rfl, fun other => rfl⟩

/-- Writing at a place overwrites a file under all its names, hands the content to a device, or makes
a new file where nothing stands. -/
theorem writeAt_eq_ok (fs fs' : FileSystem) (place : Location) (content : ByteArray)
    (h : fs.writeAt place content = .ok fs') :
    (∃ old rights, fs.get? place = some (.file old rights) ∧ fs' = fs.setFile place content rights) ∨
      (∃ device, fs.get? place = some (.device device) ∧
        fs.writeDevice device content = .ok fs') ∨
      (fs.get? place = none ∧ fs' = fs.set place (.file content .ofNew)) := by
  unfold writeAt at h
  split at h
  · cases h
  · rename_i old rights hold
    cases h
    exact .inl ⟨old, rights, hold, rfl⟩
  · rename_i device hdevice
    exact .inr (.inl ⟨device, hdevice, h⟩)
  · cases h
  · rename_i hfree
    split at h
    · cases h
    · cases h
      exact .inr (.inr ⟨hfree, rfl⟩)

namespace Grows

variable {written : Location → Prop} {fs fs' : FileSystem}

/-- Writing over a plain file is growth. -/
theorem set_of_isFileAt (fs : FileSystem) (place : Location) (content : ByteArray) (rights : Rights)
    (hfile : fs.isFileAt place = true) (hwritten : written place) :
    Grows written fs (fs.set place (.file content rights)) := by
  have hplace : place ≠ [] := by
    rintro rfl
    cases hfile
  refine ⟨rfl, rfl, fun other => ?_⟩
  rw [get?_set fs place other _ hplace]
  split
  · rename_i hother
    rw [hother]
    unfold isFileAt at hfile
    split at hfile
    · rename_i old rights' hold
      rw [hold]
      exact .newContent hwritten old content rights' rights
    · cases hfile
  · exact .same _

/-- Writing over the plain files at some places is growth. -/
theorem foldl_set (fs : FileSystem) (names : List Location) (content : ByteArray) (rights : Rights)
    (hwritten : ∀ name ∈ names, written name) :
    Grows written fs (names.foldl
      (fun fs name => if fs.isFileAt name then fs.set name (.file content rights) else fs) fs) := by
  induction names generalizing fs with
  | nil => exact refl written fs
  | cons name names ih =>
    have hrest := fun other hother => hwritten other (List.mem_cons_of_mem name hother)
    rw [List.foldl_cons]
    split
    · rename_i hfile
      exact (set_of_isFileAt fs name content rights hfile (hwritten name List.mem_cons_self)).trans
        (ih _ hrest)
    · exact ih fs hrest

/-- Making a directory is growth that writes nothing. -/
theorem of_makeDirectory (p : Path) (h : fs.makeDirectory p = .ok fs') : Grows written fs fs' := by
  obtain ⟨parent, name, -, -, -, hfree, rfl⟩ := fs.makeDirectory_eq_ok fs' p h
  exact set_of_free fs _ .directory hfree .newDirectory

/-- Writing at a place is growth that writes what stands there under all its names. -/
theorem of_writeAt (place : Location) (content : ByteArray)
    (h : fs.writeAt place content = .ok fs') : Grows (· ∈ fs.namesOf place) fs fs' := by
  rcases fs.writeAt_eq_ok fs' place content h with ⟨_, rights, _, rfl⟩ | ⟨device, _, hwrite⟩ |
    ⟨hfree, rfl⟩
  · exact foldl_set fs _ content rights fun _ hname => hname
  · rw [(fs.writeDevice_eq_ok fs' device content hwrite).1]
    exact refl _ fs
  · exact set_of_free fs place _ hfree (.newFile (fs.mem_namesOf_self place) content .ofNew)

end Grows

/-- Writing to a path writes a place when the path leads to a file with this place among its
names. -/
def Writes (fs : FileSystem) (output : Path) (place : Location) : Prop :=
  ∃ target, fs.locateFile output = .ok target ∧ place ∈ fs.namesOf target

instance (fs : FileSystem) (output : Path) (place : Location) :
    Decidable (fs.Writes output place) :=
  match htarget : fs.locateFile output with
  | .ok target =>
    decidable_of_iff (place ∈ fs.namesOf target)
      ⟨fun hplace => ⟨target, htarget, hplace⟩, fun ⟨other, hother, hplace⟩ => by
        rw [htarget] at hother
        cases hother
        exact hplace⟩
  | .error e => isFalse fun ⟨other, hother, _⟩ => by
      rw [htarget] at hother
      cases hother

/-- Writing to a path writes the file that another path leads to. -/
def Overwrites (fs : FileSystem) (output p : Path) : Prop :=
  ∃ place, fs.locate p = .ok place ∧ fs.Writes output place

instance (fs : FileSystem) (output p : Path) : Decidable (fs.Overwrites output p) :=
  match hplace : fs.locate p with
  | .ok place =>
    decidable_of_iff (fs.Writes output place)
      ⟨fun hwrites => ⟨place, hplace, hwrites⟩, fun ⟨other, hother, hwrites⟩ => by
        rw [hplace] at hother
        cases hother
        exact hwrites⟩
  | .error e => isFalse fun ⟨other, hother, _⟩ => by
      rw [hplace] at hother
      cases hother

/-- One file system has become another by making directories and writing to the given paths. -/
def Evolves (outputs : List Path) (fs fs' : FileSystem) : Prop :=
  Grows (fun place => ∃ output ∈ outputs, fs'.Writes output place) fs fs'

/-- Places that were written are still those that the paths lead to. -/
theorem Writes.of_grows {written : Location → Prop} {fs fs' : FileSystem} {output : Path}
    {place : Location} (hwrites : fs.Writes output place) (h : Grows written fs fs') :
    fs'.Writes output place := by
  obtain ⟨target, htarget, hplace⟩ := hwrites
  refine ⟨target, h.locateFile_eq_ok output target htarget, ?_⟩
  rw [h.namesOf_eq]
  exact hplace

instance (outputs : List Path) : IsPreorder FileSystem (Evolves outputs) where
  refl fs := Grows.refl _ fs
  trans fs fs' fs'' h h' := by
    refine Grows.trans (h.mono ?_) h'
    rintro place ⟨output, houtput, hwrites⟩
    exact ⟨output, houtput, hwrites.of_grows h'⟩

/-- What stands at a place that was not written stays there, and where nothing stood there can now be
a directory. -/
theorem Evolves.get?_eq_or {outputs : List Path} {fs fs' : FileSystem} (h : Evolves outputs fs fs')
    (place : Location) (hunwritten : ∀ output ∈ outputs, ¬ fs'.Writes output place) :
    fs'.get? place = fs.get? place ∨
      fs.get? place = none ∧ fs'.get? place = some .directory := by
  have hnone : ¬ ∃ output ∈ outputs, fs'.Writes output place := by
    rintro ⟨output, houtput, hwrites⟩
    exact hunwritten output houtput hwrites
  have hentry := h.entry place
  generalize fs.get? place = entry at hentry ⊢
  generalize fs'.get? place = entry' at hentry ⊢
  cases hentry with
  | same => exact .inl rfl
  | newDirectory => exact .inr ⟨rfl, rfl⟩
  | newFile hwritten => exact absurd hwritten hnone
  | newContent hwritten => exact absurd hwritten hnone

/-- Making a directory is a step of such a change. -/
theorem evolves_makeDirectory (outputs : List Path) (fs fs' : FileSystem) (p : Path)
    (h : fs.makeDirectory p = .ok fs') : Evolves outputs fs fs' :=
  Grows.of_makeDirectory p h

/-- Writing a file is a step of such a change. -/
theorem evolves_writeBytes (outputs : List Path) (fs fs' : FileSystem) (p : Path)
    (content : ByteArray) (houtput : p ∈ outputs) (h : fs.writeBytes p content = .ok fs') :
    Evolves outputs fs fs' := by
  unfold writeBytes at h
  cases htarget : fs.locateFile p with
  | error e => simp [htarget, bind, Except.bind] at h
  | ok target =>
    simp only [htarget, bind, Except.bind] at h
    have hgrows := Grows.of_writeAt target content h
    refine hgrows.mono fun place hplace => ⟨p, houtput, ?_⟩
    exact Writes.of_grows ⟨target, htarget, hplace⟩ hgrows

end FileSystem

namespace FileM

open FileSystem

variable (outputs : List Path)

/-- A change that is such a step moves the files along. -/
theorem moves_change (f : FileSystem → Except SystemError FileSystem)
    (hf : ∀ fs fs', f fs = .ok fs' → Evolves outputs fs fs') : Moves (Evolves outputs) (change f) := by
  intro fs
  cases hresult : f fs with
  | ok fs' =>
    have hstate : (change f fs).2 = fs' := by simp only [change, hresult]
    rw [hstate]
    exact hf fs fs' hresult
  | error e =>
    have hstate : (change f fs).2 = fs := by simp only [change, hresult]
    rw [hstate]
    exact refl_of _ fs

/-- Making sure of a directory moves the files along. -/
theorem moves_ensureDirectory (p : Path) : Moves (Evolves outputs) (ensureDirectory p) := by
  intro fs
  cases hresult : fs.makeDirectory p with
  | ok fs' =>
    have hstate : (ensureDirectory p fs).2 = fs' := by simp only [ensureDirectory, hresult]
    rw [hstate]
    exact evolves_makeDirectory outputs fs fs' p hresult
  | error e =>
    have hstate : (ensureDirectory p fs).2 = fs := by simp only [ensureDirectory, hresult]
    rw [hstate]
    exact refl_of _ fs

/-- Making a directory and those above it moves the files along. -/
theorem moves_makeDirectoriesWithin (fuel : Nat) (p : Path) :
    Moves (Evolves outputs) (makeDirectoriesWithin fuel p) := by
  induction fuel generalizing p with
  | zero => exact Moves.throw _
  | succ fuel ih =>
    rw [makeDirectoriesWithin]
    split
    · exact Moves.pure ()
    · have hpresent (e : SystemError) : Moves (Evolves outputs)
          (do if (← get).isDirectory p then return else throw e : FileM Unit) := by
        refine Moves.get_bind _ fun fs => ?_
        split
        · exact refl_of _ fs
        · exact refl_of _ fs
      refine Moves.get_bind _ fun fs => ?_
      cases hresult : fs.makeDirectory p with
      | ok fs' => exact evolves_makeDirectory outputs fs fs' p hresult
      | error e =>
        cases e with
        | noEntry =>
          cases p.parent? with
          | none => exact refl_of _ fs
          | some above =>
            exact Moves.bind _ _ (ih above) (fun _ => moves_ensureDirectory outputs p) fs
        | _ => exact hpresent _ fs

/-- Making the directories above a file moves the files along. -/
theorem moves_makeParents (p : Path) : Moves (Evolves outputs) (makeParents p) := by
  unfold makeParents
  split
  · split
    · exact Moves.pure ()
    · exact moves_makeDirectoriesWithin outputs _ _
  · exact Moves.pure ()

/-- Writing a file and the directories above it moves the files along. -/
theorem moves_writeWithParents (p : Path) (content : String) (houtput : p ∈ outputs) :
    Moves (Evolves outputs) (writeWithParents p content) :=
  Moves.bind _ _ (moves_makeParents outputs p) fun _ =>
    moves_change outputs _ fun fs fs' h => evolves_writeBytes outputs fs fs' p _ houtput h

end FileM

/-- What writing to a path does to the files. -/
theorem FileSystem.evolves_of_writeWithParents (outputs : List Path) (fs fs' : FileSystem) (p : Path)
    (content : String) (houtput : p ∈ outputs)
    (h : FileM.writeWithParents p content fs = (.ok (), fs')) : fs.Evolves outputs fs' := by
  have hmoves := FileM.moves_writeWithParents outputs p content houtput fs
  rwa [h] at hmoves

end UnityBuild
