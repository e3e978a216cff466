import UnityBuild.Proofs.FileSystem.Rewriting

/-!
# What is read back

A text that was written to a path is read from it again, unless the path leads to a device, which
keeps nothing. It stays so while other files are written. Two paths can lead to one plain file
through links or as two names of it; then the second text replaces the first, so this is excluded
where it matters.

Main statements: `holds_of_writeWithParents`, `Holds.of_evolves` and `Holds.readsAs`.
-/

namespace UnityBuild.FileSystem

/-- A path is read as a text, unless it leads to a device. -/
def ReadsAs (fs : FileSystem) (p : Path) (content : String) : Prop :=
  fs.readText p = .ok content ∨ ∃ device, fs.entryAt p = .ok (.device device)

/-- A path leads to a plain file with the content, or to a device, and can be written to. -/
def Holds (fs : FileSystem) (p : Path) (content : String) : Prop :=
  ∃ place, fs.locateFile p = .ok place ∧
    ((∃ rights, fs.get? place = some (.file (Text.encode content) rights)) ∨
      ∃ device, fs.get? place = some (.device device))

variable {fs fs' : FileSystem} {p : Path} {content : String}

/-- What stands at a place to which a content was written. -/
theorem get?_of_writeAt (place : Location) (bytes : ByteArray)
    (h : fs.writeAt place bytes = .ok fs') :
    (∃ rights, fs'.get? place = some (.file bytes rights)) ∨
      ∃ device, fs'.get? place = some (.device device) := by
  rcases fs.writeAt_eq_ok fs' place bytes h with ⟨old, rights, hold, rfl⟩ | ⟨device, hdevice, hwrite⟩ |
    ⟨hfree, rfl⟩
  · have hfile : fs.isFileAt place = true := (fs.isFileAt_iff place).mpr ⟨old, rights, hold⟩
    have hself := fs.mem_namesOf_self place
    exact .inl ⟨rights, (fs.get?_overwrite bytes rights _ place).trans (if_pos ⟨hself, hfile⟩)⟩
  · rw [(fs.writeDevice_eq_ok fs' device bytes hwrite).1]
    exact .inr ⟨device, hdevice⟩
  · have hplace : place ≠ [] := by
      rintro rfl
      cases hfree
    exact .inl ⟨.ofNew, by rw [get?_set fs place place _ hplace, if_pos rfl]⟩

/-- What was written to a path is held there. -/
theorem holds_of_writeWithParents (h : FileM.writeWithParents p content fs = (.ok (), fs')) :
    fs'.Holds p content := by
  obtain ⟨middle, -, hwrite⟩ := FileM.writeWithParents_eq_ok h
  obtain ⟨place, hplace, hat⟩ := (middle.writeBytes_eq_ok_iff fs' p _).mp hwrite
  have hgrows := Grows.of_writeAt place _ hat
  exact ⟨place, hgrows.locateFile_eq_ok p place hplace, get?_of_writeAt place _ hat⟩

/-- What is held goes on being held when another path that is apart is written. -/
theorem Holds.of_evolves (q : Path) (h : fs.Holds p content) (hevolves : Evolves [q] fs fs')
    (hapart : fs'.Apart p q) : fs'.Holds p content := by
  obtain ⟨place, hplace, hholds⟩ := h
  have hplace' := Grows.locateFile_eq_ok hevolves p place hplace
  refine ⟨place, hplace', ?_⟩
  have hentry := hevolves.entry place
  rcases hholds with ⟨rights, hfile⟩ | ⟨device, hdevice⟩
  · have hisfile := Grows.isFileAt hevolves place ((fs.isFileAt_iff place).mpr ⟨_, rights, hfile⟩)
    have hunwritten : ¬ ∃ output ∈ [q], fs'.Writes output place := by
      rintro ⟨output, houtput, hwrites⟩
      obtain rfl := List.mem_singleton.mp houtput
      exact hapart place hisfile ⟨place, hplace', fs'.mem_namesOf_self place⟩ hwrites
    rw [hfile] at hentry
    generalize fs'.get? place = entry at hentry ⊢
    cases hentry with
    | same => exact .inl ⟨rights, rfl⟩
    | newContent hwritten => exact absurd hwritten hunwritten
  · rw [hdevice] at hentry
    generalize fs'.get? place = entry at hentry ⊢
    cases hentry with
    | same => exact .inr ⟨device, rfl⟩

/-- What is held is read. -/
theorem Holds.readsAs (h : fs.Holds p content) : fs.ReadsAs p content := by
  obtain ⟨place, hplace, hholds⟩ := h
  have hlocate := fs.locate_of_locateFile p place hplace
  rcases hholds with ⟨rights, hfile⟩ | ⟨device, hdevice⟩
  · exact .inl (fs.readText_of_file p place content rights hlocate hfile)
  · right
    refine ⟨device, ?_⟩
    rw [entryAt, hlocate]
    simp only [bind, Except.bind, present, hdevice]

end UnityBuild.FileSystem
