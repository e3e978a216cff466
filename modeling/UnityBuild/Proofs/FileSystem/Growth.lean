import UnityBuild.FileSystem.Write

/-!
# File systems that only grow

A run makes directories and writes files, and takes nothing away. So what stands at a place stays,
but for the content of a file that is written, and where nothing stood there can come a directory
or a written file. Links never come, go or change. Following a path therefore leads to the same
place as before, unless it failed before because something was missing.

Main statements: `Grows.locate_eq`, `Grows.locateFile_eq_ok` and `Grows.readBytes_eq_ok_iff`.
-/

namespace UnityBuild

/-- What can become of a place that is written or only passed by. -/
inductive Entry.Grows (written : Prop) : Option Entry → Option Entry → Prop where
  | same (entry : Option Entry) : Grows written entry entry
  | newDirectory : Grows written none (some .directory)
  | newFile (hwritten : written) (content : ByteArray) (rights : Rights) :
      Grows written none (some (.file content rights))
  | newContent (hwritten : written) (old new : ByteArray) (rights rights' : Rights) :
      Grows written (some (.file old rights)) (some (.file new rights'))

namespace Entry.Grows

/-- Growth that needs less to be written is growth. -/
theorem mono (P Q : Prop) (entry entry' : Option Entry) (hPQ : P → Q) (h : Grows P entry entry') :
    Grows Q entry entry' := by
  cases h with
  | same => exact .same _
  | newDirectory => exact .newDirectory
  | newFile hP content rights => exact .newFile (hPQ hP) content rights
  | newContent hP old new rights rights' => exact .newContent (hPQ hP) old new rights rights'

/-- What grew twice has grown. -/
theorem trans (P : Prop) (first second third : Option Entry) (h : Grows P first second)
    (h' : Grows P second third) : Grows P first third := by
  cases h with
  | same => exact h'
  | newDirectory =>
    cases h' with
    | same => exact .newDirectory
  | newFile hP content rights =>
    cases h' with
    | same => exact .newFile hP content rights
    | newContent _ _ new _ rights' => exact .newFile hP new rights'
  | newContent hP old new rights rights' =>
    cases h' with
    | same => exact .newContent hP old new rights rights'
    | newContent _ _ newer _ rights'' => exact .newContent hP old newer rights rights''

end Entry.Grows

namespace FileSystem

/-- What gave a result did not break off. -/
theorem ne_noEntry_of_eq_ok {α : Type} {result : Except SystemError α} {a : α}
    (h : result = .ok a) : result ≠ .error .noEntry := by
  rw [h]
  simp only [ne_eq, reduceCtorEq, not_false_eq_true]

/-- One file system has grown to another, and nothing but what `written` allows was written. -/
structure Grows (written : Location → Prop) (fs fs' : FileSystem) : Prop where
  workingDirectory : fs'.workingDirectory = fs.workingDirectory
  twins : fs'.twins = fs.twins
  entry : ∀ place, Entry.Grows (written place) (fs.get? place) (fs'.get? place)

/-- One step of a way: the place that is left is checked, then the size of the name, and then it is
a link or another place that the way leads on from. -/
theorem followBy_cons (fs : FileSystem) (through : Bool)
    (jump : Location → List String → Except SystemError Location) (place : Location)
    (name : String) (names : List String) :
    fs.followBy through jump place (name :: names) =
      match fs.checkDirectory place with
      | .error e => .error e
      | .ok () =>
        if maxNameSize < name.length then .error .nameTooLong
        else match fs.linkAt? (stepTo place name) with
          | some target =>
            if names.isEmpty && !through then .ok (stepTo place name)
            else jump (if target.isAbsolute then [] else place) (target.steps ++ names)
          | none => fs.followBy through jump (stepTo place name) names := by
  rw [followBy]
  cases fs.checkDirectory place with
  | error e => rfl
  | ok _ =>
    by_cases hsize : maxNameSize < name.length
    · simp only [hsize, if_true]
      rfl
    · simp only [hsize, if_false]
      rfl

/-- What a path leads to decides what is read. -/
theorem readBytes_eq (fs : FileSystem) (p : Path) :
    fs.readBytes p =
      match fs.locate p with
      | .error e => .error e
      | .ok place =>
        match fs.get? place with
        | none => .error .noEntry
        | some .directory => .error .isDirectory
        | some (.file content _) => .ok content
        | some (.device device) => readDevice device
        | some (.link _) => .error .tooManyLevels := by
  unfold readBytes entryAt present
  cases fs.locate p with
  | error e => simp only [bind, Except.bind]
  | ok place =>
    simp only [bind, Except.bind]
    cases fs.get? place with
    | none => rfl
    | some entry =>
      cases entry with
      | directory => rfl
      | file content rights => rfl
      | device device => rfl
      | link target => rfl

namespace Grows

variable {written : Location → Prop} {fs fs' : FileSystem}

/-- A file system that is left alone has grown. -/
theorem refl (written : Location → Prop) (fs : FileSystem) : Grows written fs fs :=
  ⟨rfl, rfl, fun _ => .same _⟩

/-- Growth that writes less is growth. -/
theorem mono {more : Location → Prop} (h : Grows written fs fs')
    (hmore : ∀ place, written place → more place) : Grows more fs fs' :=
  ⟨h.workingDirectory, h.twins, fun place => (h.entry place).mono _ _ _ _ (hmore place)⟩

/-- A file system that grew twice has grown. -/
theorem trans {fs'' : FileSystem} (h : Grows written fs fs') (h' : Grows written fs' fs'') :
    Grows written fs fs'' :=
  ⟨h'.workingDirectory.trans h.workingDirectory, h'.twins.trans h.twins,
    fun place => (h.entry place).trans _ _ _ _ (h'.entry place)⟩

/-- Putting a new directory or file in a free place is growth. -/
theorem set_of_free (fs : FileSystem) (place : Location) (entry : Entry)
    (hfree : fs.get? place = none) (hentry : Entry.Grows (written place) none (some entry)) :
    Grows written fs (fs.set place entry) := by
  have hplace : place ≠ [] := by
    rintro rfl
    cases hfree
  refine ⟨rfl, rfl, fun other => ?_⟩
  rw [get?_set fs place other entry hplace]
  split
  · rename_i hother
    rw [hother, hfree]
    exact hentry
  · exact .same _

/-- The names of a file stay its names. -/
theorem namesOf_eq (h : Grows written fs fs') (place : Location) :
    fs'.namesOf place = fs.namesOf place := by
  rw [namesOf, namesOf, h.twins]

/-- Links stay as they are, and no new ones come. -/
theorem linkAt?_eq (h : Grows written fs fs') (place : Location) :
    fs'.linkAt? place = fs.linkAt? place := by
  have hentry := h.entry place
  unfold linkAt?
  generalize fs.get? place = entry at hentry ⊢
  generalize fs'.get? place = entry' at hentry ⊢
  cases hentry with
  | same => rfl
  | newDirectory => rfl
  | newFile => rfl
  | newContent => rfl

/-- A place that was there stays a directory or stays something else. -/
theorem checkDirectory_eq (h : Grows written fs fs') (place : Location)
    (hthere : fs.checkDirectory place ≠ .error .noEntry) :
    fs'.checkDirectory place = fs.checkDirectory place := by
  have hentry := h.entry place
  unfold checkDirectory at hthere ⊢
  generalize fs.get? place = entry at hentry hthere ⊢
  generalize fs'.get? place = entry' at hentry ⊢
  cases hentry with
  | same => rfl
  | newDirectory => exact absurd rfl hthere
  | newFile => exact absurd rfl hthere
  | newContent => rfl

/-- A way that did not break off leads where it led before, when what lies behind links does. -/
theorem followBy_eq (h : Grows written fs fs') (through : Bool)
    (jump jump' : Location → List String → Except SystemError Location)
    (hjump : ∀ place names, jump place names ≠ .error .noEntry → jump' place names = jump place names)
    (place : Location) (names : List String)
    (hthere : fs.followBy through jump place names ≠ .error .noEntry) :
    fs'.followBy through jump' place names = fs.followBy through jump place names := by
  induction names generalizing place with
  | nil => rfl
  | cons name names ih =>
    rw [followBy_cons] at hthere
    rw [followBy_cons, followBy_cons, h.linkAt?_eq]
    cases hcheck : fs.checkDirectory place with
    | error e =>
      rw [hcheck] at hthere
      rw [h.checkDirectory_eq place (by rw [hcheck]; simpa using hthere), hcheck]
    | ok _ =>
      rw [hcheck] at hthere
      rw [h.checkDirectory_eq place (ne_noEntry_of_eq_ok hcheck), hcheck]
      dsimp only at hthere ⊢
      split
      · rfl
      · rename_i hsize
        rw [if_neg hsize] at hthere
        cases hlink : fs.linkAt? (stepTo place name) with
        | none =>
          rw [hlink] at hthere
          exact ih _ hthere
        | some target =>
          rw [hlink] at hthere
          dsimp only at hthere ⊢
          split
          · rfl
          · rename_i hlast
            rw [if_neg hlast] at hthere
            exact hjump _ _ hthere

/-- The same through any number of links. -/
theorem followWithin_eq (h : Grows written fs fs') (through : Bool) (links : Nat)
    (place : Location) (names : List String)
    (hthere : fs.followWithin through links place names ≠ .error .noEntry) :
    fs'.followWithin through links place names = fs.followWithin through links place names := by
  induction links generalizing place names with
  | zero => exact h.followBy_eq through _ _ (fun _ _ _ => rfl) place names hthere
  | succ links ih => exact h.followBy_eq through _ _ ih place names hthere

/-- A way that did not break off leads where it led before. -/
theorem follow_eq (h : Grows written fs fs') (place : Location) (names : List String)
    (hthere : fs.follow place names ≠ .error .noEntry) :
    fs'.follow place names = fs.follow place names := by
  rw [follow] at hthere ⊢
  exact h.followWithin_eq true maxLinks place names hthere

/-- Paths start where they started before. -/
theorem start_eq (h : Grows written fs fs') (p : Path) : fs'.start p = fs.start p := by
  rw [start, start, h.workingDirectory]

/-- A path that did not break off leads to the place that it led to before. -/
theorem locate_eq (h : Grows written fs fs') (p : Path) (hthere : fs.locate p ≠ .error .noEntry) :
    fs'.locate p = fs.locate p := by
  unfold locate at hthere ⊢
  cases htext : checkText p with
  | error e => simp only [bind, Except.bind]
  | ok _ =>
    rw [htext] at hthere
    simp only [bind, Except.bind, h.start_eq] at hthere ⊢
    exact h.follow_eq _ _ hthere

/-- The directory of a path that did not break off is the same as before. -/
theorem locateParent_eq (h : Grows written fs fs') (p : Path)
    (hthere : fs.locateParent p ≠ .error .noEntry) : fs'.locateParent p = fs.locateParent p := by
  unfold locateParent at hthere ⊢
  cases htext : checkText p with
  | error e => simp only [bind, Except.bind]
  | ok _ =>
    cases hlast : p.names.getLast? with
    | none => simp only [bind, Except.bind]
    | some name =>
      rw [htext, hlast] at hthere
      simp only [bind, Except.bind, h.start_eq] at hthere ⊢
      cases hparent : fs.follow (fs.start p) p.names.dropLast with
      | error e =>
        rw [hparent] at hthere
        rw [h.follow_eq _ _ (by rw [hparent]; simpa using hthere), hparent]
      | ok parent =>
        rw [hparent] at hthere
        rw [h.follow_eq _ _ (ne_noEntry_of_eq_ok hparent), hparent]
        dsimp only at hthere ⊢
        cases hcheck : fs.checkDirectory parent with
        | error e =>
          rw [hcheck] at hthere
          rw [h.checkDirectory_eq parent (by rw [hcheck]; simpa using hthere), hcheck]
        | ok _ =>
          rw [h.checkDirectory_eq parent (ne_noEntry_of_eq_ok hcheck), hcheck]

/-- The place at which a file was to be written stays its place. -/
theorem locateFile_eq_ok (h : Grows written fs fs') (p : Path) (place : Location)
    (hplace : fs.locateFile p = .ok place) : fs'.locateFile p = .ok place := by
  unfold locateFile at hplace ⊢
  cases hparent : fs.locateParent p with
  | error e =>
    rw [hparent] at hplace
    cases hplace
  | ok found =>
    rw [h.locateParent_eq p (ne_noEntry_of_eq_ok hparent), hparent]
    rw [hparent] at hplace
    match found with
    | none => cases hplace
    | some (parent, name) =>
      simp only [bind, Except.bind] at hplace ⊢
      split
      · rename_i hstep
        rw [if_pos hstep] at hplace
        cases hplace
      · rename_i hstep
        rw [if_neg hstep] at hplace
        rw [← hplace]
        apply h.locate_eq
        exact ne_noEntry_of_eq_ok hplace

/-- From a path that did not break off and was not written, as much is read as before. -/
theorem readBytes_eq_ok_iff (h : Grows written fs fs') (p : Path)
    (hthere : fs.locate p ≠ .error .noEntry)
    (hapart : ∀ place, fs'.locate p = .ok place → ¬ written place) (content : ByteArray) :
    fs'.readBytes p = .ok content ↔ fs.readBytes p = .ok content := by
  rw [h.locate_eq p hthere] at hapart
  rw [readBytes_eq, readBytes_eq, h.locate_eq p hthere]
  cases hplace : fs.locate p with
  | error e => exact Iff.rfl
  | ok place =>
    have hentry := h.entry place
    have hunwritten := hapart place hplace
    dsimp only
    generalize fs.get? place = entry at hentry ⊢
    generalize fs'.get? place = entry' at hentry ⊢
    cases hentry with
    | same => exact Iff.rfl
    | newDirectory => simp only [reduceCtorEq]
    | newFile hwritten => exact absurd hwritten hunwritten
    | newContent hwritten => exact absurd hwritten hunwritten

end Grows

end FileSystem

end UnityBuild
