import UnityBuild.Proofs.FileSystem.Directories

/-!
# Files that are written again

When a file was written, writing the same to it once more changes nothing, not even the order in
which the file system keeps its entries. It stays so while other files are written, and when the
file is given another content in between, writing the first content brings the whole file system
back. A device keeps nothing of what is written to it, so the same can be said of devices.

Main definition: `Keeps`. Main statements: `keeps_of_writeWithParents`, `Keeps.of_grows` and
`Keeps.writeWithParents_undo`.
-/

namespace UnityBuild

/-- The bytes of a text hold the text. -/
theorem Text.decode?_encode (s : String) : decode? (encode s) = some s :=
  dif_pos s.isValidUTF8

namespace FileSystem

section Updates

variable (location location' : Location) (entry entry' : Entry) (entries : List (Location × Entry))

/-- Of two updates of one location the second counts. -/
theorem update_update :
    update location entry (update location entry' entries) = update location entry entries := by
  induction entries with
  | nil => simp [update]
  | cons first rest ih =>
    obtain ⟨place, old⟩ := first
    by_cases hplace : place = location
    · simp [update, hplace]
    · simp [update, hplace, ih]

/-- Updates of two locations can be exchanged when something stands at one of them. -/
theorem update_comm (hapart : location ≠ location') (hthere : lookup location entries ≠ none) :
    update location entry (update location' entry' entries) =
      update location' entry' (update location entry entries) := by
  induction entries with
  | nil => exact absurd rfl hthere
  | cons first rest ih =>
    obtain ⟨place, old⟩ := first
    by_cases hplace : place = location
    · simp [update, hplace, hapart]
    · rw [lookup, if_neg hplace] at hthere
      by_cases hplace' : place = location'
      · simp [update, hplace', Ne.symm hapart]
      · simp [update, hplace, hplace', ih hthere]

/-- Updating a location to what stands there changes nothing. -/
theorem update_eq_self (hthere : lookup location entries = some entry) :
    update location entry entries = entries := by
  induction entries with
  | nil => cases hthere
  | cons first rest ih =>
    obtain ⟨place, old⟩ := first
    by_cases hplace : place = location
    · rw [lookup, if_pos hplace] at hthere
      rw [update, if_pos hplace, Option.some.inj hthere]
    · rw [lookup, if_neg hplace] at hthere
      rw [update, if_neg hplace, ih hthere]

end Updates

/-- Below the root is what the entries say. -/
theorem get?_eq_lookup (fs : FileSystem) (place : Location) (hplace : place ≠ []) :
    fs.get? place = lookup place fs.entries :=
  if_neg hplace

/-- A plain file does not stand at the root. -/
theorem ne_nil_of_isFileAt (fs : FileSystem) (place : Location) (h : fs.isFileAt place = true) :
    place ≠ [] := by
  rintro rfl
  cases h

/-- A plain file has a content and rights. -/
theorem isFileAt_iff (fs : FileSystem) (place : Location) :
    fs.isFileAt place = true ↔ ∃ content rights, fs.get? place = some (.file content rights) := by
  unfold isFileAt
  cases fs.get? place with
  | none => simp
  | some entry => cases entry <;> simp

/-- Writing over a plain file makes no place a file or no file. -/
theorem isFileAt_set (fs : FileSystem) (place other : Location) (content : ByteArray)
    (rights : Rights) (hfile : fs.isFileAt place = true) :
    (fs.set place (.file content rights)).isFileAt other = fs.isFileAt other := by
  unfold isFileAt at hfile ⊢
  rw [get?_set fs place other _ (fs.ne_nil_of_isFileAt place hfile)]
  by_cases hother : other = place
  · rw [if_pos hother, hother, hfile]
  · rw [if_neg hother]

/-- Writes over the plain files at some places. -/
def overwrite (fs : FileSystem) (names : List Location) (content : ByteArray) (rights : Rights) :
    FileSystem :=
  names.foldl (fun fs name => if fs.isFileAt name then fs.set name (.file content rights) else fs) fs

section Overwriting

variable (content content' : ByteArray) (rights rights' : Rights)

/-- Overwriting goes on with the other places after the first. -/
theorem overwrite_cons (fs : FileSystem) (name : Location) (names : List Location) :
    fs.overwrite (name :: names) content rights =
      (if fs.isFileAt name = true then fs.set name (.file content rights) else fs).overwrite names
        content rights := rfl

/-- Overwriting makes no place a file or no file. -/
theorem isFileAt_overwrite (fs : FileSystem) (names : List Location) (other : Location) :
    (fs.overwrite names content rights).isFileAt other = fs.isFileAt other := by
  induction names generalizing fs with
  | nil => rfl
  | cons name names ih =>
    rw [overwrite_cons, ih]
    split
    · rename_i hfile
      exact fs.isFileAt_set name other content rights hfile
    · rfl

/-- After overwriting, the files among the places hold the content, and all else is as it was. -/
theorem get?_overwrite (fs : FileSystem) (names : List Location) (other : Location) :
    (fs.overwrite names content rights).get? other =
      if other ∈ names ∧ fs.isFileAt other = true then some (.file content rights)
      else fs.get? other := by
  induction names generalizing fs with
  | nil => simp [overwrite]
  | cons name names ih =>
    rw [overwrite_cons, ih]
    by_cases hfile : fs.isFileAt name = true
    · rw [if_pos hfile, fs.isFileAt_set name other content rights hfile,
        get?_set fs name other _ (fs.ne_nil_of_isFileAt name hfile)]
      by_cases hother : other = name
      · simp [hother, hfile]
      · simp [hother]
    · rw [if_neg hfile]
      by_cases hother : other = name
      · simp [hother, hfile]
      · simp [hother]

/-- Overwriting files that hold the content already changes nothing. -/
theorem overwrite_eq_self (fs : FileSystem) (names : List Location)
    (h : ∀ name ∈ names, fs.isFileAt name = true → fs.get? name = some (.file content rights)) :
    fs.overwrite names content rights = fs := by
  induction names with
  | nil => rfl
  | cons name names ih =>
    obtain ⟨hname, hnames⟩ := List.forall_mem_cons.mp h
    rw [overwrite_cons]
    split
    · rename_i hfile
      have hplace := fs.ne_nil_of_isFileAt name hfile
      have hself : fs.set name (.file content rights) = fs := by
        rw [set, update_eq_self name _ _ ((fs.get?_eq_lookup name hplace).symm.trans (hname hfile))]
      rw [hself, ih hnames]
    · exact ih hnames

/-- A file can be written before or after others are overwritten with the same content. -/
theorem overwrite_set (fs : FileSystem) (names : List Location) (place : Location)
    (hfile : fs.isFileAt place = true) :
    (fs.set place (.file content rights)).overwrite names content rights =
      (fs.overwrite names content rights).set place (.file content rights) := by
  induction names generalizing fs with
  | nil => rfl
  | cons name names ih =>
    rw [overwrite_cons, overwrite_cons,
      fs.isFileAt_set place name content rights hfile]
    by_cases hname : fs.isFileAt name = true
    · have hexchange : (fs.set place (.file content rights)).set name (.file content rights) =
          (fs.set name (.file content rights)).set place (.file content rights) := by
        by_cases hsame : name = place
        · rw [hsame]
        · have hthere : lookup name fs.entries ≠ none := by
            obtain ⟨old, rights', hold⟩ := (fs.isFileAt_iff name).mp hname
            rw [← fs.get?_eq_lookup name (fs.ne_nil_of_isFileAt name hname), hold]
            exact Option.some_ne_none _
          simp only [set, update_comm name place _ _ _ hsame hthere]
      rw [if_pos hname, if_pos hname, hexchange]
      exact ih _ ((fs.isFileAt_set name place content rights hname).trans hfile)
    · rw [if_neg hname, if_neg hname]
      exact ih fs hfile

/-- Files that are overwritten with another content and then with their own are as they were. -/
theorem overwrite_overwrite (fs : FileSystem) (names : List Location)
    (h : ∀ name ∈ names, fs.isFileAt name = true → fs.get? name = some (.file content rights)) :
    (fs.overwrite names content' rights').overwrite names content rights = fs := by
  induction names with
  | nil => rfl
  | cons name names ih =>
    obtain ⟨hname, hnames⟩ := List.forall_mem_cons.mp h
    rw [overwrite_cons, overwrite_cons]
    by_cases hfile : fs.isFileAt name = true
    · have hother : (fs.overwrite names content' rights').isFileAt name = true :=
        (fs.isFileAt_overwrite content' rights' names name).trans hfile
      have hself : fs.set name (.file content rights) = fs := by
        have hplace := fs.ne_nil_of_isFileAt name hfile
        rw [set, update_eq_self name _ _ ((fs.get?_eq_lookup name hplace).symm.trans (hname hfile))]
      have htwice (fs : FileSystem) : (fs.set name (.file content' rights')).set name
          (.file content rights) = fs.set name (.file content rights) := by
        simp only [set, update_update]
      rw [if_pos hfile, overwrite_set content' rights' fs names name hfile,
        isFileAt_set _ name name content' rights' hother, if_pos hother, htwice,
        overwrite_set content rights _ names name hother, ih hnames, hself]
    · have hother : ¬ (fs.overwrite names content' rights').isFileAt name = true := by
        rwa [isFileAt_overwrite]
      rw [if_neg hfile, if_neg hother]
      exact ih hnames

end Overwriting

/-- Every place that is listed as a name of a file is taken. -/
def NamesStand (fs : FileSystem) : Prop :=
  ∀ group ∈ fs.twins, ∀ name ∈ group, fs.get? name ≠ none

/-- A place that is taken stays taken. -/
theorem Grows.get?_ne_none {written : Location → Prop} {fs fs' : FileSystem}
    (h : Grows written fs fs') (place : Location) (hplace : fs.get? place ≠ none) :
    fs'.get? place ≠ none := by
  have hentry := h.entry place
  generalize fs.get? place = entry at hentry hplace
  generalize fs'.get? place = entry' at hentry ⊢
  cases hentry with
  | same => exact hplace
  | newDirectory => exact Option.some_ne_none _
  | newFile => exact Option.some_ne_none _
  | newContent => exact Option.some_ne_none _

/-- A plain file stays a plain file. -/
theorem Grows.isFileAt {written : Location → Prop} {fs fs' : FileSystem} (h : Grows written fs fs')
    (place : Location) (hfile : fs.isFileAt place = true) : fs'.isFileAt place = true := by
  obtain ⟨content, rights, hold⟩ := (fs.isFileAt_iff place).mp hfile
  have hentry := h.entry place
  rw [hold] at hentry
  rw [isFileAt_iff]
  generalize fs'.get? place = entry at hentry ⊢
  cases hentry with
  | same => exact ⟨content, rights, rfl⟩
  | newContent _ _ new _ rights' => exact ⟨new, rights', rfl⟩

/-- Names that stand go on standing. -/
theorem NamesStand.of_grows {written : Location → Prop} {fs fs' : FileSystem} (hnames : fs.NamesStand)
    (h : Grows written fs fs') : fs'.NamesStand := by
  intro group hgroup name hname
  rw [h.twins] at hgroup
  exact h.get?_ne_none name (hnames group hgroup name hname)

/-- A place that is free is the name of no other file. -/
theorem NamesStand.namesOf_eq (fs : FileSystem) (hnames : fs.NamesStand) (place : Location)
    (hfree : fs.get? place = none) : fs.namesOf place = [place] := by
  rw [namesOf]
  cases hgroup : fs.twins.find? fun group => group.contains place with
  | none => rfl
  | some group =>
    have hplace : place ∈ group := by simpa using List.find?_some hgroup
    exact absurd hfree (hnames group (List.mem_of_find?_eq_some hgroup) place hplace)

/-- What stands at a place is as if the content had just been written to it: a plain file has the
content and the same rights under all its names, or a device takes the content. -/
inductive HoldsAt (fs : FileSystem) (place : Location) (content : ByteArray) : Prop where
  | file (rights : Rights) (hfile : fs.isFileAt place = true)
      (hall : ∀ name ∈ fs.namesOf place, fs.isFileAt name = true →
        fs.get? name = some (.file content rights))
  | device (device : Device) (hdevice : fs.get? place = some (.device device))
      (htakes : ∀ other : FileSystem, other.writeDevice device content = .ok other)

section Places

variable {fs fs' : FileSystem} {place : Location} {content : ByteArray}

/-- Writing a content where it is held changes nothing. -/
theorem HoldsAt.writeAt_eq (h : fs.HoldsAt place content) : fs.writeAt place content = .ok fs := by
  cases h with
  | file rights hfile hall =>
    rw [writeAt, hall place (fs.mem_namesOf_self place) hfile]
    exact congrArg Except.ok (fs.overwrite_eq_self content rights _ hall)
  | device device hdevice htakes =>
    rw [writeAt, hdevice]
    exact htakes fs

/-- A content is held where it was written. -/
theorem holdsAt_of_writeAt (hnames : fs.NamesStand) (h : fs.writeAt place content = .ok fs') :
    fs'.HoldsAt place content := by
  have htwins := (Grows.of_writeAt place content h).namesOf_eq place
  rcases fs.writeAt_eq_ok fs' place content h with ⟨old, rights, hold, rfl⟩ | ⟨device, hdevice, hwrite⟩ |
    ⟨hfree, rfl⟩
  · have hfile : fs.isFileAt place = true := (fs.isFileAt_iff place).mpr ⟨old, rights, hold⟩
    refine .file rights ((fs.isFileAt_overwrite content rights _ place).trans hfile) ?_
    rw [htwins]
    intro name hname hisfile
    have hbefore : fs.isFileAt name = true :=
      (fs.isFileAt_overwrite content rights _ name).symm.trans hisfile
    exact (fs.get?_overwrite content rights _ name).trans (if_pos ⟨hname, hbefore⟩)
  · obtain ⟨rfl, htakes⟩ := fs.writeDevice_eq_ok fs' device content hwrite
    exact .device device hdevice htakes
  · have hplace : place ≠ [] := by
      rintro rfl
      cases hfree
    have hnew : (fs.set place (.file content .ofNew)).get? place = some (.file content .ofNew) := by
      rw [get?_set fs place place _ hplace, if_pos rfl]
    refine .file .ofNew ((isFileAt_iff _ place).mpr ⟨content, .ofNew, hnew⟩) ?_
    rw [htwins, hnames.namesOf_eq fs place hfree]
    intro name hname _
    rw [List.mem_singleton.mp hname, hnew]

/-- Writing another content and then the one that was held brings the file system back. -/
theorem HoldsAt.writeAt_undo (content' : ByteArray) (h : fs.HoldsAt place content)
    (hwrite : fs.writeAt place content' = .ok fs') : fs'.writeAt place content = .ok fs := by
  have htwins := (Grows.of_writeAt place content' hwrite).namesOf_eq place
  cases h with
  | file rights hfile hall =>
    have hself := fs.mem_namesOf_self place
    rw [writeAt, hall place hself hfile] at hwrite
    cases hwrite
    have hnew : (fs.setFile place content' rights).get? place = some (.file content' rights) :=
      (fs.get?_overwrite content' rights _ place).trans (if_pos ⟨hself, hfile⟩)
    rw [writeAt, hnew]
    dsimp only
    rw [setFile, htwins]
    exact congrArg Except.ok (fs.overwrite_overwrite content content' rights rights _ hall)
  | device device hdevice htakes =>
    rw [writeAt, hdevice] at hwrite
    obtain ⟨rfl, -⟩ := fs.writeDevice_eq_ok fs' device content' hwrite
    rw [writeAt, hdevice]
    exact htakes fs'

/-- A content goes on being held when nothing is written under any name of its file. -/
theorem HoldsAt.of_grows {written : Location → Prop} (h : fs.HoldsAt place content)
    (hgrows : Grows written fs fs')
    (hapart : ∀ name ∈ fs.namesOf place, fs'.isFileAt name = true → ¬ written name) :
    fs'.HoldsAt place content := by
  cases h with
  | file rights hfile hall =>
    refine .file rights (hgrows.isFileAt place hfile) ?_
    rw [hgrows.namesOf_eq]
    intro name hname hisfile
    have hunwritten := hapart name hname hisfile
    have hentry := hgrows.entry name
    have hbefore := hall name hname
    unfold isFileAt at hisfile hbefore
    generalize fs.get? name = entry at hentry hbefore
    generalize fs'.get? name = entry' at hentry hisfile ⊢
    cases hentry with
    | same => exact hbefore hisfile
    | newDirectory => cases hisfile
    | newFile hwritten => exact absurd hwritten hunwritten
    | newContent hwritten => exact absurd hwritten hunwritten
  | device device hdevice htakes =>
    have hentry := hgrows.entry place
    rw [hdevice] at hentry
    refine .device device ?_ htakes
    generalize fs'.get? place = entry at hentry ⊢
    cases hentry with
    | same => rfl

end Places

/-- The place of a file that is to be written is the place that the path leads to. -/
theorem locate_of_locateFile (fs : FileSystem) (p : Path) (place : Location)
    (h : fs.locateFile p = .ok place) : fs.locate p = .ok place := by
  unfold locateFile at h
  cases hparent : fs.locateParent p with
  | error e => simp [hparent, bind, Except.bind] at h
  | ok found =>
    match found with
    | none => simp [hparent, bind, Except.bind, throw, throwThe, MonadExceptOf.throw] at h
    | some (parent, name) =>
      simp only [hparent, bind, Except.bind, throw, throwThe, MonadExceptOf.throw] at h
      split at h
      · cases h
      · exact h

/-- Writing to a path writes at the place of the file. -/
theorem writeBytes_eq_ok_iff (fs fs' : FileSystem) (p : Path) (content : ByteArray) :
    fs.writeBytes p content = .ok fs' ↔
      ∃ place, fs.locateFile p = .ok place ∧ fs.writeAt place content = .ok fs' :=
  Results.bind_eq_ok_iff _ _ _

/-- Writing the content to the path, with the directories above it, would change nothing. -/
structure Keeps (fs : FileSystem) (p : Path) (content : String) : Prop where
  parents : FileM.makeParents p fs = (.ok (), fs)
  holds : ∃ place, fs.locateFile p = .ok place ∧ fs.HoldsAt place (Text.encode content)

/-- No plain file is written through both paths. -/
def Apart (fs : FileSystem) (p q : Path) : Prop :=
  ∀ place, fs.isFileAt place = true → fs.Writes p place → ¬ fs.Writes q place

instance (fs : FileSystem) (p q : Path) : Decidable (fs.Apart p q) :=
  match htarget : fs.locateFile p with
  | .ok target =>
    decidable_of_iff (∀ place ∈ fs.namesOf target, fs.isFileAt place = true → ¬ fs.Writes q place)
      ⟨fun h place hfile ⟨other, hother, hplace⟩ => by
        rw [htarget] at hother
        cases hother
        exact h place hplace hfile,
      fun h place hplace hfile => h place hfile ⟨target, htarget, hplace⟩⟩
  | .error e => isTrue fun place _ ⟨other, hother, _⟩ => by
      rw [htarget] at hother
      cases hother

/-- Paths that are apart in the end were apart before. -/
theorem Apart.of_grows {written : Location → Prop} {fs fs' : FileSystem} {p q : Path}
    (hapart : fs'.Apart p q) (h : Grows written fs fs') : fs.Apart p q := by
  intro place hfile hwrites hwrites'
  exact hapart place (h.isFileAt place hfile) (hwrites.of_grows h) (hwrites'.of_grows h)

/-- Being apart does not depend on the order. -/
theorem Apart.symm {fs : FileSystem} {p q : Path} (hapart : fs.Apart p q) : fs.Apart q p :=
  fun place hfile hwrites hwrites' => hapart place hfile hwrites' hwrites

end FileSystem

namespace FileM

open FileSystem

variable {fs fs' : FileSystem} {p : Path} {content : String}

/-- A successful write has made the directories and then written the file. -/
theorem writeWithParents_eq_ok (h : writeWithParents p content fs = (.ok (), fs')) :
    ∃ middle, makeParents p fs = (.ok (), middle) ∧
      middle.writeBytes p (Text.encode content) = .ok fs' := by
  obtain ⟨_, middle, hparents, hwrite⟩ := exists_of_bind_eq_ok _ _ _ _ _ h
  refine ⟨middle, hparents, ?_⟩
  unfold change at hwrite
  split at hwrite
  · rename_i made hmade
    cases hwrite
    exact hmade
  · cases hwrite

/-- Where the directories are there a write only writes the file. -/
theorem writeWithParents_of_parents (hparents : makeParents p fs = (.ok (), fs))
    (hwrite : fs.writeBytes p (Text.encode content) = .ok fs') :
    writeWithParents p content fs = (.ok (), fs') := by
  have hchange : (change fun fs => fs.writeBytes p (Text.encode content)) fs = (.ok (), fs') := by
    rw [change, hwrite]
  rw [writeWithParents, writeBytesWithParents, bind_apply, hparents]
  exact hchange

end FileM

namespace FileSystem

variable {fs fs' : FileSystem} {p : Path} {content : String}

/-- What was written is kept. -/
theorem keeps_of_writeWithParents (hnames : fs.NamesStand)
    (h : FileM.writeWithParents p content fs = (.ok (), fs')) : fs'.Keeps p content := by
  obtain ⟨middle, hparents, hwrite⟩ := FileM.writeWithParents_eq_ok h
  have hmade : Evolves [] fs middle := by
    have hmoves := FileM.moves_makeParents [] p fs
    rwa [hparents] at hmoves
  obtain ⟨place, hplace, hat⟩ := (middle.writeBytes_eq_ok_iff fs' p _).mp hwrite
  have hwritten := Grows.of_writeAt place _ hat
  exact ⟨FileM.makeParents_again p fs middle fs' hparents hwritten, place,
    hwritten.locateFile_eq_ok p place hplace, holdsAt_of_writeAt (hnames.of_grows hmade) hat⟩

/-- Writing what is kept changes nothing. -/
theorem Keeps.writeWithParents_eq (h : fs.Keeps p content) :
    FileM.writeWithParents p content fs = (.ok (), fs) := by
  obtain ⟨place, hplace, hholds⟩ := h.holds
  exact FileM.writeWithParents_of_parents h.parents
    ((fs.writeBytes_eq_ok_iff fs p _).mpr ⟨place, hplace, hholds.writeAt_eq⟩)

/-- After another content was written, writing what was kept brings the file system back. -/
theorem Keeps.writeWithParents_undo (content' : String) (h : fs.Keeps p content)
    (hwrite : FileM.writeWithParents p content' fs = (.ok (), fs')) :
    FileM.writeWithParents p content fs' = (.ok (), fs) := by
  obtain ⟨place, hplace, hholds⟩ := h.holds
  obtain ⟨middle, hparents, hbytes⟩ := FileM.writeWithParents_eq_ok hwrite
  rw [h.parents] at hparents
  cases hparents
  obtain ⟨place', hplace', hat⟩ := (fs.writeBytes_eq_ok_iff fs' p _).mp hbytes
  rw [hplace] at hplace'
  cases hplace'
  have hwritten := Grows.of_writeAt place _ hat
  apply FileM.writeWithParents_of_parents
  · exact FileM.makeParents_again p fs fs fs' h.parents hwritten
  · exact (fs'.writeBytes_eq_ok_iff fs p _).mpr
      ⟨place, hwritten.locateFile_eq_ok p place hplace, hholds.writeAt_undo _ hat⟩

/-- What is kept goes on being kept when another path that is apart is written. -/
theorem Keeps.of_evolves (q : Path) (h : fs.Keeps p content) (hevolves : Evolves [q] fs fs')
    (hapart : fs'.Apart p q) : fs'.Keeps p content := by
  obtain ⟨place, hplace, hholds⟩ := h.holds
  have hplace' := Grows.locateFile_eq_ok hevolves p place hplace
  refine ⟨FileM.makeParents_again p fs fs fs' h.parents hevolves, place, hplace', ?_⟩
  refine hholds.of_grows hevolves fun name hname hfile => ?_
  rintro ⟨output, houtput, hwrites⟩
  obtain rfl := List.mem_singleton.mp houtput
  rw [← Grows.namesOf_eq hevolves] at hname
  exact hapart name hfile ⟨place, hplace', hname⟩ hwrites

/-- A text is read from a path that leads to a plain file with the text. -/
theorem readText_of_file (fs : FileSystem) (p : Path) (place : Location) (content : String)
    (rights : Rights) (hplace : fs.locate p = .ok place)
    (hfile : fs.get? place = some (.file (Text.encode content) rights)) :
    fs.readText p = .ok content := by
  have hbytes : fs.readBytes p = .ok (Text.encode content) := by
    rw [readBytes_eq, hplace]
    dsimp only
    rw [hfile]
  simp only [readText, hbytes, bind, Except.bind, Text.decode?_encode]
  rfl

/-- What is kept by a path is read from it, unless the path leads to a device that takes it. -/
theorem Keeps.readText_eq_or (h : fs.Keeps p content) :
    fs.readText p = .ok content ∨
      ∃ place device, fs.locate p = .ok place ∧ fs.get? place = some (.device device) ∧
        ∀ other : FileSystem, other.writeDevice device (Text.encode content) = .ok other := by
  obtain ⟨place, hplace, hholds⟩ := h.holds
  have hlocate := fs.locate_of_locateFile p place hplace
  cases hholds with
  | file rights hfile hall =>
    exact .inl (fs.readText_of_file p place content rights hlocate
      (hall place (fs.mem_namesOf_self place) hfile))
  | device device hdevice htakes => exact .inr ⟨place, device, hlocate, hdevice, htakes⟩

/-- Where the same bytes are read the same text is read. -/
theorem readText_congr (h : fs'.readBytes p = fs.readBytes p) : fs'.readText p = fs.readText p := by
  rw [readText, readText, h]

/-- Where a device stands now it stood before. -/
theorem Grows.get?_of_device {written : Location → Prop} (h : Grows written fs fs') (place : Location)
    (device : Device) (hdevice : fs'.get? place = some (.device device)) :
    fs.get? place = some (.device device) := by
  have hentry := h.entry place
  rw [hdevice] at hentry
  generalize fs.get? place = entry at hentry ⊢
  cases hentry with
  | same => rfl

end FileSystem

end UnityBuild
