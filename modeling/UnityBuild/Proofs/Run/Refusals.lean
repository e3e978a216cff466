import UnityBuild.Proofs.FileSystem.Holding
import UnityBuild.Proofs.FileSystem.MadeDirectories
import UnityBuild.Proofs.Run.Frame
import UnityBuild.Proofs.Run.Outcomes

/-!
# Runs that are refused

A run reads the database, the commands and the skip list before it writes anything, so when one of
them cannot be read nothing has changed. The skip list is then written back in its known spelling,
and the name of the artifacts is looked at only after this: a run with a name that no file can be
called after has already written the skip list, see `refused_name_saves_skipList`.

Main statement: `refused_run_leaves`.
-/

namespace UnityBuild

/-- Whether an error says that the database, a record in it or the skip list could not be read. -/
def RunError.isUnread : RunError → Bool
  | database _ _ => true
  | commands _ => true
  | skipListRead _ _ => true
  | _ => false

namespace Settings

/-- The ways in which a run from a state can stop before it merges anything: the error and the state
that it leaves. -/
inductive Refusal (s : Settings) (start : RunState) : RunError → RunState → Prop where
  /-- The database could not be loaded. -/
  | database (error : Database.LoadError)
      (hload : Database.load start.files s.database = .error error) :
      Refusal s start (.database s.database error) start
  /-- A record is no unit. -/
  | commands (records : List CompileRecord) (error : Command.ReadError)
      (hload : Database.load start.files s.database = .ok records)
      (hread : s.reader.readAll records = .error error) : Refusal s start (.commands error) start
  /-- The skip list could not be read. -/
  | skipListRead (error : SystemError)
      (hskip : SkipSet.load start.files s.skipList s.root = .error error) :
      Refusal s start (.skipListRead s.skipList error) start
  /-- The skip list could not be written back. -/
  | skipListWrite (skip : SkipSet) (error : SystemError) (files : FileSystem)
      (hskip : SkipSet.load start.files s.skipList s.root = .ok skip)
      (hsave : skip.save s.skipList start.files = (.error error, files)) :
      Refusal s start (.skipListWrite s.skipList error) ⟨files, start.calls⟩
  /-- The name is not one for files, and the skip list has been written back. -/
  | artifactName (skip : SkipSet) (error : InvalidArtifactName) (files : FileSystem)
      (hskip : SkipSet.load start.files s.skipList s.root = .ok skip)
      (hsave : skip.save s.skipList start.files = (.ok (), files))
      (hname : Artifacts.ofName s.outputDir s.name = .error error) :
      Refusal s start (.artifactName error) ⟨files, start.calls⟩

/-- Inputs that are not read are refused in one of these ways. -/
theorem refusal_of_prepare (s : Settings) (start state : RunState) (e : RunError)
    (h : s.prepare start = (.error e, state)) : s.Refusal start e state := by
  rcases RunM.cases_of_result_bind _ _ _ _ _ _ _ rfl h with
    ⟨error, hload, he, rfl⟩ | ⟨records, hload, hreading⟩
  · cases he
    exact .database error hload
  rcases RunM.cases_of_result_bind _ _ _ _ _ _ _ rfl hreading with
    ⟨error, hread, he, rfl⟩ | ⟨units, -, hlisting⟩
  · cases he
    exact .commands records error hload hread
  rcases RunM.cases_of_result_bind _ _ _ _ _ _ _ rfl hlisting with
    ⟨error, hskip, he, rfl⟩ | ⟨skip, hskip, hsaving⟩
  · cases he
    exact .skipListRead error hskip
  rcases RunM.cases_of_touch_bind _ _ _ _ _ _ hsaving with
    ⟨error, files, hsave, he, rfl⟩ | ⟨files, hsave, hnaming⟩
  · cases he
    exact .skipListWrite skip error files hskip hsave
  rcases RunM.cases_of_result_bind _ _ _ _ _ _ _ rfl hnaming with
    ⟨error, hname, he, rfl⟩ | ⟨artifacts, -, hpure⟩
  · cases he
    exact .artifactName skip error files hskip hsave hname
  · cases hpure

/-- Whatever stops the reading of the inputs, the compiler was not called. -/
theorem Refusal.calls_eq {s : Settings} {start state : RunState} {e : RunError}
    (h : s.Refusal start e state) : state.calls = start.calls := by
  cases h with
  | _ => rfl

/-- Inputs that could not be read leave the state as it was. -/
theorem Refusal.eq_start {s : Settings} {start state : RunState} {e : RunError}
    (h : s.Refusal start e state) (hunread : e.isUnread = true) : state = start := by
  cases h with
  | database | commands | skipListRead => rfl
  | skipListWrite | artifactName => cases hunread

/-- A run that fails with an error of the inputs has failed while it read them. -/
theorem refusal_of_run (s : Settings) (compiler : Compiler) (start state : RunState) (e : RunError)
    (hrun : s.run compiler start = (.error e, state))
    (hinput : e.isUnread = true ∨ ∃ error, e = .artifactName error) : s.Refusal start e state := by
  cases s.outcome_of_run compiler start state _ hrun with
  | unprepared e state hprepare => exact s.refusal_of_prepare start state e hprepare
  | unwritten | unresolved | unfinished | unverified =>
    rcases hinput with hunread | ⟨error, hname⟩
    · cases hunread
    · cases hname

/-- A run that fails because the database, the commands or the skip list cannot be read leaves the
files as they were and calls no compiler. A run that fails because of the name of the artifacts calls
no compiler either, but has written the skip list back in its known spelling and made the directories
above it. So it leaves the files as they were exactly when the skip list was kept in this spelling. -/
theorem refused_run_leaves (s : Settings) (compiler : Compiler) (start state : RunState)
    (e : RunError) (hrun : s.run compiler start = (.error e, state)) :
    (e.isUnread = true → state = start) ∧
      ∀ error, e = .artifactName error → state.calls = start.calls ∧
        ∃ skip, SkipSet.load start.files s.skipList s.root = .ok skip ∧
          state.files.ReadsAs s.skipList skip.fileContents ∧
          (∀ place, ¬ state.files.Writes s.skipList place →
            state.files.get? place = start.files.get? place ∨
              start.files.get? place = none ∧ state.files.get? place = some .directory ∧
                ∃ above, s.skipList.Above above ∧ state.files.locate above = .ok place) ∧
          (start.files.NamesStand →
            (state.files = start.files ↔ start.files.Keeps s.skipList skip.fileContents)) := by
  constructor
  · intro hunread
    exact (s.refusal_of_run compiler start state e hrun (.inl hunread)).eq_start hunread
  · rintro error rfl
    cases s.refusal_of_run compiler start state _ hrun (.inr ⟨error, rfl⟩) with
    | artifactName skip error files hskip hsave hname =>
      refine ⟨rfl, skip, hskip, (FileSystem.holds_of_writeWithParents hsave).readsAs,
        fun place => start.files.get?_of_writeWithParents files _ _ hsave place, fun hnames => ?_⟩
      constructor
      · rintro rfl
        exact FileSystem.keeps_of_writeWithParents hnames hsave
      · intro hkeeps
        -- Saving a list that is kept changes nothing, and saving it led to the files of the end.
        have hsame := hkeeps.writeWithParents_eq
        rw [SkipSet.save, hsame] at hsave
        exact (Prod.mk.inj hsave).2.symm

/-- A project with a database that is not complete. -/
def brokenProject : FileSystem :=
  { entries := [(["p"], .directory),
      (["p", "compile_commands.json"], .file (Text.encode "[") .ofNew)]
    workingDirectory := [] }

/-- A run in such a project is refused and leaves it as it was. -/
theorem refused_run_leaves_brokenProject :
    ∃ e, (ofName ⟨"/p"⟩ "app").run (.ofFunction silentAnswer) ⟨brokenProject, []⟩ =
        (.error e, ⟨brokenProject, []⟩) ∧ e.isUnread = true := by
  generalize hrun : (ofName ⟨"/p"⟩ "app").run (.ofFunction silentAnswer) ⟨brokenProject, []⟩ = ran
  have herror : (match ran.1 with
      | .ok _ => false
      | .error e => e.isUnread) = true := by
    rw [← hrun]
    decide +kernel
  obtain ⟨result, state⟩ := ran
  cases result with
  | ok report => cases herror
  | error e =>
    obtain ⟨hunread, -⟩ := refused_run_leaves _ _ _ state e hrun
    rw [hunread herror]
    exact ⟨e, rfl, herror⟩

/-- A run with a name that no file can be called after fails with the error of the name, and yet
makes a directory and a skip list in a project that had none. -/
theorem refused_name_saves_skipList :
    (match ((ofName ⟨"/p"⟩ "a/b").run (.ofFunction silentAnswer) ⟨bareProject, []⟩).1 with
      | .error (.artifactName error) => some error
      | _ => none) = some ⟨"a/b"⟩ ∧
    (bareProject.readText ⟨"/p/amalgamated/files_with_errors.txt"⟩).toOption = none ∧
    (((ofName ⟨"/p"⟩ "a/b").filesAfter silentAnswer bareProject).readText
      ⟨"/p/amalgamated/files_with_errors.txt"⟩).toOption = some "" := by
  refine ⟨?_, ?_, ?_⟩
  all_goals decide +kernel

end Settings

end UnityBuild
