import UnityBuild.Proofs.FileSystem.Evolution
import UnityBuild.Proofs.Run.Steps
import UnityBuild.Settings.File

/-!
# What a run does to the files of a project

A run writes the skip list, the merged source and the database that describes it, and nothing else.
So every file keeps its contents unless one of these three paths leads to it, by whatever name.
Nothing keeps the three paths away from the inputs: with the project's root as the output directory
a run replaces the database that it has read, see `run_in_root_replaces_database`.

Main statement: `run_keeps_inputs`.
-/

namespace UnityBuild

/-- The files of a run have changed as by writing to the given paths. -/
def RunState.Evolves (outputs : List Path) (state state' : RunState) : Prop :=
  state.files.Evolves outputs state'.files

instance (outputs : List Path) : IsPreorder RunState (RunState.Evolves outputs) where
  refl state := refl_of (FileSystem.Evolves outputs) state.files
  trans _ _ _ h h' := trans_of (FileSystem.Evolves outputs) h h'

section Steps

variable (outputs : List Path)

/-- Writing an artifact moves the files along. -/
theorem moves_writeArtifact (file : Path) (content : String) (houtput : file ∈ outputs) :
    Moves (FileSystem.Evolves outputs) (writeArtifact file content) :=
  fun fs => FileM.moves_writeWithParents outputs file content houtput fs

/-- Writing a merged source moves the files along. -/
theorem Unity.Source.moves_write (source : Unity.Source)
    (hsource : source.artifacts.source ∈ outputs) (hdatabase : source.artifacts.database ∈ outputs) :
    Moves (FileSystem.Evolves outputs) source.write := by
  refine Moves.bind _ _ (moves_writeArtifact outputs _ _ hsource) fun _ => ?_
  split
  · exact moves_writeArtifact outputs _ _ hdatabase
  · exact Moves.of_snd_eq _ fun _ => rfl

namespace RunM

/-- Looking at the files moves nothing. -/
theorem moves_look {ε α : Type} (f : FileSystem → Except ε α) :
    Moves (RunState.Evolves outputs) (look f) :=
  Moves.of_snd_eq _ fun _ => rfl

/-- A step that looks at nothing moves nothing. -/
theorem moves_lift {ε α : Type} (result : Except ε α) :
    Moves (RunState.Evolves outputs) (lift result) :=
  Moves.of_snd_eq _ fun _ => rfl

/-- A step that changes the files moves them as its action does. -/
theorem moves_touch {ε δ : Type} (wrap : δ → ε) (action : ExceptT δ (StateM FileSystem) Unit)
    (h : Moves (FileSystem.Evolves outputs) action) :
    Moves (RunState.Evolves outputs) (touch wrap action) :=
  fun state => h state.files

/-- Changing the error of a step moves what the step moves. -/
theorem moves_wrapError {δ ε α : Type} (wrap : δ → ε) (action : RunM δ α)
    (h : Moves (RunState.Evolves outputs) action) :
    Moves (RunState.Evolves outputs) (wrapError wrap action) :=
  fun state => h state

/-- A compiler that changes no file moves none. -/
theorem moves_compile (answer : Invocation → FileSystem → Except CompilerError CompilerOutput)
    (invocation : Invocation) :
    Moves (RunState.Evolves outputs) (compile (.ofFunction answer) invocation) :=
  fun state => refl_of (FileSystem.Evolves outputs) state.files

end RunM

/-- Asking a compiler that changes no file moves none. -/
theorem Unity.Source.moves_resolve (source : Unity.Source) (root : Path)
    (answer : Invocation → FileSystem → Except CompilerError CompilerOutput) :
    Moves (RunState.Evolves outputs) (source.resolve root (.ofFunction answer)) :=
  Moves.bind _ _ (RunM.moves_wrapError outputs _ _ (RunM.moves_compile outputs answer _)) fun _ =>
    Moves.bind _ _ (RunM.moves_lift outputs _) fun _ => Moves.pure _

end Steps

namespace Settings

/-- The paths that a run writes to. -/
def outputs (s : Settings) : List Path :=
  s.skipList :: match Artifacts.ofName s.outputDir s.name with
    | .ok artifacts => [artifacts.source, artifacts.database]
    | .error _ => []

/-- The paths that a run reads the project from: the database and the sources of its records. -/
def inputs (s : Settings) (fs : FileSystem) : List Path :=
  s.database :: match Database.load fs s.database with
    | .ok records => records.map CompileRecord.sourcePath
    | .error _ => []

/-- The files after a run with a compiler that answers by a function and changes none. -/
def filesAfter (s : Settings) (answer : Invocation → FileSystem → Except CompilerError CompilerOutput)
    (fs : FileSystem) : FileSystem :=
  (s.run (.ofFunction answer) ⟨fs, []⟩).2.files

/-- Reading the inputs moves the files as writing the skip list does. -/
theorem moves_prepare (s : Settings) : Moves (RunState.Evolves s.outputs) s.prepare := by
  refine Moves.bind _ _ (RunM.moves_look _ _) fun records => ?_
  refine Moves.bind _ _ (RunM.moves_lift _ _) fun units => ?_
  refine Moves.bind _ _ (RunM.moves_look _ _) fun skip => ?_
  have hsave : Moves (FileSystem.Evolves s.outputs) (skip.save s.skipList) :=
    FileM.moves_writeWithParents s.outputs s.skipList _ List.mem_cons_self
  refine Moves.bind _ _ (RunM.moves_touch _ _ _ hsave) fun _ => ?_
  exact Moves.bind _ _ (RunM.moves_lift _ _) fun _ => Moves.pure _

/-- The inputs of a run that goes on have the artifacts of the settings. -/
theorem ofName_of_prepare (s : Settings) (state state' : RunState) (known : Inputs)
    (h : s.prepare state = (.ok known, state')) :
    Artifacts.ofName s.outputDir s.name = .ok known.plan.artifacts := by
  obtain ⟨-, -, -, ⟨artifacts, hname, hplan⟩, -⟩ := (s.prepare_eq_ok_iff state state' known).mp h
  rw [hname, hplan]
  rfl

/-- Writing the merged source of a stage moves the files as the settings say. -/
theorem moves_writeStage (s : Settings) (known : Inputs)
    (hname : Artifacts.ofName s.outputDir s.name = .ok known.plan.artifacts) (stage : Stage)
    (table : RenamingTable) :
    Moves (RunState.Evolves s.outputs) (writeStage known stage table) := by
  refine Moves.bind _ _ (RunM.moves_touch _ _ _ ?_) fun _ => Moves.pure _
  apply Unity.Source.moves_write
  · simp [outputs, hname, Unity.Plan.build]
  · simp [outputs, hname, Unity.Plan.build]

/-- A whole run moves the files as writing its outputs does. -/
theorem moves_run (s : Settings)
    (answer : Invocation → FileSystem → Except CompilerError CompilerOutput) :
    Moves (RunState.Evolves s.outputs) (s.run (.ofFunction answer)) := by
  refine Moves.bind_of_ok _ _ s.moves_prepare fun known state state' hprepare => ?_
  have hname := s.ofName_of_prepare state state' known hprepare
  refine Moves.bind _ _ (s.moves_writeStage known hname _ _) (fun first => ?_) state'
  refine Moves.bind _ _ (RunM.moves_wrapError _ _ _ (first.moves_resolve _ s.root answer)) fun _ => ?_
  refine Moves.bind _ _ (s.moves_writeStage known hname _ _) fun source => ?_
  refine Moves.bind _ _ ?_ fun _ => Moves.pure _
  unfold checkFinal
  split
  · refine RunM.moves_wrapError _ _ _ ?_
    exact Moves.bind _ _ (source.moves_resolve _ s.root answer) fun _ => Moves.pure _
  · exact Moves.pure _

/-- A path whose directories are there and to which no output leads gives the same contents after
a run as before, whatever came of the run. -/
theorem readBytes_filesAfter_eq_ok_iff (s : Settings)
    (answer : Invocation → FileSystem → Except CompilerError CompilerOutput) (fs : FileSystem)
    (p : Path) (hthere : fs.locate p ≠ .error .noEntry)
    (hapart : ∀ output ∈ s.outputs, ¬ (s.filesAfter answer fs).Overwrites output p)
    (content : ByteArray) :
    (s.filesAfter answer fs).readBytes p = .ok content ↔ fs.readBytes p = .ok content := by
  have hgrows := s.moves_run answer ⟨fs, []⟩
  refine hgrows.readBytes_eq_ok_iff p hthere (fun place hplace => ?_) content
  rintro ⟨output, houtput, hwrites⟩
  exact hapart output houtput ⟨place, hplace, hwrites⟩

/-- A run with a compiler that changes no file leaves the database and the sources of its records
as they were, whether it succeeds or fails, except those that one of its outputs overwrites: what
could be read is read again, and what could not be read still cannot, unless a directory on the way
to it was missing. -/
theorem run_keeps_inputs (s : Settings)
    (answer : Invocation → FileSystem → Except CompilerError CompilerOutput) (fs : FileSystem) :
    ∀ p ∈ s.inputs fs, (∀ output ∈ s.outputs, ¬ (s.filesAfter answer fs).Overwrites output p) →
      (∀ content, fs.readBytes p = .ok content →
        (s.filesAfter answer fs).readBytes p = .ok content) ∧
      (fs.locate p ≠ .error .noEntry → ∀ content,
        (s.filesAfter answer fs).readBytes p = .ok content → fs.readBytes p = .ok content) := by
  intro p _ hapart
  have hsame := s.readBytes_filesAfter_eq_ok_iff answer fs p
  constructor
  · intro content hcontent
    have hthere : fs.locate p ≠ .error .noEntry := by
      intro hmissing
      rw [FileSystem.readBytes_eq, hmissing] at hcontent
      cases hcontent
    exact (hsame hthere hapart content).mpr hcontent
  · intro hthere content hcontent
    exact (hsame hthere hapart content).mp hcontent

/-- A project with nothing in it but a database without records. -/
def bareProject : FileSystem :=
  { entries := [(["p"], .directory),
      (["p", "compile_commands.json"], .file (Text.encode "[]") .ofNew)]
    workingDirectory := [] }

/-- The answer of a compiler that has nothing to say. -/
def silentAnswer : Invocation → FileSystem → Except CompilerError CompilerOutput :=
  fun _ _ => .ok ⟨some 0, true, ""⟩

/-- A run that writes to the default directory leaves the database of the project as it was. -/
theorem run_beside_keeps_database :
    ⟨"/p/compile_commands.json"⟩ ∈ (ofName ⟨"/p"⟩ "app").inputs bareProject ∧
      (∀ output ∈ (ofName ⟨"/p"⟩ "app").outputs,
        ¬ ((ofName ⟨"/p"⟩ "app").filesAfter silentAnswer bareProject).Overwrites output
          ⟨"/p/compile_commands.json"⟩) ∧
      ((ofName ⟨"/p"⟩ "app").filesAfter silentAnswer bareProject).readBytes
        ⟨"/p/compile_commands.json"⟩ = .ok (Text.encode "[]") := by
  have hinput : ⟨"/p/compile_commands.json"⟩ ∈ (ofName ⟨"/p"⟩ "app").inputs bareProject := by
    decide +kernel
  have hapart : ∀ output ∈ (ofName ⟨"/p"⟩ "app").outputs,
      ¬ ((ofName ⟨"/p"⟩ "app").filesAfter silentAnswer bareProject).Overwrites output
        ⟨"/p/compile_commands.json"⟩ := by
    decide +kernel
  have hread : bareProject.readBytes ⟨"/p/compile_commands.json"⟩ = .ok (Text.encode "[]") := by
    rfl
  have hkeeps := run_keeps_inputs (ofName ⟨"/p"⟩ "app") silentAnswer bareProject _ hinput hapart
  exact ⟨hinput, hapart, hkeeps.1 _ hread⟩

/-- The settings of a run that writes to the root of the project. -/
def rootSettings : Settings :=
  ofLayer ⟨"/p"⟩ "app" { outputDir := some ⟨"."⟩ }

/-- A run that writes to the root of the project replaces the database that it has read. -/
theorem run_in_root_replaces_database :
    resolve bareProject ⟨"/p"⟩ { name := some "app", outputDir := some ⟨"."⟩ } none =
        .ok rootSettings ∧
      (bareProject.readBytes rootSettings.database).toOption = some (Text.encode "[]") ∧
      ((rootSettings.filesAfter silentAnswer bareProject).readBytes
        rootSettings.database).toOption ≠ some (Text.encode "[]") := by
  refine ⟨rfl, ?_, ?_⟩
  · decide +kernel
  · decide +kernel

end Settings

end UnityBuild
