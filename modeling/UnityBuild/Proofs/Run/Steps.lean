import UnityBuild.Artifact.File
import UnityBuild.Proofs.Effects
import UnityBuild.Run.Basic

/-!
# When the steps of a run succeed

A step of a run succeeds exactly when what it does to the files succeeds. From this it can be read
off what a successful run has read and written, and also which files let it go through.

Main statements: `prepare_eq_ok_iff`, `writeStage_eq_ok_iff` and `files_of_checkFinal`.
-/

namespace UnityBuild

/-- Changing the error of a result does not make it fail or succeed. -/
theorem mapError_eq_ok_iff {δ ε α : Type} (wrap : δ → ε) (result : Except δ α) (a : α) :
    result.mapError wrap = .ok a ↔ result = .ok a := by
  cases result with
  | error e => exact iff_of_false (fun h => nomatch h) (fun h => nomatch h)
  | ok b =>
    have hmapped : (Except.ok b : Except δ α).mapError wrap = .ok b := rfl
    rw [hmapped, Except.ok.injEq, Except.ok.injEq]

namespace RunM

variable {δ ε α : Type} (state state' : RunState)

/-- Looking at the files succeeds as what is looked for does, and changes nothing. -/
theorem look_eq_ok_iff (f : FileSystem → Except ε α) (a : α) :
    look f state = (.ok a, state') ↔ f state.files = .ok a ∧ state' = state := by
  rw [look, Prod.mk.injEq, @eq_comm _ state]

/-- A step that looks at nothing succeeds as its result does, and changes nothing. -/
theorem lift_eq_ok_iff (result : Except ε α) (a : α) :
    lift result state = (.ok a, state') ↔ result = .ok a ∧ state' = state := by
  rw [lift, Prod.mk.injEq, @eq_comm _ state]

/-- Answering changes nothing. -/
theorem pure_eq_ok_iff (a b : α) :
    (pure a : RunM ε α) state = (.ok b, state') ↔ b = a ∧ state' = state := by
  have hpure : (pure a : RunM ε α) state = (.ok a, state) := rfl
  rw [hpure, Prod.mk.injEq, Except.ok.injEq, @eq_comm _ state, @eq_comm _ a]

/-- A step that changes the files ends as its action does, and changes nothing else. -/
theorem touch_apply (wrap : δ → ε) (action : ExceptT δ (StateM FileSystem) Unit) :
    touch wrap action state =
      ((action state.files).1.mapError wrap, ⟨(action state.files).2, state.calls⟩) :=
  rfl

/-- Changing the error of a step changes nothing else. -/
theorem wrapError_apply (wrap : δ → ε) (action : RunM δ α) :
    wrapError wrap action state = ((action state).1.mapError wrap, (action state).2) :=
  rfl

/-- A step that changes the files succeeds as its action does, and changes nothing else. -/
theorem touch_eq_ok_iff (wrap : δ → ε) (action : ExceptT δ (StateM FileSystem) Unit) :
    touch wrap action state = (.ok (), state') ↔
      action state.files = (.ok (), state'.files) ∧ state'.calls = state.calls := by
  obtain ⟨files, calls⟩ := state'
  rw [touch_apply, Prod.mk.injEq, mapError_eq_ok_iff, RunState.mk.injEq, @eq_comm _ state.calls,
    ← and_assoc, Prod.ext_iff]

/-- A step that only gives a result, and what stands behind it, ends with the error of the result or
goes on from it. -/
theorem cases_of_result_bind {β : Type} (wrap : δ → ε) (given : Except δ α) (action : RunM ε α)
    (next : α → RunM ε β) (result : Except ε β)
    (haction : action state = (given.mapError wrap, state))
    (h : (action >>= next) state = (result, state')) :
    (∃ error, given = .error error ∧ result = .error (wrap error) ∧ state' = state) ∨
      ∃ a, given = .ok a ∧ next a state = (result, state') := by
  rw [bind_apply, haction] at h
  cases given with
  | error error =>
    obtain ⟨hresult, hstate⟩ := Prod.mk.inj h
    exact .inl ⟨error, rfl, hresult.symm, hstate.symm⟩
  | ok a => exact .inr ⟨a, rfl, h⟩

/-- A step that changes the files, and what stands behind it, ends where the change fails or goes on
from the changed files. -/
theorem cases_of_touch_bind {β : Type} (wrap : δ → ε)
    (action : ExceptT δ (StateM FileSystem) Unit) (next : Unit → RunM ε β) (result : Except ε β)
    (h : (touch wrap action >>= next) state = (result, state')) :
    (∃ error files, action state.files = (.error error, files) ∧ result = .error (wrap error) ∧
        state' = ⟨files, state.calls⟩) ∨
      ∃ files, action state.files = (.ok (), files) ∧
        next () ⟨files, state.calls⟩ = (result, state') := by
  rw [bind_apply, touch_apply] at h
  cases haction : action state.files with
  | mk changed files =>
    rw [haction] at h
    cases changed with
    | error error =>
      obtain ⟨hresult, hstate⟩ := Prod.mk.inj h
      exact .inl ⟨error, files, rfl, hresult.symm, hstate.symm⟩
    | ok _ => exact .inr ⟨files, rfl, h⟩

end RunM

/-- Writing an artifact succeeds as writing the file does. -/
theorem writeArtifact_eq_ok_iff (file : Path) (content : String) (fs fs' : FileSystem) :
    writeArtifact file content fs = (.ok (), fs') ↔
      FileM.writeWithParents file content fs = (.ok (), fs') := by
  have hwrite : writeArtifact file content fs =
      ((FileM.writeWithParents file content fs).1.mapError (WriteError.unwritable file),
        (FileM.writeWithParents file content fs).2) := rfl
  rw [hwrite, Prod.mk.injEq, mapError_eq_ok_iff, Prod.ext_iff]

/-- Writing a merged source writes the source and then the database, which must have a text. -/
theorem Unity.Source.write_eq_ok_iff (source : Unity.Source) (fs fs' : FileSystem) :
    source.write fs = (.ok (), fs') ↔
      ∃ text middle, source.databaseText? = some text ∧
        FileM.writeWithParents source.artifacts.source source.text fs = (.ok (), middle) ∧
        FileM.writeWithParents source.artifacts.database text middle = (.ok (), fs') := by
  rw [Unity.Source.write, bind_eq_ok_iff]
  cases htext : source.databaseText? with
  | none =>
    constructor
    · rintro ⟨_, middle, -, hthrown⟩
      cases hthrown
    · rintro ⟨text, middle, hnone, -⟩
      cases hnone
  | some text =>
    constructor
    · rintro ⟨_, middle, hsource, hdatabase⟩
      exact ⟨text, middle, rfl, (writeArtifact_eq_ok_iff _ _ _ _).mp hsource,
        (writeArtifact_eq_ok_iff _ _ _ _).mp hdatabase⟩
    · rintro ⟨_, middle, hsome, hsource, hdatabase⟩
      cases hsome
      exact ⟨(), middle, (writeArtifact_eq_ok_iff _ _ _ _).mpr hsource,
        (writeArtifact_eq_ok_iff _ _ _ _).mpr hdatabase⟩

namespace Settings

variable (s : Settings) (state state' : RunState)

/-- The inputs are read when the database, the commands and the skip list are and the skip list can
be written back; nothing else is changed. -/
theorem prepare_eq_ok_iff (known : Inputs) :
    s.prepare state = (.ok known, state') ↔
      (∃ records, Database.load state.files s.database = .ok records ∧
        s.reader.readAll records = .ok known.units) ∧
      SkipSet.load state.files s.skipList s.root = .ok known.skip ∧
      known.skip.save s.skipList state.files = (.ok (), state'.files) ∧
      (∃ artifacts, Artifacts.ofName s.outputDir s.name = .ok artifacts ∧
        known.plan = s.plan artifacts) ∧
      state'.calls = state.calls := by
  obtain ⟨units, skip, plan⟩ := known
  simp only [prepare, bind_eq_ok_iff, RunM.look_eq_ok_iff, RunM.lift_eq_ok_iff, RunM.pure_eq_ok_iff,
    mapError_eq_ok_iff, Inputs.mk.injEq]
  constructor
  · rintro ⟨records, _, ⟨hload, rfl⟩, units', _, ⟨hunits, rfl⟩, skip', _, ⟨hskip, rfl⟩, _, saved, hsave,
      artifacts, _, ⟨hname, rfl⟩, ⟨rfl, rfl, hplan⟩, rfl⟩
    obtain ⟨hsave, hcalls⟩ := (RunM.touch_eq_ok_iff _ _ _ _).mp hsave
    exact ⟨⟨records, hload, hunits⟩, hskip, hsave, ⟨artifacts, hname, hplan⟩, hcalls⟩
  · rintro ⟨⟨records, hload, hunits⟩, hskip, hsave, ⟨artifacts, hname, hplan⟩, hcalls⟩
    exact ⟨records, _, ⟨hload, rfl⟩, units, _, ⟨hunits, rfl⟩, skip, _, ⟨hskip, rfl⟩, (), state',
      (RunM.touch_eq_ok_iff _ _ _ _).mpr ⟨hsave, hcalls⟩, artifacts, _, ⟨hname, rfl⟩,
      ⟨rfl, rfl, hplan⟩, rfl⟩

/-- A stage is written when its source and its database are; nothing else is changed. -/
theorem writeStage_eq_ok_iff (known : Inputs) (stage : Stage) (table : RenamingTable)
    (source : Unity.Source) :
    writeStage known stage table state = (.ok source, state') ↔
      source = known.plan.build known.units (.hoist known.units) known.skip table ∧
        source.write state.files = (.ok (), state'.files) ∧ state'.calls = state.calls := by
  simp only [writeStage, bind_eq_ok_iff, RunM.pure_eq_ok_iff]
  constructor
  · rintro ⟨_, _, htouch, rfl, rfl⟩
    exact ⟨rfl, (RunM.touch_eq_ok_iff _ _ _ _).mp htouch⟩
  · rintro ⟨rfl, hwrite⟩
    exact ⟨(), state', (RunM.touch_eq_ok_iff _ _ _ _).mpr hwrite, rfl, rfl⟩

end Settings

/-- Two states with the same files. -/
def RunState.SameFiles (state state' : RunState) : Prop :=
  state'.files = state.files

instance : IsPreorder RunState RunState.SameFiles where
  refl _ := rfl
  trans _ _ _ h h' := Eq.trans h' h

section Compiler

variable (answer : Invocation → FileSystem → Except CompilerError CompilerOutput)

/-- Asking a compiler that changes no file leaves the files as they are. -/
theorem Unity.Source.files_of_resolve (source : Unity.Source) (root : Path) :
    Moves RunState.SameFiles (source.resolve root (.ofFunction answer)) := by
  refine Moves.bind _ _ (fun _ => rfl) fun _ => ?_
  exact Moves.bind _ _ (fun _ => rfl) fun _ => Moves.pure _

/-- Checking the final source with such a compiler leaves the files as they are. -/
theorem Settings.files_of_checkFinal (s : Settings) (source : Unity.Source) :
    Moves RunState.SameFiles (s.checkFinal source (.ofFunction answer)) := by
  unfold checkFinal
  split
  · exact Moves.bind _ _ (source.files_of_resolve answer s.root) fun _ => Moves.pure _
  · exact Moves.pure _

end Compiler

end UnityBuild
