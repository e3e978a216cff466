import UnityBuild.Proofs.Run.Steps

/-!
# How a run can end

A run stops where the first of its steps fails, or goes through. For each place where it can stop the
error says which one it was, and the steps before it have succeeded. What a run has read, written and
asked is therefore known from its result. Nothing is assumed of the compiler here: it may change
files.

Main definition: `Settings.Outcome`. Main statement: `Settings.outcome_of_run`.
-/

namespace UnityBuild

/-- What the answer of a compiler says about the clashes in a project. -/
def Resolution.ofAnswer (root : Path) (answer : Except CompilerError CompilerOutput) :
    Except ResolveError Resolution := do
  let output ← answer.mapError .compiler
  let diagnostics ← (Diagnostic.parse output.diagnostics).mapError .stream
  return extract root output.success diagnostics

namespace Unity.Source

variable (source : Unity.Source) (compiler : Compiler) (state : RunState)

/-- The call that asks about a merged source. -/
def call : CompilerCall :=
  ⟨source.compileWith diagnosticFlags, state.files⟩

/-- The answer of a compiler to this call. -/
def answer : Except CompilerError CompilerOutput :=
  (compiler state.calls (source.call state).invocation state.files).1

/-- The state behind this call. -/
def asked : RunState :=
  ⟨(compiler state.calls (source.call state).invocation state.files).2,
    state.calls ++ [source.call state]⟩

/-- Asking about a merged source makes one call and reads its answer. -/
theorem resolve_eq (root : Path) :
    source.resolve root compiler state =
      (Resolution.ofAnswer root (source.answer compiler state), source.asked compiler state) := by
  have hcompile : RunM.wrapError ResolveError.compiler
      (RunM.compile compiler (source.compileWith diagnosticFlags)) state =
        ((source.answer compiler state).mapError .compiler, source.asked compiler state) := rfl
  rw [resolve, bind_apply, hcompile, Resolution.ofAnswer]
  cases source.answer compiler state with
  | error e => rfl
  | ok output =>
    have hlift (result : Except ResolveError (List Diagnostic)) :
        RunM.lift result (source.asked compiler state) = (result, source.asked compiler state) := rfl
    change (RunM.lift ((Diagnostic.parse output.diagnostics).mapError ResolveError.stream) >>=
        fun diagnostics => pure (Resolution.extract root output.success diagnostics))
          (source.asked compiler state) =
      ((Diagnostic.parse output.diagnostics).mapError ResolveError.stream >>=
        fun diagnostics => pure (Resolution.extract root output.success diagnostics),
        source.asked compiler state)
    rw [bind_apply, hlift]
    cases (Diagnostic.parse output.diagnostics).mapError ResolveError.stream with
    | error e => rfl
    | ok diagnostics => rfl

end Unity.Source

namespace Settings

variable (s : Settings) (compiler : Compiler)

/-- The source that inputs are merged to with a table of renamings. -/
def Inputs.merged (known : Inputs) (table : RenamingTable) : Unity.Source :=
  known.plan.build known.units (.hoist known.units) known.skip table

/-- The report of a run that went through. -/
def Inputs.report (known : Inputs) (s : Settings) (resolution : Resolution)
    (residual : Option Resolution) : Report where
  unitCount := known.units.length
  common := .hoist known.units
  skip := known.skip
  resolution := resolution
  residual := residual
  source := known.merged resolution.table
  linkArguments := s.linkArguments

/-- The source of a stage was written, and nothing was asked. -/
structure Inputs.Staged (known : Inputs) (table : RenamingTable) (before after : RunState) : Prop where
  written : (known.merged table).write before.files = (.ok (), after.files)
  calls : after.calls = before.calls

/-- Writing a stage writes its source and leaves the calls alone. -/
theorem cases_of_writeStage (known : Inputs) (stage : Stage) (table : RenamingTable)
    (state state' : RunState) (result : Except RunError Unity.Source)
    (h : writeStage known stage table state = (result, state')) :
    (∃ e files, (known.merged table).write state.files = (.error e, files) ∧
        result = .error (.write stage e) ∧ state' = ⟨files, state.calls⟩) ∨
      (known.Staged table state state' ∧ result = .ok (known.merged table)) := by
  rcases RunM.cases_of_touch_bind _ _ _ _ _ _ h with
    ⟨e, files, hwrite, hresult, hstate⟩ | ⟨files, hwrite, hpure⟩
  · exact .inl ⟨e, files, hwrite, hresult, hstate⟩
  · cases hpure
    exact .inr ⟨⟨hwrite, rfl⟩, rfl⟩

/-- Asking about the first stage leaves the state behind the call. -/
theorem cases_of_resolve (source : Unity.Source) (state state' : RunState)
    (result : Except RunError Resolution)
    (h : RunM.wrapError RunError.resolve (source.resolve s.root compiler) state = (result, state')) :
    result = (Resolution.ofAnswer s.root (source.answer compiler state)).mapError .resolve ∧
      state' = source.asked compiler state := by
  rw [RunM.wrapError_apply, source.resolve_eq] at h
  cases h
  exact ⟨rfl, rfl⟩

/-- Asking about the final source leaves the state behind the call, when it is wanted. -/
theorem cases_of_checkFinal (source : Unity.Source) (state state' : RunState)
    (result : Except RunError (Option Resolution))
    (h : s.checkFinal source compiler state = (result, state')) :
    (s.verify = false ∧ result = .ok none ∧ state' = state) ∨
      (s.verify = true ∧ state' = source.asked compiler state ∧
        result = ((Resolution.ofAnswer s.root (source.answer compiler state)).map some).mapError
          .verify) := by
  unfold checkFinal at h
  split at h
  · rename_i hverify
    have hmap : (some <$> source.resolve s.root compiler) state =
        ((Resolution.ofAnswer s.root (source.answer compiler state)).map some,
          source.asked compiler state) := by
      rw [map_eq_pure_bind, bind_apply, source.resolve_eq]
      cases Resolution.ofAnswer s.root (source.answer compiler state) with
      | error e => rfl
      | ok resolution => rfl
    rw [RunM.wrapError_apply, hmap] at h
    cases h
    exact .inr ⟨hverify, rfl, rfl⟩
  · rename_i hverify
    cases h
    exact .inl ⟨by simpa using hverify, rfl, rfl⟩

/-- The ways in which a run from a state can end: its result and the state that it leaves. -/
inductive Outcome (s : Settings) (compiler : Compiler) (start : RunState) :
    Except RunError Report → RunState → Prop where
  /-- The inputs could not be read. -/
  | unprepared (e : RunError) (state : RunState) (hprepare : s.prepare start = (.error e, state)) :
      Outcome s compiler start (.error e) state
  /-- The source of the first stage could not be written. -/
  | unwritten (known : Inputs) (prepared : RunState) (e : WriteError) (files : FileSystem)
      (hprepare : s.prepare start = (.ok known, prepared))
      (hwrite : (known.merged .empty).write prepared.files = (.error e, files)) :
      Outcome s compiler start (.error (.write .first e)) ⟨files, prepared.calls⟩
  /-- The clashes in the first stage did not become known. -/
  | unresolved (known : Inputs) (prepared staged : RunState) (e : ResolveError)
      (hprepare : s.prepare start = (.ok known, prepared))
      (hfirst : known.Staged .empty prepared staged)
      (hanswer : Resolution.ofAnswer s.root ((known.merged .empty).answer compiler staged) = .error e) :
      Outcome s compiler start (.error (.resolve e)) ((known.merged .empty).asked compiler staged)
  /-- The source of the second stage could not be written. -/
  | unfinished (known : Inputs) (prepared staged : RunState) (resolution : Resolution)
      (e : WriteError) (files : FileSystem) (hprepare : s.prepare start = (.ok known, prepared))
      (hfirst : known.Staged .empty prepared staged)
      (hanswer : Resolution.ofAnswer s.root ((known.merged .empty).answer compiler staged) =
        .ok resolution)
      (hwrite : (known.merged resolution.table).write
        ((known.merged .empty).asked compiler staged).files = (.error e, files)) :
      Outcome s compiler start (.error (.write .second e))
        ⟨files, ((known.merged .empty).asked compiler staged).calls⟩
  /-- The clashes in the second stage did not become known. -/
  | unverified (known : Inputs) (prepared staged written : RunState) (resolution : Resolution)
      (e : ResolveError) (hprepare : s.prepare start = (.ok known, prepared))
      (hfirst : known.Staged .empty prepared staged)
      (hanswer : Resolution.ofAnswer s.root ((known.merged .empty).answer compiler staged) =
        .ok resolution)
      (hsecond : known.Staged resolution.table ((known.merged .empty).asked compiler staged) written)
      (hverify : s.verify = true)
      (hagain : Resolution.ofAnswer s.root ((known.merged resolution.table).answer compiler written) =
        .error e) :
      Outcome s compiler start (.error (.verify e))
        ((known.merged resolution.table).asked compiler written)
  /-- The run went through, and the second stage was not asked about. -/
  | unchecked (known : Inputs) (prepared staged written : RunState) (resolution : Resolution)
      (hprepare : s.prepare start = (.ok known, prepared))
      (hfirst : known.Staged .empty prepared staged)
      (hanswer : Resolution.ofAnswer s.root ((known.merged .empty).answer compiler staged) =
        .ok resolution)
      (hsecond : known.Staged resolution.table ((known.merged .empty).asked compiler staged) written)
      (hverify : s.verify = false) :
      Outcome s compiler start (.ok (known.report s resolution none)) written
  /-- The run went through, and the second stage was asked about. -/
  | checked (known : Inputs) (prepared staged written : RunState) (resolution residual : Resolution)
      (hprepare : s.prepare start = (.ok known, prepared))
      (hfirst : known.Staged .empty prepared staged)
      (hanswer : Resolution.ofAnswer s.root ((known.merged .empty).answer compiler staged) =
        .ok resolution)
      (hsecond : known.Staged resolution.table ((known.merged .empty).asked compiler staged) written)
      (hverify : s.verify = true)
      (hagain : Resolution.ofAnswer s.root ((known.merged resolution.table).answer compiler written) =
        .ok residual) :
      Outcome s compiler start (.ok (known.report s resolution (some residual)))
        ((known.merged resolution.table).asked compiler written)

/-- Every run ends in one of these ways. -/
theorem outcome_of_run (start state : RunState) (result : Except RunError Report)
    (h : s.run compiler start = (result, state)) : s.Outcome compiler start result state := by
  -- A step that fails ends the run, so behind each step it is known how all steps before it ended.
  rcases cases_of_bind_eq _ _ _ _ _ h with ⟨e, hprepare, rfl⟩ | ⟨known, prepared, hprepare, h⟩
  · exact .unprepared e state hprepare
  rcases cases_of_bind_eq _ _ _ _ _ h with ⟨e, hwrite, rfl⟩ | ⟨first, staged, hwrite, h⟩
  · rcases cases_of_writeStage _ _ _ _ _ _ hwrite with ⟨error, files, hfailed, he, rfl⟩ | ⟨-, hok⟩
    · cases he
      exact .unwritten known prepared error files hprepare hfailed
    · cases hok
  rcases cases_of_writeStage _ _ _ _ _ _ hwrite with ⟨error, files, -, he, -⟩ | ⟨hfirst, hok⟩
  · cases he
  cases hok
  rcases cases_of_bind_eq _ _ _ _ _ h with ⟨e, hresolve, rfl⟩ | ⟨resolution, asked, hresolve, h⟩
  · obtain ⟨hresult, rfl⟩ := cases_of_resolve _ _ _ _ _ _ hresolve
    cases hanswer : Resolution.ofAnswer s.root ((known.merged .empty).answer compiler staged) with
    | error error =>
      rw [hanswer] at hresult
      cases hresult
      exact .unresolved known prepared staged error hprepare hfirst hanswer
    | ok resolution =>
      rw [hanswer] at hresult
      cases hresult
  obtain ⟨hresult, rfl⟩ := cases_of_resolve _ _ _ _ _ _ hresolve
  have hanswer := (mapError_eq_ok_iff _ _ _).mp hresult.symm
  rcases cases_of_bind_eq _ _ _ _ _ h with ⟨e, hwrite, rfl⟩ | ⟨source, written, hwrite, h⟩
  · rcases cases_of_writeStage _ _ _ _ _ _ hwrite with ⟨error, files, hfailed, he, rfl⟩ | ⟨-, hok⟩
    · cases he
      exact .unfinished known prepared staged resolution error files hprepare hfirst hanswer hfailed
    · cases hok
  rcases cases_of_writeStage _ _ _ _ _ _ hwrite with ⟨error, files, -, he, -⟩ | ⟨hsecond, hok⟩
  · cases he
  cases hok
  -- Checking the final source fails only when it is wanted, and goes through either way.
  rcases cases_of_bind_eq _ _ _ _ _ h with ⟨e, hcheck, rfl⟩ | ⟨residual, checked, hcheck, hpure⟩
  · rcases cases_of_checkFinal _ _ _ _ _ _ hcheck with ⟨-, hok, -⟩ | ⟨hverify, rfl, hresult⟩
    · cases hok
    cases hagain : Resolution.ofAnswer s.root
      ((known.merged resolution.table).answer compiler written) with
    | error error =>
      rw [hagain] at hresult
      cases hresult
      exact .unverified known prepared staged written resolution error hprepare hfirst hanswer
        hsecond hverify hagain
    | ok residual =>
      rw [hagain] at hresult
      cases hresult
  cases hpure
  rcases cases_of_checkFinal _ _ _ _ _ _ hcheck with ⟨hverify, hok, rfl⟩ | ⟨hverify, rfl, hresult⟩
  · cases hok
    exact .unchecked known prepared staged _ resolution hprepare hfirst hanswer hsecond hverify
  cases hagain : Resolution.ofAnswer s.root
    ((known.merged resolution.table).answer compiler written) with
  | error error =>
    rw [hagain] at hresult
    cases hresult
  | ok residual =>
    rw [hagain] at hresult
    cases hresult
    exact .checked known prepared staged written resolution residual hprepare hfirst hanswer hsecond
      hverify hagain

end Settings

end UnityBuild
