import UnityBuild.Proofs.FileSystem.Rewriting
import UnityBuild.Proofs.Run.Frame
import UnityBuild.Proofs.Run.Steps
import UnityBuild.Proofs.SkipSet

/-!
# Running a second time

A second run starts from the files of the first. It reads the same database, since no output leads
to it, and the same skip list, since the list that the first run wrote back is read as itself. So it
merges the same source for the first stage, and writing it over the source of the second stage
brings back the very files that the compiler saw in the first run. From there on the two runs are
the same.

This needs the outputs to be different files, not only different paths: a link can lead from one
output to another, see `linked_skipList_grows`.

Main statement: `run_again`.
-/

namespace UnityBuild

namespace FileSystem

/-- Whether a path leads to a device that can be read without end. -/
def isEndless (fs : FileSystem) (p : Path) : Bool :=
  match fs.entryAt p with
  | .ok (.device .zero) => true
  | .ok (.device .full) => true
  | _ => false

/-- What is read from a path that leads to a device. -/
theorem readBytes_of_device (fs : FileSystem) (p : Path) (place : Location) (device : Device)
    (hplace : fs.locate p = .ok place) (hdevice : fs.get? place = some (.device device)) :
    fs.readBytes p = readDevice device := by
  rw [readBytes_eq, hplace]
  dsimp only
  rw [hdevice]

/-- A device that takes a content and has an end has nothing to read. -/
theorem readText_of_device (fs : FileSystem) (p : Path) (place : Location) (device : Device)
    (content : ByteArray) (hplace : fs.locate p = .ok place)
    (hdevice : fs.get? place = some (.device device))
    (htakes : fs.writeDevice device content = .ok fs) (hendless : fs.isEndless p = false) :
    fs.readText p = .ok "" := by
  have hentry : fs.entryAt p = .ok (.device device) := by
    rw [entryAt, hplace]
    simp only [bind, Except.bind, present, hdevice]
  have hempty : readDevice device = .ok (Text.encode "") := by
    cases device with
    | null => rfl
    | zero => simp [isEndless, hentry] at hendless
    | full => simp [isEndless, hentry] at hendless
    | terminal => cases htakes
    | descriptor number => rfl
  simp only [readText, fs.readBytes_of_device p place device hplace hdevice, hempty, bind,
    Except.bind, Text.decode?_encode]
  rfl

/-- When one path is written, then a second and a third, and then the second and the third again,
and the third gets the same content both times, then the first keeps its content. Writing the second
and the third as before then brings back the files as they were between the two rounds. -/
theorem writes_again (fs fs₁ fs₂ fs₃ fs₄ fs₅ : FileSystem) (p q r : Path) (a b b' c : String)
    (hnames : fs.NamesStand) (hp : FileM.writeWithParents p a fs = (.ok (), fs₁))
    (hq : FileM.writeWithParents q b fs₁ = (.ok (), fs₂))
    (hr : FileM.writeWithParents r c fs₂ = (.ok (), fs₃))
    (hq' : FileM.writeWithParents q b' fs₃ = (.ok (), fs₄))
    (hr' : FileM.writeWithParents r c fs₄ = (.ok (), fs₅))
    (hpq : fs₅.Apart p q) (hpr : fs₅.Apart p r) (hqr : fs₅.Apart q r) :
    fs₅.Keeps p a ∧ FileM.writeWithParents q b fs₅ = (.ok (), fs₃) ∧
      FileM.writeWithParents r c fs₃ = (.ok (), fs₃) := by
  have hgrows₁ := evolves_of_writeWithParents [p] fs fs₁ p a List.mem_cons_self hp
  have hgrows₂ := evolves_of_writeWithParents [q] fs₁ fs₂ q b List.mem_cons_self hq
  have hgrows₃ := evolves_of_writeWithParents [r] fs₂ fs₃ r c List.mem_cons_self hr
  have hgrows₄ := evolves_of_writeWithParents [q] fs₃ fs₄ q b' List.mem_cons_self hq'
  have hnames₁ := hnames.of_grows hgrows₁
  have hnames₂ := hnames₁.of_grows hgrows₂
  have hkeepsr := keeps_of_writeWithParents hnames₂ hr
  -- The second round writes nothing new to the third path, so it ends where it wrote the second.
  have hsame : fs₅ = fs₄ := by
    have hgrows₅ := evolves_of_writeWithParents [r] fs₄ fs₅ r c List.mem_cons_self hr'
    have hkept := hkeepsr.of_evolves q hgrows₄ (hqr.symm.of_grows hgrows₅)
    rw [hkept.writeWithParents_eq] at hr'
    exact (Prod.mk.inj hr').2.symm
  rw [hsame] at hpq hpr hqr ⊢
  have hqr₃ := hqr.of_grows hgrows₄
  have hkeepsq := (keeps_of_writeWithParents hnames₁ hq).of_evolves r hgrows₃ hqr₃
  have hkeepsp := keeps_of_writeWithParents hnames hp
  have hkeepsp₂ := hkeepsp.of_evolves q hgrows₂ ((hpq.of_grows hgrows₄).of_grows hgrows₃)
  have hkeepsp₃ := hkeepsp₂.of_evolves r hgrows₃ (hpr.of_grows hgrows₄)
  exact ⟨hkeepsp₃.of_evolves q hgrows₄ hpq, hkeepsq.writeWithParents_undo b' hq',
    hkeepsr.writeWithParents_eq⟩

end FileSystem

/-- A skip list that was read and written back is read as itself, unless the spelling of a file in
it starts or ends in a blank. -/
theorem SkipSet.load_of_keeps {written : Location → Prop} (fs fs' : FileSystem) (file root : Path)
    (skip : SkipSet) (hload : load fs file root = .ok skip)
    (htrim : ∀ entry ∈ skip.entries, Text.trim entry.toList = entry.toList)
    (hgrows : FileSystem.Grows written fs fs') (hkeeps : fs'.Keeps file skip.fileContents)
    (hendless : fs.locate file = .error .noEntry → fs'.isEndless file = false) :
    load fs' file root = .ok skip := by
  have hread : ∃ contents, skip = parse contents root ∧
      (fs.locate file = .error .noEntry → contents = "") := by
    unfold load at hload
    split at hload
    · rename_i text htext
      refine ⟨text, (Except.ok.inj hload).symm, fun hmissing => ?_⟩
      have hbytes : fs.readBytes file = .error .noEntry := by
        rw [FileSystem.readBytes_eq, hmissing]
      simp [FileSystem.readText, hbytes, bind, Except.bind] at htext
    · exact ⟨"", (Except.ok.inj hload).symm, fun _ => rfl⟩
    · cases hload
  obtain ⟨contents, rfl, hmissing⟩ := hread
  rcases hkeeps.readText_eq_or with htext | ⟨place, device, hplace, hdevice, htakes⟩
  · rw [load, htext]
    exact congrArg Except.ok (parse_fileContents_parse contents root htrim)
  · by_cases hthere : fs.locate file = .error .noEntry
    · rw [load, fs'.readText_of_device file place device _ hplace hdevice (htakes fs')
        (hendless hthere), hmissing hthere]
    · -- A device that was there before the run gives the same again.
      have hbefore := hgrows.get?_of_device place device hdevice
      have hplace' : fs.locate file = .ok place := (hgrows.locate_eq file hthere) ▸ hplace
      have hsame : fs'.readBytes file = fs.readBytes file := by
        rw [fs.readBytes_of_device file place device hplace' hbefore,
          fs'.readBytes_of_device file place device hplace hdevice]
      rw [load, FileSystem.readText_congr hsame]
      exact hload

/-- A database to which nothing was written is read as before. -/
theorem Database.load_of_grows {written : Location → Prop} (fs fs' : FileSystem) (file : Path)
    (records : List CompileRecord) (hload : load fs file = .ok records)
    (hgrows : FileSystem.Grows written fs fs')
    (hapart : ∀ place, fs'.locate file = .ok place → ¬ written place) :
    load fs' file = .ok records := by
  cases hbytes : fs.readBytes file with
  | error e =>
    simp [load, FileSystem.readText, hbytes, Except.mapError, bind, Except.bind] at hload
  | ok content =>
    have hthere : fs.locate file ≠ .error .noEntry := by
      intro hmissing
      rw [FileSystem.readBytes_eq, hmissing] at hbytes
      cases hbytes
    have hsame : fs'.readBytes file = fs.readBytes file := by
      rw [hbytes]
      exact (hgrows.readBytes_eq_ok_iff file hthere hapart content).mpr hbytes
    rw [load, FileSystem.readText_congr hsame]
    exact hload

namespace Settings

/-- The outputs of a run that goes on. -/
theorem outputs_eq (s : Settings) (artifacts : Artifacts)
    (hname : Artifacts.ofName s.outputDir s.name = .ok artifacts) :
    s.outputs = [s.skipList, artifacts.source, artifacts.database] := by
  rw [outputs, hname]

/-- In files that keep the skip list and in which no output leads to the database, the inputs are
read as before and nothing changes. -/
theorem prepare_again (s : Settings) (fs fs' : FileSystem) (calls : List CompilerCall)
    (known : Inputs) (prepared : RunState)
    (hprepare : s.prepare ⟨fs, calls⟩ = (.ok known, prepared)) (hgrows : fs.Evolves s.outputs fs')
    (htrim : ∀ entry ∈ known.skip.entries, Text.trim entry.toList = entry.toList)
    (hkeeps : fs'.Keeps s.skipList known.skip.fileContents)
    (hdatabase : ∀ output ∈ s.outputs, ¬ fs'.Overwrites output s.database)
    (hendless : fs.locate s.skipList = .error .noEntry → fs'.isEndless s.skipList = false) :
    s.prepare ⟨fs', calls⟩ = (.ok known, ⟨fs', calls⟩) := by
  obtain ⟨⟨records, hload, hunits⟩, hskip, -, hname, -⟩ := (s.prepare_eq_ok_iff _ _ known).mp hprepare
  have hload' : Database.load fs' s.database = .ok records := by
    refine Database.load_of_grows fs fs' s.database records hload hgrows ?_
    rintro place hplace ⟨output, houtput, hwrites⟩
    exact hdatabase output houtput ⟨place, hplace, hwrites⟩
  have hskip' : SkipSet.load fs' s.skipList s.root = .ok known.skip :=
    SkipSet.load_of_keeps fs fs' s.skipList s.root known.skip hskip htrim hgrows hkeeps hendless
  exact (s.prepare_eq_ok_iff _ _ known).mpr
    ⟨⟨records, hload', hunits⟩, hskip', hkeeps.writeWithParents_eq, hname, rfl⟩

/-- When both stages were written to outputs that are different files, the skip list is kept, and
writing the first stage again brings back the files as they were behind it. -/
theorem writeStage_again (s : Settings) (fs : FileSystem) (known : Inputs)
    (prepared staged resolved written : RunState) (table : RenamingTable)
    (first source : Unity.Source) (hnames : fs.NamesStand)
    (hsave : known.skip.save s.skipList fs = (.ok (), prepared.files))
    (hfirst : writeStage known .first .empty prepared = (.ok first, staged))
    (hfiles : resolved.files = staged.files)
    (hsecond : writeStage known .second table resolved = (.ok source, written))
    (houtputs : [s.skipList, known.plan.artifacts.source, known.plan.artifacts.database].Pairwise
      written.files.Apart) :
    written.files.Keeps s.skipList known.skip.fileContents ∧
      writeStage known .first .empty ⟨written.files, prepared.calls⟩ = (.ok first, staged) := by
  obtain ⟨rfl, hstage, hcalls⟩ := (writeStage_eq_ok_iff _ _ known _ _ _).mp hfirst
  obtain ⟨rfl, hstage', -⟩ := (writeStage_eq_ok_iff _ _ known _ _ _).mp hsecond
  obtain ⟨text, middle, htext, hwrite, hwrite'⟩ := (Unity.Source.write_eq_ok_iff _ _ _).mp hstage
  obtain ⟨text', middle', htext', hagain, hagain'⟩ := (Unity.Source.write_eq_ok_iff _ _ _).mp hstage'
  -- The database of the second stage is that of the first, as it does not depend on renamings.
  obtain rfl : text = text' := Option.some.inj (htext.symm.trans htext')
  rw [hfiles] at hagain
  simp only [List.pairwise_cons, List.mem_cons, List.not_mem_nil, or_false, forall_eq_or_imp,
    forall_eq] at houtputs
  obtain ⟨⟨hskipSource, hskipDatabase⟩, hsourceDatabase, -⟩ := houtputs
  obtain ⟨hkeeps, hback, hback'⟩ := FileSystem.writes_again fs prepared.files middle staged.files
    middle' written.files s.skipList known.plan.artifacts.source known.plan.artifacts.database _ _ _ _
    hnames hsave hwrite hwrite' hagain hagain' hskipSource hskipDatabase hsourceDatabase
  exact ⟨hkeeps, (writeStage_eq_ok_iff _ _ known _ _ _).mpr
    ⟨rfl, (Unity.Source.write_eq_ok_iff _ _ _).mpr ⟨text, staged.files, htext, hback, hback'⟩, hcalls⟩⟩

/-- A run that succeeded with a compiler that changes no file, and is then run again, makes the same
calls, succeeds with the same report and leaves the files as they are. The outputs have to be
different files, none of them the database, and no spelling in the skip list may start or end in a
blank. A skip list whose directories the first run has made must not turn out to be an endless
device. -/
theorem run_again (s : Settings)
    (answer : Invocation → FileSystem → Except CompilerError CompilerOutput) (fs : FileSystem)
    (calls : List CompilerCall) (report : Report) (state : RunState)
    (hnames : fs.NamesStand)
    (hrun : s.run (.ofFunction answer) ⟨fs, calls⟩ = (.ok report, state))
    (htrim : ∀ entry ∈ report.skip.entries, Text.trim entry.toList = entry.toList)
    (houtputs : s.outputs.Pairwise state.files.Apart)
    (hdatabase : ∀ output ∈ s.outputs, ¬ state.files.Overwrites output s.database)
    (hendless : fs.locate s.skipList = .error .noEntry → state.files.isEndless s.skipList = false) :
    s.run (.ofFunction answer) ⟨state.files, calls⟩ = (.ok report, state) := by
  have hgrows : fs.Evolves s.outputs state.files := by
    have hmoves := s.moves_run answer ⟨fs, calls⟩
    rwa [hrun] at hmoves
  obtain ⟨known, prepared, hprepare, hrest⟩ := exists_of_bind_eq_ok _ _ _ _ _ hrun
  obtain ⟨first, staged, hfirst, hlater⟩ := exists_of_bind_eq_ok _ _ _ _ _ hrest
  obtain ⟨resolution, resolved, hresolve, hrest⟩ := exists_of_bind_eq_ok _ _ _ _ _ hlater
  obtain ⟨source, written, hsecond, hrest⟩ := exists_of_bind_eq_ok _ _ _ _ _ hrest
  obtain ⟨residual, checked, hcheck, hreport⟩ := exists_of_bind_eq_ok _ _ _ _ _ hrest
  obtain ⟨rfl, rfl⟩ := (RunM.pure_eq_ok_iff _ _ _ _).mp hreport
  have hresolved : resolved.files = staged.files := by
    have hfiles := first.files_of_resolve answer s.root staged
    exact (congrArg RunState.files (congrArg Prod.snd hresolve)).symm.trans hfiles
  have hchecked : state.files = written.files := by
    have hfiles := s.files_of_checkFinal answer source written
    rwa [hcheck] at hfiles
  obtain ⟨-, -, hsave, ⟨artifacts, hname, hplan⟩, hcalls⟩ :=
    (s.prepare_eq_ok_iff _ _ known).mp hprepare
  have hartifacts : artifacts = known.plan.artifacts := by
    rw [hplan]
    rfl
  have hapart := houtputs
  rw [s.outputs_eq artifacts hname, hartifacts, hchecked] at hapart
  obtain ⟨hkeeps, hfirst'⟩ := s.writeStage_again fs known prepared staged resolved written
    resolution.table first source hnames hsave hfirst hresolved hsecond hapart
  rw [← hchecked] at hkeeps hfirst'
  rw [hcalls] at hfirst'
  have hprepare' := s.prepare_again fs state.files calls known prepared hprepare hgrows htrim
    hkeeps hdatabase hendless
  -- Behind its first stage the second run is where the first one was, so all that follows is the same.
  exact (bind_eq_ok_iff _ _ _ _ _).mpr ⟨known, _, hprepare',
    (bind_eq_ok_iff _ _ _ _ _).mpr ⟨first, staged, hfirst', hlater⟩⟩

/-- A project with one file, and a skip list that names another with a detour. -/
def clashingProject : FileSystem :=
  { entries := [(["p"], .directory),
      (["p", "compile_commands.json"],
        .file (Text.encode
          "[\x7b\"directory\":\"/p\",\"file\":\"a.c\",\"command\":\"cc -o a.o -c a.c\"\x7d]") .ofNew),
      (["p", "amalgamated"], .directory),
      (["p", "amalgamated", "files_with_errors.txt"], .file (Text.encode "./b.c") .ofNew)]
    workingDirectory := [] }

/-- The answer of a compiler that reports a clash in the file. -/
def clashingAnswer : Invocation → FileSystem → Except CompilerError CompilerOutput := fun _ _ =>
  .ok ⟨some 1, false, "[\x7b\"kind\":\"error\",\"message\":\"redefinition of 'f'\",\"locations\":"
    ++ "[\x7b\"caret\":\x7b\"file\":\"a.c\",\"line\":1,\"column\":5\x7d\x7d]\x7d]"⟩

/-- A run of this project renames the clashing name, and a second run does the same again and changes
nothing. -/
theorem run_again_clashingProject :
    ∃ report state,
      (ofName ⟨"/p"⟩ "app").run (.ofFunction clashingAnswer) ⟨clashingProject, []⟩ =
          (.ok report, state) ∧
        report.skip.entries = ["b.c"] ∧ report.resolution.table.pairs = [("a.c", "f")] ∧
        (ofName ⟨"/p"⟩ "app").run (.ofFunction clashingAnswer) ⟨state.files, []⟩ =
          (.ok report, state) := by
  generalize hrun : (ofName ⟨"/p"⟩ "app").run (.ofFunction clashingAnswer) ⟨clashingProject, []⟩ = ran
  obtain ⟨hreport, houtputs, hdatabase⟩ :
      (ran.1.toOption.map fun report => (report.skip.entries, report.resolution.table.pairs)) =
          some (["b.c"], [("a.c", "f")]) ∧
        (ofName ⟨"/p"⟩ "app").outputs.Pairwise ran.2.files.Apart ∧
        ∀ output ∈ (ofName ⟨"/p"⟩ "app").outputs,
          ¬ ran.2.files.Overwrites output (ofName ⟨"/p"⟩ "app").database := by
    rw [← hrun]
    decide +kernel
  obtain ⟨result, state⟩ := ran
  cases result with
  | error e => cases hreport
  | ok report =>
    obtain ⟨hentries, hpairs⟩ := Prod.mk.inj (Option.some.inj hreport)
    refine ⟨report, state, rfl, hentries, hpairs, ?_⟩
    refine run_again _ clashingAnswer clashingProject [] report state ?_ hrun ?_ houtputs
      hdatabase ?_
    · exact fun group hgroup => absurd hgroup List.not_mem_nil
    · rw [hentries]
      decide
    · intro hmissing
      have hthere : clashingProject.locate (ofName ⟨"/p"⟩ "app").skipList =
          .ok ["p", "amalgamated", "files_with_errors.txt"] := by decide +kernel
      rw [hthere] at hmissing
      cases hmissing

/-- A project whose skip list is a link to the merged source. -/
def linkedProject : FileSystem :=
  { entries := [(["p"], .directory),
      (["p", "compile_commands.json"], .file (Text.encode "[]") .ofNew),
      (["p", "amalgamated"], .directory),
      (["p", "amalgamated", "app.c"], .file (Text.encode "") .ofNew),
      (["p", "amalgamated", "files_with_errors.txt"], .link "app.c")]
    workingDirectory := [] }

/-- With a link from the skip list to the merged source, the outputs have different paths, none of
them is the database, and the first run succeeds with an empty skip list; but a second run reads the
merged source as a skip list. -/
theorem linked_skipList_grows :
    (ofName ⟨"/p"⟩ "app").outputs.Nodup ∧
      (ofName ⟨"/p"⟩ "app").database ∉ (ofName ⟨"/p"⟩ "app").outputs ∧
      (((ofName ⟨"/p"⟩ "app").run (.ofFunction silentAnswer) ⟨linkedProject, []⟩).1.toOption.map
        fun report => report.skip.entries) = some [] ∧
      (((ofName ⟨"/p"⟩ "app").run (.ofFunction silentAnswer)
        ⟨(ofName ⟨"/p"⟩ "app").filesAfter silentAnswer linkedProject, []⟩).1.toOption.map
          fun report => report.skip.entries) =
        some ["#define _GNU_SOURCE", "#include <pthread.h>", "#include <sched.h>",
          "#undef _GNU_SOURCE"] := by
  refine ⟨?_, ?_, ?_, ?_⟩
  all_goals decide +kernel

end Settings

end UnityBuild
