import UnityBuild.FileSystem.Follow
import UnityBuild.Invocation

/-!
# Compilers

A compiler is asked to run an invocation and answers with its diagnostics. It sees the files and
what it was asked before, and may change files. A compiler that answers by a function of the
invocation and the files and changes nothing is `Compiler.ofFunction`.
-/

namespace UnityBuild

/-- Why a compiler did not run. -/
inductive CompilerError where
  | notFound (program : String)
  | notLaunched (program : String) (error : SystemError)
  | emptyInvocation
deriving DecidableEq, Repr

namespace CompilerError

/-- Says that a program is nowhere to be found. -/
def searchFailure : String := "cannot find binary path"

/-- The text of the error. -/
def message : CompilerError → String
  | notFound program => "Compiler `" ++ program ++ "` not found: " ++ searchFailure
  | notLaunched program error => "Failed to launch `" ++ program ++ "`: " ++ error.message
  | emptyInvocation => "Empty compiler invocation"

/-- The texts of the errors behind it. -/
def causes : CompilerError → List String
  | notFound _ => [searchFailure]
  | notLaunched _ error => [error.message]
  | emptyInvocation => []

end CompilerError

/-- What a compiler leaves behind; a run that a signal ended has no exit code. -/
structure CompilerOutput where
  exitCode : Option Nat
  success : Bool
  diagnostics : String
deriving DecidableEq, Repr

/-- A run of the compiler: what was asked, and the files at that time. -/
structure CompilerCall where
  invocation : Invocation
  files : FileSystem

/-- Answers an invocation, given the earlier calls and the files. -/
abbrev Compiler :=
  List CompilerCall → Invocation → FileSystem → Except CompilerError CompilerOutput × FileSystem

namespace Compiler

/-- The compiler that answers by a function and changes no file. -/
def ofFunction (answer : Invocation → FileSystem → Except CompilerError CompilerOutput) :
    Compiler := fun _ invocation files =>
  (answer invocation files, files)

/-- A prepared answer of a compiler. -/
inductive CannedAnswer where
  | output (stderr : String) (success : Bool)
  | failure
deriving DecidableEq, Repr

/-- The exit code of a prepared answer. -/
def cannedExitCode (success : Bool) : Nat :=
  if success then 0 else 1

/-- The result of a prepared answer. -/
def CannedAnswer.result : CannedAnswer → Except CompilerError CompilerOutput
  | output stderr success => .ok ⟨some (cannedExitCode success), success, stderr⟩
  | failure => .error .emptyInvocation

/-- The answer to a call from its number: past the end the last one is given again, and without
any the compiler succeeds and has nothing to say. -/
def cannedAnswer (answers : List CannedAnswer) (call : Nat) : CannedAnswer :=
  match answers[call]? with
  | some answer => answer
  | none => answers.getLast?.getD (.output "" true)

/-- The compiler that gives prepared answers in order. -/
def canned (answers : List CannedAnswer) : Compiler := fun calls _ files =>
  ((cannedAnswer answers calls.length).result, files)

end Compiler

end UnityBuild
