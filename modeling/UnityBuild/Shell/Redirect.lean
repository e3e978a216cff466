import UnityBuild.Shell.Expand
import UnityBuild.Shell.Open

/-!
# Redirections

The words of all redirections are replaced before the first file is opened; then descriptors are
connected from left to right. A redirection that fails keeps the command from running.
-/

namespace UnityBuild.Shell

/-- A redirection whose word was replaced. -/
inductive Connection where
  | openFile (descriptor : Nat) (mode : OpenMode) (path : String)
  | duplicate (descriptor source : Nat)
  | close (descriptor : Nat)
  | text (descriptor : Nat) (content : String)
deriving DecidableEq, Repr

/-- How the shell tells why a file was not opened. -/
def openComplaint (creating : Bool) : SystemError → String
  | .noEntry => if creating then "Directory nonexistent" else "No such file"
  | .notDirectory => if creating then "Directory nonexistent" else "No such file"
  | error => error.text

/-- Complains about a file that was not opened. -/
def failToOpen {α : Type} (creating : Bool) (path : String) (error : SystemError) : ShellM α :=
  fail ((if creating then "cannot create " else "cannot open ") ++ path ++ ": " ++
    openComplaint creating error)

/-- Opens a file and connects it with a descriptor. -/
def connectFile (descriptor : Nat) (mode : OpenMode) (path : String) : ShellM Unit := do
  let keeps := mode = .write && (← getSession).has 'C'
  match ← openPath mode keeps path with
  | .error error => failToOpen (mode != .read) path error
  | .ok number => connect descriptor number

/-- Applies a redirection. -/
def Connection.apply : Connection → ShellM Unit
  | .openFile descriptor mode path => connectFile descriptor mode path
  | .close descriptor => disconnect descriptor
  | .text descriptor content => do
    connect descriptor
      (← openNew { channel := .memory (Text.toBytes content), writable := false })
  | .duplicate descriptor source => do
    match (← getSession).descriptors.lookup source with
    | some number => connect descriptor number
    | none => fail (toString source ++ ": Bad file descriptor")

section Words

variable (run : Command → ShellM String)

/-- Replaces the word of a redirection. -/
def expandRedirection : Redirection → ShellM Connection
  | .openFile descriptor mode target => return .openFile descriptor mode (← expandText run target)
  | .hereText descriptor number => do
    let body := ((← getSession).hereTexts[number]?).getD []
    return .text descriptor (← expandText run body)
  | .duplicate descriptor target => do
    let text ← expandText run target
    match text.toList with
    | ['-'] => return .close descriptor
    | [c] => if c.isDigit then return .duplicate descriptor (c.toNat - '0'.toNat) else refuseFd
    | _ => refuseFd
where
  refuseFd : ShellM Connection := do
    changeSession fun s => { s with line := s.readLine }
    fail "Syntax error: Bad fd number"

/-- Replaces the words of redirections. -/
def expandRedirections (redirections : List Redirection) : ShellM (List Connection) :=
  redirections.mapM (expandRedirection run)

end Words

end UnityBuild.Shell
