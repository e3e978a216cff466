import UnityBuild.Shell.Lexer

/-!
# Reading shell scripts

A script is read line by line: `parseNext` gives the commands of the next line, which may go on
over several lines, and what is left of the script. Commands nest, so the readers of this module
take the reader of lists as an argument; `readListWithin` ties them together.
-/

namespace UnityBuild.Shell

/-- Complains about the last token, and says which one was expected. -/
def unexpected {α : Type} (wanted : Option Token) : ParserM α := do
  let found := (← get).token.name
  match wanted with
  | some token => refuse (found ++ " unexpected (expecting " ++ token.name ++ ")")
  | none => refuse (found ++ " unexpected")

/-- Where a command can start. -/
def commandMode : TokenMode := { keywords := true }

/-- Where a command can start, perhaps on a later line. -/
def laterMode : TokenMode := { overNewlines := true, keywords := true }

/-- The commands whose names cannot be given to functions. -/
def specialBuiltins : List String :=
  [".", ":", "break", "continue", "eval", "exec", "exit", "export", "local", "readonly", "return",
    "set", "shift", "times", "trap", "unset"]

section Readers

variable (list : ListReader) (fuel : Nat)

/-- Reads a keyword, or fails. -/
def expectKeyword (text : String) : ParserM Unit := do
  let token ← readToken list fuel commandMode
  if token.isKeyword text then return () else unexpected (some (.keyword text))

/-- The characters of a delimiter, and whether a part of it is quoted. -/
def delimiterText (w : Word) : List Char × Bool :=
  (w.flatMap fun
    | .text chars _ => chars.toList
    | .parameter name _ _ _ => '$' :: name.toList
    | _ => [],
   w.any fun
    | .text _ quoted => quoted
    | _ => false)

/-- Reads the word of a redirection. -/
def readTarget (descriptor : Nat) (operator : RedirectOperator) : ParserM Redirection := do
  match ← readToken list fuel {} with
  | .word w =>
    match operator with
    | .openFile mode => return .openFile descriptor mode w
    | .duplicate => return .duplicate descriptor w
    | .hereText stripTabs =>
      let (delimiter, literal) := delimiterText w
      let number := (← get).hereTexts.size
      modify fun input =>
        { input with
          hereTexts := input.hereTexts.push []
          pending := input.pending ++ [⟨number, delimiter, literal, stripTabs⟩] }
      return .hereText descriptor number
  | _ => unexpected none

/-- Reads the redirections behind a compound command; `rounds` bounds how many. -/
def readRedirections : Nat → List Redirection → ParserM (List Redirection)
  | 0, front => return front.reverse
  | rounds + 1, front => do
    match ← readToken list fuel commandMode with
    | .redirect descriptor operator =>
      readRedirections rounds ((← readTarget list fuel descriptor operator) :: front)
    | _ =>
      pushBack
      return front.reverse

/-- What has been read of a simple command, the last first. -/
structure SimpleParts where
  assignments : List Word := []
  words : List Word := []
  redirections : List Redirection := []

/-- Reads the body of a function whose name and parentheses were read. -/
def readFunction (command : ParserM Command) (w : Word) : ParserM Command := do
  match w.bare? with
  | some name =>
    if !isName name || specialBuiltins.contains name then refuse "Bad function name"
    let _ ← readToken list fuel laterMode
    pushBack
    return .define name (← command)
  | none => refuse "Bad function name"

/-- Reads a simple command, or a function. -/
def readSimple (command : ParserM Command) (line : Nat) : Nat → SimpleParts → ParserM Command
  | 0, _ => unexpected none
  | rounds + 1, parts => do
    match ← readToken list fuel {} with
    | .word w =>
      if parts.words.isEmpty && w.assignment?.isSome then
        readSimple command line rounds { parts with assignments := w :: parts.assignments }
      else readSimple command line rounds { parts with words := w :: parts.words }
    | .redirect descriptor operator =>
      let redirection ← readTarget list fuel descriptor operator
      readSimple command line rounds
        { parts with redirections := redirection :: parts.redirections }
    | .openParen =>
      match parts with
      | { assignments := [], words := [w], redirections := [] } =>
        match ← readToken list fuel {} with
        | .closeParen => readFunction list fuel command w
        | _ => unexpected (some .closeParen)
      | _ => finish parts
    | _ => finish parts
where
  finish (parts : SimpleParts) : ParserM Command := do
    pushBack
    return .simple line parts.assignments.reverse parts.words.reverse parts.redirections.reverse

/-- Reads the rest of a condition behind its first word; `rounds` bounds its branches. -/
def readBranches : Nat → ParserM Command
  | 0 => unexpected none
  | rounds + 1 => do
    let condition ← list .block
    expectKeyword list fuel "then"
    let thenPart ← list .block
    match ← readToken list fuel commandMode with
    | .keyword "elif" => return .branch condition thenPart (some (← readBranches rounds))
    | .keyword "else" => return .branch condition thenPart (some (← list .block))
    | _ =>
      pushBack
      return .branch condition thenPart none

/-- Reads the words of a loop up to the first token that is none. -/
def readLoopWords : Nat → List Word → ParserM (List Word)
  | 0, front => return front.reverse
  | rounds + 1, front => do
    match ← readToken list fuel {} with
    | .word w => readLoopWords rounds (w :: front)
    | .newline => return front.reverse
    | .semicolon => return front.reverse
    | _ => unexpected none

/-- All arguments, each as a word. -/
def allArguments : Word :=
  [.parameter "@" .value [] true]

/-- Reads a loop over words behind its first word. -/
def readForEach (line : Nat) : ParserM Command := do
  let name ← match ← readToken list fuel {} with
    | .word w =>
      match w.bare? with
      | some name => if isName name then pure name else refuse "Bad for loop variable"
      | none => refuse "Bad for loop variable"
    | _ => refuse "Bad for loop variable"
  let words ← match ← readToken list fuel laterMode with
    | .keyword "in" => readLoopWords list fuel fuel []
    | .semicolon => pure [allArguments]
    | _ =>
      pushBack
      pure [allArguments]
  let token ← readToken list fuel laterMode
  if !token.isKeyword "do" then unexpected (some (.keyword "do"))
  let body ← list .block
  return .forEach line name words body

/-- The word of a token, as patterns have it: keywords are words there. -/
def patternOf : Token → Word
  | .word w => w
  | .keyword text => [.text text false]
  | _ => []

/-- Reads the further patterns of a case up to the closing parenthesis. -/
def readPatterns : Nat → List Word → ParserM (List Word)
  | 0, _ => unexpected none
  | rounds + 1, front => do
    match ← readToken list fuel {} with
    | .bar => readPatterns rounds (patternOf (← readToken list fuel {}) :: front)
    | .closeParen => return front.reverse
    | _ => unexpected (some .closeParen)

/-- Reads the cases of a choice; `rounds` bounds how many. -/
def readCases : Nat → ParserM Cases
  | 0 => unexpected none
  | rounds + 1 => do
    match ← readToken list fuel laterMode with
    | .keyword "esac" => return .none
    | first =>
      let first ← match first with
        | .openParen => readToken list fuel {}
        | other => pure other
      let patterns ← readPatterns list fuel fuel [patternOf first]
      let body ← list .optional
      match ← readToken list fuel laterMode with
      | .keyword "esac" => return .case patterns body .none
      | .endCase => return .case patterns body (← readCases rounds)
      | _ => unexpected (some .endCase)

/-- Reads a choice behind its first word. -/
def readChoice (line : Nat) : ParserM Command := do
  match ← readToken list fuel {} with
  | .word subject =>
    let token ← readToken list fuel laterMode
    if !token.isKeyword "in" then unexpected (some (.keyword "in"))
    return .choice line subject (← readCases list fuel fuel)
  | _ => unexpected (some (.word []))

/-- Adds redirections to a compound command. -/
def redirectCommand (line : Nat) (command : Command) (redirections : List Redirection) : Command :=
  if redirections.isEmpty then command
  else match command with
    | .subshell inner body _ => .subshell inner body redirections
    | command => .redirected line command redirections

/-- Reads what comes behind the first keyword of a compound command up to the last one. -/
def readCompound (line : Nat) (keyword : String) : ParserM Command := do
  match keyword with
  | "if" =>
    let body ← readBranches list fuel fuel
    expectKeyword list fuel "fi"
    return body
  | "while" => readLoop true
  | "until" => readLoop false
  | "for" =>
    let body ← readForEach list fuel line
    expectKeyword list fuel "done"
    return body
  | "case" => readChoice list fuel line
  | "\x7b" =>
    let body ← list .block
    expectKeyword list fuel "\x7d"
    return body
  | _ => unexpected none
where
  readLoop (whileTrue : Bool) : ParserM Command := do
    let condition ← list .block
    expectKeyword list fuel "do"
    let body ← list .block
    expectKeyword list fuel "done"
    return .loop whileTrue condition body

/-- Reads one command; `depth` bounds how many functions stand in each other. -/
def readCommand : Nat → ParserM Command
  | 0 => unexpected none
  | depth + 1 => do
    let token ← readToken list fuel commandMode
    let line := (← get).line
    match token with
    | .keyword text =>
      let body ← readCompound list fuel line text
      return redirectCommand line body (← readRedirections list fuel fuel [])
    | .openParen =>
      let body ← list .block
      match ← readToken list fuel commandMode with
      | .closeParen =>
        return redirectCommand line (.subshell line body [])
          (← readRedirections list fuel fuel [])
      | _ => unexpected (some .closeParen)
    | .word _ =>
      pushBack
      readSimple list fuel (readCommand depth) line fuel {}
    | .redirect _ _ =>
      pushBack
      readSimple list fuel (readCommand depth) line fuel {}
    | _ => unexpected none

/-- Reads a command behind line ends. -/
def readLaterCommand : ParserM Command := do
  let _ ← readToken list fuel laterMode
  pushBack
  readCommand list fuel fuel

/-- Reads the further commands of a pipeline. -/
def readPipes : Nat → List Command → ParserM (List Command)
  | 0, front => return front.reverse
  | rounds + 1, front => do
    match ← readToken list fuel {} with
    | .bar => readPipes rounds ((← readLaterCommand list fuel) :: front)
    | _ =>
      pushBack
      return front.reverse

/-- Reads a pipeline, whose result may be turned around. -/
def readPipeline : ParserM Command := do
  let negate := (← readToken list fuel commandMode).isKeyword "!"
  if !negate then pushBack
  let commands ← readPipes list fuel fuel [← readCommand list fuel fuel]
  let pipeline := match commands with
    | [command] => command
    | commands => .pipeline commands
  return if negate then .negated pipeline else pipeline

/-- Reads a pipeline behind line ends. -/
def readLaterPipeline : ParserM Command := do
  let _ ← readToken list fuel laterMode
  pushBack
  readPipeline list fuel

/-- Goes on with pipelines that depend on the result so far. -/
def readAndOr : Nat → Command → ParserM Command
  | 0, first => return first
  | rounds + 1, first => do
    match ← readToken list fuel {} with
    | .andIf => readAndOr rounds (.both first (← readLaterPipeline list fuel))
    | .orIf => readAndOr rounds (.either first (← readLaterPipeline list fuel))
    | _ =>
      pushBack
      return first

/-- Commands that run one after the other, given the last first. -/
def inSequence : List Command → Command
  | [] => .nothing
  | [command] => command
  | commands => .sequence commands.reverse

/-- Reads the commands of a list; `front` holds those that were read before, the last first. -/
def readCommands (kind : ListKind) : Nat → List Command → ParserM Command
  | 0, front => return inSequence front
  | rounds + 1, front => do
    let mode : TokenMode := { overNewlines := kind != .line, keywords := true }
    match ← readToken list fuel mode with
    | .newline =>
      readHereTexts list fuel
      return inSequence front
    | .endOfFile =>
      readHereTexts list fuel
      pushBack
      return inSequence front
    | token =>
      pushBack
      if token.closesList && (!front.isEmpty || kind == .optional) && kind != .line then
        return inSequence front
      let line := (← get).line
      let first ← readPipeline list fuel
      let command ← readAndOr list fuel fuel first
      let token ← readToken list fuel {}
      match token with
      | .endOfFile =>
        readHereTexts list fuel
        pushBack
        return inSequence (command :: front)
      | .newline =>
        pushBack
        readCommands kind rounds (command :: front)
      | .ampersand => readCommands kind rounds (.background line command :: front)
      | .semicolon => readCommands kind rounds (command :: front)
      | _ =>
        if kind == .line then unexpected none
        pushBack
        return inSequence (command :: front)

end Readers

/-- Reads a list of commands in which lists nest at most `depth` deep. -/
def readListWithin (fuel : Nat) : Nat → ListReader
  | 0, _ => refuse "end of file unexpected"
  | depth + 1, kind => do
    match kind with
    | .enclosed =>
      let body ← readCommands (readListWithin fuel depth) fuel .optional fuel []
      match ← readToken (readListWithin fuel depth) fuel commandMode with
      | .closeParen => return body
      | _ => unexpected (some .closeParen)
    | kind => readCommands (readListWithin fuel depth) fuel kind fuel []

/-- What comes next in a script: commands with what is left, or the end. -/
inductive NextCommand where
  | command (body : Command) (rest : Input)
  | done

/-- Whether a script has ended. -/
def Input.atEnd (input : Input) : Bool :=
  match input.again, input.token with
  | true, .endOfFile => true
  | _, _ => false

/-- Reads the commands of the next line of a script that has at most `fuel` characters. -/
def parseNext (fuel : Nat) (input : Input) : Except ScriptError NextCommand := do
  if input.atEnd then return .done
  let fuel := fuel + 2
  let (body, rest) ← (readListWithin fuel fuel .line).run { input with again := false }
  return .command body rest

end UnityBuild.Shell
