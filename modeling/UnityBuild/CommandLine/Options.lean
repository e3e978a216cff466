import UnityBuild.Settings.Layer
import UnityBuild.Text.Split

/-!
# Options of the command line

Options are long or short. A value follows its option as the next argument, behind an equals sign,
or, for a short option, directly. Short switches can be written together. Two dashes end the
options. An option that makes no list may stand once.

An argument that looks like an option is no value, except for the options that hand flags on. A
path is never empty. Arguments are bytes: a path may hold any, all other values are UTF-8.
-/

namespace UnityBuild.CommandLine

/-- The options that take a value. -/
inductive ValueOption where
  | projectRoot
  | database
  | outputDir
  | skipList
  | compiler
  | dropFlag
  | testMarker
  | linkArgument
  | config
deriving DecidableEq, Repr

/-- The options that take none. -/
inductive Switch where
  | verify
  | link
  | verbose
  | debug
  | help
deriving DecidableEq, Repr

/-- An option. -/
inductive Known where
  | value (option : ValueOption)
  | switch (switch : Switch)
deriving DecidableEq, Repr

/-- The option of a long name. -/
def longOption? (name : String) : Option Known :=
  match name with
  | "project-root" => some (.value .projectRoot)
  | "database" => some (.value .database)
  | "output-dir" => some (.value .outputDir)
  | "skip-list" => some (.value .skipList)
  | "compiler" => some (.value .compiler)
  | "drop-flag" => some (.value .dropFlag)
  | "unit-test-marker" => some (.value .testMarker)
  | "link-arg" => some (.value .linkArgument)
  | "config" => some (.value .config)
  | "verify" => some (.switch .verify)
  | "link" => some (.switch .link)
  | "verbose" => some (.switch .verbose)
  | "debug" => some (.switch .debug)
  | "help" => some (.switch .help)
  | _ => none

/-- The option of a letter. -/
def shortOption? (letter : Char) : Option Known :=
  match letter with
  | 'C' => some (.value .projectRoot)
  | 'o' => some (.value .outputDir)
  | 'v' => some (.switch .verbose)
  | 'd' => some (.switch .debug)
  | 'h' => some (.switch .help)
  | _ => none

/-- Whether the value of an option may look like an option. -/
def ValueOption.handsFlagsOn : ValueOption → Bool
  | dropFlag => true
  | linkArgument => true
  | _ => false

/-- What a command line asks for. -/
structure Options where
  name : Option String := none
  projectRoot : Option Path := none
  database : Option Path := none
  outputDir : Option Path := none
  skipList : Option Path := none
  compiler : Option String := none
  dropFlags : List String := []
  testMarker : Option String := none
  linkArguments : List String := []
  config : Option Path := none
  verify : Bool := false
  link : Bool := false
  verbose : Bool := false
  debug : Bool := false
deriving DecidableEq, Repr, Inhabited

/-- Why a command line is not carried out. -/
inductive Refusal where
  | usage
  | help
deriving DecidableEq, Repr

namespace Options

/-- Sets what may be set once. -/
def once {α : Type} (old : Option α) (value : α) : Except Refusal (Option α) :=
  if old.isSome then .error .usage else .ok (some value)

/-- The path that an argument writes. -/
def readPath (argument : String) : Except Refusal Path :=
  if argument.isEmpty then .error .usage else .ok ⟨argument⟩

/-- The text that an argument writes. -/
def readText (argument : String) : Except Refusal String :=
  match Text.readOctets? argument with
  | some text => .ok text
  | none => .error .usage

/-- Turns on what may be turned on once. -/
def onceOn (old : Bool) : Except Refusal Bool :=
  if old then .error .usage else .ok true

/-- Adds the value of an option. -/
def addValue (o : Options) (option : ValueOption) (value : String) : Except Refusal Options := do
  match option with
  | .projectRoot => return { o with projectRoot := ← once o.projectRoot (← readPath value) }
  | .database => return { o with database := ← once o.database (← readPath value) }
  | .outputDir => return { o with outputDir := ← once o.outputDir (← readPath value) }
  | .skipList => return { o with skipList := ← once o.skipList (← readPath value) }
  | .compiler => return { o with compiler := ← once o.compiler (← readText value) }
  | .dropFlag => return { o with dropFlags := o.dropFlags ++ [← readText value] }
  | .testMarker => return { o with testMarker := ← once o.testMarker (← readText value) }
  | .linkArgument => return { o with linkArguments := o.linkArguments ++ [← readText value] }
  | .config => return { o with config := ← once o.config (← readPath value) }

/-- Turns a switch on. -/
def addSwitch (o : Options) (switch : Switch) : Except Refusal Options := do
  match switch with
  | .verify => return { o with verify := ← onceOn o.verify }
  | .link => return { o with link := ← onceOn o.link }
  | .verbose => return { o with verbose := ← onceOn o.verbose }
  | .debug => return { o with debug := ← onceOn o.debug }
  | .help => throw .help

/-- Adds an argument that belongs to no option. -/
def addName (o : Options) (name : String) : Except Refusal Options := do
  return { o with name := ← once o.name (← readText name) }

/-- What an argument leaves open: an option that waits for its value. -/
abbrev Waiting := Option ValueOption

/-- Reads a long option without its dashes. -/
def addLong (o : Options) (s : List Char) : Except Refusal (Options × Waiting) := do
  match Text.cutAt '=' s with
  | (name, some value) =>
    match longOption? (String.ofList name) with
    | some (.value option) => return (← o.addValue option (String.ofList value), none)
    | _ => throw .usage
  | (name, none) =>
    match longOption? (String.ofList name) with
    | some (.value option) => return (o, some option)
    | some (.switch switch) => return (← o.addSwitch switch, none)
    | none => throw .usage

/-- Reads letters of short options; one that takes a value takes the letters behind it. -/
def addShort (o : Options) : List Char → Except Refusal (Options × Waiting)
  | [] => return (o, none)
  | letter :: rest =>
    match shortOption? letter with
    | some (.switch switch) => do (← o.addSwitch switch).addShort rest
    | some (.value option) =>
      match rest with
      | [] => return (o, some option)
      | '=' :: value => do return (← o.addValue option (String.ofList value), none)
      | value => do return (← o.addValue option (String.ofList value), none)
    | none => throw .usage

/-- Whether an argument looks like an option. -/
def looksLikeOption (argument : String) : Bool :=
  match argument.toList with
  | '-' :: _ :: _ => true
  | _ => false

/-- Reads arguments; `waiting` is the option whose value comes next. -/
def readFrom (o : Options) : Waiting → List String → Except Refusal Options
  | none, [] => return o
  | some _, [] => throw .usage
  | some option, argument :: arguments => do
    if looksLikeOption argument && !option.handsFlagsOn then throw .usage
    (← o.addValue option argument).readFrom none arguments
  | none, argument :: arguments =>
    match argument.toList with
    | ['-', '-'] => arguments.foldlM addName o
    | '-' :: '-' :: s => do
      let (o, waiting) ← o.addLong s
      o.readFrom waiting arguments
    | '-' :: c :: s => do
      let (o, waiting) ← o.addShort (c :: s)
      o.readFrom waiting arguments
    | _ => do (← o.addName argument).readFrom none arguments

/-- Reads a command line without the name of the program. -/
def read (arguments : List String) : Except Refusal Options :=
  ({} : Options).readFrom none arguments

/-- The layer of settings that a command line makes. The environment may name a compiler for a
command line that names none. -/
def layer (o : Options) (environmentCompiler : Option String) : Layer where
  name := o.name
  database := o.database
  outputDir := o.outputDir
  skipList := o.skipList
  compiler := o.compiler.or environmentCompiler
  dropFlags := o.dropFlags
  testMarker := o.testMarker
  linkArguments := o.linkArguments
  verify := if o.verify then some true else none

end Options

end UnityBuild.CommandLine
