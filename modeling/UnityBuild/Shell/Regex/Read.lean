import UnityBuild.Shell.Number
import UnityBuild.Shell.Regex.Search

/-!
# Reading regular expressions

The basic form of regular expressions writes most signs with a backslash, the extended form
without. Programs differ in what they make of signs at places where they have no meaning.
-/

namespace UnityBuild.Shell.Regex

/-- How expressions are written. -/
structure Form where
  extended : Bool
  /-- Small and capital letters are the same. -/
  ignoreCase : Bool := false
  /-- A count without a part is passed over, and braces and parentheses that do not belong together
  stand for themselves. -/
  lenient : Bool := false
  /-- One count may not follow another. -/
  singleCounts : Bool := false
  /-- Lines in the middle of the text have starts and ends, too. -/
  everyLine : Bool := false

/-- The smallest piece of a written expression. -/
inductive Token where
  | char (c : Char)
  | part (regex : Regex)
  | anchor (test : Option Char → Option Char → Bool)
  | again (number : Nat)
  | bracket
  | openGroup
  | closeGroup
  | bar
  | star
  | plus
  | question
  | openCount
  | closeCount
  | backslash
  | stop

/-- Whether characters behind an opening brace are a count. -/
def isCount (s : List Char) : Bool :=
  let behind := s.dropWhile Char.isDigit
  match behind.head? with
  | some '}' => true
  | some ',' => ((behind.drop 1).dropWhile Char.isDigit).head? == some '}'
  | _ => false

/-- The sign that a character is in a form that writes it without a backslash. -/
def sign? : Char → Option Token
  | '(' => some .openGroup
  | ')' => some .closeGroup
  | '|' => some .bar
  | '+' => some .plus
  | '?' => some .question
  | '{' => some .openCount
  | '}' => some .closeCount
  | _ => none

/-- The meaning of a character behind a backslash, where it has one in both forms. -/
def escape? (c : Char) : Option Token :=
  match c with
  | 'w' => some (.part (.char isWordChar))
  | 'W' => some (.part (.char fun c => !isWordChar c))
  | 's' => some (.part (.char isNumberBlank))
  | 'S' => some (.part (.char fun c => !isNumberBlank c))
  | 'b' => some (.anchor fun before after => startsWord before after || endsWord before after)
  | 'B' => some (.anchor fun before after => !startsWord before after && !endsWord before after)
  | '<' => some (.anchor startsWord)
  | '>' => some (.anchor endsWord)
  | '\x60' => some (.anchor fun before _ => before.isNone)
  | '\'' => some (.anchor fun _ after => after.isNone)
  | c => if c.isDigit && c != '0' then some (.again (c.toNat - '0'.toNat)) else none

/-- Whether a sign comes next, before which a dollar is the end of the line. -/
def endsPart (form : Form) (s : List Char) : Bool :=
  let s := if form.extended then some s else if s.head? == some '\\' then some (s.drop 1) else none
  match s.bind List.head? with
  | some c => c == ')' || c == '|'
  | none => false

/-- The start of a line in a form. -/
def Form.lineStart (form : Form) (before _after : Option Char) : Bool :=
  before.isNone || (form.everyLine && before == some '\n')

/-- The end of a line in a form. -/
def Form.lineEnd (form : Form) (_before after : Option Char) : Bool :=
  after.isNone || (form.everyLine && after == some '\n')

/-- The next token and the rest behind it; `caret` tells whether a caret can be the start of the
line here. -/
def nextToken (form : Form) (caret : Bool) : List Char → Token × List Char
  | [] => (.stop, [])
  | ['\\'] => (.backslash, [])
  | '\\' :: c :: s =>
    let sign := if form.extended then none else sign? c
    ((sign.or (escape? c)).getD (.char c), s)
  | '.' :: s => (.part (.char fun _ => true), s)
  | '[' :: s => (.bracket, s)
  | '*' :: s => (.star, s)
  | '^' :: s =>
    (if form.extended || caret then .anchor form.lineStart else .char '^', s)
  | '$' :: s =>
    (if form.extended || s.isEmpty || endsPart form s then .anchor form.lineEnd else .char '$', s)
  | c :: s =>
    if form.extended && !(form.lenient && c == '\x7b' && !isCount s) then
      ((sign? c).getD (.char c), s)
    else (.char c, s)

/-- What is read: the rest of an expression, how many groups were opened, those that were closed,
and remarks. -/
structure Source where
  rest : List Char
  opened : Nat := 0
  closed : List Nat := []
  remarks : List String := []

/-- Reads a part of an expression. -/
abbrev ReadM := StateT Source (Except String)

/-- Goes on behind a token. -/
def goOn (rest : List Char) : ReadM Unit :=
  modify fun source => { source with rest := rest }

/-- An expression for one character. -/
def literal (form : Form) (c : Char) : Regex :=
  if form.ignoreCase then .char fun d => c.toLower == d.toLower else .char fun d => c == d

/-! ### Brackets -/

/-- The classes of characters that can be named in brackets. -/
def classes : List (String × (Char → Bool)) :=
  [("alpha", Char.isAlpha), ("digit", Char.isDigit), ("alnum", Char.isAlphanum),
    ("upper", Char.isUpper), ("lower", Char.isLower), ("space", isNumberBlank),
    ("blank", fun c => c == ' ' || c == '\t'),
    ("punct", fun c => '!' ≤ c && c ≤ '~' && !c.isAlphanum),
    ("cntrl", fun c => c < ' ' || c == '\x7f'), ("print", fun c => ' ' ≤ c && c ≤ '~'),
    ("graph", fun c => '!' ≤ c && c ≤ '~'), ("xdigit", isDigitIn 16)]

/-- The complaint about brackets that are not closed. -/
def openBracket : String := "Unmatched [, [^, [:, [., or [="

/-- The complaint about a class without brackets around it. -/
def bareClass : String := "character class syntax is [[:space:]], not [:space:]"

/-- An item in brackets: one character, or several without an order. -/
inductive Item where
  | one (c : Char)
  | several (test : Char → Bool)

/-- Whether an item holds a character. -/
def Item.holds (item : Item) (c : Char) : Bool :=
  match item with
  | one d => c == d
  | several test => test c

/-- The name up to a sign and a bracket, and the rest behind them. -/
def cutName (c : Char) : Nat → List Char → Option (List Char × List Char)
  | 0, _ => none
  | _, [] => none
  | rounds + 1, d :: s =>
    if d = c && s.head? == some ']' then some ([], s.drop 1)
    else (cutName c rounds s).map fun (name, rest) => (d :: name, rest)

/-- Reads one item of brackets. -/
def readItem : ReadM Item := do
  match (← get).rest with
  | '[' :: c :: s =>
    if c == ':' || c == '.' || c == '=' then
      match cutName c 32 s with
      | none => throw openBracket
      | some (name, rest) =>
        goOn rest
        if c == ':' then
          match classes.lookup (String.ofList name) with
          | some test => return .several test
          | none => throw "Invalid character class name"
        else
          match name with
          | [d] => return if c == '.' then .one d else .several (· == d)
          | _ => throw "Invalid collation character"
    else
      goOn (c :: s)
      return .one '['
  | c :: s =>
    goOn s
    return .one c
  | [] => throw openBracket

/-- Reads an item of brackets or a range between two; `first` tells whether nothing stands before
it. -/
def readRange (first : Bool) : ReadM (Char → Bool) := do
  match (← get).rest with
  | '-' :: c :: _ => if !first && c != ']' then throw "Invalid range end"
  | _ => pure ()
  let start ← readItem
  match (← get).rest with
  | '-' :: c :: s =>
    if c == ']' then return start.holds
    goOn (c :: s)
    match start, ← readItem with
    | .one a, .one b => if b < a then throw "Invalid range end" else return fun d => a ≤ d && d ≤ b
    | _, _ => throw "Invalid range end"
  | _ => return start.holds

/-- Reads the items of brackets; `rounds` bounds how many there are. -/
def readItems : Nat → Bool → (Char → Bool) → ReadM (Char → Bool)
  | 0, _, _ => throw openBracket
  | rounds + 1, first, test => do
    match (← get).rest, first with
    | ']' :: s, false =>
      goOn s
      return test
    | _, _ =>
      let more ← readRange first
      readItems rounds false fun c => test c || more c

/-- Whether brackets look like a class that has no brackets around it. -/
def isBareClass (content : List Char) : Bool :=
  2 < content.length && content.head? == some ':' && content.getLast? == some ':'

/-- Reads brackets behind the first one. -/
def readBrackets (form : Form) : ReadM Regex := do
  let source ← get
  let negated := source.rest.head? == some '^'
  if negated then goOn (source.rest.drop 1)
  let start := (← get).rest
  let test ← readItems (start.length + 1) true fun _ => false
  if isBareClass (start.take (start.length - (← get).rest.length - 1)) then throw bareClass
  let test := if form.ignoreCase then fun c => test c.toLower || test c.toUpper else test
  return .char fun c => test c != negated

/-! ### Counts -/

/-- The complaint about a count without a part. -/
def noPart : String := "Invalid preceding regular expression"

/-- The complaint about the numbers of a count. -/
def badCount : String := "Invalid content of \\\x7b\\\x7d"

/-- The most that can be counted. -/
def maxCount : Nat := 32767

/-- The text between the braces of a count, and the rest behind them. -/
def cutCount (form : Form) : List Char → Option (List Char × List Char)
  | [] => none
  | '\\' :: c :: s =>
    if c == '\x7d' && !form.extended then some ([], s)
    else (cutCount form s).map fun (text, rest) => ('\\' :: c :: text, rest)
  | c :: s =>
    if c == '\x7d' && form.extended then some ([], s)
    else (cutCount form s).map fun (text, rest) => (c :: text, rest)

/-- Reads the numbers of a count behind its opening brace. -/
def readCount (form : Form) : ReadM (Nat × Option Nat) := do
  match cutCount form (← get).rest with
  | none => throw "Unmatched \\\x7b"
  | some (text, rest) =>
    let least := text.takeWhile Char.isDigit
    let behind := text.drop least.length
    let low := digitsValue 10 least
    let (most, valid) := match behind with
      | [] => (some low, !least.isEmpty)
      | ',' :: digits =>
        (if digits.isEmpty then none else some (digitsValue 10 digits), digits.all Char.isDigit)
      | _ => (none, false)
    if !valid || most.any (· < low) then throw badCount
    if maxCount < most.getD low then throw "Regular expression too big"
    goOn rest
    return (low, most)

/-- Reads how often a part is to be found; `rounds` bounds how many counts say so. -/
def readCounts (form : Form) : Nat → Bool → Regex → ReadM Regex
  | 0, _, regex => return regex
  | rounds + 1, first, regex => do
    let (token, rest) := nextToken form false (← get).rest
    let next (least : Nat) (most : Option Nat) : ReadM Regex := do
      goOn rest
      readCounts form rounds false (.repeated regex least most)
    match token with
    | .star => if form.singleCounts && !first then throw noPart else next 0 none
    | .plus => next 1 none
    | .question => next 0 (some 1)
    | .openCount =>
      if form.singleCounts && !first then throw noPart
      goOn rest
      let (least, most) ← readCount form
      readCounts form rounds false (.repeated regex least most)
    | _ => return regex

/-! ### Parts and branches -/

/-- Makes a remark about the expression. -/
def remark (text : String) : ReadM Unit :=
  modify fun source => { source with remarks := source.remarks ++ [text] }

/-- The sign of a count. -/
def Token.countSign? : Token → Option String
  | star => some "*"
  | plus => some "+"
  | question => some "?"
  | openCount => some "\x7b...\x7d"
  | _ => none

/-- A count that stands where a part should start. -/
def readStrayCount (form : Form) (c : Char) (rest : List Char) (again : ReadM (Regex × Bool)) :
    ReadM (Regex × Bool) := do
  if form.extended then
    if !form.lenient then throw noPart
    goOn rest
    if c == '\x7b' then let _ ← readCount form
    let shown := if c == '\x7b' then "\x7b...\x7d" else String.ofList [c]
    remark (shown ++ " at start of expression")
    again
  else if c == '\x7b' && form.singleCounts then throw noPart
  else
    goOn rest
    let regex ← readCounts form (rest.length + 1) true (literal form c)
    return (regex, false)

/-- Reads one part of a branch and tells whether a caret behind it can be the start of the line;
`inner` reads what stands in parentheses, and `rounds` bounds how many stray counts there are. -/
def readPart (form : Form) (inner : ReadM Regex) : Nat → Bool → ReadM (Regex × Bool)
  | 0, _ => return (.nothing, false)
  | rounds + 1, caret => do
    let source ← get
    let (token, rest) := nextToken form caret source.rest
    let counted (regex : Regex) : ReadM (Regex × Bool) := do
      let regex ← readCounts form (rest.length + 1) true regex
      return (regex, false)
    let stray (c : Char) := readStrayCount form c rest (readPart form inner rounds caret)
    match token with
    | .stop => return (.nothing, false)
    | .bar => return (.nothing, false)
    | .backslash => throw "Trailing backslash"
    | .star => stray '*'
    | .plus => stray '+'
    | .question => stray '?'
    | .openCount => stray '\x7b'
    | .anchor test =>
      goOn rest
      if form.lenient && (form.extended || !caret) then
        if caret then
          match (nextToken form false rest).1.countSign? with
          | some sign => remark (sign ++ " at start of expression")
          | none => pure ()
        let regex ← readCounts form (rest.length + 1) true (.assert test)
        return (regex, caret)
      return (.assert test, true)
    | .char c =>
      goOn rest
      counted (literal form c)
    | .closeCount =>
      goOn rest
      counted (literal form '\x7d')
    | .closeGroup =>
      if !(form.extended && form.lenient) then throw "Unmatched ) or \\)"
      goOn rest
      counted (literal form ')')
    | .part regex =>
      goOn rest
      counted regex
    | .bracket =>
      goOn rest
      counted (← readBrackets form)
    | .again number =>
      if !source.closed.contains number then throw "Invalid back reference"
      goOn rest
      counted (.again number)
    | .openGroup =>
      let number := source.opened + 1
      set { source with rest := rest, opened := number }
      let body ← inner
      match nextToken form false (← get).rest with
      | (.closeGroup, rest) =>
        modify fun source => { source with rest := rest, closed := number :: source.closed }
        counted (.group number body)
      | _ => throw "Unmatched ( or \\("

/-- Whether a branch ends before a token. -/
def endsBranch (nested : Bool) : Token → Bool
  | .stop => true
  | .bar => true
  | .closeGroup => nested
  | _ => false

/-- Reads a branch; `rounds` bounds how many parts it has. -/
def readBranch (form : Form) (inner : ReadM Regex) (nested : Bool) : Nat → Bool → ReadM Regex
  | 0, _ => return .nothing
  | rounds + 1, caret => do
    let rest := (← get).rest
    if endsBranch nested (nextToken form caret rest).1 then return .nothing
    let (part, caret) ← readPart form inner (rest.length + 1) caret
    return .sequence part (← readBranch form inner nested rounds caret)

/-- Reads branches; `rounds` bounds how many there are. -/
def readBranches (form : Form) (inner : ReadM Regex) (nested : Bool) : Nat → ReadM Regex
  | 0 => return .nothing
  | rounds + 1 => do
    let branch ← readBranch form inner nested ((← get).rest.length + 1) true
    match nextToken form false (← get).rest with
    | (.bar, rest) =>
      goOn rest
      return .either branch (← readBranches form inner nested rounds)
    | _ => return branch

/-- Reads an expression in which parentheses nest at most `depth` deep. -/
def readWithin (form : Form) : Nat → Bool → ReadM Regex
  | 0, _ => throw "Regular expression too big"
  | depth + 1, nested => do
    readBranches form (readWithin form depth true) nested ((← get).rest.length + 1)

/-- An expression that was read, how many groups it has, and remarks about it. -/
structure Reading where
  regex : Regex
  groups : Nat
  remarks : List String

/-- Reads an expression. -/
def read (form : Form) (text : List Char) : Except String Reading := do
  let (regex, source) ← (readWithin form (text.length + 1) false).run { rest := text }
  return ⟨regex, source.opened, source.remarks⟩

end UnityBuild.Shell.Regex
