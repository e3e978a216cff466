import UnityBuild.Shell.Token

/-!
# Reading words and tokens

Words are read character by character. What a character means depends on the scope it stands in:
a plain word, double quotes, braces behind a dollar sign, an arithmetic expression, or the body of
a text in the script. A backslash in front of a line end is dropped together with it, except in
single quotes.
-/

namespace UnityBuild.Shell

/-- Blanks between tokens. -/
def isGap (c : Char) : Bool :=
  c == ' ' || c == '\t'

/-- Characters that end a word. -/
def endsWord (c : Char) : Bool :=
  isGap c || c == '\n' || c == ';' || c == '&' || c == '|' || c == '(' || c == ')' || c == '<'
    || c == '>'

/-- Parameters that are named by a sign. -/
def isSpecial (c : Char) : Bool :=
  c.isDigit || c == '@' || c == '*' || c == '#' || c == '?' || c == '$' || c == '!' || c == '-'

/-- The sign that encloses a command in the older way. -/
def backquote : Char := '\x60'

/-- Drops joined line ends and counts their lines. -/
def skipJoins : List Char → Nat → List Char × Nat
  | '\\' :: '\n' :: s, line => skipJoins s (line + 1)
  | s, line => (s, line)

/-- Takes the next character. -/
def nextRaw? : ParserM (Option Char) := do
  let input ← get
  match input.rest with
  | [] => return none
  | c :: rest =>
    set { input with rest := rest, line := if c = '\n' then input.line + 1 else input.line }
    return some c

/-- Takes the next character behind joined line ends. A line end is not counted. -/
def next? : ParserM (Option Char) := do
  let input ← get
  let (rest, line) := skipJoins input.rest input.line
  match rest with
  | [] =>
    set { input with rest := [], line := line }
    return none
  | c :: rest =>
    set { input with rest := rest, line := line }
    return some c

/-- Looks at the next character behind joined line ends. -/
def peek? : ParserM (Option Char) := do
  let input ← get
  let (rest, line) := skipJoins input.rest input.line
  set { input with rest := rest, line := line }
  return rest.head?

/-- Puts a character back. -/
def unread (c : Char) : ParserM Unit :=
  modify fun input => { input with rest := c :: input.rest }

/-- Counts a line end that was taken. -/
def countLine : ParserM Unit :=
  modify fun input => { input with line := input.line + 1 }

/-- Takes the next character if it is the one that is asked for. -/
def takeIf (c : Char) : ParserM Bool := do
  if (← peek?) = some c then
    let _ ← next?
    return true
  else return false

/-- Takes characters as long as a condition holds; `fuel` bounds how many. -/
def takeChars (keep : Char → Bool) : Nat → List Char → ParserM String
  | 0, front => return String.ofList front.reverse
  | fuel + 1, front => do
    match ← peek? with
    | some c =>
      if keep c then
        let _ ← next?
        takeChars keep fuel (c :: front)
      else return String.ofList front.reverse
    | none => return String.ofList front.reverse

/-- A word that is being read: its parts and the characters of its last part, the last ones
first. -/
structure Builder where
  parts : List Part := []
  chars : List Char := []
  quoted : Bool := false

namespace Builder

/-- Ends the part that is being read. -/
def flush (b : Builder) : Builder :=
  if b.chars.isEmpty then b
  else { b with parts := .text (String.ofList b.chars.reverse) b.quoted :: b.parts, chars := [] }

/-- Adds a character. -/
def push (b : Builder) (c : Char) (quoted : Bool) : Builder :=
  if b.quoted = quoted then { b with chars := c :: b.chars }
  else { b.flush with chars := [c], quoted := quoted }

/-- Adds a part. -/
def add (b : Builder) (part : Part) : Builder :=
  { b.flush with parts := part :: b.flush.parts }

/-- The word. -/
def finish (b : Builder) : Word :=
  b.flush.parts.reverse

/-- Whether a part stands for all arguments. -/
def isAllArguments : Part → Bool
  | .parameter "@" .value _ _ => true
  | _ => false

/-- Adds what stood between two quotes. Quotes make a word even if nothing is between them, unless
they enclose nothing but all arguments. -/
def addQuoted (b : Builder) (w : Word) : Builder :=
  let b := w.foldl add b
  if w.all isAllArguments && w.length != 1 then b.add (.text "" true) else b

end Builder

/-- Where characters stand. -/
inductive Scope where
  | plain
  | quotes
  | braces (quoted inner : Bool)
  | arithmetic (depth : Nat)
  | hereText (delimiter : List Char) (stripTabs : Bool)
deriving DecidableEq, Repr

namespace Scope

/-- Whether characters in a scope are quoted. -/
def quoted : Scope → Bool
  | plain => false
  | braces quoted _ => quoted
  | _ => true

/-- Whether a backslash takes the meaning of a character away in a quoted scope. -/
def escapes (scope : Scope) (c : Char) : Bool :=
  c == '\\' || c == backquote || c == '$' ||
  match scope with
  | hereText _ _ => false
  | braces _ _ => c == '"' || c == '}'
  | _ => c == '"'

/-- The complaint when a script ends in a scope; some may end there. -/
def unclosed? : Scope → Option String
  | plain => none
  | quotes => some "Unterminated quoted string"
  | braces true _ => some "Unterminated quoted string"
  | braces false _ => some "Missing '\x7d'"
  | arithmetic _ => some "Missing '))'"
  | hereText _ _ => none

end Scope

/-- Reads the rest of a single-quoted part. -/
def readSingleQuoted : Nat → List Char → ParserM String
  | 0, _ => refuse "Unterminated quoted string"
  | fuel + 1, front => do
    match ← nextRaw? with
    | none => refuse "Unterminated quoted string"
    | some '\'' => return String.ofList front.reverse
    | some c => readSingleQuoted fuel (c :: front)

/-- Reads a command in backquotes as text; a backslash protects few characters there. -/
def readBackquoted (quoted : Bool) : Nat → List Char → ParserM (List Char)
  | 0, _ => refuse "EOF in backquote substitution"
  | fuel + 1, front => do
    match ← next? with
    | none => refuse "EOF in backquote substitution"
    | some '\\' =>
      match ← nextRaw? with
      | none => refuse "EOF in backquote substitution"
      | some c =>
        if c == '\\' || c == backquote || c == '$' || (quoted && c == '"') then
          readBackquoted quoted fuel (c :: front)
        else readBackquoted quoted fuel (c :: '\\' :: front)
    | some c =>
      if c = backquote then return front.reverse
      if c = '\n' then countLine
      readBackquoted quoted fuel (c :: front)

/-- Reads the command between backquotes, whose lines are counted from the first. -/
def readOldCommand (list : ListReader) (quoted : Bool) (fuel : Nat) : ParserM Part := do
  let text ← readBackquoted quoted fuel []
  let outer ← get
  set { outer with rest := text, line := 1, again := false, pending := [] }
  let body ← list .optional
  modify fun inner =>
    { inner with rest := outer.rest, line := outer.line, again := false, pending := outer.pending }
  return .command body quoted

/-- Reads the command behind a dollar sign and a parenthesis. -/
def readNewCommand (list : ListReader) (quoted : Bool) : ParserM Part := do
  let outer := (← get).pending
  modify fun input => { input with pending := [] }
  let body ← list .enclosed
  modify fun input => { input with pending := outer }
  return .command body quoted

/-- Reads the name of a parameter behind the opening brace. The modifier is given when a length is
asked for or when there is no such parameter. -/
def readBracedName (fuel : Nat) : ParserM (String × Option Modifier) := do
  match ← next? with
  | none => return ("", some .unknown)
  | some c =>
    if startsName c then return (← takeChars isNameChar fuel [c], none)
    else if c.isDigit then return (← takeChars Char.isDigit fuel [c], none)
    else if c = '}' then
      unread c
      return ("", some .unknown)
    else if c = '#' then
      match ← next? with
      | none => return ("#", none)
      | some d =>
        if startsName d then
          let name ← takeChars isNameChar fuel [d]
          return (name, some (if (← peek?) = some '}' then .length else .unknown))
        else if d.isDigit then
          return (String.ofList [d], some (if (← peek?) = some '}' then .length else .unknown))
        else if d ≠ '}' ∧ (← peek?) = some '}' then
          return (String.ofList [d], some (if isSpecial d then .length else .unknown))
        else
          unread d
          return ("#", none)
    else if isSpecial c then return (String.ofList [c], none)
    else return ("", some .unknown)

/-- The modifier of a sign that may follow a colon. -/
def signModifier? (orNull : Bool) : Char → Option Modifier
  | '-' => some (.orElse orNull)
  | '+' => some (.andThen orNull)
  | '?' => some (.orFail orNull)
  | '=' => some (.orAssign orNull)
  | _ => none

/-- Reads the modifier behind the name of a parameter. The closing brace is taken only when there
is no modifier. -/
def readModifier : ParserM Modifier := do
  match ← next? with
  | none => return .unknown
  | some '}' => return .value
  | some '%' => return .dropBack (← takeIf '%')
  | some '#' => return .dropFront (← takeIf '#')
  | some ':' =>
    match ← next? with
    | none => return .unknown
    | some c => return (signModifier? true c).getD .unknown
  | some c => return (signModifier? false c).getD .unknown

/-- The scope of the word behind a modifier. Patterns have quotes of their own. -/
def modifierScope (quoted : Bool) : Modifier → Scope
  | .dropFront _ => .braces false false
  | .dropBack _ => .braces false false
  | _ => .braces quoted false

/-- Takes the delimiter of a text in the script if its line comes next. -/
def takeDelimiter (delimiter : List Char) (stripTabs : Bool) : ParserM Bool := do
  let input ← get
  let rest := if stripTabs then input.rest.dropWhile (· == '\t') else input.rest
  let behind := rest.drop delimiter.length
  if delimiter.isPrefixOf rest && (behind.isEmpty || behind.head? == some '\n') then
    set { input with rest := behind.drop 1, line := input.line + 1 }
    return true
  else
    set { input with rest := rest }
    return false

/-- Reads the parts of a word up to the end of its scope, which is taken unless it ends a plain
word. -/
def readParts (list : ListReader) : Nat → Scope → Builder → ParserM Word
  | 0, _, _ => refuse "end of file unexpected"
  | fuel + 1, scope, b => do
    let quoted := scope.quoted
    match ← next? with
    | none =>
      match scope.unclosed? with
      | some text => refuse text
      | none => return b.finish
    | some c =>
      if c = '\n' then
        match scope with
        | .plain =>
          unread c
          return b.finish
        | .hereText delimiter stripTabs =>
          countLine
          if ← takeDelimiter delimiter stripTabs then return (b.push c quoted).finish
          readParts list fuel scope (b.push c quoted)
        | scope =>
          countLine
          readParts list fuel scope (b.push c quoted)
      else if c = '\\' then
        match ← nextRaw? with
        | none => readParts list fuel scope (b.push c true)
        | some d =>
          if !quoted || scope.escapes d then readParts list fuel scope (b.push d true)
          else readParts list fuel scope ((b.push c true).push d true)
      else if c = backquote then
        readParts list fuel scope (b.add (← readOldCommand list quoted fuel))
      else if c = '$' then
        match ← peek? with
        | some '(' =>
          let _ ← next?
          if ← takeIf '(' then
            let expression ← readParts list fuel (.arithmetic 0) {}
            readParts list fuel scope (b.add (.arithmetic expression quoted))
          else
            let part ← readNewCommand list quoted
            readParts list fuel scope (b.add part)
        | some '{' =>
          let _ ← next?
          let (name, fixed) ← readBracedName fuel
          let modifier ← match fixed with
            | some modifier => pure modifier
            | none => readModifier
          if modifier = .value then
            readParts list fuel scope (b.add (.parameter name .value [] quoted))
          else
            let word ← readParts list fuel (modifierScope quoted modifier) {}
            readParts list fuel scope (b.add (.parameter name modifier word quoted))
        | some d =>
          if startsName d then
            let name ← takeChars isNameChar fuel []
            readParts list fuel scope (b.add (.parameter name .value [] quoted))
          else if isSpecial d then
            let _ ← next?
            readParts list fuel scope (b.add (.parameter (String.ofList [d]) .value [] quoted))
          else readParts list fuel scope (b.push c quoted)
        | none => readParts list fuel scope (b.push c quoted)
      else
        match scope with
        | .plain =>
          if endsWord c then
            unread c
            return b.finish
          else if c = '\'' then
            let chars ← readSingleQuoted fuel []
            readParts list fuel scope (b.add (.text chars true))
          else if c = '"' then
            let inside ← readParts list fuel .quotes {}
            readParts list fuel scope (b.addQuoted inside)
          else readParts list fuel scope (b.push c false)
        | .quotes =>
          if c = '"' then return b.finish
          readParts list fuel scope (b.push c true)
        | .braces false _ =>
          if c = '}' then return b.finish
          else if c = '\'' then
            let chars ← readSingleQuoted fuel []
            readParts list fuel scope (b.add (.text chars true))
          else if c = '"' then
            let inside ← readParts list fuel .quotes {}
            readParts list fuel scope (b.addQuoted inside)
          else readParts list fuel scope (b.push c false)
        | .braces true inner =>
          if c = '}' && !inner then return b.finish
          else if c = '"' then readParts list fuel (.braces true (!inner)) b
          else readParts list fuel scope (b.push c true)
        | .arithmetic depth =>
          if c = '(' then readParts list fuel (.arithmetic (depth + 1)) (b.push c true)
          else if c = ')' then
            if 0 < depth then readParts list fuel (.arithmetic (depth - 1)) (b.push c true)
            else if ← takeIf ')' then return b.finish
            else readParts list fuel scope (b.push c true)
          else readParts list fuel scope (b.push c true)
        | .hereText _ _ => readParts list fuel scope (b.push c true)

/-- Reads the lines of a text in the script as they are. -/
def readLiteralText (pending : PendingText) : Nat → List Char → ParserM String
  | 0, front => return String.ofList front.reverse
  | fuel + 1, front => do
    match ← nextRaw? with
    | none => return String.ofList front.reverse
    | some c =>
      if c = '\n' then
        if ← takeDelimiter pending.delimiter pending.stripTabs then
          return String.ofList (c :: front).reverse
      readLiteralText pending fuel (c :: front)

/-- Reads the body of a text in the script. -/
def readHereText (list : ListReader) (fuel : Nat) (pending : PendingText) : ParserM Unit := do
  let body ←
    if ← takeDelimiter pending.delimiter pending.stripTabs then pure []
    else if pending.literal then
      pure [Part.text (← readLiteralText pending fuel []) true]
    else readParts list fuel (.hereText pending.delimiter pending.stripTabs) {}
  modify fun input =>
    { input with hereTexts := input.hereTexts.setIfInBounds pending.number body }

/-- Reads the bodies of all texts that were asked for. -/
def readHereTexts (list : ListReader) (fuel : Nat) : ParserM Unit := do
  let pending := (← get).pending
  modify fun input => { input with pending := [] }
  pending.forM (readHereText list fuel)

/-- Reads the operator of a redirection behind its first sign. -/
def readRedirect (descriptor : Option Nat) (sign : Char) : ParserM Token := do
  let token (standard : Nat) (operator : RedirectOperator) :=
    Token.redirect (descriptor.getD standard) operator
  if sign = '>' then
    if ← takeIf '>' then return token 1 (.openFile .append)
    else if ← takeIf '|' then return token 1 (.openFile .overwrite)
    else if ← takeIf '&' then return token 1 .duplicate
    else return token 1 (.openFile .write)
  else if ← takeIf '<' then return token 0 (.hereText (← takeIf '-'))
  else if ← takeIf '&' then return token 0 .duplicate
  else if ← takeIf '>' then return token 0 (.openFile .readWrite)
  else return token 0 (.openFile .read)

/-- The descriptor that a word names when a redirection follows it. -/
def descriptorOf? (w : Word) : Option Nat :=
  match w with
  | [.text chars false] =>
    match chars.toList with
    | [c] => if c.isDigit then some (c.toNat - '0'.toNat) else none
    | _ => none
  | _ => none

/-- Drops a comment. -/
def dropComment : ParserM Unit :=
  modify fun input => { input with rest := input.rest.dropWhile (· != '\n') }

/-- Reads the next token of the script. -/
def scanToken (list : ListReader) : Nat → ParserM Token
  | 0 => return .endOfFile
  | fuel + 1 => do
    match ← next? with
    | none => return .endOfFile
    | some ' ' => scanToken list fuel
    | some '\t' => scanToken list fuel
    | some '#' =>
      dropComment
      scanToken list fuel
    | some '\n' =>
      countLine
      return .newline
    | some '&' => return if ← takeIf '&' then .andIf else .ampersand
    | some '|' => return if ← takeIf '|' then .orIf else .bar
    | some ';' => return if ← takeIf ';' then .endCase else .semicolon
    | some '(' => return .openParen
    | some ')' => return .closeParen
    | some '<' => readRedirect none '<'
    | some '>' => readRedirect none '>'
    | some c =>
      unread c
      let w ← readParts list fuel .plain {}
      match descriptorOf? w, ← peek? with
      | some descriptor, some sign =>
        if sign = '<' ∨ sign = '>' then
          let _ ← next?
          readRedirect (some descriptor) sign
        else return .word w
      | _, _ => return .word w

/-- The last token if it is to be read again, else the next one. -/
def currentToken (list : ListReader) (fuel : Nat) : ParserM Token := do
  let input ← get
  if input.again then
    set { input with again := false }
    return input.token
  else
    let token ← scanToken list fuel
    modify fun input => { input with token := token }
    return token

/-- Reads tokens until one is no line end. -/
def skipNewlines (list : ListReader) (fuel : Nat) : Nat → Token → ParserM Token
  | 0, token => return token
  | rounds + 1, .newline => do
    readHereTexts list fuel
    skipNewlines list fuel rounds (← currentToken list fuel)
  | _ + 1, token => return token

/-- Which tokens are read: behind line ends or not, and keywords or plain words. -/
structure TokenMode where
  overNewlines : Bool := false
  keywords : Bool := false

/-- Reads a token that stands for itself. -/
def readPlainToken (list : ListReader) (fuel : Nat) (mode : TokenMode) : ParserM Token := do
  let token ← currentToken list fuel
  let token ← if mode.overNewlines then skipNewlines list fuel fuel token else pure token
  let token := if mode.keywords then token.toKeyword else token
  modify fun input => { input with token := token }
  return token

/-- The text that a token stands for, unless it is a part of that text itself. -/
def otherText? (input : Input) : Token → Option (String × String)
  | .word w => do
    let name ← w.bare?
    let value ← input.aliases.lookup name
    let length := input.rest.length
    if input.active.any fun entry => entry.1 == name && entry.2 ≤ length then none
    return (name, value)
  | _ => none

/-- Reads a token; a word that stands for other text is replaced by it where a command can start.
`rounds` bounds how often. -/
def readTokenWithin (list : ListReader) (fuel : Nat) (mode : TokenMode) : Nat → ParserM Token
  | 0 => readPlainToken list fuel mode
  | rounds + 1 => do
    let token ← readPlainToken list fuel mode
    let input ← get
    if !mode.keywords || input.aliases.isEmpty then return token
    match otherText? input token with
    | none => return token
    | some (name, value) =>
      set { input with
        rest := value.toList ++ input.rest
        active := (name, input.rest.length) :: input.active }
      readTokenWithin list fuel mode rounds

/-- Reads a token. -/
def readToken (list : ListReader) (fuel : Nat) (mode : TokenMode) : ParserM Token :=
  readTokenWithin list fuel mode 100

/-- Lets the last token be read again. -/
def pushBack : ParserM Unit :=
  modify fun input => { input with again := true }

end UnityBuild.Shell
