/-!
# Searching with regular expressions

A regular expression is a tree. It is found at the first place of a line where it can start, and
there it takes as many characters as it can. All places behind it are found at once, as the set of
places that its parts lead to, so that only the number of places counts and not the number of ways.

What the parts in parentheses take is asked only when the end is known: then the ways are tried in
order, the first branch before the second and more rounds before fewer, and the first way that
leads to the end counts. An expression that repeats what a group took has no such set; for it, the
ways are tried for every end, the furthest first.
-/

namespace UnityBuild.Shell

/-- A regular expression. -/
inductive Regex where
  /-- Takes nothing. -/
  | nothing
  /-- Takes one character. -/
  | char (test : Char → Bool)
  /-- Takes nothing, where the characters on both sides are right. -/
  | assert (test : Option Char → Option Char → Bool)
  /-- Takes one part behind the other. -/
  | sequence (first second : Regex)
  /-- Takes one of two parts. -/
  | either (first second : Regex)
  /-- Takes a part several times. -/
  | repeated (body : Regex) (least : Nat) (most : Option Nat)
  /-- Takes a part and remembers what it took. -/
  | group (number : Nat) (body : Regex)
  /-- Takes what a group took. -/
  | again (number : Nat)

namespace Regex

/-- A place in a line: the character before it, the rest of the line, and how many characters
stand before it. -/
structure Place where
  before : Option Char
  rest : List Char
  index : Nat

/-- The start of a line. -/
def startOf (line : List Char) : Place :=
  ⟨none, line, 0⟩

/-- The place behind the next character, with that character. -/
def Place.next? (place : Place) : Option (Char × Place) :=
  match place.rest with
  | [] => none
  | c :: rest => some (c, ⟨some c, rest, place.index + 1⟩)

/-- The place behind several characters. -/
def Place.advance (place : Place) : Nat → Place
  | 0 => place
  | count + 1 =>
    match place.next? with
    | some (_, behind) => behind.advance count
    | none => place

/-- The characters from one place to a later one. -/
def Place.textTo (start stop : Place) : List Char :=
  start.rest.take (stop.index - start.index)

/-- Whether an expression repeats what a group took. -/
def repeats : Regex → Bool
  | again _ => true
  | sequence first second => first.repeats || second.repeats
  | either first second => first.repeats || second.repeats
  | repeated body _ _ => body.repeats
  | group _ body => body.repeats
  | _ => false

/-! ### Sets of places -/

/-- The places of two sets, the furthest first. -/
def merge : List Place → List Place → List Place
  | [], q => q
  | p, [] => p
  | a :: p, b :: q =>
    if a.index = b.index then a :: merge p q
    else if b.index < a.index then a :: merge p (b :: q)
    else b :: merge (a :: p) q
termination_by p q => p.length + q.length

/-- The places of the first set that are not in the second. -/
def without : List Place → List Place → List Place
  | [], _ => []
  | p, [] => p
  | a :: p, b :: q =>
    if a.index = b.index then without p q
    else if b.index < a.index then a :: without p (b :: q)
    else without (a :: p) q
termination_by p q => p.length + q.length

/-- All places that rounds lead to from the new ones of a set, until there are no new ones. -/
def reached (round : List Place → List Place) :
    Nat → (known : List Place) → (new : List Place) → List Place
  | 0, known, _ => known
  | rounds + 1, known, new =>
    if new.isEmpty then known
    else
      let found := without (round new) known
      reached round rounds (merge found known) found

/-- The places behind an expression that starts at one of several places, the furthest first. -/
def ends : Regex → List Place → List Place
  | nothing, places => places
  | char test, places =>
    places.filterMap fun place =>
      place.next?.bind fun (c, behind) => if test c then some behind else none
  | assert test, places => places.filter fun place => test place.before place.rest.head?
  | sequence first second, places =>
    let middle := first.ends places
    if middle.isEmpty then [] else second.ends middle
  | either first second, places => merge (first.ends places) (second.ends places)
  | repeated body least most, places =>
    let start := (List.replicate least ()).foldl (fun places _ => body.ends places) places
    let rounds := match most with
      | some most => most - least
      | none => start.foldl (fun n place => max n place.rest.length) 0 + 1
    reached body.ends rounds start start
  | group _ body, places => body.ends places
  | again _, _ => []

/-! ### Ways -/

/-- What groups took, the last one first. -/
abbrev Groups := List (Nat × List Char)

/-- How a way goes on behind a part. -/
abbrev Next := Place → Groups → Option Groups

/-- Tries a part as often as it can be found; `rounds` bounds how often. Rounds that take something
come first, then no further round, and at last a round that takes nothing. -/
def tryRepeated (body : Place → Groups → Next → Option Groups) :
    Nat → Nat → Option Nat → Place → Groups → Next → Option Groups
  | 0, least, _, place, groups, next => if least = 0 then next place groups else none
  | rounds + 1, least, most, place, groups, next =>
    let round (go : Next) := if most = some 0 then none else body place groups go
    let further (_ : Unit) := round fun behind groups =>
      if behind.index = place.index then none
      else tryRepeated body rounds (least - 1) (most.map (· - 1)) behind groups next
    let stop (_ : Unit) := if least = 0 then next place groups else none
    let empty (_ : Unit) := round fun behind groups =>
      if behind.index = place.index then next behind groups else none
    ((further ()).orElse stop).orElse empty

/-- Tries the ways of an expression in order, until one can go on behind it. -/
def tryWays : Regex → Place → Groups → Next → Option Groups
  | nothing, place, groups, next => next place groups
  | char test, place, groups, next =>
    match place.next? with
    | some (c, behind) => if test c then next behind groups else none
    | none => none
  | assert test, place, groups, next =>
    if test place.before place.rest.head? then next place groups else none
  | sequence first second, place, groups, next =>
    first.tryWays place groups fun behind groups => second.tryWays behind groups next
  | either first second, place, groups, next =>
    match first.tryWays place groups next with
    | some found => some found
    | none => second.tryWays place groups next
  | repeated body least most, place, groups, next =>
    tryRepeated body.tryWays (place.rest.length + least + 1) least most place groups next
  | group number body, place, groups, next =>
    body.tryWays place groups fun behind groups =>
      next behind ((number, place.textTo behind) :: groups)
  | again number, place, groups, next =>
    match groups.lookup number with
    | some chars =>
      if chars.isPrefixOf place.rest then next (place.advance chars.length) groups else none
    | none => none

/-- What groups take on the first way from one place to another. -/
def groupsTo (regex : Regex) (start stop : Place) : Option Groups :=
  regex.tryWays start [] fun behind groups =>
    if behind.index = stop.index then some groups else none

/-! ### Searching -/

/-- Where an expression was found. -/
structure Match where
  regex : Regex
  start : Place
  stop : Place

/-- The text that was found. -/
def Match.text (found : Match) : List Char :=
  found.start.textTo found.stop

/-- What the groups of the expression took. -/
def Match.groups (found : Match) : Groups :=
  (found.regex.groupsTo found.start found.stop).getD []

/-- The places behind an expression that starts at a place, the furthest first. -/
def endsAt (regex : Regex) (start : Place) : List Place :=
  if regex.repeats then
    let places := ends (.repeated (.char fun _ => true) 0 none) [start]
    places.filter fun stop => (regex.groupsTo start stop).isSome
  else regex.ends [start]

/-- Finds one of several expressions at a place, with an end that is wanted. -/
def findAt? (regexes : List Regex) (wanted : Place → Place → Bool) (start : Place) :
    Option Match :=
  let found := regexes.filterMap fun regex =>
    ((regex.endsAt start).find? (wanted start)).map fun stop => Match.mk regex start stop
  found.foldl (fun best other =>
    match best with
    | some first => if first.stop.index < other.stop.index then some other else best
    | none => some other) none

/-- Finds one of several expressions at a place or behind it; `rounds` bounds how many places there
are. -/
def findFrom (regexes : List Regex) (wanted : Place → Place → Bool) : Nat → Place → Option Match
  | 0, _ => none
  | rounds + 1, place =>
    match findAt? regexes wanted place with
    | some found => some found
    | none =>
      match place.next? with
      | some (_, behind) => findFrom regexes wanted rounds behind
      | none => none

/-- Finds one of several expressions at a place or behind it, with an end that is wanted. -/
def findAny? (regexes : List Regex) (wanted : Place → Place → Bool) (place : Place) :
    Option Match :=
  findFrom regexes wanted (place.rest.length + 1) place

/-- Finds an expression at a place or behind it. -/
def find? (regex : Regex) (place : Place) : Option Match :=
  findAny? [regex] (fun _ _ => true) place

/-- Characters of words. -/
def isWordChar (c : Char) : Bool :=
  c.isAlphanum || c == '_'

/-- Whether a word starts between two characters. -/
def startsWord (before after : Option Char) : Bool :=
  !before.any isWordChar && after.any isWordChar

/-- Whether a word ends between two characters. -/
def endsWord (before after : Option Char) : Bool :=
  before.any isWordChar && !after.any isWordChar

end Regex

end UnityBuild.Shell
