import UnityBuild.Naming

/-!
# Renaming tables

A table says which identifiers of which files are renamed. It is the set of pairs of a file and
an identifier, kept in increasing order of the file and then of the identifier, so tables with
the same pairs are equal. Only identifiers of C enter it.
-/

namespace UnityBuild

/-- One renaming: an identifier and the name it gets. -/
structure Renaming where
  identifier : String
  newName : String
deriving DecidableEq, Repr

/-- A set of pairs of a file and an identifier. -/
structure RenamingTable where
  pairs : List (String × String)
deriving DecidableEq, Repr

namespace RenamingTable

/-- The table without pairs. -/
def empty : RenamingTable := ⟨[]⟩

/-- Pairs are ordered by the file and then by the identifier, code point by code point. -/
def precedes (a b : String × String) : Bool :=
  decide (a.1 < b.1) || (a.1 == b.1 && decide (a.2 < b.2))

/-- Puts a pair in its place in an increasing list, unless it is there. -/
def insertPair (pair : String × String) : List (String × String) → List (String × String)
  | [] => [pair]
  | next :: rest =>
    if pair = next then next :: rest
    else if precedes pair next then pair :: next :: rest
    else next :: insertPair pair rest

/-- Whether a pair can be added: it names an identifier of C and is not there yet. -/
def isNew (t : RenamingTable) (file identifier : String) : Bool :=
  Naming.isIdentifier identifier && !t.pairs.contains (file, identifier)

/-- Adds a pair; a name that is no identifier changes nothing. -/
def insert (t : RenamingTable) (file identifier : String) : RenamingTable :=
  if Naming.isIdentifier identifier then ⟨insertPair (file, identifier) t.pairs⟩ else t

/-- The table of a list of pairs. -/
def ofList (pairs : List (String × String)) : RenamingTable :=
  pairs.foldl (fun t pair => t.insert pair.1 pair.2) empty

/-- The files with a renamed identifier, in order. -/
def files (t : RenamingTable) : List String :=
  (t.pairs.map Prod.fst).eraseDups

/-- The renamed identifiers of a file, in order. -/
def identifiersFor (t : RenamingTable) (file : String) : List String :=
  (t.pairs.filter fun pair => pair.1 == file).map Prod.snd

/-- The renamings of a file whose name among the files is `fileName`. -/
def renamingsFor (t : RenamingTable) (file fileName : String) : List Renaming :=
  (t.identifiersFor file).map fun identifier => ⟨identifier, Naming.qualify fileName identifier⟩

/-- The rows of the table: each file with its identifiers. -/
def rows (t : RenamingTable) : List (String × List String) :=
  t.files.map fun file => (file, t.identifiersFor file)

/-- How many files have a renamed identifier. -/
def fileCount (t : RenamingTable) : Nat :=
  t.files.length

/-- How many pairs the table holds. -/
def identifierCount (t : RenamingTable) : Nat :=
  t.pairs.length

/-- Whether nothing is renamed. -/
def isEmpty (t : RenamingTable) : Bool :=
  t.pairs.isEmpty

end RenamingTable

end UnityBuild
