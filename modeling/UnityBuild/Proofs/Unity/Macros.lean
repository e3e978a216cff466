import Mathlib.Data.List.Induction
import Mathlib.Logic.Function.Basic
import UnityBuild.Unity.Basic

/-!
# Macros in force along the merged source

The lines of the merged source are read as the preprocessor reads them: a definition or a renaming
sets one name, a line that ends a definition frees one name, and an included file or header is
taken to leave all names alone. The flags on the command line come first, in their order, and the
last definition of a name counts.

Main statements: `run_blockLines_apply` says what blocks leave behind, and
`contexts_blockLines_getElem?` which macros an included file sees.
-/

namespace UnityBuild.Unity

/-- The macros in force: for each name the directive that defined it last. -/
abbrev Macros := String → Option String

namespace Macros

/-- No macro is in force. -/
def empty : Macros := fun _ => none

/-- A definition sets the name of its macro. -/
def define (m : Macros) (d : Define) : Macros :=
  Function.update m d.macroName (some d.defineDirective)

/-- What one line does to the macros in force. -/
def step (m : Macros) : Directive → Macros
  | .define d => m.define d
  | .rename r => Function.update m r.identifier (some (Directive.rename r).text)
  | .includeHeader _ => m
  | .includeFile _ => m
  | .undefine name => Function.update m name none

/-- What lines do to the macros in force, one after the other. -/
def run (m : Macros) (lines : List Directive) : Macros :=
  lines.foldl step m

/-- The macros that definitions bring into force, the last one of each name. -/
def ofDefines (defines : List Define) : Macros :=
  defines.foldl define empty

/-- The definitions among the flags of a command line. -/
def definesOf (flags : List String) : List Define :=
  flags.filterMap fun flag => (Define.parse flag).toOption

/-- The macros that a command line brings into force. -/
def ofFlags (flags : List String) : Macros :=
  ofDefines (definesOf flags)

/-- The files that lines include, each with the macros in force at that line. -/
def contexts (m : Macros) : List Directive → List (String × Macros)
  | [] => []
  | .includeFile path :: lines => (path, m) :: contexts m lines
  | line :: lines => contexts (m.step line) lines

end Macros

/-- The macros with which a unit is compiled on its own. -/
def ownMacros (u : SourceUnit) : Macros :=
  .ofDefines u.defines

/-- The files that the merged source includes, each with the macros in force there. -/
def Source.contexts (s : Source) : List (String × Macros) :=
  (Macros.ofFlags s.globalFlags).contexts (s.blocks.flatMap Block.lines)

/-- The names that the block of a unit sets and frees again. -/
def Block.names (u : SourceUnit) (common : CommonDefines) (table : RenamingTable) : List String :=
  (common.localDefines u).map Define.macroName ++
    (table.renamingsFor u.path u.identifier).map Renaming.identifier

/-- A block sets its names in front of the include and frees them behind it, the last one first. -/
theorem Block.lines_ofUnit (u : SourceUnit) (common : CommonDefines) (table : RenamingTable) :
    (Block.ofUnit u common table).lines =
      Block.opening (common.localDefines u) (table.renamingsFor u.path u.identifier) ++
        .includeFile u.path :: (Block.names u common table).reverse.map .undefine := rfl

/-- The lines of the blocks of units, one block after the other. -/
def blockLines (common : CommonDefines) (table : RenamingTable) (units : List SourceUnit) :
    List Directive :=
  units.flatMap fun u => (Block.ofUnit u common table).lines

/-- The last of the definitions that name a macro. -/
def lastNamed? (name : String) (defines : List Define) : Option Define :=
  (defines.filter fun d => d.macroName == name).getLast?

/-- A further definition is the last one of its own name and of no other. -/
theorem lastNamed?_append_singleton (name : String) (defines : List Define) (d : Define) :
    lastNamed? name (defines ++ [d]) =
      if d.macroName = name then some d else lastNamed? name defines := by
  by_cases hname : d.macroName = name
  · simp [lastNamed?, List.filter_append, hname]
  · simp [lastNamed?, List.filter_append, hname]

/-- No definition is the last of its name exactly when none has the name. -/
theorem lastNamed?_eq_none_iff (name : String) (defines : List Define) :
    lastNamed? name defines = none ↔ ∀ d ∈ defines, d.macroName ≠ name := by
  simp [lastNamed?]

/-- The last definition of a name is one of the definitions and has the name. -/
theorem mem_of_lastNamed? (name : String) (defines : List Define) (d : Define)
    (h : lastNamed? name defines = some d) : d ∈ defines ∧ d.macroName = name := by
  have hmem : d ∈ defines.filter fun d => d.macroName == name := List.mem_of_getLast? h
  simpa using hmem

/-- Dropping definitions keeps the last of a name when that one is kept. -/
theorem lastNamed?_filter_of_keep (name : String) (defines : List Define) (keep : Define → Bool)
    (d : Define) (h : lastNamed? name defines = some d) (hkeep : keep d = true) :
    lastNamed? name (defines.filter keep) = some d := by
  obtain ⟨earlier, hearlier⟩ := List.getLast?_eq_some_iff.mp h
  have hswap : (defines.filter keep).filter (fun d => d.macroName == name) =
      (defines.filter fun d => d.macroName == name).filter keep := by
    rw [List.filter_filter, List.filter_filter]
    congr 1
    funext e
    exact Bool.and_comm _ _
  rw [lastNamed?, hswap, hearlier]
  simp [List.filter_append, hkeep]

namespace Macros

/-- Lines one after the other do what both parts do one after the other. -/
theorem run_append (m : Macros) (first second : List Directive) :
    m.run (first ++ second) = (m.run first).run second :=
  List.foldl_append

/-- Definitions leave a name with the last of their directives, or as it was. -/
theorem foldl_define_apply (m : Macros) (defines : List Define) (name : String) :
    defines.foldl define m name =
      ((lastNamed? name defines).map Define.defineDirective).or (m name) := by
  induction defines using List.reverseRecOn with
  | nil => rfl
  | append_singleton defines d ih =>
    rw [List.foldl_append, lastNamed?_append_singleton]
    by_cases hname : d.macroName = name
    · subst hname
      simp [define]
    · simp [define, hname, Function.update_of_ne (Ne.symm hname), ih]

/-- The macros of definitions are the directives that come last. -/
theorem ofDefines_apply (defines : List Define) (name : String) :
    ofDefines defines name = (lastNamed? name defines).map Define.defineDirective := by
  rw [ofDefines, foldl_define_apply, empty, Option.or_none]

/-- Lines that end definitions free their names and no other. -/
theorem run_undefine_apply (m : Macros) (names : List String) (name : String) :
    m.run (names.map .undefine) name = if name ∈ names then none else m name := by
  induction names generalizing m with
  | nil => rfl
  | cons first names ih =>
    have hstep : m.run ((first :: names).map .undefine) =
        (m.step (.undefine first)).run (names.map .undefine) := rfl
    rw [hstep, ih]
    by_cases hfirst : name = first
    · simp [step, hfirst]
    · simp [step, hfirst]

/-- The lines in front of an include set their names and no other. -/
theorem run_opening_apply_of_not_mem (m : Macros) (defines : List Define)
    (renamings : List Renaming) (name : String)
    (hname : name ∉ defines.map Define.macroName ++ renamings.map Renaming.identifier) :
    m.run (Block.opening defines renamings) name = m name := by
  have hset : ∀ line ∈ Block.opening defines renamings, ∀ m : Macros, m.step line name = m name := by
    intro line hline m
    simp only [List.mem_append, List.mem_map, not_or, not_exists, not_and] at hname
    rcases List.mem_append.mp hline with hdefine | hrename
    · obtain ⟨d, hd, rfl⟩ := List.mem_map.mp hdefine
      exact Function.update_of_ne (Ne.symm (hname.1 d hd)) _ _
    · obtain ⟨r, hr, rfl⟩ := List.mem_map.mp hrename
      exact Function.update_of_ne (Ne.symm (hname.2 r hr)) _ _
  generalize Block.opening defines renamings = lines at hset
  induction lines generalizing m with
  | nil => rfl
  | cons line lines ih =>
    have htail := ih (m.step line) fun other hother => hset other (List.mem_cons_of_mem _ hother)
    exact htail.trans (hset line List.mem_cons_self m)

/-- A block frees the names that it set and leaves all others as they were. -/
theorem run_block_apply (m : Macros) (u : SourceUnit) (common : CommonDefines)
    (table : RenamingTable) (name : String) :
    m.run (Block.ofUnit u common table).lines name =
      if name ∈ Block.names u common table then none else m name := by
  have hinclude (n : Macros) (lines : List Directive) :
      n.run (.includeFile u.path :: lines) = n.run lines := rfl
  rw [Block.lines_ofUnit, run_append, hinclude, run_undefine_apply]
  by_cases hname : name ∈ Block.names u common table
  · rw [if_pos (List.mem_reverse.mpr hname), if_pos hname]
  · rw [if_neg fun h => hname (List.mem_reverse.mp h), if_neg hname]
    exact run_opening_apply_of_not_mem m _ _ name hname

/-- Blocks free the names that any of them set and leave all others as they were. -/
theorem run_blockLines_apply (m : Macros) (common : CommonDefines) (table : RenamingTable)
    (units : List SourceUnit) (name : String) :
    m.run (blockLines common table units) name =
      if ∃ u ∈ units, name ∈ Block.names u common table then none else m name := by
  induction units generalizing m with
  | nil => simp [blockLines, run]
  | cons u units ih =>
    have hlines : blockLines common table (u :: units) =
        (Block.ofUnit u common table).lines ++ blockLines common table units := rfl
    rw [hlines, run_append, ih, run_block_apply]
    by_cases hu : name ∈ Block.names u common table
    · simp [hu]
    · simp [hu]

/-- The files included by two parts of a source are those of the first and then those of the
second, which sees what the first left behind. -/
theorem contexts_append (m : Macros) (first second : List Directive) :
    m.contexts (first ++ second) = m.contexts first ++ (m.run first).contexts second := by
  induction first generalizing m with
  | nil => rfl
  | cons line lines ih =>
    cases line with
    | includeFile path => exact congrArg (List.cons (path, m)) (ih m)
    | define d => exact ih (m.step (.define d))
    | rename r => exact ih (m.step (.rename r))
    | includeHeader name => exact ih (m.step (.includeHeader name))
    | undefine name => exact ih (m.step (.undefine name))

/-- Lines that include no file give no file any macros. -/
theorem contexts_eq_nil (m : Macros) (lines : List Directive)
    (h : ∀ path, Directive.includeFile path ∉ lines) : m.contexts lines = [] := by
  induction lines generalizing m with
  | nil => rfl
  | cons line lines ih =>
    have htail (n : Macros) : n.contexts lines = [] :=
      ih n fun path hpath => h path (List.mem_cons_of_mem _ hpath)
    cases line with
    | includeFile path => exact absurd List.mem_cons_self (h path)
    | define d => exact htail _
    | rename r => exact htail _
    | includeHeader name => exact htail _
    | undefine name => exact htail _

/-- A block includes one file, which sees what the lines in front of it set. -/
theorem contexts_block (m : Macros) (u : SourceUnit) (common : CommonDefines)
    (table : RenamingTable) :
    m.contexts (Block.ofUnit u common table).lines =
      [(u.path, m.run (Block.opening (common.localDefines u)
        (table.renamingsFor u.path u.identifier)))] := by
  have hopening : m.contexts (Block.opening (common.localDefines u)
      (table.renamingsFor u.path u.identifier)) = [] :=
    contexts_eq_nil m _ fun path hpath => by simp [Block.opening] at hpath
  have hclosing (n : Macros) :
      n.contexts ((Block.names u common table).reverse.map .undefine) = [] :=
    contexts_eq_nil n _ fun path hpath => by simp at hpath
  rw [Block.lines_ofUnit, contexts_append, hopening, contexts, hclosing]
  rfl

/-- Blocks include one file each. -/
theorem length_contexts_blockLines (m : Macros) (common : CommonDefines) (table : RenamingTable)
    (units : List SourceUnit) : (m.contexts (blockLines common table units)).length = units.length := by
  induction units generalizing m with
  | nil => rfl
  | cons u units ih =>
    have hlines : blockLines common table (u :: units) =
        (Block.ofUnit u common table).lines ++ blockLines common table units := rfl
    rw [hlines, contexts_append, contexts_block, List.length_append, ih, List.length_cons]
    exact Nat.add_comm 1 units.length

/-- The file of a unit sees what the blocks before it left behind and the lines in front of it
set. -/
theorem contexts_blockLines_getElem? (m : Macros) (common : CommonDefines) (table : RenamingTable)
    (before after : List SourceUnit) (u : SourceUnit) :
    (m.contexts (blockLines common table (before ++ u :: after)))[before.length]? =
      some (u.path, (m.run (blockLines common table before)).run
        (Block.opening (common.localDefines u) (table.renamingsFor u.path u.identifier))) := by
  have hlines : blockLines common table (before ++ u :: after) =
      blockLines common table before ++
        ((Block.ofUnit u common table).lines ++ blockLines common table after) := by
    simp [blockLines]
  rw [hlines, contexts_append, contexts_append, contexts_block,
    List.getElem?_append_right (Nat.le_of_eq (length_contexts_blockLines m common table before)),
    length_contexts_blockLines, Nat.sub_self]
  rfl

end Macros

end UnityBuild.Unity
