import UnityBuild.Proofs.Define
import UnityBuild.Proofs.Naming
import UnityBuild.Proofs.Renaming
import UnityBuild.Proofs.Text.Paragraphs
import UnityBuild.Proofs.Unity.MacroContext

/-!
# Reading the merged source

The text of the merged source is the lines of its blocks with an empty line between each two blocks.
Every line starts with the mark of the preprocessor, so no line is empty. When no included path and no
definition holds a line feed, no line does: new names consist of word characters and identifiers. So
the blocks can be read off the text, and two sources with one text have blocks of the same lines.

Main statement: `readBlocks_text`.
-/

namespace UnityBuild

namespace Text

/-- A text without a line feed. -/
def OnOneLine (s : String) : Prop :=
  '\n' ∉ s.toList

instance (s : String) : Decidable (OnOneLine s) :=
  inferInstanceAs (Decidable (¬ _))

/-- Two texts on one line make one line together. -/
theorem OnOneLine.append {s t : String} (hs : OnOneLine s) (ht : OnOneLine t) : OnOneLine (s ++ t) := by
  rw [OnOneLine, String.toList_append, List.mem_append]
  exact not_or.mpr ⟨hs, ht⟩

/-- A text with no other characters than those of a line stands on one line. -/
theorem OnOneLine.of_subset {s t : String} (ht : OnOneLine t) (h : s.toList ⊆ t.toList) :
    OnOneLine s :=
  fun hs => ht (h hs)

end Text

open Text (OnOneLine)

namespace Define

/-- A definition whose name and value stand on one line each. -/
def OnOneLine (d : Define) : Prop :=
  Text.OnOneLine d.name ∧ ∀ value ∈ d.value, Text.OnOneLine value

/-- What a flag is read as stands on one line exactly when the flag does. -/
theorem onOneLine_iff_of_parse (flag : String) (d : Define) (hparse : parse flag = .ok d) :
    d.OnOneLine ↔ Text.OnOneLine flag := by
  obtain ⟨-, -, -, raw, rfl, hvalue⟩ := (parse_eq_ok_iff flag d).mp hparse
  rw [OnOneLine, hvalue, Text.OnOneLine, Text.OnOneLine, toList_argument]
  cases raw with
  | none => simp [Text.behind]
  | some raw =>
    have hraw : '\n' ∈ (Text.unescapeQuotesText raw).toList ↔ '\n' ∈ raw.toList := by
      rw [Text.unescapeQuotesText, String.toList_ofList, Text.mem_unescapeQuotes_iff _ _ (by decide)]
    simp [Text.behind, Text.OnOneLine, hraw]

/-- The name of a macro is part of the definition's name. -/
theorem OnOneLine.macroName {d : Define} (hd : d.OnOneLine) : Text.OnOneLine d.macroName := by
  refine hd.1.of_subset ?_
  rw [Define.macroName, String.toList_ofList]
  exact (List.takeWhile_sublist _).subset

/-- What a macro stands for is written on the line of its name. -/
theorem OnOneLine.defineDirective {d : Define} (hd : d.OnOneLine) :
    Text.OnOneLine d.defineDirective := by
  obtain ⟨hname, hvalue⟩ := hd
  refine ((by decide : Text.OnOneLine "#define ").append hname).append ?_
  cases h : d.value with
  | none => exact (by decide : Text.OnOneLine " 1")
  | some value =>
    rw [replacementText]
    split
    · exact (by decide : Text.OnOneLine "")
    · exact (by decide : Text.OnOneLine " ").append (hvalue value h)

end Define

namespace Naming

/-- The name of a file has no line feed, also when its path has one. -/
theorem onOneLine_pathIdentifier (path : String) : OnOneLine (pathIdentifier path) := by
  intro hnewline
  rw [pathIdentifier, String.toList_ofList] at hnewline
  exact absurd (isWordChar_of_mem_collapseRuns false path.toList '\n' hnewline) (by decide)

/-- An identifier has no line feed. -/
theorem onOneLine_of_isIdentifier (name : String) (h : isIdentifier name = true) : OnOneLine name :=
  fun hnewline => absurd (isIdentifierRest_of_mem name.toList h '\n' hnewline) (by decide)

end Naming

namespace SourceUnit

/-- A unit whose path stands on one line, as do its definitions. -/
def OnOneLine (u : SourceUnit) : Prop :=
  Text.OnOneLine u.path ∧ ∀ d ∈ u.defines, d.OnOneLine

/-- For a unit that was made from its flags this is a matter of its path and these flags. -/
theorem onOneLine_iff (u : SourceUnit) (hmade : u.IsMade) :
    u.OnOneLine ↔ Text.OnOneLine u.path ∧ ∀ flag ∈ u.defineFlags, Text.OnOneLine flag := by
  rw [OnOneLine, defineFlags, List.forall_mem_map]
  refine and_congr_right fun _ => forall₂_congr fun d hd => ?_
  exact Define.onOneLine_iff_of_parse d.flag d (u.parse_flag_of_mem_defines hmade d hd)

end SourceUnit

namespace Unity

/-- Every line starts with the mark of the preprocessor. -/
theorem Directive.head?_text (line : Directive) : line.text.toList.head? = some '#' := by
  cases line <;> simp [Directive.text, Define.defineDirective]

/-- A line whose parts stand on one line. -/
def Directive.OnOneLine : Directive → Prop
  | define definition => definition.OnOneLine
  | rename change => Text.OnOneLine change.identifier ∧ Text.OnOneLine change.newName
  | includeHeader name => Text.OnOneLine name
  | includeFile path => Text.OnOneLine path
  | undefine name => Text.OnOneLine name

/-- What is written around the parts of a line holds no line feed. -/
theorem Directive.OnOneLine.text {line : Directive} (h : line.OnOneLine) : Text.OnOneLine line.text := by
  cases line with
  | define definition => exact Define.OnOneLine.defineDirective h
  | rename change =>
    exact (((by decide : Text.OnOneLine "#define ").append h.1).append (by decide)).append h.2
  | includeHeader name => exact ((by decide : Text.OnOneLine "#include <").append h).append (by decide)
  | includeFile path => exact ((by decide : Text.OnOneLine "#include \"").append h).append (by decide)
  | undefine name => exact (by decide : Text.OnOneLine "#undef ").append h

namespace Block

/-- The lines of the first block. -/
theorem onOneLine_of_mem_bootstrap : ∀ line ∈ bootstrap.lines, OnOneLine line.text := by
  decide

/-- New names stand on one line, since they are made from word characters and identifiers. -/
theorem onOneLine_of_mem_renamingsFor (pairs : List (String × String)) (u : SourceUnit)
    (change : Renaming) (h : change ∈ (RenamingTable.ofList pairs).renamingsFor u.path u.identifier) :
    OnOneLine change.identifier ∧ OnOneLine change.newName := by
  obtain ⟨hpair, hname⟩ := (RenamingTable.mem_renamingsFor _ _ _ _).mp h
  have hidentifier := Naming.onOneLine_of_isIdentifier _ ((RenamingTable.mem_ofList _ _).mp hpair).2
  rw [hname]
  exact ⟨hidentifier, ((Naming.onOneLine_pathIdentifier u.path).append (by decide)).append hidentifier⟩

/-- The lines of the block of a unit whose path and definitions stand on one line each. -/
theorem onOneLine_of_mem_ofUnit (u : SourceUnit) (common : CommonDefines)
    (pairs : List (String × String)) (hu : u.OnOneLine) :
    ∀ line ∈ (ofUnit u common (.ofList pairs)).lines, line.OnOneLine := by
  have hdefine (d : Define) (hd : d ∈ common.localDefines u) : d.OnOneLine :=
    hu.2 d ((common.mem_localDefines_iff u d).mp hd).1
  have hchange := onOneLine_of_mem_renamingsFor pairs u
  intro line hline
  rcases List.mem_append.mp hline with hopening | hinclude
  · rcases List.mem_append.mp hopening with hmem | hmem
    · obtain ⟨d, hd, rfl⟩ := List.mem_map.mp hmem
      exact hdefine d hd
    · obtain ⟨change, hlisted, rfl⟩ := List.mem_map.mp hmem
      exact hchange change hlisted
  · rcases List.mem_cons.mp hinclude with rfl | hclosing
    · exact hu.1
    · obtain ⟨name, hname, rfl⟩ := List.mem_map.mp hclosing
      rcases List.mem_append.mp (List.mem_reverse.mp hname) with hmem | hmem
      · obtain ⟨d, hd, rfl⟩ := List.mem_map.mp hmem
        exact (hdefine d hd).macroName
      · obtain ⟨change, hlisted, rfl⟩ := List.mem_map.mp hmem
        exact (hchange change hlisted).1

end Block

namespace Source

/-- The merged sources whose included units stand on one line each, with any shared definitions, skip
list and renamings. -/
inductive IsPlain : Source → Prop
  | build (p : Plan) (units : List SourceUnit) (common : CommonDefines) (skip : SkipSet)
      (pairs : List (String × String)) (hunits : ∀ u ∈ p.retained skip units, u.OnOneLine) :
      IsPlain (p.build units common skip (.ofList pairs))

/-- The characters of the lines of each block. -/
def characters (s : Source) : List (List (List Char)) :=
  s.blocks.map fun b => b.texts.map String.toList

/-- The text is the blocks, written as paragraphs, and a final line feed. -/
theorem toList_text (s : Source) : s.text.toList = Text.writeParagraphs s.characters ++ ['\n'] := by
  rw [text, String.toList_append, String.toList_intercalate, Text.writeParagraphs, characters,
    List.map_map, List.map_map]
  refine congrArg (fun blocks => ['\n', '\n'].intercalate blocks ++ ['\n']) ?_
  refine List.map_congr_left fun b _ => ?_
  exact String.toList_intercalate

/-- The lines of each block, got back from their characters. -/
theorem map_ofList_characters (s : Source) :
    s.characters.map (·.map String.ofList) = s.blocks.map Block.texts := by
  rw [characters, List.map_map]
  refine List.map_congr_left fun b _ => ?_
  simp [Function.comp_def]

/-- Every line starts with the mark of the preprocessor. -/
theorem head?_of_mem_characters (s : Source) :
    ∀ lines ∈ s.characters, ∀ line ∈ lines, line.head? = some '#' := by
  intro lines hlines line hline
  obtain ⟨b, -, rfl⟩ := List.mem_map.mp hlines
  obtain ⟨text, htext, rfl⟩ := List.mem_map.mp hline
  obtain ⟨directive, -, rfl⟩ := List.mem_map.mp htext
  exact directive.head?_text

namespace IsPlain

variable {s : Source}

/-- There is a first block. -/
theorem characters_ne_nil (hs : s.IsPlain) : s.characters ≠ [] := by
  obtain ⟨p, units, common, skip, pairs, -⟩ := hs
  exact List.cons_ne_nil _ _

/-- Every block has lines, and these hold no line feed. -/
theorem lines_of_mem_blocks (hs : s.IsPlain) (b : Block) (hb : b ∈ s.blocks) :
    b.lines ≠ [] ∧ ∀ line ∈ b.lines, OnOneLine line.text := by
  obtain ⟨p, units, common, skip, pairs, hunits⟩ := hs
  rcases List.mem_cons.mp hb with rfl | hb
  · exact ⟨List.cons_ne_nil _ _, Block.onOneLine_of_mem_bootstrap⟩
  · obtain ⟨u, hu, rfl⟩ := List.mem_map.mp hb
    refine ⟨by simp [Block.ofUnit], fun line hline => ?_⟩
    exact (Block.onOneLine_of_mem_ofUnit u common pairs (hunits u hu) line hline).text

/-- No line of a block is empty or holds a line feed. -/
theorem isBlock (hs : s.IsPlain) : ∀ lines ∈ s.characters, Text.IsBlock lines := by
  intro lines hlines
  have hhead := s.head?_of_mem_characters lines hlines
  obtain ⟨b, hb, rfl⟩ := List.mem_map.mp hlines
  obtain ⟨hne, honeLine⟩ := hs.lines_of_mem_blocks b hb
  refine ⟨by simpa [Block.texts] using hne, fun line hline => ⟨?_, ?_⟩⟩
  · rintro rfl
    cases hhead [] hline
  · obtain ⟨text, htext, rfl⟩ := List.mem_map.mp hline
    obtain ⟨directive, hdirective, rfl⟩ := List.mem_map.mp htext
    exact honeLine directive hdirective

/-- A line of the text is empty or starts with the mark of the preprocessor. -/
theorem eq_nil_or_head?_of_mem_splitAt (hs : s.IsPlain) :
    ∀ line ∈ Text.splitAt (· == '\n') s.text.toList, line = [] ∨ line.head? = some '#' := by
  intro line hline
  rw [s.toList_text, Text.splitAt_append_separator _ _ _ _ (by rfl)] at hline
  rcases List.mem_append.mp hline with hfront | hlast
  · refine (Text.eq_nil_or_mem_of_mem_splitAt _ hs.characters_ne_nil hs.isBlock line hfront).imp_right ?_
    rintro ⟨lines, hlines, hmem⟩
    exact s.head?_of_mem_characters lines hlines line hmem
  · exact .inl (List.mem_singleton.mp hlast)

end IsPlain

end Source

/-- The lines of a text's blocks: the text without its final line feed is cut at the empty lines and
each part at the line feeds. -/
def readBlocks (text : String) : List (List String) :=
  (Text.paragraphs text.toList.dropLast).map fun block =>
    (Text.splitAt (· == '\n') block).map String.ofList

/-- The blocks are read off the text. -/
theorem Source.IsPlain.readBlocks_eq {s : Source} (hs : s.IsPlain) :
    readBlocks s.text = s.blocks.map Block.texts := by
  rw [readBlocks, s.toList_text, List.dropLast_concat,
    Text.paragraphs_writeParagraphs _ hs.characters_ne_nil hs.isBlock, List.map_map,
    ← s.map_ofList_characters]
  refine List.map_congr_left fun lines hlines => ?_
  exact congrArg (List.map String.ofList) (Text.splitAt_writeLines lines (hs.isBlock lines hlines))

/-- A unit that was made from its flags stands on one line when its path does, and the flags of its
definitions. The text of a merged source of such units ends in a line feed, and a line of it is empty
or starts with the mark of the preprocessor. Cutting it at the empty lines and then at the line feeds
gives the lines of the blocks, block by block, so another such source with the same text has the same
lines. -/
theorem readBlocks_text :
    (∀ u : SourceUnit, u.IsMade →
      (u.OnOneLine ↔ OnOneLine u.path ∧ ∀ flag ∈ u.defineFlags, OnOneLine flag)) ∧
    ∀ s : Source, s.IsPlain →
      (∃ front, s.text = front ++ "\n") ∧
      (∀ line ∈ Text.splitAt (· == '\n') s.text.toList, line = [] ∨ line.head? = some '#') ∧
      readBlocks s.text = s.blocks.map Block.texts ∧
      ∀ other : Source, other.IsPlain → other.text = s.text →
        other.blocks.map Block.texts = s.blocks.map Block.texts := by
  refine ⟨SourceUnit.onOneLine_iff, fun s hs => ⟨⟨_, rfl⟩, hs.eq_nil_or_head?_of_mem_splitAt,
    hs.readBlocks_eq, ?_⟩⟩
  intro other hother htext
  rw [← hother.readBlocks_eq, htext, hs.readBlocks_eq]

/-- Two units with a definition of their own each, of which one has a clash. -/
theorem readBlocks_text_sharingUnits :
    let s := Plan.sample.build sharingUnits (.hoist sharingUnits) .empty (.ofList [("y.c", "f")])
    (∀ u ∈ sharingUnits, u.IsMade) ∧ s.IsPlain ∧
      readBlocks s.text =
        [["#define _GNU_SOURCE", "#include <pthread.h>", "#include <sched.h>", "#undef _GNU_SOURCE"],
          ["#define FOO 1", "#include \"x.c\"", "#undef FOO"],
          ["#define FOO 2", "#define f y_c__f", "#include \"y.c\"", "#undef f", "#undef FOO"]] := by
  intro s
  have hmade : ∀ u ∈ sharingUnits, u.IsMade := by
    unfold SourceUnit.IsMade
    decide
  have hlines : ∀ u ∈ sharingUnits, OnOneLine u.path ∧ ∀ flag ∈ u.defineFlags, OnOneLine flag := by
    decide
  have hplain : s.IsPlain := by
    refine .build _ _ _ _ _ fun u hincluded => ?_
    have hu := (List.mem_filter.mp hincluded).1
    exact (readBlocks_text.1 u (hmade u hu)).mpr (hlines u hu)
  refine ⟨hmade, hplain, ((readBlocks_text.2 s hplain).2.2.1).trans ?_⟩
  decide +kernel

end Unity

end UnityBuild
