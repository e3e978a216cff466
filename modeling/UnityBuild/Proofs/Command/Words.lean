import UnityBuild.Command.Reader
import UnityBuild.Proofs.Text.Words

/-!
# Commands that are written as one string

A record gives its command as a list of arguments or as one string. What is read of a record depends
on its source and on the words of its command alone, and the words of a string are the tokens that it
is written of, whatever blanks separate them. So a list of arguments and a string of the same tokens
are read alike, as the same unit or with the same error.

Main statement: `Reader.read_command_eq_read_arguments`.
-/

namespace UnityBuild

namespace CompileRecord

/-- A command string is written of tokens when these are words with at least one blank between each
two of them. Further blanks can stand anywhere between the tokens, in front of them and behind. -/
def IsWritten (command : String) (tokens : List String) : Prop :=
  Text.Spaced (tokens.map String.toList) command.toList

/-- The words of a command string are the tokens that it is written of. -/
theorem commandWords_eq_iff (command : String) (tokens : List String) :
    commandWords command = tokens ↔ IsWritten command tokens := by
  rw [IsWritten, ← Text.words_eq_iff, commandWords]
  constructor
  · rintro rfl
    simp [Function.comp_def]
  · intro hwords
    simp [hwords, Function.comp_def]

/-- Arguments are the tokens of a record when there are any, whatever stands beside them. -/
theorem tokens_of_arguments (r : CompileRecord) (tokens : List String) (hne : tokens ≠ [])
    (harguments : r.arguments = some tokens) : r.tokens = tokens := by
  obtain ⟨first, rest, rfl⟩ := List.exists_cons_of_ne_nil hne
  rw [CompileRecord.tokens, harguments]

/-- The words of the command string are the tokens of a record without arguments. -/
theorem tokens_of_command (r : CompileRecord) (command : String)
    (harguments : r.arguments = none ∨ r.arguments = some []) (hcommand : r.command = some command) :
    r.tokens = commandWords command := by
  rcases harguments with h | h <;> rw [CompileRecord.tokens, h, hcommand] <;> rfl

end CompileRecord

namespace Command.Reader

/-- Records of one source with the same tokens are read alike. -/
theorem read_congr (reader : Reader) (r r' : CompileRecord) (hsource : r.sourcePath = r'.sourcePath)
    (htokens : r.tokens = r'.tokens) : reader.read r = reader.read r' := by
  rw [read, read, CompileRecord.relativeSource, CompileRecord.relativeSource, hsource, htokens]

/-- A record with arguments and a record with a command string that is written of the same tokens are
read alike, as the same unit or with the same error. The arguments can be missing beside the string or
empty, and what stands beside the arguments and where the output goes makes no difference. -/
theorem read_command_eq_read_arguments (reader : Reader) (directory file : Path)
    (output output' : Option Path) (beside : Option String) (tokens : List String) (command : String)
    (hne : tokens ≠ []) (hwritten : CompileRecord.IsWritten command tokens) :
    reader.read ⟨directory, file, none, some command, output'⟩ =
        reader.read ⟨directory, file, some tokens, beside, output⟩ ∧
      reader.read ⟨directory, file, some [], some command, output'⟩ =
        reader.read ⟨directory, file, some tokens, beside, output⟩ := by
  have hwords := (CompileRecord.commandWords_eq_iff command tokens).mpr hwritten
  have harguments := CompileRecord.tokens_of_arguments
    ⟨directory, file, some tokens, beside, output⟩ tokens hne rfl
  constructor
  · refine reader.read_congr _ _ rfl ?_
    rw [harguments, ← hwords, CompileRecord.tokens_of_command _ command (.inl rfl) rfl]
  · refine reader.read_congr _ _ rfl ?_
    rw [harguments, ← hwords, CompileRecord.tokens_of_command _ command (.inr rfl) rfl]

/-- A command with blanks of many kinds is read as its tokens are, among them a flag that is dropped and
a definition in two tokens. -/
theorem read_command_wide_blanks :
    let reader : Reader := ⟨⟨"/p"⟩, .standard, ["-g"]⟩
    let tokens := ["cc", "-g", "-D", "A=\\\"é\\\"", "-O2", "-o", "x.o", "-c", "x.c"]
    let command := "\u3000 cc\t-g -D\u2003A=\\\"é\\\"\n-O2  -o x.o\u00a0-c\r\nx.c\u2028"
    tokens ≠ [] ∧ CompileRecord.IsWritten command tokens ∧
      reader.read ⟨⟨"/p"⟩, ⟨"x.c"⟩, none, some command, none⟩ =
        reader.read ⟨⟨"/p"⟩, ⟨"x.c"⟩, some tokens, some "ld", none⟩ ∧
      reader.read ⟨⟨"/p"⟩, ⟨"x.c"⟩, none, some command, none⟩ =
        .ok ⟨⟨"/p/x.c"⟩, "x.c", ["-DA=\\\"é\\\"", "-O2"], [⟨"A", some "\"é\"", "-DA=\\\"é\\\""⟩],
          ["-O2"]⟩ := by
  intro reader tokens command
  have hne : tokens ≠ [] := List.cons_ne_nil _ _
  have hwritten : CompileRecord.IsWritten command tokens :=
    (CompileRecord.commandWords_eq_iff _ _).mp (by decide +kernel)
  have hread := (reader.read_command_eq_read_arguments ⟨"/p"⟩ ⟨"x.c"⟩ none none (some "ld") tokens
    command hne hwritten).1
  exact ⟨hne, hwritten, hread, by decide +kernel⟩

end Command.Reader

end UnityBuild
