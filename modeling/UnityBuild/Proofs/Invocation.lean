import UnityBuild.Invocation
import UnityBuild.Proofs.Path.Components
import UnityBuild.Proofs.ShellWords
import UnityBuild.Proofs.Text.Escaped
import UnityBuild.Unity.Basic

/-!
# Commands as lines for a shell

The line for a shell joins the words of a command by blanks and quotes none of them, while a program
that is started directly gets each word without the backslashes in front of its quotes. Read by a
shell, the line gives the words of the process exactly when the program is a word of plain
characters and each argument is written of plain characters and double quotes behind backslashes. A
blank in a path is enough to break it, see `blank_in_root_splits_arguments`.

Main statement: `read_shellCommand_iff`.
-/

namespace UnityBuild

open Text (unescapeQuotes splitAt)
open ShellWords

namespace Text

/-- A double quote in front of a text with a blank stands in front of what precedes the blank. -/
theorem exists_eq_quote_cons_of_append_blank (s t u : List Char) (h : s ++ ' ' :: t = '"' :: u) :
    ∃ v, s = '"' :: v := by
  cases s with
  | nil => cases h
  | cons c s =>
    cases h
    exact ⟨s, rfl⟩

/-- A blank belongs to no pair, so the texts on both sides of it can be taken by themselves. -/
theorem unescapeQuotes_append_blank (s t : List Char) :
    unescapeQuotes (s ++ ' ' :: t) = unescapeQuotes s ++ ' ' :: unescapeQuotes t := by
  rw [unescapeQuotes_append s (' ' :: t) fun _ => by simp, unescapeQuotes_cons ' ' t (by decide)]

/-- Only the empty text becomes empty. -/
theorem unescapeQuotes_eq_nil_iff (s : List Char) : unescapeQuotes s = [] ↔ s = [] := by
  fun_cases unescapeQuotes s <;> simp

/-- A backslash is taken away for a double quote only. -/
theorem count_backslash_le (s : List Char) :
    s.count '\\' ≤ (unescapeQuotes s).count '\\' + s.count '"' := by
  fun_induction unescapeQuotes s with
  | case1 => exact Nat.le_refl 0
  | case2 s ih =>
    rw [List.count_cons_self, List.count_cons_of_ne (by decide), List.count_cons_of_ne (by decide),
      List.count_cons_of_ne (by decide), List.count_cons_self]
    omega
  | case3 c s _ ih =>
    rw [List.count_cons, List.count_cons, List.count_cons]
    omega

end Text

namespace ShellWords

section Writing

variable (reserved allowed : Char → Bool)

/-- A blank belongs to no pair, so the texts on both sides of it are written by themselves. -/
theorem isWritten_append_blank (s t : List Char) :
    isWritten allowed (s ++ ' ' :: t) =
      (isWritten allowed s && (allowed ' ' && isWritten allowed t)) := by
  fun_induction isWritten allowed s with
  | case1 => exact isWritten_cons allowed ' ' t (by decide)
  | case2 s ih => simp only [List.cons_append, isWritten, ih]
  | case3 c s hpair ih =>
    rw [List.cons_append, isWritten, ih, Bool.and_assoc]
    intro u hc hu
    obtain ⟨v, hv⟩ := Text.exists_eq_quote_cons_of_append_blank s t u hu
    exact hpair v hc hv

/-- A text without backslashes is written of the characters that it has. -/
theorem isWritten_eq_all (s : List Char) (h : '\\' ∉ s) : isWritten allowed s = s.all allowed := by
  induction s with
  | nil => rfl
  | cons c s ih =>
    have hc : c ≠ '\\' := fun heq => h (heq ▸ List.mem_cons_self)
    rw [isWritten_cons allowed c s hc, ih fun hs => h (List.mem_cons_of_mem c hs), List.all_cons]

/-- All backslashes of a text that is written of ordinary characters are taken away. -/
theorem backslash_notMem_unescapeQuotes (s : List Char)
    (h : isWritten (isOrdinary reserved) s = true) : '\\' ∉ unescapeQuotes s := by
  fun_induction isWritten (isOrdinary reserved) s with
  | case1 => exact List.not_mem_nil
  | case2 s ih =>
    rw [unescapeQuotes, List.mem_cons, not_or]
    exact ⟨by decide, ih h⟩
  | case3 c s _ ih =>
    rw [Bool.and_eq_true] at h
    have hc : c ≠ '\\' := (ne_of_isOrdinary reserved c h.1).1
    rw [Text.unescapeQuotes_cons c s hc, List.mem_cons, not_or]
    exact ⟨hc.symm, ih h.2⟩

/-- A plain character is an ordinary one that separates no words. -/
theorem isPlain_eq (c : Char) : isPlain reserved c = (isOrdinary reserved c && !isSeparator c) := by
  unfold isOrdinary isPlain
  cases isSeparator c <;> simp

/-- A text is written of plain characters when it is written of ordinary ones and has no blanks. -/
theorem isWritten_isPlain_iff (s : List Char) :
    isWritten (isPlain reserved) s = true ↔
      isWritten (isOrdinary reserved) s = true ∧
        ∀ c ∈ unescapeQuotes s, isSeparator c = false := by
  fun_induction isWritten (isOrdinary reserved) s with
  | case1 => simp [isWritten, unescapeQuotes]
  | case2 s ih =>
    rw [isWritten, unescapeQuotes, ih, List.forall_mem_cons]
    exact and_congr_right fun _ => (and_iff_right rfl).symm
  | case3 c s hpair ih =>
    have hwritten : isWritten (isPlain reserved) (c :: s) =
        (isPlain reserved c && isWritten (isPlain reserved) s) := by
      rw [isWritten]
      exact hpair
    have hunescape : unescapeQuotes (c :: s) = c :: unescapeQuotes s := by
      rw [unescapeQuotes]
      exact hpair
    rw [hwritten, hunescape, List.forall_mem_cons, Bool.and_eq_true, Bool.and_eq_true, ih,
      isPlain_eq, Bool.and_eq_true, Bool.not_eq_true']
    exact and_and_and_comm

end Writing

/-- Texts with blanks between them. -/
def joined (texts : List (List Char)) : List Char :=
  [' '].intercalate texts

section Joined

variable (reserved : Char → Bool) (texts : List (List Char))

/-- The first of several texts stands in front of a blank. -/
theorem joined_cons_cons (first second : List Char) :
    joined (first :: second :: texts) = first ++ ' ' :: joined (second :: texts) := by
  rw [joined, List.intercalate_cons_cons, List.append_assoc, List.singleton_append, joined]

/-- A text alone has no blanks put to it. -/
theorem joined_singleton (text : List Char) : joined [text] = text :=
  List.intercalate_singleton

/-- Joining texts adds nothing but blanks. -/
theorem count_joined (q : Char) (hq : q ≠ ' ') :
    (joined texts).count q = texts.flatten.count q := by
  induction texts with
  | nil => rfl
  | cons first texts ih =>
    cases texts with
    | nil => rw [joined_singleton, List.flatten_singleton]
    | cons second texts =>
      rw [joined_cons_cons, List.flatten_cons, List.count_append, List.count_append,
        List.count_cons_of_ne hq.symm, ih]

/-- Joined texts are written of ordinary characters when each of them is. -/
theorem isWritten_joined :
    isWritten (isOrdinary reserved) (joined texts) = true ↔
      ∀ text ∈ texts, isWritten (isOrdinary reserved) text = true := by
  induction texts with
  | nil => simp [joined, isWritten]
  | cons first texts ih =>
    cases texts with
    | nil => simp [joined_singleton]
    | cons second texts =>
      have hblank : isOrdinary reserved ' ' = true := rfl
      rw [joined_cons_cons, isWritten_append_blank, hblank, Bool.true_and, Bool.and_eq_true, ih,
        List.forall_mem_cons (a := first)]

/-- Backslashes are taken away from joined texts by taking them away from each of them. -/
theorem unescapeQuotes_joined :
    unescapeQuotes (joined texts) = joined (texts.map unescapeQuotes) := by
  induction texts with
  | nil => rfl
  | cons first texts ih =>
    cases texts with
    | nil => rw [List.map_singleton, joined_singleton, joined_singleton]
    | cons second texts =>
      rw [List.map_cons, List.map_cons, joined_cons_cons, joined_cons_cons,
        Text.unescapeQuotes_append_blank, ih, List.map_cons]

/-- Joined texts that have no blanks are got back by cutting at the blanks. -/
theorem splitAt_joined (hne : texts ≠ [])
    (h : ∀ text ∈ texts, ∀ c ∈ text, isSeparator c = false) :
    splitAt isSeparator (joined texts) = texts :=
  Text.splitAt_intercalate isSeparator ' ' rfl texts hne h

/-- Taking backslashes away from texts keeps how often they have any other character. -/
theorem count_flatten_map_unescapeQuotes (q : Char) (hq : q ≠ '\\') (hblank : q ≠ ' ') :
    (texts.map unescapeQuotes).flatten.count q = texts.flatten.count q := by
  rw [← count_joined _ q hblank, ← unescapeQuotes_joined, Text.count_unescapeQuotes _ q hq,
    count_joined _ q hblank]

/-- It takes away at most one for each double quote. -/
theorem count_backslash_flatten_le :
    texts.flatten.count '\\' ≤
      (texts.map unescapeQuotes).flatten.count '\\' + texts.flatten.count '"' := by
  have hle := Text.count_backslash_le (joined texts)
  rwa [unescapeQuotes_joined, count_joined _ _ (by decide), count_joined _ _ (by decide),
    count_joined _ _ (by decide)] at hle

end Joined

section Reading

variable (reserved : Char → Bool) (program : List Char) (parameters : List (List Char))

/-- A command whose words have no backslashes but in front of quotes and nothing else that a shell
takes for more than itself is read as its words without the backslashes. -/
theorem readFrom_joined_of_isWritten (texts : List (List Char))
    (h : ∀ text ∈ texts, text ≠ [] ∧ isWritten (isPlain reserved) text = true) :
    readFrom reserved .between (joined texts) = some (texts.map unescapeQuotes) := by
  by_cases hne : texts = []
  · subst hne
    rfl
  have hwritten : isWritten (isOrdinary reserved) (joined texts) = true :=
    (isWritten_joined reserved texts).mpr fun text htext =>
      ((isWritten_isPlain_iff reserved text).mp (h text htext).2).1
  have hsplit : splitAt isSeparator (joined (texts.map unescapeQuotes)) =
      texts.map unescapeQuotes := by
    refine splitAt_joined _ (by simpa using hne) ?_
    rw [List.forall_mem_map]
    exact fun text htext => ((isWritten_isPlain_iff reserved text).mp (h text htext).2).2
  have hall : nonEmpty (texts.map unescapeQuotes) = texts.map unescapeQuotes := by
    rw [nonEmpty, List.filter_eq_self, List.forall_mem_map]
    intro text htext
    simpa [Text.unescapeQuotes_eq_nil_iff] using (h text htext).1
  rw [(readFrom_of_isWritten reserved _ hwritten).1, unescapeQuotes_joined, hsplit, hall]

/-- A command that a shell reads as the words of the process is written of ordinary characters: the
words have all its quotes, and no more backslashes are missing than it has double quotes. -/
theorem isWritten_of_readFrom_joined
    (h : readFrom reserved .between (joined (program :: parameters)) =
      some (program :: parameters.map unescapeQuotes)) :
    isWritten (isOrdinary reserved) (joined (program :: parameters)) = true := by
  have hcount (q : Char) (hq : q ≠ '\\') (hblank : q ≠ ' ') :
      (joined (program :: parameters)).count q =
        (program :: parameters.map unescapeQuotes).flatten.count q := by
    rw [count_joined _ q hblank, List.flatten_cons, List.flatten_cons, List.count_append,
      List.count_append, count_flatten_map_unescapeQuotes parameters q hq hblank]
  have hloses := losesPairs_of_count_le reserved .between (joined (program :: parameters)) _ rfl h
    (Nat.le_of_eq (hcount '"' (by decide) (by decide)))
    (Nat.le_of_eq (hcount '\'' (by decide) (by decide)))
  have howed : Place.between.owed (joined (program :: parameters)) =
      joined (program :: parameters) := rfl
  rw [howed] at hloses
  apply hloses.2
  have hbackslash := count_backslash_flatten_le parameters
  rw [count_joined _ _ (by decide), count_joined _ _ (by decide), List.flatten_cons,
    List.flatten_cons, List.count_append, List.count_append, List.count_append]
  omega

/-- A shell reads a command as its program and its other words without the backslashes in front of
quotes exactly when no character of the program means something to the shell, and none of another
word but these backslashes. -/
theorem readFrom_joined_iff :
    readFrom reserved .between (joined (program :: parameters)) =
        some (program :: parameters.map unescapeQuotes) ↔
      (program ≠ [] ∧ program.all (isPlain reserved) = true) ∧
        ∀ text ∈ parameters, text ≠ [] ∧ isWritten (isPlain reserved) text = true := by
  constructor
  · intro h
    have hline := isWritten_of_readFrom_joined reserved program parameters h
    have hread := (readFrom_of_isWritten reserved _ hline).1
    have hwritten := (isWritten_joined reserved _).mp hline
    have hwords (word : List Char) (hword : word ∈ program :: parameters.map unescapeQuotes) :
        word ≠ [] ∧ '\\' ∉ word ∧ ∀ c ∈ word, isSeparator c = false := by
      rw [Option.some.inj (h.symm.trans hread), nonEmpty, List.mem_filter] at hword
      refine ⟨by simpa using hword.2, fun hmem => ?_,
        Text.not_isSeparator_of_mem_splitAt isSeparator _ word hword.1⟩
      exact backslash_notMem_unescapeQuotes reserved _ hline
        (Text.mem_of_mem_splitAt isSeparator _ word hword.1 _ hmem)
    have hparameter (text : List Char) (htext : text ∈ parameters) :
        text ≠ [] ∧ isWritten (isPlain reserved) text = true := by
      obtain ⟨hne, -, hblanks⟩ := hwords (unescapeQuotes text)
        (List.mem_cons_of_mem _ (List.mem_map_of_mem htext))
      refine ⟨fun hnil => hne ((Text.unescapeQuotes_eq_nil_iff text).mpr hnil), ?_⟩
      exact (isWritten_isPlain_iff reserved text).mpr
        ⟨hwritten text (List.mem_cons_of_mem _ htext), hblanks⟩
    obtain ⟨hne, hbackslash, hblanks⟩ := hwords program List.mem_cons_self
    refine ⟨⟨hne, ?_⟩, hparameter⟩
    rw [← isWritten_eq_all _ program hbackslash, isWritten_isPlain_iff,
      Text.unescapeQuotes_eq_self program fun hpair =>
        hbackslash (hpair.subset List.mem_cons_self)]
    exact ⟨hwritten program List.mem_cons_self, hblanks⟩
  · rintro ⟨⟨hne, hplain⟩, hparameters⟩
    have hbackslash : '\\' ∉ program := by
      intro hmem
      exact absurd (List.all_eq_true.mp hplain _ hmem) (by simp [isPlain])
    have hprogram : isWritten (isPlain reserved) program = true := by
      rwa [isWritten_eq_all _ program hbackslash]
    rw [readFrom_joined_of_isWritten reserved (program :: parameters)
      (List.forall_mem_cons.mpr ⟨⟨hne, hprogram⟩, hparameters⟩), List.map_cons,
      Text.unescapeQuotes_eq_self program fun hpair =>
        hbackslash (hpair.subset List.mem_cons_self)]

end Reading

end ShellWords

namespace Invocation

/-- The words of a command as characters. -/
theorem toList_intercalate_blank (words : List String) :
    (String.intercalate " " words).toList = joined (words.map String.toList) :=
  String.toList_intercalate

/-- Texts are read off a line exactly when their characters are. -/
theorem read_eq_some_iff (reserved : Char → Bool) (line : String) (words : List String) :
    ShellWords.read reserved line = some words ↔
      readFrom reserved .between line.toList = some (words.map String.toList) := by
  rw [ShellWords.read, Option.map_eq_some_iff]
  constructor
  · rintro ⟨read, hread, rfl⟩
    rw [hread, List.map_map]
    simp [Function.comp_def]
  · intro h
    refine ⟨_, h, ?_⟩
    rw [List.map_map]
    simp [Function.comp_def]

/-- The shell line of a command is the change of directory and a line that a shell reads as the
program and the arguments of the process exactly when the program is a word of plain characters and
every other word is written of plain characters and double quotes behind backslashes. -/
theorem read_shellCommand_iff (reserved : Char → Bool) (i : Invocation) (program : String)
    (hprogram : i.program? = some program) :
    ∃ line, i.shellCommand = "(cd \"" ++ i.directory.display ++ "\" && " ++ line ++ ")" ∧
      (ShellWords.read reserved line = some (program :: i.processArguments) ↔
        (program ≠ "" ∧ program.toList.all (isPlain reserved) = true) ∧
          ∀ word ∈ i.parameters, word ≠ "" ∧ isWritten (isPlain reserved) word.toList = true) := by
  obtain ⟨parameters, hwords⟩ := List.head?_eq_some_iff.mp hprogram
  have hparameters : i.parameters = parameters := congrArg List.tail hwords
  have hprocess : i.processArguments.map String.toList =
      (parameters.map String.toList).map unescapeQuotes := by
    rw [processArguments, hparameters, List.map_map, List.map_map]
    simp [Function.comp_def, Text.unescapeQuotesText]
  refine ⟨String.intercalate " " i.arguments, rfl, ?_⟩
  rw [read_eq_some_iff, toList_intercalate_blank, hwords, List.map_cons, List.map_cons, hprocess,
    readFrom_joined_iff, List.forall_mem_map, hparameters]
  simp only [ne_eq, String.toList_eq_nil_iff]

/-- A command with a definition that keeps the backslashes of its quotes. -/
def sample : Invocation :=
  ⟨⟨"/p"⟩, ["cc", "-DV=\\\"1\\\"", "-O2"]⟩

/-- A shell for which parentheses, ampersands and the like are no plain characters reads it. -/
theorem read_shellCommand_sample :
    sample.program? = some "cc" ∧
      ∃ line, sample.shellCommand = "(cd \"/p\" && " ++ line ++ ")" ∧
        ShellWords.read (fun c => "&()*;<>?|".toList.contains c) line =
          some ["cc", "-DV=\"1\"", "-O2"] := by
  have hprogram : sample.program? = some "cc" := rfl
  obtain ⟨line, hline, hread⟩ := read_shellCommand_iff
    (fun c => "&()*;<>?|".toList.contains c) sample "cc" hprogram
  have harguments : sample.processArguments = ["-DV=\"1\"", "-O2"] := by decide +kernel
  rw [harguments] at hread
  exact ⟨hprogram, line, hline, hread.mpr (by decide +kernel)⟩

/-- A plan for a project whose root has a blank in its path. -/
def spacedPlan : Unity.Plan :=
  ⟨⟨"/my dir"⟩, "cc", ⟨⟨"/my dir/amalgamated"⟩, "app", rfl⟩, Unity.defaultTestMarker⟩

/-- The units of the project: one file. -/
def spacedUnits : List SourceUnit :=
  [⟨⟨"/my dir/a.c"⟩, "a.c", ["-O2"], [], ["-O2"]⟩]

/-- The command that compiles its merged source. -/
def spacedCompile : Invocation :=
  (spacedPlan.build spacedUnits (.hoist spacedUnits) .empty .empty).compile

/-- The process gets the root as a part of one argument, a shell reads its path as two words. -/
theorem blank_in_root_splits_arguments :
    spacedCompile.program? = some "cc" ∧
      spacedCompile.processArguments =
        ["-O2", "-Wno-unknown-warning-option", "-I/my dir", "-o", "/my dir/amalgamated/app.o", "-c",
          "/my dir/amalgamated/app.c"] ∧
      spacedCompile.shellCommand = "(cd \"/my dir\" && " ++ "cc -O2 -Wno-unknown-warning-option " ++
        "-I/my dir -o /my dir/amalgamated/app.o -c /my dir/amalgamated/app.c" ++ ")" ∧
      ShellWords.read (fun _ => false) ("cc -O2 -Wno-unknown-warning-option " ++
          "-I/my dir -o /my dir/amalgamated/app.o -c /my dir/amalgamated/app.c") =
        some ["cc", "-O2", "-Wno-unknown-warning-option", "-I/my", "dir", "-o",
          "/my", "dir/amalgamated/app.o", "-c", "/my", "dir/amalgamated/app.c"] ∧
      ShellWords.read (fun _ => false) ("cc -O2 -Wno-unknown-warning-option " ++
          "-I/my dir -o /my dir/amalgamated/app.o -c /my dir/amalgamated/app.c") ≠
        some ("cc" :: spacedCompile.processArguments) := by
  decide +kernel

end Invocation

end UnityBuild
