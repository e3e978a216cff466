import UnityBuild.Invocation
import UnityBuild.Proofs.Command.Flags
import UnityBuild.Proofs.Text.Escaped

/-!
# What a definition means to the compiler

A definition reaches the compiler in one of two ways. When all units share it, its flag is handed
over as an argument without the backslashes in front of quotes, and the compiler cuts the argument
at the first equals sign. Otherwise the preprocessor reads it as a directive with the name and the
value that the flag was read as. Taking the backslashes away before the cut gives the same name and
value as taking them away from the value behind it, unless the name itself has such a backslash.

Main statement: `argument_means_directive`.
-/

namespace UnityBuild

namespace Text

/-- A separator in front of a text, if there is one. -/
def behind (separator : Char) (second : Option (List Char)) : List Char :=
  (second.map (separator :: ·)).getD []

/-- A text is cut at its first separator, and not cut when it has none. -/
theorem cutAt_eq_iff (separator : Char) (s first : List Char) (second : Option (List Char)) :
    cutAt separator s = (first, second) ↔
      separator ∉ first ∧ s = first ++ behind separator second := by
  have hcut (first : List Char) (second : Option (List Char)) (h : separator ∉ first) :
      cutAt separator (first ++ behind separator second) = (first, second) := by
    induction first with
    | nil =>
      cases second with
      | none => rfl
      | some second => exact if_pos rfl
    | cons c first ih =>
      obtain ⟨hc, hfirst⟩ := not_or.mp (mt List.mem_cons.mpr h)
      rw [List.cons_append, cutAt, if_neg (Ne.symm hc), ih hfirst]
  constructor
  · intro h
    by_cases hs : separator ∈ s
    · obtain ⟨first', second', rfl, hfirst'⟩ := List.eq_append_cons_of_mem hs
      obtain ⟨rfl, rfl⟩ := Prod.mk.inj ((hcut first' (some second') hfirst').symm.trans h)
      exact ⟨hfirst', rfl⟩
    · have hself := hcut s none hs
      rw [behind, Option.map_none, Option.getD_none, List.append_nil, h] at hself
      obtain ⟨rfl, rfl⟩ := Prod.mk.inj hself
      exact ⟨hs, (List.append_nil first).symm⟩
  · rintro ⟨hfirst, rfl⟩
    exact hcut first second hfirst

end Text

namespace Define

/-- How a value is put behind the name of a macro on a command line. -/
def argumentValue : Option String → String
  | none => ""
  | some value => "=" ++ value

/-- What a compiler reads in an argument that defines a macro: the name up to the first equals sign
and the value behind it. -/
def readArgument? (argument : String) : Option (String × Option String) :=
  (body? argument.toList).map fun body =>
    let (name, value) := Text.cutAt '=' body
    (String.ofList name, value.map String.ofList)

/-- The characters of a definition on a command line. -/
theorem toList_argument (name : String) (value : Option String) :
    ("-D" ++ name ++ argumentValue value).toList =
      '-' :: 'D' :: (name.toList ++ Text.behind '=' (value.map String.toList)) := by
  cases value <;> simp [argumentValue, Text.behind]

/-- A compiler reads a definition as the name and the value that it was written with. -/
theorem readArgument?_argument (name : String) (value : Option String) (hname : '=' ∉ name.toList) :
    readArgument? ("-D" ++ name ++ argumentValue value) = some (name, value) := by
  have hcut := (Text.cutAt_eq_iff '=' _ _ (value.map String.toList)).mpr ⟨hname, rfl⟩
  rw [readArgument?, toList_argument, (body?_eq_some_iff _ _).mpr rfl, Option.map_some, hcut]
  cases value <;> simp

/-- A flag is read as a definition when it is written as a name without an equals sign and a value;
the backslashes in front of quotes are taken away from the value. -/
theorem parse_eq_ok_iff (flag : String) (d : Define) :
    parse flag = .ok d ↔
      d.flag = flag ∧ d.name ≠ "" ∧ '=' ∉ d.name.toList ∧
        ∃ raw : Option String, flag = "-D" ++ d.name ++ argumentValue raw ∧
          d.value = raw.map Text.unescapeQuotesText := by
  constructor
  · intro h
    unfold parse at h
    split at h
    · cases h
    · rename_i body hbody
      split at h
      · cases h
      · rename_i name raw hne hcut
        cases h
        obtain ⟨hname, hparts⟩ := (Text.cutAt_eq_iff '=' _ _ _).mp hcut
        refine ⟨rfl, ?_, by rwa [String.toList_ofList], raw.map String.ofList, ?_, ?_⟩
        · intro hempty
          have hnil : name = [] := by simpa using hempty
          exact hne hnil
        · have hflag := (body?_eq_some_iff _ _).mp hbody
          rw [← String.toList_inj, toList_argument, hflag, hparts, String.toList_ofList]
          cases raw <;> simp
        · cases raw <;> simp [Text.unescapeQuotesText]
  · obtain ⟨name, value, flag'⟩ := d
    rintro ⟨rfl, hne, hname, raw, hargument, rfl⟩
    have hcut := (Text.cutAt_eq_iff '=' _ _ (raw.map String.toList)).mpr ⟨hname, rfl⟩
    have hbody : body? flag'.toList = some (name.toList ++ Text.behind '=' (raw.map String.toList)) := by
      rw [show flag' = _ from hargument, toList_argument, (body?_eq_some_iff _ _).mpr rfl]
    rw [parse, hbody]
    dsimp only
    rw [hcut]
    split
    · rename_i hnil
      exact absurd (String.toList_eq_nil_iff.mp (Prod.mk.inj hnil).1) hne
    · rename_i hpair
      obtain ⟨rfl, rfl⟩ := Prod.mk.inj hpair
      cases raw <;> simp [Text.unescapeQuotesText]

/-- Taking the backslashes away from a whole definition takes them away from its value, when the name
has no pair: a pair cannot begin in the name and end in what stands behind it. -/
theorem unescapeQuotesText_argument (name : String) (raw : Option String)
    (hname : ¬ ['\\', '"'] <:+: name.toList) :
    Text.unescapeQuotesText ("-D" ++ name ++ argumentValue raw) =
      "-D" ++ name ++ argumentValue (raw.map Text.unescapeQuotesText) := by
  have hbehind : Text.unescapeQuotes (Text.behind '=' (raw.map String.toList)) =
      Text.behind '=' ((raw.map Text.unescapeQuotesText).map String.toList) := by
    cases raw with
    | none => rfl
    | some value => simp [Text.behind, Text.unescapeQuotes_cons, Text.unescapeQuotesText]
  have hhead : (Text.behind '=' (raw.map String.toList)).head? ≠ some '"' := by
    cases raw <;> simp [Text.behind]
  rw [← String.toList_inj, toList_argument, Text.unescapeQuotesText, String.toList_ofList,
    toList_argument, Text.unescapeQuotes_cons '-' _ (by decide),
    Text.unescapeQuotes_cons 'D' _ (by decide), Text.unescapeQuotes_append _ _ fun _ => hhead,
    Text.unescapeQuotes_eq_self _ hname, hbehind]

/-- What a program that is started directly gets for a flag that was read as a definition is the
definition of the name and the value that the directive writes, unless a quote in the name has a
backslash in front of it. A flag that gives a value with a backslash in front of every quote is read
as a definition of this value. -/
theorem argument_means_directive :
    (∀ (flag : String) (d : Define), parse flag = .ok d → ¬ ['\\', '"'] <:+: d.name.toList →
      ∀ (i : Invocation) (place : Nat), i.parameters[place]? = some flag →
        ∃ argument, i.processArguments[place]? = some argument ∧
          argument = "-D" ++ d.name ++ argumentValue d.value ∧
          readArgument? argument = some (d.name, d.value) ∧
          d.defineDirective = "#define " ++ d.name ++ replacementText d.value) ∧
    ∀ name value : String, name ≠ "" → '=' ∉ name.toList →
      ∃ d, parse ("-D" ++ name ++ "=" ++ String.ofList (Text.escapeQuotes value.toList)) = .ok d ∧
        d.name = name ∧ d.value = some value := by
  constructor
  · intro flag d hparse hpair i place hplace
    obtain ⟨-, -, hname, raw, rfl, hvalue⟩ := (parse_eq_ok_iff flag d).mp hparse
    refine ⟨_, ?_, rfl, readArgument?_argument d.name d.value hname, rfl⟩
    rw [Invocation.processArguments, List.getElem?_map, hplace, Option.map_some,
      unescapeQuotesText_argument d.name raw hpair, hvalue]
  · intro name value hne hname
    refine ⟨⟨name, some value, _⟩, (parse_eq_ok_iff _ _).mpr ⟨rfl, hne, hname, ?_⟩, rfl, rfl⟩
    refine ⟨some (String.ofList (Text.escapeQuotes value.toList)), ?_, ?_⟩
    · rw [argumentValue, String.append_assoc, String.append_assoc]
    · rw [Option.map_some, Text.unescapeQuotesText, String.toList_ofList,
        Text.unescapeQuotes_escapeQuotes, String.ofList_toList]

/-- A command with a flag whose value has a backslash in front of an escaped quote. -/
def nestedQuotes : Invocation :=
  ⟨⟨"/p"⟩, ["cc", "-O2", "-DMSG=\\\\\"a=b\\\"", "-Iinc"]⟩

/-- The flag is handed over with one backslash left, as the directive has it, and the value that is
left gives the flag again. -/
theorem argument_means_directive_nestedQuotes :
    (∃ argument, nestedQuotes.processArguments[1]? = some argument ∧
        argument = "-D" ++ "MSG" ++ argumentValue (some "\\\"a=b\"") ∧
        readArgument? argument = some ("MSG", some "\\\"a=b\"") ∧
        defineDirective ⟨"MSG", some "\\\"a=b\"", "-DMSG=\\\\\"a=b\\\""⟩ = "#define MSG \\\"a=b\"") ∧
      ∃ d, parse ("-D" ++ "MSG" ++ "=" ++ String.ofList (Text.escapeQuotes "\\\"a=b\"".toList)) =
          .ok d ∧ d.name = "MSG" ∧ d.value = some "\\\"a=b\"" := by
  have hparse : parse "-DMSG=\\\\\"a=b\\\"" =
      .ok ⟨"MSG", some "\\\"a=b\"", "-DMSG=\\\\\"a=b\\\""⟩ := by decide +kernel
  exact ⟨argument_means_directive.1 _ _ hparse (by decide +kernel) nestedQuotes 1 rfl,
    argument_means_directive.2 "MSG" "\\\"a=b\"" (by decide) (by decide +kernel)⟩

end Define

end UnityBuild
