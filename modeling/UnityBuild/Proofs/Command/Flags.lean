import UnityBuild.Command.Reader
import UnityBuild.Proofs.CommonDefines
import UnityBuild.Proofs.Results

/-!
# The flags of a command

The raw flags of a command are cut from left to right into pieces: a definition that is written as
two tokens is one piece, and every other token is a piece of its own. There is at most one such
cut, and the tokens that have none end in the option `-D` without a definition. What a unit is made
of depends on the flags that the pieces stand for alone.

Main statement: `Reader.read_of_flags`.
-/

namespace UnityBuild

namespace Define

/-- A flag that starts as a definition and gives no name. -/
def IsNameless (flag : String) : Prop :=
  flag = "-D" ∨ "-D=".toList <+: flag.toList

/-- What stands behind the first two characters of a definition. -/
theorem body?_eq_some_iff (s body : List Char) : body? s = some body ↔ s = '-' :: 'D' :: body := by
  constructor
  · intro h
    unfold body? at h
    split at h
    · cases h
      rfl
    · cases h
  · rintro rfl
    rfl

/-- Definitions are told by their first two characters. -/
theorem isDefineFlag_eq (flag : String) :
    isDefineFlag flag = "-D".toList.isPrefixOf flag.toList := by
  rw [Bool.eq_iff_iff, isDefineFlag, Option.isSome_iff_exists, List.isPrefixOf_iff_prefix]
  constructor
  · rintro ⟨body, hbody⟩
    exact ⟨body, ((body?_eq_some_iff _ _).mp hbody).symm⟩
  · rintro ⟨body, hbody⟩
    exact ⟨body, (body?_eq_some_iff _ _).mpr hbody.symm⟩

/-- Nothing stands in front of the first separator when the text is empty or starts with it. -/
theorem fst_cutAt_eq_nil_iff (separator : Char) (s : List Char) :
    (Text.cutAt separator s).1 = [] ↔ s = [] ∨ [separator] <+: s := by
  cases s with
  | nil => simp [Text.cutAt]
  | cons c s =>
    rw [Text.cutAt]
    split
    · rename_i hc
      simp [hc]
    · rename_i hc
      simp [Ne.symm hc]

/-- A flag gives no name when nothing stands between its first two characters and the value. -/
theorem isNameless_iff (flag : String) :
    IsNameless flag ↔ ∃ body, body? flag.toList = some body ∧ (Text.cutAt '=' body).1 = [] := by
  simp only [body?_eq_some_iff, fst_cutAt_eq_nil_iff]
  constructor
  · rintro (rfl | ⟨value, hvalue⟩)
    · exact ⟨[], rfl, .inl rfl⟩
    · exact ⟨'=' :: value, hvalue.symm, .inr ⟨value, rfl⟩⟩
  · rintro ⟨body, hbody, rfl | ⟨value, rfl⟩⟩
    · exact .inl (String.toList_inj.mp hbody)
    · exact .inr ⟨value, hbody.symm⟩

/-- A definition without a name is a definition. -/
theorem IsNameless.isDefineFlag (flag : String) (h : IsNameless flag) :
    Define.isDefineFlag flag = true := by
  obtain ⟨body, hbody, -⟩ := (isNameless_iff flag).mp h
  rw [Define.isDefineFlag, hbody, Option.isSome_some]

/-- A definition can be read unless it gives no name. -/
theorem exists_parse_iff (flag : String) (h : isDefineFlag flag = true) :
    (∃ d, parse flag = .ok d) ↔ ¬ IsNameless flag := by
  obtain ⟨body, hbody⟩ := Option.isSome_iff_exists.mp h
  rw [isNameless_iff, parse, hbody]
  dsimp only
  split
  · rename_i hcut
    simp [hcut]
  · rename_i name value hname hcut
    have hne : name ≠ [] := hname
    simp [hcut, hne]

/-- A flag that cannot be read is reported as it is written. -/
theorem flag_of_parse_eq_error (flag : String) (e : InvalidDefine) (h : parse flag = .error e) :
    e = ⟨flag⟩ := by
  unfold parse at h
  split at h
  · exact (Except.error.inj h).symm
  · split at h
    · exact (Except.error.inj h).symm
    · cases h

/-- Definitions keep the flags that they were read from. -/
theorem map_flag_of_mapM_parse (flags : List String) (defines : List Define)
    (h : flags.mapM parse = .ok defines) : defines.map Define.flag = flags := by
  have hall := (Lists.mapM_eq_ok_iff _ _ _).mp h
  have hflags : List.Forall₂ (fun flag d => flag = Define.flag d) flags defines :=
    hall.imp fun flag d hd => (flag_of_parse flag d hd).symm
  rw [← List.forall₂_map_right_iff, List.forall₂_eq_eq_eq] at hflags
  exact hflags.symm

end Define

namespace SourceUnit

variable (source : Path) (path : String) (flags : List String)

/-- A unit is refused for the first of its flags that is a definition without a name. -/
theorem ofFlags_eq_error_iff (e : InvalidDefine) :
    ofFlags source path flags = .error e ↔
      ∃ front flag behind, flags = front ++ flag :: behind ∧
        (∀ f ∈ front, ¬ Define.IsNameless f) ∧ Define.IsNameless flag ∧ e = ⟨flag⟩ := by
  have herror : ofFlags source path flags = .error e ↔
      (flags.filter Define.isDefineFlag).mapM Define.parse = .error e := by
    simp [ofFlags, Results.bind_eq_error_iff, pure, Except.pure]
  rw [herror, Results.mapM_eq_error_iff]
  constructor
  · rintro ⟨front, flag, behind, hdefines, hfront, hflag⟩
    -- The other flags in front of the definition are put back between the definitions.
    obtain ⟨before, rest, rfl, rfl, hrest⟩ := List.filter_eq_append_iff.mp hdefines
    obtain ⟨others, after, rfl, hothers, hdefine, -⟩ := List.filter_eq_cons_iff.mp hrest
    have hnameless : Define.IsNameless flag := by
      by_contra hnamed
      obtain ⟨d, hd⟩ := (Define.exists_parse_iff flag hdefine).mpr hnamed
      rw [hd] at hflag
      cases hflag
    refine ⟨before ++ others, flag, after, by rw [List.append_assoc], ?_, hnameless,
      Define.flag_of_parse_eq_error flag e hflag⟩
    intro f hf hf'
    have hfdefine := hf'.isDefineFlag f
    rcases List.mem_append.mp hf with hf | hf
    · exact (Define.exists_parse_iff f hfdefine).mp (hfront f (List.mem_filter.mpr ⟨hf, hfdefine⟩)) hf'
    · exact hothers f hf hfdefine
  · rintro ⟨front, flag, behind, rfl, hfront, hnameless, rfl⟩
    have hdefine := hnameless.isDefineFlag flag
    refine ⟨front.filter Define.isDefineFlag, flag, behind.filter Define.isDefineFlag, ?_, ?_, ?_⟩
    · rw [List.filter_append, List.filter_cons_of_pos hdefine]
    · intro f hf
      obtain ⟨hf, hfdefine⟩ := List.mem_filter.mp hf
      exact (Define.exists_parse_iff f hfdefine).mpr (hfront f hf)
    · cases hparse : Define.parse flag with
      | ok d => exact absurd hnameless ((Define.exists_parse_iff flag hdefine).mp ⟨d, hparse⟩)
      | error e => rw [Define.flag_of_parse_eq_error flag e hparse]

/-- A unit is made of flags exactly when none of them is a definition without a name. -/
theorem exists_ofFlags_iff :
    (∃ u, ofFlags source path flags = .ok u) ↔ ∀ flag ∈ flags, ¬ Define.IsNameless flag := by
  constructor
  · rintro ⟨u, hu⟩ flag hflag hnameless
    obtain ⟨defines, hdefines, -⟩ := (ofFlags_eq_ok_iff _ _ _ _).mp hu
    have hdefine := hnameless.isDefineFlag flag
    obtain ⟨d, -, hd⟩ := Lists.exists_of_mem_left _ _ ((Lists.mapM_eq_ok_iff _ _ _).mp hdefines) flag
      (List.mem_filter.mpr ⟨hflag, hdefine⟩)
    exact (Define.exists_parse_iff flag hdefine).mp ⟨d, hd⟩ hnameless
  · intro hnamed
    cases hunit : ofFlags source path flags with
    | ok u => exact ⟨u, rfl⟩
    | error e =>
      obtain ⟨front, flag, behind, rfl, -, hnameless, -⟩ :=
        (ofFlags_eq_error_iff source path _ e).mp hunit
      exact absurd hnameless (hnamed flag (by simp))

/-- A unit keeps its flags, the definitions among them and the others, each in their order. -/
theorem flags_of_ofFlags (u : SourceUnit) (h : ofFlags source path flags = .ok u) :
    u.flags = flags ∧ u.defineFlags = flags.filter Define.isDefineFlag ∧
      u.others = flags.filter fun flag => !Define.isDefineFlag flag := by
  obtain ⟨defines, hdefines, rfl⟩ := (ofFlags_eq_ok_iff _ _ _ _).mp h
  exact ⟨rfl, Define.map_flag_of_mapM_parse _ defines hdefines, rfl⟩

end SourceUnit

namespace Command

/-- A part of a command that stands for one flag: a token by itself, or the option `-D` and the
definition in the next token. -/
inductive Piece where
  | single (flag : String) (h : flag ≠ "-D")
  | pair (definition : String)

namespace Piece

/-- The tokens of a piece. -/
def tokens : Piece → List String
  | single flag _ => [flag]
  | pair definition => ["-D", definition]

/-- The flag that a piece stands for. -/
def flag : Piece → String
  | single flag _ => flag
  | pair definition => "-D" ++ definition

end Piece

section Cuts

/-- A token that is not the option by itself is kept. -/
theorem joinDefines_cons (flag : String) (flags : List String) (h : flag ≠ "-D") :
    joinDefines (flag :: flags) = (joinDefines flags).map (flag :: ·) := by
  cases flags with
  | nil => simp [joinDefines, h, Except.map]
  | cons next flags => rw [joinDefines, if_neg h]

/-- The flag of a piece is read from its tokens. -/
theorem joinDefines_tokens_append (piece : Piece) (flags : List String) :
    joinDefines (piece.tokens ++ flags) = (joinDefines flags).map (piece.flag :: ·) := by
  cases piece with
  | single flag h => exact joinDefines_cons flag flags h
  | pair definition => exact if_pos rfl

/-- Reading passes over pieces. -/
theorem joinDefines_flatMap_append (pieces : List Piece) (flags : List String) :
    joinDefines (pieces.flatMap Piece.tokens ++ flags) =
      (joinDefines flags).map (pieces.map Piece.flag ++ ·) := by
  induction pieces with
  | nil => cases h : joinDefines flags <;> simp [h, Except.map]
  | cons piece pieces ih =>
    rw [List.flatMap_cons, List.append_assoc, joinDefines_tokens_append, ih]
    cases joinDefines flags <;> simp [Except.map]

/-- Tokens that are cut into pieces from left to right. -/
def IsCut (raw : List String) (pieces : List Piece) : Prop :=
  raw = pieces.flatMap Piece.tokens

/-- Tokens that are cut into pieces and the option without a definition. -/
def IsCutBeforeOption (raw : List String) (pieces : List Piece) : Prop :=
  raw = pieces.flatMap Piece.tokens ++ ["-D"]

/-- All tokens are cut into pieces, or into pieces and the option without a definition. -/
theorem exists_cut (raw : List String) :
    ∃ pieces, IsCut raw pieces ∨ IsCutBeforeOption raw pieces := by
  fun_induction joinDefines raw with
  | case1 => exact ⟨[], .inl rfl⟩
  | case2 => exact ⟨[], .inr rfl⟩
  | case3 flag hflag => exact ⟨[.single flag hflag], .inl rfl⟩
  | case4 next flags ih =>
    obtain ⟨pieces, rfl | rfl⟩ := ih
    · exact ⟨.pair next :: pieces, .inl rfl⟩
    · exact ⟨.pair next :: pieces, .inr rfl⟩
  | case5 flag next flags hflag ih =>
    obtain ⟨pieces, hpieces | hpieces⟩ := ih
    · exact ⟨.single flag hflag :: pieces, .inl (congrArg (flag :: ·) hpieces)⟩
    · exact ⟨.single flag hflag :: pieces, .inr (congrArg (flag :: ·) hpieces)⟩

/-- Tokens are cut into pieces in one way. -/
theorem flatMap_tokens_injective (pieces pieces' : List Piece)
    (h : pieces.flatMap Piece.tokens = pieces'.flatMap Piece.tokens) : pieces = pieces' := by
  induction pieces generalizing pieces' with
  | nil =>
    match pieces' with
    | [] => rfl
    | .single _ _ :: _ => cases h
    | .pair _ :: _ => cases h
  | cons piece pieces ih =>
    match piece, pieces' with
    | .single _ _, [] => cases h
    | .pair _, [] => cases h
    | .single flag hflag, .single flag' hflag' :: pieces' =>
      obtain ⟨rfl, hrest⟩ := List.cons.inj h
      rw [ih pieces' hrest]
    | .single flag hflag, .pair definition :: pieces' => exact absurd (List.cons.inj h).1 hflag
    | .pair definition, .single flag hflag :: pieces' => exact absurd (List.cons.inj h).1.symm hflag
    | .pair definition, .pair definition' :: pieces' =>
      obtain ⟨rfl, hrest⟩ := List.cons.inj (List.cons.inj h).2
      rw [ih pieces' hrest]

/-- What is joined of tokens that are cut into pieces are the flags of the pieces. -/
theorem IsCut.joinDefines (raw : List String) (pieces : List Piece) (h : IsCut raw pieces) :
    joinDefines raw = .ok (pieces.map Piece.flag) := by
  have hjoined := joinDefines_flatMap_append pieces []
  rw [List.append_nil, ← h] at hjoined
  simpa [Command.joinDefines, Except.map] using hjoined

/-- Tokens that end in the option without a definition cannot be joined. -/
theorem IsCutBeforeOption.joinDefines (raw : List String) (pieces : List Piece)
    (h : IsCutBeforeOption raw pieces) : joinDefines raw = .error .danglingDefine := by
  rw [h, joinDefines_flatMap_append]
  rfl

/-- Tokens are cut into pieces in at most one way. -/
theorem IsCut.unique (raw : List String) (pieces pieces' : List Piece) (h : IsCut raw pieces)
    (h' : IsCut raw pieces') : pieces = pieces' :=
  flatMap_tokens_injective pieces pieces' (h.symm.trans h')

end Cuts

namespace Reader

variable (reader : Reader) (record : CompileRecord) (raw : List String)
variable (h : reader.shape.flags record.tokens = .ok raw)

/-- The flags of pieces that the project does not refuse. -/
def kept (pieces : List Piece) : List String :=
  (pieces.map Piece.flag).filter fun flag => flag ∉ reader.denied

include h in
/-- A record whose command is cut into pieces is read as what the kept flags make. -/
theorem read_of_isCut (pieces : List Piece) (hcut : IsCut raw pieces) :
    reader.read record = (SourceUnit.ofFlags record.sourcePath (record.relativeSource reader.root)
      (reader.kept pieces)).mapError .define := by
  have hkept : (pieces.map Piece.flag).filter (fun flag => !reader.denied.contains flag) =
      reader.kept pieces := by
    simp [kept]
  simp only [read, keptFlags, h, hcut.joinDefines, bind, Except.bind, pure, Except.pure,
    Except.mapError, hkept]

include h in
/-- A record whose command ends in the option without a definition is refused for it. -/
theorem read_of_isCutBeforeOption (pieces : List Piece) (hcut : IsCutBeforeOption raw pieces) :
    reader.read record = .error (.shape record.sourcePath .danglingDefine) := by
  simp only [read, keptFlags, h, hcut.joinDefines, bind, Except.bind, Except.mapError]

include h in
/-- A record is read exactly when its command is cut into pieces and no kept flag is a definition
without a name. -/
theorem exists_read_iff :
    (∃ u, reader.read record = .ok u) ↔
      ∃ pieces, IsCut raw pieces ∧ ∀ flag ∈ reader.kept pieces, ¬ Define.IsNameless flag := by
  constructor
  · rintro ⟨u, hu⟩
    obtain ⟨pieces, hcut | hcut⟩ := exists_cut raw
    · rw [reader.read_of_isCut record raw h pieces hcut, Results.mapError_eq_ok_iff] at hu
      exact ⟨pieces, hcut, (SourceUnit.exists_ofFlags_iff _ _ _).mp ⟨u, hu⟩⟩
    · rw [reader.read_of_isCutBeforeOption record raw h pieces hcut] at hu
      cases hu
  · rintro ⟨pieces, hcut, hnamed⟩
    simp only [reader.read_of_isCut record raw h pieces hcut, Results.mapError_eq_ok_iff]
    exact (SourceUnit.exists_ofFlags_iff _ _ _).mpr hnamed

include h in
/-- A record is refused for its shape exactly when its command ends in the option without a
definition. -/
theorem read_eq_danglingDefine_iff :
    reader.read record = .error (.shape record.sourcePath .danglingDefine) ↔
      ∃ pieces, IsCutBeforeOption raw pieces := by
  constructor
  · intro hread
    obtain ⟨pieces, hcut | hcut⟩ := exists_cut raw
    · rw [reader.read_of_isCut record raw h pieces hcut, Results.mapError_eq_error_iff] at hread
      obtain ⟨e, -, he⟩ := hread
      cases he
    · exact ⟨pieces, hcut⟩
  · rintro ⟨pieces, hcut⟩
    exact reader.read_of_isCutBeforeOption record raw h pieces hcut

include h in
/-- A record whose command is cut into pieces is refused for the first kept flag that is a definition
without a name. -/
theorem read_eq_error_iff (pieces : List Piece) (hcut : IsCut raw pieces) (e : ReadError) :
    reader.read record = .error e ↔
      ∃ front flag behind, reader.kept pieces = front ++ flag :: behind ∧
        (∀ f ∈ front, ¬ Define.IsNameless f) ∧ Define.IsNameless flag ∧ e = .define ⟨flag⟩ := by
  rw [reader.read_of_isCut record raw h pieces hcut, Results.mapError_eq_error_iff]
  constructor
  · rintro ⟨_, hunit, rfl⟩
    obtain ⟨front, flag, behind, hkept, hfront, hnameless, rfl⟩ :=
      (SourceUnit.ofFlags_eq_error_iff _ _ _ _).mp hunit
    exact ⟨front, flag, behind, hkept, hfront, hnameless, rfl⟩
  · rintro ⟨front, flag, behind, hkept, hfront, hnameless, rfl⟩
    exact ⟨⟨flag⟩, (SourceUnit.ofFlags_eq_error_iff _ _ _ _).mpr
      ⟨front, flag, behind, hkept, hfront, hnameless, rfl⟩, rfl⟩

include h in
/-- The raw flags of a command are cut into pieces in at most one way, and the record is read exactly
when there is such a cut and no kept flag is a definition without a name. The unit has the kept
flags, the definitions among them, and the others, all in their order. A command that ends in the
option without a definition is refused for its shape, and any other for the first kept flag that
gives no name. Records of one source are read alike when their flags are the same, however the
definitions are spelled. -/
theorem read_of_flags :
    ((∃ u, reader.read record = .ok u) ↔
        ∃ pieces, IsCut raw pieces ∧ ∀ flag ∈ reader.kept pieces, ¬ Define.IsNameless flag) ∧
      (∀ pieces pieces', IsCut raw pieces → IsCut raw pieces' → pieces = pieces') ∧
      (∀ u pieces, reader.read record = .ok u → IsCut raw pieces →
        u.flags = reader.kept pieces ∧
          u.defineFlags = u.flags.filter ("-D".toList.isPrefixOf ·.toList) ∧
          u.others = u.flags.filter (!"-D".toList.isPrefixOf ·.toList)) ∧
      (reader.read record = .error (.shape record.sourcePath .danglingDefine) ↔
        ∃ pieces, IsCutBeforeOption raw pieces) ∧
      (∀ pieces, IsCut raw pieces → ∀ e, reader.read record = .error e ↔
        ∃ front flag behind, reader.kept pieces = front ++ flag :: behind ∧
          (∀ f ∈ front, ¬ Define.IsNameless f) ∧ Define.IsNameless flag ∧ e = .define ⟨flag⟩) ∧
      ∀ record' raw' pieces pieces', record'.sourcePath = record.sourcePath →
        reader.shape.flags record'.tokens = .ok raw' → IsCut raw pieces → IsCut raw' pieces' →
        pieces'.map Piece.flag = pieces.map Piece.flag →
        reader.read record' = reader.read record := by
  refine ⟨reader.exists_read_iff record raw h, IsCut.unique raw, ?_,
    reader.read_eq_danglingDefine_iff record raw h, reader.read_eq_error_iff record raw h, ?_⟩
  · intro u pieces hread hcut
    rw [reader.read_of_isCut record raw h pieces hcut, Results.mapError_eq_ok_iff] at hread
    obtain ⟨hflags, hdefines, hothers⟩ := SourceUnit.flags_of_ofFlags _ _ _ u hread
    refine ⟨hflags, ?_, ?_⟩
    · simp only [hdefines, hflags, ← Define.isDefineFlag_eq]
    · simp only [hothers, hflags, ← Define.isDefineFlag_eq]
  · intro record' raw' pieces pieces' hsource h' hcut hcut' hflags
    have hkept : reader.kept pieces' = reader.kept pieces := by rw [kept, kept, hflags]
    rw [reader.read_of_isCut record raw h pieces hcut,
      reader.read_of_isCut record' raw' h' pieces' hcut', hkept, CompileRecord.relativeSource,
      CompileRecord.relativeSource, hsource]

/-- A definition in two tokens is read as in one, and a refused flag does not take part. -/
theorem read_of_flags_two_spellings :
    let reader : Reader := ⟨⟨"/p"⟩, .standard, ["-O2"]⟩
    let record : List String → CompileRecord := fun flags =>
      ⟨⟨"/p"⟩, ⟨"x.c"⟩, some ("cc" :: flags ++ ["-o", "x.o", "-c", "x.c"]), none, none⟩
    reader.shape.flags (record ["-O2", "-DA=1"]).tokens = .ok ["-O2", "-DA=1"] ∧
      reader.read (record ["-O2", "-D", "A=1"]) = reader.read (record ["-O2", "-DA=1"]) ∧
      ∃ u, reader.read (record ["-O2", "-DA=1"]) = .ok u := by
  intro reader record
  have hflags : reader.shape.flags (record ["-O2", "-DA=1"]).tokens = .ok ["-O2", "-DA=1"] := rfl
  have hflags' : reader.shape.flags (record ["-O2", "-D", "A=1"]).tokens =
      .ok ["-O2", "-D", "A=1"] := rfl
  let pieces : List Piece := [.single "-O2" (by decide), .single "-DA=1" (by decide)]
  let pieces' : List Piece := [.single "-O2" (by decide), .pair "A=1"]
  have hread := reader.read_of_flags (record ["-O2", "-DA=1"]) _ hflags
  refine ⟨hflags, hread.2.2.2.2.2 _ _ pieces pieces' rfl hflags' rfl rfl (by decide),
    hread.1.mpr ⟨pieces, rfl, ?_⟩⟩
  have hkept : reader.kept pieces = ["-DA=1"] := by decide
  rw [hkept, List.forall_mem_singleton, Define.IsNameless]
  decide

end Reader

end Command

end UnityBuild
