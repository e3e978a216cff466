import Mathlib.Data.List.Forall2
import UnityBuild.Command.Reader

/-!
# Commands that have a shape

A command that is long enough is cut in one way into tokens for the places in front, flags, and tokens
for the places behind. The flags are found exactly when every token can stand in its place, and else
the first place that refuses its token is reported, the places in front before those behind. All cuts
are made inside the command, also when a shape has no places on one side or a command has no flags, so
reading with bounds that are checked finds the same.

Main statement: `Shape.flags_exact`.
-/

namespace UnityBuild.Command

/-- As many tokens as places, each of which can stand in its place. -/
def Fits (places : List TokenShape) (tokens : List String) : Prop :=
  List.Forall₂ (fun place token => place.accepts token = true) places tokens

/-- A place refuses the token in it, and all places before it have tokens that can stand there. -/
def FirstRefusal (places : List TokenShape) (tokens : List String) (expected : TokenShape)
    (found : String) : Prop :=
  ∃ places₁ places₂ tokens₁ tokens₂, places = places₁ ++ expected :: places₂ ∧
    tokens = tokens₁ ++ found :: tokens₂ ∧ Fits places₁ tokens₁ ∧ expected.accepts found = false

section Places

variable (places : List TokenShape) (tokens : List String)
variable (hlength : places.length = tokens.length)

include hlength in
/-- No place refuses its token exactly when the tokens fit. -/
theorem firstMismatch?_zip_eq_none_iff :
    Shape.firstMismatch? (places.zip tokens) = none ↔ Fits places tokens := by
  rw [Shape.firstMismatch?, List.find?_eq_none, Fits, List.forall₂_iff_zip, and_iff_right hlength]
  simp

include hlength in
/-- The place that is found is the first one that refuses its token. -/
theorem firstMismatch?_zip_eq_some_iff (expected : TokenShape) (found : String) :
    Shape.firstMismatch? (places.zip tokens) = some (expected, found) ↔
      FirstRefusal places tokens expected found := by
  rw [Shape.firstMismatch?, List.find?_eq_some_iff_append]
  constructor
  · rintro ⟨hrefused, before, behind, hzip, hbefore⟩
    obtain ⟨places₁, rest, tokens₁, rest', hlength₁, rfl, rfl, rfl, hrest⟩ :=
      List.zip_eq_append_iff.mp hzip
    obtain ⟨places₂, tokens₂, rfl, rfl, -⟩ := List.zip_eq_cons_iff.mp hrest.symm
    refine ⟨places₁, places₂, tokens₁, tokens₂, rfl, rfl, ?_, by simpa using hrefused⟩
    exact List.forall₂_iff_zip.mpr ⟨hlength₁, fun hmem => by simpa using hbefore _ hmem⟩
  · rintro ⟨places₁, places₂, tokens₁, tokens₂, rfl, rfl, hfits, hrefused⟩
    obtain ⟨hlength₁, haccepts⟩ := List.forall₂_iff_zip.mp hfits
    refine ⟨by simpa using hrefused, places₁.zip tokens₁, places₂.zip tokens₂, ?_, ?_⟩
    · rw [List.zip_append hlength₁, List.zip_cons_cons]
    · rintro ⟨place, token⟩ hmem
      simp [haccepts hmem]

end Places

/-- The part of a list between two bounds, unless they are in the wrong order or beyond its end. -/
def slice? {α : Type} (l : List α) (start stop : Nat) : Option (List α) :=
  if start ≤ stop ∧ stop ≤ l.length then some ((l.take stop).drop start) else none

/-- A difference that is not negative. -/
def difference? (a b : Nat) : Option Nat :=
  if b ≤ a then some (a - b) else none

namespace Shape

/-- The flags of a command, read with bounds that are checked: there is no result when a part of the
command is taken that does not lie in it. -/
def checkedFlags? (s : Shape) (tokens : List String) : Option (Except ShapeFault (List String)) :=
  if tokens.length < s.minTokens then some (.error (.tooFewTokens s tokens.length))
  else do
    let trailingStart ← difference? tokens.length s.trailing.length
    let front ← slice? tokens 0 s.leading.length
    let behind ← slice? tokens trailingStart tokens.length
    match firstMismatch? (s.leading.zip front ++ s.trailing.zip behind) with
    | some (expected, found) => some (.error (.unexpectedToken s expected found))
    | none => (slice? tokens s.leading.length trailingStart).map .ok

/-- Tokens in front for the places in front, flags, and tokens behind for the places behind. -/
structure Divides (s : Shape) (tokens front flags behind : List String) : Prop where
  whole : tokens = front ++ flags ++ behind
  front_length : s.leading.length = front.length
  behind_length : s.trailing.length = behind.length

/-- A command is cut exactly when it is long enough. -/
theorem exists_divides_iff (s : Shape) (tokens : List String) :
    (∃ front flags behind, s.Divides tokens front flags behind) ↔ s.minTokens ≤ tokens.length := by
  rw [minTokens]
  constructor
  · rintro ⟨front, flags, behind, rfl, hfront, hbehind⟩
    simp only [List.length_append]
    omega
  · intro hlong
    refine ⟨tokens.take s.leading.length, s.middle tokens,
      tokens.drop (tokens.length - s.trailing.length), ?_, ?_, ?_⟩
    · have hfront : (tokens.take (tokens.length - s.trailing.length)).take s.leading.length =
          tokens.take s.leading.length := by
        rw [List.take_take, Nat.min_eq_left (by omega)]
      rw [middle, ← hfront, List.take_append_drop, List.take_append_drop]
    · rw [List.length_take]
      omega
    · rw [List.length_drop]
      omega

section Cut

variable (s : Shape) (tokens front flags behind : List String)
variable (hcut : s.Divides tokens front flags behind)

include hcut in
/-- The places of a shape hold the tokens in front and the tokens behind. -/
theorem places_of_divides : s.places tokens = s.leading.zip front ++ s.trailing.zip behind := by
  obtain ⟨rfl, hfront, hbehind⟩ := hcut
  have hleading : s.leading.zip (front ++ flags ++ behind) = s.leading.zip front := by
    have hzip : (s.leading ++ []).zip (front ++ (flags ++ behind)) =
        s.leading.zip front ++ [].zip (flags ++ behind) := List.zip_append hfront
    simpa using hzip
  rw [places, hleading, List.length_append, hbehind, Nat.add_sub_cancel, List.drop_left]

include hcut in
/-- The flags stand between the tokens in front and the tokens behind. -/
theorem middle_of_divides : s.middle tokens = flags := by
  obtain ⟨rfl, hfront, hbehind⟩ := hcut
  rw [middle, List.length_append, hbehind, Nat.add_sub_cancel, List.take_left, hfront, List.drop_left]

include hcut in
/-- No place refuses its token exactly when the tokens on both sides fit. -/
theorem firstMismatch?_places_eq_none_iff :
    firstMismatch? (s.places tokens) = none ↔ Fits s.leading front ∧ Fits s.trailing behind := by
  rw [s.places_of_divides tokens front flags behind hcut, firstMismatch?, List.find?_append,
    Option.or_eq_none_iff]
  exact and_congr (firstMismatch?_zip_eq_none_iff _ _ hcut.front_length)
    (firstMismatch?_zip_eq_none_iff _ _ hcut.behind_length)

include hcut in
/-- The first refusal is one in front, or one behind when the tokens in front fit. -/
theorem firstMismatch?_places_eq_some_iff (expected : TokenShape) (found : String) :
    firstMismatch? (s.places tokens) = some (expected, found) ↔
      FirstRefusal s.leading front expected found ∨
        Fits s.leading front ∧ FirstRefusal s.trailing behind expected found := by
  rw [s.places_of_divides tokens front flags behind hcut, firstMismatch?, List.find?_append,
    Option.or_eq_some_iff]
  exact or_congr (firstMismatch?_zip_eq_some_iff _ _ hcut.front_length _ _)
    (and_congr (firstMismatch?_zip_eq_none_iff _ _ hcut.front_length)
      (firstMismatch?_zip_eq_some_iff _ _ hcut.behind_length _ _))

include hcut in
/-- Taking the parts of a command that is cut never leaves the command. -/
theorem checkedFlags?_of_divides : s.checkedFlags? tokens = some (s.flags tokens) := by
  have hlong := Nat.not_lt.mpr ((s.exists_divides_iff tokens).mp ⟨front, flags, behind, hcut⟩)
  have hplaces := s.places_of_divides tokens front flags behind hcut
  have hmiddle := s.middle_of_divides tokens front flags behind hcut
  obtain ⟨hwhole, hfront, hbehind⟩ := hcut
  have hlength : tokens.length = front.length + flags.length + behind.length := by
    rw [hwhole, List.length_append, List.length_append]
  have hstart : difference? tokens.length s.trailing.length = some (front ++ flags).length := by
    rw [difference?, if_pos (by omega), List.length_append]
    congr 1
    omega
  have hbefore : slice? tokens 0 s.leading.length = some front := by
    rw [slice?, if_pos (by omega), hfront, hwhole, List.append_assoc, List.take_left]
    rfl
  have hafter : slice? tokens (front ++ flags).length tokens.length = some behind := by
    rw [slice?, if_pos (by rw [List.length_append]; omega), List.take_length, hwhole, List.drop_left]
  have hbetween : slice? tokens s.leading.length (front ++ flags).length = some flags := by
    rw [slice?, if_pos (by rw [List.length_append]; omega), hfront, hwhole, List.take_left,
      List.drop_left]
  rw [checkedFlags?, Shape.flags, if_neg hlong, if_neg hlong, hplaces, hmiddle]
  simp only [hstart, hbefore, hafter, hbetween, Option.bind_eq_bind, Option.bind_some]
  cases firstMismatch? (s.leading.zip front ++ s.trailing.zip behind) <;> rfl

end Cut

/-- The flags of a command are what stands between tokens that fit. -/
theorem flags_eq_ok_iff (s : Shape) (tokens flags : List String) :
    s.flags tokens = .ok flags ↔
      ∃ front behind, tokens = front ++ flags ++ behind ∧
        Fits s.leading front ∧ Fits s.trailing behind := by
  constructor
  · intro h
    unfold Shape.flags at h
    split at h
    · cases h
    · rename_i hlong
      obtain ⟨front, flags', behind, hcut⟩ :=
        (s.exists_divides_iff tokens).mpr (Nat.not_lt.mp hlong)
      split at h
      · cases h
      · rename_i hnone
        rw [s.middle_of_divides tokens front flags' behind hcut] at h
        obtain rfl := Except.ok.inj h
        exact ⟨front, behind, hcut.whole,
          (s.firstMismatch?_places_eq_none_iff tokens front flags' behind hcut).mp hnone⟩
  · rintro ⟨front, behind, hwhole, hfront, hbehind⟩
    have hcut : s.Divides tokens front flags behind :=
      ⟨hwhole, hfront.length_eq, hbehind.length_eq⟩
    have hlong := (s.exists_divides_iff tokens).mp ⟨front, flags, behind, hcut⟩
    have hnone := (s.firstMismatch?_places_eq_none_iff tokens front flags behind hcut).mpr
      ⟨hfront, hbehind⟩
    rw [Shape.flags, if_neg (Nat.not_lt.mpr hlong), hnone,
      s.middle_of_divides tokens front flags behind hcut]

/-- A command without flags is too short, or a place of it is the first one that refuses its token. -/
theorem flags_eq_error_iff (s : Shape) (tokens : List String) (fault : ShapeFault) :
    s.flags tokens = .error fault ↔
      (tokens.length < s.minTokens ∧ fault = .tooFewTokens s tokens.length) ∨
        ∃ front flags behind expected found, s.Divides tokens front flags behind ∧
          (FirstRefusal s.leading front expected found ∨
            Fits s.leading front ∧ FirstRefusal s.trailing behind expected found) ∧
          fault = .unexpectedToken s expected found := by
  by_cases hshort : tokens.length < s.minTokens
  · rw [Shape.flags, if_pos hshort, Except.error.injEq, and_iff_right hshort, eq_comm]
    refine ⟨.inl, fun h => h.resolve_right ?_⟩
    rintro ⟨front, flags, behind, _, _, hcut, -⟩
    exact Nat.not_lt.mpr ((s.exists_divides_iff tokens).mp ⟨front, flags, behind, hcut⟩) hshort
  · rw [Shape.flags, if_neg hshort, or_iff_right fun h => hshort h.1]
    constructor
    · intro h
      obtain ⟨front, flags, behind, hcut⟩ := (s.exists_divides_iff tokens).mpr (Nat.not_lt.mp hshort)
      split at h
      · rename_i expected found hsome
        exact ⟨front, flags, behind, expected, found, hcut,
          (s.firstMismatch?_places_eq_some_iff tokens front flags behind hcut _ _).mp hsome,
          (Except.error.inj h).symm⟩
      · cases h
    · rintro ⟨front, flags, behind, expected, found, hcut, hrefusal, rfl⟩
      rw [(s.firstMismatch?_places_eq_some_iff tokens front flags behind hcut _ _).mpr hrefusal]

/-- Taking the parts of a command never leaves the command. -/
theorem checkedFlags?_eq (s : Shape) (tokens : List String) :
    s.checkedFlags? tokens = some (s.flags tokens) := by
  by_cases hshort : tokens.length < s.minTokens
  · rw [checkedFlags?, Shape.flags, if_pos hshort, if_pos hshort]
  · obtain ⟨front, flags, behind, hcut⟩ := (s.exists_divides_iff tokens).mpr (Nat.not_lt.mp hshort)
    exact s.checkedFlags?_of_divides tokens front flags behind hcut

end Shape

/-- A record whose command has another shape is refused for it. -/
theorem Reader.read_of_flags_eq_error (reader : Reader) (record : CompileRecord) (fault : ShapeFault)
    (h : reader.shape.flags record.tokens = .error fault) :
    reader.read record = .error (.shape record.sourcePath fault) := by
  simp only [read, keptFlags, h, bind, Except.bind, Except.mapError]

/-- A command has flags exactly when it consists of tokens that fit the places in front, the flags, and
tokens that fit the places behind. Any other command is refused: for the number of its tokens when it
is too short, and else for the first place that refuses its token, the places in front before those
behind. No part is taken that does not lie in the command, and a record whose command is refused is
refused for the same. -/
theorem Shape.flags_exact (s : Shape) (tokens : List String) :
    s.checkedFlags? tokens = some (s.flags tokens) ∧
      (∀ flags, s.flags tokens = .ok flags ↔
        ∃ front behind, tokens = front ++ flags ++ behind ∧
          Fits s.leading front ∧ Fits s.trailing behind) ∧
      (∀ fault, s.flags tokens = .error fault ↔
        (tokens.length < s.minTokens ∧ fault = .tooFewTokens s tokens.length) ∨
          ∃ front flags behind expected found, s.Divides tokens front flags behind ∧
            (FirstRefusal s.leading front expected found ∨
              Fits s.leading front ∧ FirstRefusal s.trailing behind expected found) ∧
            fault = .unexpectedToken s expected found) ∧
      ∀ (reader : Reader) (record : CompileRecord) (fault : ShapeFault), reader.shape = s →
        record.tokens = tokens → s.flags tokens = .error fault →
          reader.read record = .error (.shape record.sourcePath fault) := by
  refine ⟨s.checkedFlags?_eq tokens, s.flags_eq_ok_iff tokens, s.flags_eq_error_iff tokens, ?_⟩
  rintro reader record fault rfl rfl h
  exact reader.read_of_flags_eq_error record fault h

/-- When both sides refuse a token, the one in front is reported. -/
example :
    let shape : Shape := ⟨[.literal "cc"], [.literal "-c"]⟩
    shape.flags ["ld", "-E"] = .error (.unexpectedToken shape (.literal "cc") "ld") := by
  decide

end UnityBuild.Command
