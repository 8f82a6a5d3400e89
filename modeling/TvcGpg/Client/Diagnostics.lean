import TvcGpg.Model.Gpg

/-!
# What the diagnostics filter loses

The reader thread withholds the lines that carry the session key and forwards
the others, as long as every line is a string.  At the first line that is not
valid UTF-8 its loop ends (`forwardLines_append_invalid`): that line and
everything behind it is neither forwarded nor read.  So nothing but the key is
lost exactly where such a line is the last of the stream and carries the key
itself (`diagnostics_lose_only_the_key_iff`).
-/

namespace TvcGpg
namespace Client

open Lib Lib.Text Lib.Lines

/-- A line with the session key marker in it. -/
def CarriesKey (line : Bytes) : Prop := asBytes sessionKeyMarker <:+: line

theorem leaksSessionKey_iff {line : Bytes} : leaksSessionKey line = true ↔ CarriesKey line :=
  decide_eq_true_iff

instance (line : Bytes) : Decidable (CarriesKey line) :=
  decidable_of_iff _ leaksSessionKey_iff

/-- The lines the user is meant to see. -/
def shownLines (lines : List Bytes) : List Bytes := lines.filter fun line => ¬ CarriesKey line

theorem shownLines_cons (line : Bytes) (lines : List Bytes) :
    shownLines (line :: lines) =
      if leaksSessionKey line then shownLines lines else line :: shownLines lines := by
  unfold shownLines
  by_cases hKey : CarriesKey line
  · rw [if_pos (leaksSessionKey_iff.mpr hKey), List.filter_cons_of_neg (by simpa using hKey)]
  · rw [if_neg (mt leaksSessionKey_iff.mp hKey), List.filter_cons_of_pos (by simpa using hKey)]

/-- Strings go through the filter line by line. -/
theorem forwardLines_append {front raws : List Bytes}
    (hValid : ∀ raw ∈ front, (fromUtf8 raw).isSome) :
    forwardLines (front ++ raws) =
      (shownLines (front.map content) ++ (forwardLines raws).1, (forwardLines raws).2) := by
  induction front with
  | nil => rfl
  | cons raw front ih =>
      obtain ⟨hRaw, hFront⟩ := List.forall_mem_cons.mp hValid
      obtain ⟨text, hText⟩ := Option.isSome_iff_exists.mp hRaw
      rw [List.cons_append, forwardLines, hText]
      dsimp only
      rw [ih hFront, List.map_cons, shownLines_cons]
      split
      · rfl
      · rfl

/-- A stream of strings is read to its end. -/
theorem forwardLines_of_valid {raws : List Bytes} (hValid : ∀ raw ∈ raws, (fromUtf8 raw).isSome) :
    forwardLines raws = (shownLines (raws.map content), []) := by
  have hRun : forwardLines (raws ++ []) = _ := forwardLines_append hValid
  rw [List.append_nil] at hRun
  rw [hRun, forwardLines, List.append_nil]

/-- At a line that is no string the loop ends. -/
theorem forwardLines_append_invalid {front back : List Bytes} {raw : Bytes}
    (hValid : ∀ raw ∈ front, (fromUtf8 raw).isSome) (hRaw : fromUtf8 raw = none) :
    forwardLines (front ++ raw :: back) = (shownLines (front.map content), back) := by
  rw [forwardLines_append hValid, forwardLines, hRaw, List.append_nil]

/-- A stream of strings is filtered line by line. -/
theorem readerThread_of_valid {stream : Bytes}
    (hValid : ∀ raw ∈ rawLines stream, (fromUtf8 raw).isSome) :
    readerThread stream = ⟨shownLines (streamLines stream), []⟩ := by
  unfold readerThread
  rw [forwardLines_of_valid hValid]
  rfl

/-- A line that is no string leaves everything behind it unread. -/
theorem readerThread_of_invalid {stream raw : Bytes} {front back : List Bytes}
    (hRaws : rawLines stream = front ++ raw :: back)
    (hValid : ∀ raw ∈ front, (fromUtf8 raw).isSome) (hRaw : fromUtf8 raw = none) :
    readerThread stream = ⟨shownLines (front.map content), back.flatten⟩ := by
  unfold readerThread
  rw [hRaws, forwardLines_append_invalid hValid hRaw]

/-- Every list of pieces is valid throughout or has a first invalid piece. -/
theorem valid_or_first_invalid (raws : List Bytes) :
    (∀ raw ∈ raws, (fromUtf8 raw).isSome) ∨
      ∃ front raw back, raws = front ++ raw :: back ∧ (∀ raw ∈ front, (fromUtf8 raw).isSome) ∧
        fromUtf8 raw = none := by
  induction raws with
  | nil => exact Or.inl (by simp)
  | cons raw raws ih =>
      cases hRaw : fromUtf8 raw with
      | none => exact Or.inr ⟨[], raw, raws, rfl, by simp, hRaw⟩
      | some text =>
          have hSome : (fromUtf8 raw).isSome := by
            rw [hRaw]
            rfl
          rcases ih with hValid | ⟨front, bad, back, rfl, hFront, hBad⟩
          · exact Or.inl (List.forall_mem_cons.mpr ⟨hSome, hValid⟩)
          · exact Or.inr ⟨raw :: front, bad, back, rfl,
              List.forall_mem_cons.mpr ⟨hSome, hFront⟩, hBad⟩

/-- The filter loses nothing but the key. -/
structure LosesOnlyTheKey (stream : Bytes) : Prop where
  /-- The lines forwarded are the lines of the stream without the marker, in order. -/
  forwarded : (readerThread stream).forwarded = shownLines (streamLines stream)
  /-- No line with the marker is forwarded. -/
  withheld : ∀ line ∈ (readerThread stream).forwarded, ¬ CarriesKey line
  /-- The stream is read to its end. -/
  drained : (readerThread stream).unread = []

/-- No stream makes the filter forward the key. -/
theorem not_carriesKey_of_forwarded (stream : Bytes) :
    ∀ line ∈ (readerThread stream).forwarded, ¬ CarriesKey line := by
  have hShown : ∀ lines, ∀ line ∈ shownLines lines, ¬ CarriesKey line := by
    intro lines line hLine
    simpa using (List.mem_filter.mp hLine).2
  rcases valid_or_first_invalid (rawLines stream) with
    hValid | ⟨front, raw, back, hRaws, hValid, hRaw⟩
  · rw [readerThread_of_valid hValid]
    exact hShown _
  · rw [readerThread_of_invalid hRaws hValid hRaw]
    exact hShown _

/-- Every line but the last is a string, and the last is one or carries the key. -/
def Readable (stream : Bytes) : Prop :=
  (∀ raw ∈ (rawLines stream).dropLast, (fromUtf8 raw).isSome) ∧
    ∀ raw, (rawLines stream).getLast? = some raw →
      (fromUtf8 raw).isSome ∨ CarriesKey (content raw)

/-- On a stream of strings nothing but the key is lost. -/
theorem losesOnlyTheKey_of_valid {stream : Bytes}
    (hValid : ∀ raw ∈ rawLines stream, (fromUtf8 raw).isSome) : LosesOnlyTheKey stream := by
  have hRun := readerThread_of_valid hValid
  refine { forwarded := ?_, withheld := not_carriesKey_of_forwarded stream, drained := ?_ }
  · rw [hRun]
  · rw [hRun]

theorem readable_of_valid {stream : Bytes}
    (hValid : ∀ raw ∈ rawLines stream, (fromUtf8 raw).isSome) : Readable stream := by
  constructor
  · intro raw hMem
    exact hValid raw (List.dropLast_subset _ hMem)
  · intro raw hLast
    exact Or.inl (hValid raw (List.mem_of_getLast? hLast))

section FirstInvalid

variable {stream raw : Bytes} {front back : List Bytes}

/-- Behind a line that is no string nothing else is lost exactly where nothing follows and
the line itself carries the key. -/
theorem losesOnlyTheKey_iff_of_invalid (hRaws : rawLines stream = front ++ raw :: back)
    (hValid : ∀ raw ∈ front, (fromUtf8 raw).isSome) (hRaw : fromUtf8 raw = none) :
    LosesOnlyTheKey stream ↔ back = [] ∧ CarriesKey (content raw) := by
  have hRun := readerThread_of_invalid hRaws hValid hRaw
  have hLines : shownLines (streamLines stream) =
      shownLines (front.map content) ++ shownLines ((raw :: back).map content) := by
    unfold streamLines
    rw [hRaws, List.map_append]
    exact List.filter_append _ _
  constructor
  · intro hLoses
    -- what stands behind the line is not read, so it is nothing
    have hUnread := hLoses.drained
    rw [hRun] at hUnread
    have hSplit : rawLines stream = (front ++ [raw]) ++ back := by
      rw [hRaws]
      simp
    obtain rfl := (flatten_eq_nil_iff_of_rawLines hSplit).mp hUnread
    -- and the line itself is not forwarded, so it carries the key
    have hForwarded := hLoses.forwarded
    rw [hRun, hLines] at hForwarded
    have hShown : shownLines [content raw] = [] := List.self_eq_append_right.mp hForwarded
    exact ⟨rfl, by simpa [shownLines] using hShown⟩
  · rintro ⟨rfl, hKey⟩
    refine { forwarded := ?_, withheld := not_carriesKey_of_forwarded stream, drained := ?_ }
    · rw [hRun, hLines]
      simp [shownLines, hKey]
    · rw [hRun]
      rfl

theorem readable_iff_of_invalid (hRaws : rawLines stream = front ++ raw :: back)
    (hValid : ∀ raw ∈ front, (fromUtf8 raw).isSome) (hRaw : fromUtf8 raw = none) :
    Readable stream ↔ back = [] ∧ CarriesKey (content raw) := by
  have hNone : ¬ (fromUtf8 raw).isSome = true := by
    rw [hRaw]
    exact Bool.false_ne_true
  constructor
  · rintro ⟨hInner, hLast⟩
    have hSplit : rawLines stream = (front ++ [raw]) ++ back := by
      rw [hRaws]
      simp
    -- a line that is no string is the last one
    have hBack : back = [] := by
      by_contra hSome
      have hMem : raw ∈ (rawLines stream).dropLast := by
        rw [hSplit, List.dropLast_append_of_ne_nil hSome]
        simp
      exact hNone (hInner raw hMem)
    subst hBack
    have hKey := hLast raw (by rw [hRaws, List.getLast?_concat])
    exact ⟨rfl, hKey.resolve_left hNone⟩
  · rintro ⟨rfl, hKey⟩
    constructor
    · rw [hRaws, List.dropLast_concat]
      exact hValid
    · intro last hLast
      rw [hRaws, List.getLast?_concat] at hLast
      obtain rfl := Option.some.inj hLast
      exact Or.inr hKey

end FirstInvalid

theorem readable_of_losesOnlyTheKey {stream : Bytes} (hLoses : LosesOnlyTheKey stream) :
    Readable stream := by
  rcases valid_or_first_invalid (rawLines stream) with
    hValid | ⟨front, raw, back, hRaws, hValid, hRaw⟩
  · exact readable_of_valid hValid
  · have hLast := (losesOnlyTheKey_iff_of_invalid hRaws hValid hRaw).mp hLoses
    exact (readable_iff_of_invalid hRaws hValid hRaw).mpr hLast

theorem losesOnlyTheKey_of_readable {stream : Bytes} (hReadable : Readable stream) :
    LosesOnlyTheKey stream := by
  rcases valid_or_first_invalid (rawLines stream) with
    hValid | ⟨front, raw, back, hRaws, hValid, hRaw⟩
  · exact losesOnlyTheKey_of_valid hValid
  · have hLast := (readable_iff_of_invalid hRaws hValid hRaw).mp hReadable
    exact (losesOnlyTheKey_iff_of_invalid hRaws hValid hRaw).mpr hLast

/-- Nothing but the key is lost exactly on readable streams. -/
theorem diagnostics_lose_only_the_key_iff (stream : Bytes) :
    LosesOnlyTheKey stream ↔ Readable stream := by
  constructor
  · exact readable_of_losesOnlyTheKey
  · exact losesOnlyTheKey_of_readable

/-- A diagnostic that names a user id in an encoding other than UTF-8, and one behind it. -/
def strayDiagnostics : Bytes :=
  asBytes "gpg: user " ++ [0xE9, 0x0A] ++ asBytes "gpg: no key" ++ [0x0A]

/-- A user id that is not UTF-8 takes the rest of the diagnostics with it. -/
theorem stray_byte_loses_diagnostics :
    ¬ LosesOnlyTheKey strayDiagnostics ∧ (readerThread strayDiagnostics).forwarded = [] ∧
      (readerThread strayDiagnostics).unread = asBytes "gpg: no key" ++ [0x0A] := by
  have hRun : readerThread strayDiagnostics = ⟨[], asBytes "gpg: no key" ++ [0x0A]⟩ := by
    decide +kernel
  refine ⟨?_, by rw [hRun], by rw [hRun]⟩
  intro hLoses
  have hDrained := hLoses.drained
  rw [hRun] at hDrained
  revert hDrained
  decide +kernel

end Client
end TvcGpg
