import Mathlib.Data.List.Forall2
import TvcGpg.Reference.Crates

/-!
# Reading the joined keys

What `readCertificates` returns, in terms of what rPGP reads in each block: the
certificates of all blocks in order, each fingerprint once, in its first copy.
-/

namespace TvcGpg

open Lib Lib.Text Lib.Fallible Lib.Scans

/-- rPGP reads these certificates in the block that continues with `rest`. -/
def BlockReads (rpgp : Rpgp) (rest : List Char) (certificates : List SignedPublicKey) : Prop :=
  rpgp.fromArmorMany (armorBegin ++ String.ofList rest) = some (certificates.map some)

/-- Entering the certificates of a block stops at one that did not parse. -/
theorem foldlM_keepFirst_eq_ok_iff {found : List (Option SignedPublicKey)} {error : AllowlistError}
    {kept kept' : List Fingerprint × List SignedPublicKey} :
    (found.foldlM (fun kept certificate => do
        let certificate ← okOr certificate error
        return keepFirst SignedPublicKey.primaryFingerprint kept certificate) kept) = .ok kept' ↔
      ∃ certificates : List SignedPublicKey, found = certificates.map some ∧
        kept' = certificates.foldl (keepFirst SignedPublicKey.primaryFingerprint) kept := by
  induction found generalizing kept with
  | nil =>
      constructor
      · intro hOk
        exact ⟨[], rfl, (Except.ok.inj hOk).symm⟩
      · intro hRead
        rcases hRead with ⟨certificates, hFound, rfl⟩
        obtain rfl := List.map_eq_nil_iff.mp hFound.symm
        rfl
  | cons certificate found ih =>
      rw [List.foldlM_cons]
      cases certificate with
      | none =>
          -- the loop stops here, and no list of certificates reads like this
          constructor
          · intro hOk
            cases hOk
          · intro hOk
            rcases hOk with ⟨certificates, hFound, -⟩
            cases certificates with
            | nil => cases hFound
            | cons first rest => cases hFound
      | some certificate =>
          rw [okOr_some, ok_bind]
          show (found.foldlM _ _) = _ ↔ _
          rw [ih]
          constructor
          · intro hOk
            rcases hOk with ⟨certificates, rfl, rfl⟩
            exact ⟨certificate :: certificates, rfl, rfl⟩
          · intro hRead
            rcases hRead with ⟨certificates, hFound, rfl⟩
            cases certificates with
            | nil => cases hFound
            | cons first rest =>
                obtain ⟨hFirst, hRest⟩ := List.cons.inj hFound
                obtain rfl := Option.some.inj hFirst
                exact ⟨rest, hRest, rfl⟩

theorem readBlock_eq_ok_iff {rpgp : Rpgp} {state state' : ReadState} {rest : List Char} :
    readBlock rpgp state rest = .ok state' ↔
      ∃ certificates, BlockReads rpgp rest certificates ∧
        state' =
          { kept := certificates.foldl (keepFirst SignedPublicKey.primaryFingerprint) state.kept
            blocks := state.blocks + 1 } := by
  unfold readBlock BlockReads
  simp only [bind_eq_ok_iff, okOr_eq_ok_iff, foldlM_keepFirst_eq_ok_iff]
  constructor
  · intro hOk
    rcases hOk with ⟨found, hFound, kept, ⟨certificates, rfl, rfl⟩, hState⟩
    exact ⟨certificates, hFound, (Except.ok.inj hState).symm⟩
  · intro hRead
    rcases hRead with ⟨certificates, hFound, rfl⟩
    exact ⟨_, hFound, _, ⟨certificates, rfl, rfl⟩, rfl⟩

/-- The loop over the blocks reads each of them and keeps first copies. -/
theorem foldlM_readBlock_eq_ok_iff {rpgp : Rpgp} {state state' : ReadState}
    {rests : List (List Char)} :
    rests.foldlM (readBlock rpgp) state = .ok state' ↔
      ∃ parsed, List.Forall₂ (BlockReads rpgp) rests parsed ∧
        state' =
          { kept := parsed.flatten.foldl (keepFirst SignedPublicKey.primaryFingerprint) state.kept
            blocks := state.blocks + rests.length } := by
  induction rests generalizing state with
  | nil =>
      constructor
      · intro hOk
        exact ⟨[], .nil, (Except.ok.inj hOk).symm⟩
      · intro hRead
        rcases hRead with ⟨parsed, hParsed, rfl⟩
        cases hParsed
        rfl
  | cons rest rests ih =>
      rw [List.foldlM_cons, bind_eq_ok_iff]
      constructor
      · intro hOk
        rcases hOk with ⟨next, hNext, hRest⟩
        obtain ⟨certificates, hReads, rfl⟩ := readBlock_eq_ok_iff.mp hNext
        obtain ⟨parsed, hParsed, rfl⟩ := ih.mp hRest
        refine ⟨certificates :: parsed, .cons hReads hParsed, ?_⟩
        rw [List.flatten_cons, List.foldl_append, List.length_cons]
        simp only [Nat.add_assoc, Nat.add_comm 1]
      · intro hRead
        rcases hRead with ⟨parsed, hParsed, rfl⟩
        cases hParsed with
        | @cons _ certificates _ parsed hReads hParsed =>
            refine ⟨_, readBlock_eq_ok_iff.mpr ⟨certificates, hReads, rfl⟩, ih.mpr
              ⟨parsed, hParsed, ?_⟩⟩
            rw [List.flatten_cons, List.foldl_append, List.length_cons]
            simp only [Nat.add_assoc, Nat.add_comm 1]

/-- A block that cannot be read is reported by its number. -/
theorem readBlock_eq_error_iff {rpgp : Rpgp} {state : ReadState} {rest : List Char}
    {error : AllowlistError} :
    readBlock rpgp state rest = .error error ↔
      (¬ ∃ certificates, BlockReads rpgp rest certificates) ∧
        error = .badKeyBlock (state.blocks + 1) := by
  have hOnly : OnlyFailsWith (readBlock rpgp state rest) (.badKeyBlock (state.blocks + 1)) := by
    unfold readBlock
    refine (onlyFailsWith_okOr _ _).bind fun found => ?_
    refine OnlyFailsWith.bind (onlyFailsWith_foldlM fun kept certificate => ?_) fun kept =>
      onlyFailsWith_ok _ _
    exact (onlyFailsWith_okOr _ _).bind fun certificate => onlyFailsWith_ok _ _
  constructor
  · intro hError
    refine ⟨?_, hOnly error hError⟩
    intro hReads
    obtain ⟨certificates, hReads⟩ := hReads
    rw [readBlock_eq_ok_iff.mpr ⟨certificates, hReads, rfl⟩] at hError
    cases hError
  · intro hNot
    obtain ⟨hNot, rfl⟩ := hNot
    refine hOnly.eq_error fun state' hOk => ?_
    obtain ⟨certificates, hReads, -⟩ := readBlock_eq_ok_iff.mp hOk
    exact hNot ⟨certificates, hReads⟩

/-- The loop stops at the first block that cannot be read. -/
theorem foldlM_readBlock_eq_error_iff {rpgp : Rpgp} {state : ReadState}
    {rests : List (List Char)} {error : AllowlistError} :
    rests.foldlM (readBlock rpgp) state = .error error ↔
      ∃ front rest back, rests = front ++ rest :: back ∧
        (∀ before ∈ front, ∃ certificates, BlockReads rpgp before certificates) ∧
        (¬ ∃ certificates, BlockReads rpgp rest certificates) ∧
        error = .badKeyBlock (state.blocks + front.length + 1) := by
  induction rests generalizing state with
  | nil =>
      constructor
      · intro hError
        cases hError
      · rintro ⟨front, rest, back, hNil, -⟩
        exact absurd hNil.symm (by simp)
  | cons rest rests ih =>
      rw [List.foldlM_cons, bind_eq_error_iff, readBlock_eq_error_iff]
      constructor
      · intro hError
        rcases hError with ⟨hNot, rfl⟩ | ⟨next, hNext, hLater⟩
        · exact ⟨[], rest, rests, rfl, by simp, hNot, rfl⟩
        · obtain ⟨certificates, hReads, rfl⟩ := readBlock_eq_ok_iff.mp hNext
          obtain ⟨front, bad, back, rfl, hFront, hBad, rfl⟩ := ih.mp hLater
          refine ⟨rest :: front, bad, back, rfl, ?_, hBad, ?_⟩
          · exact List.forall_mem_cons.mpr ⟨⟨certificates, hReads⟩, hFront⟩
          · show AllowlistError.badKeyBlock (state.blocks + 1 + front.length + 1) = _
            rw [List.length_cons, Nat.add_assoc state.blocks, Nat.add_comm 1]
      · intro hError
        rcases hError with ⟨front, bad, back, hRests, hFront, hBad, rfl⟩
        cases front with
        | nil =>
            obtain ⟨rfl, rfl⟩ := List.cons.inj hRests
            exact Or.inl ⟨hBad, rfl⟩
        | cons first front =>
            obtain ⟨rfl, rfl⟩ := List.cons.inj hRests
            obtain ⟨⟨certificates, hReads⟩, hFront⟩ := List.forall_mem_cons.mp hFront
            refine Or.inr ⟨_, readBlock_eq_ok_iff.mpr ⟨certificates, hReads, rfl⟩, ih.mpr
              ⟨front, bad, back, rfl, hFront, hBad, ?_⟩⟩
            have hNumber : state.blocks + (front.length + 1) + 1 =
                state.blocks + 1 + front.length + 1 := by
              omega
            exact congrArg AllowlistError.badKeyBlock hNumber

/-! ## All blocks -/

/-- The part of `readCertificates` behind the cut into blocks. -/
def readRests (rpgp : Rpgp) (rests : List (List Char)) :
    Except AllowlistError (List SignedPublicKey) := do
  let state ← rests.foldlM (readBlock rpgp) { kept := ([], []), blocks := 0 }
  require (state.blocks ≠ 0) .noKeyBlock
  return state.kept.2

theorem readCertificates_asBytes (rpgp : Rpgp) (text : String) :
    readCertificates rpgp (asBytes text) =
      readRests rpgp ((splitOn armorBegin.toList text.toList).drop 1) := by
  unfold readCertificates
  rw [fromUtf8_asBytes]
  rfl

theorem readRests_eq_ok_iff {rpgp : Rpgp} {rests : List (List Char)}
    {certificates : List SignedPublicKey} :
    readRests rpgp rests = .ok certificates ↔
      rests ≠ [] ∧ ∃ parsed, List.Forall₂ (BlockReads rpgp) rests parsed ∧
        certificates = firstsBy SignedPublicKey.primaryFingerprint parsed.flatten := by
  unfold readRests
  simp only [bind_eq_ok_iff, foldlM_readBlock_eq_ok_iff, require_eq_ok_iff]
  constructor
  · intro hOk
    rcases hOk with ⟨state, ⟨parsed, hParsed, rfl⟩, -, hSome, hOk⟩
    refine ⟨?_, parsed, hParsed, (Except.ok.inj hOk).symm⟩
    rintro rfl
    exact hSome rfl
  · intro hOk
    rcases hOk with ⟨hSome, parsed, hParsed, rfl⟩
    refine ⟨_, ⟨parsed, hParsed, rfl⟩, (), ?_, rfl⟩
    simpa using hSome

/-- The block number is the place of the first block that cannot be read. -/
theorem readRests_eq_badKeyBlock_iff {rpgp : Rpgp} {rests : List (List Char)} {n : Nat} :
    readRests rpgp rests = .error (.badKeyBlock n) ↔
      ∃ front rest back, rests = front ++ rest :: back ∧
        (∀ before ∈ front, ∃ certificates, BlockReads rpgp before certificates) ∧
        (¬ ∃ certificates, BlockReads rpgp rest certificates) ∧ n = front.length + 1 := by
  unfold readRests
  simp only [bind_eq_error_iff, foldlM_readBlock_eq_error_iff, Nat.zero_add]
  constructor
  · intro hError
    rcases hError with ⟨front, rest, back, hRests, hFront, hBad, hNumber⟩ | ⟨state, -, hError⟩
    · exact ⟨front, rest, back, hRests, hFront, hBad, AllowlistError.badKeyBlock.inj hNumber⟩
    · rcases hError with hError | ⟨-, -, hError⟩
      · cases (require_eq_error_iff.mp hError).2
      · cases hError
  · intro hError
    rcases hError with ⟨front, rest, back, hRests, hFront, hBad, rfl⟩
    exact Or.inl ⟨front, rest, back, hRests, hFront, hBad, rfl⟩

theorem readRests_eq_noKeyBlock_iff {rpgp : Rpgp} {rests : List (List Char)} :
    readRests rpgp rests = .error .noKeyBlock ↔ rests = [] := by
  constructor
  · intro hError
    unfold readRests at hError
    rcases bind_eq_error_iff.mp hError with hError | ⟨state, hState, hError⟩
    · obtain ⟨front, rest, back, -, -, -, hNumber⟩ := foldlM_readBlock_eq_error_iff.mp hError
      cases hNumber
    · obtain ⟨parsed, hParsed, rfl⟩ := foldlM_readBlock_eq_ok_iff.mp hState
      rcases bind_eq_error_iff.mp hError with hError | ⟨-, -, hError⟩
      · have hNone := (require_eq_error_iff.mp hError).1
        simpa using hNone
      · cases hError
  · rintro rfl
    rfl

/-- What rPGP reads in each block of an armored input, block by block. -/
def ParsedBlocks (rpgp : Rpgp) (armored : Bytes) (parsed : List (List SignedPublicKey)) : Prop :=
  ∃ text, fromUtf8 armored = some text ∧
    List.Forall₂ (BlockReads rpgp) ((splitOn armorBegin.toList text.toList).drop 1) parsed

/-- The certificates read are the first copies of what the blocks hold. -/
theorem readCertificates_eq_ok_iff {rpgp : Rpgp} {armored : Bytes}
    {certificates : List SignedPublicKey} :
    readCertificates rpgp armored = .ok certificates ↔
      ∃ parsed, ParsedBlocks rpgp armored parsed ∧ parsed ≠ [] ∧
        certificates = firstsBy SignedPublicKey.primaryFingerprint parsed.flatten := by
  constructor
  · intro hOk
    obtain ⟨text, hText, -⟩ := bind_eq_ok_iff.mp hOk
    have hText := okOr_eq_ok_iff.mp hText
    rw [← asBytes_of_fromUtf8 hText, readCertificates_asBytes] at hOk
    obtain ⟨hSome, parsed, hParsed, hCertificates⟩ := readRests_eq_ok_iff.mp hOk
    refine ⟨parsed, ⟨text, hText, hParsed⟩, ?_, hCertificates⟩
    rintro rfl
    exact hSome (List.forall₂_nil_right_iff.mp hParsed)
  · intro hRead
    rcases hRead with ⟨parsed, ⟨text, hText, hParsed⟩, hSome, hCertificates⟩
    rw [← asBytes_of_fromUtf8 hText, readCertificates_asBytes]
    refine readRests_eq_ok_iff.mpr ⟨?_, parsed, hParsed, hCertificates⟩
    intro hNil
    rw [hNil] at hParsed
    exact hSome (List.forall₂_nil_left_iff.mp hParsed)

/-- What the blocks hold is determined by the input. -/
theorem ParsedBlocks.unique {rpgp : Rpgp} {armored : Bytes}
    {parsed parsed' : List (List SignedPublicKey)} (hParsed : ParsedBlocks rpgp armored parsed)
    (hParsed' : ParsedBlocks rpgp armored parsed') : parsed = parsed' := by
  obtain ⟨text, hText, hReads⟩ := hParsed
  obtain ⟨text', hText', hReads'⟩ := hParsed'
  obtain rfl := Option.some.inj (hText.symm.trans hText')
  refine List.right_unique_forall₂' (fun rest certificates certificates' hBlock hBlock' => ?_)
    hReads hReads'
  have hMap : certificates.map some = certificates'.map some :=
    Option.some.inj (Eq.trans (Eq.symm hBlock) hBlock')
  exact List.map_injective_iff.mpr (Option.some_injective _) hMap

/-! ## Two blocks -/

namespace Reference

open Lib Lib.Text Lib.Scans

/-- What follows the first line of the first block. -/
def firstRest : List Char := [Char.ofNat 0x0A, 'A']

/-- What follows the first line of the second block. -/
def secondRest : List Char := [Char.ofNat 0x0A, 'B']

/-- The first armored block. -/
def firstBlock : String := armorBegin ++ String.ofList firstRest

/-- The second armored block. -/
def secondBlock : String := armorBegin ++ String.ofList secondRest

/-- The certificates of the two blocks. -/
def published (first second : SignedPublicKey) (block : String) : Option (List SignedPublicKey) :=
  if block = firstBlock then some [first]
  else if block = secondBlock then some [second]
  else none

theorem secondBlock_ne_firstBlock : secondBlock ≠ firstBlock := by
  intro hSame
  have hChars := congrArg String.toList hSame
  simp [firstBlock, secondBlock, firstRest, secondRest] at hChars

theorem blockReads_first (first second : SignedPublicKey) :
    BlockReads (rpgp (published first second)) firstRest [first] := by
  show (published first second firstBlock).map _ = _
  rw [published, if_pos rfl]
  rfl

theorem blockReads_second (first second : SignedPublicKey) :
    BlockReads (rpgp (published first second)) secondRest [second] := by
  show (published first second secondBlock).map _ = _
  rw [published, if_neg secondBlock_ne_firstBlock, if_pos rfl]
  rfl

theorem splitOn_firstBlock :
    (splitOn armorBegin.toList firstBlock.toList).drop 1 = [firstRest] := by
  decide

theorem splitOn_bothBlocks :
    (splitOn armorBegin.toList (firstBlock ++ secondBlock).toList).drop 1 =
      [firstRest, secondRest] := by
  decide

/-- The first block holds the first certificate. -/
theorem parsedBlocks_firstBlock (first second : SignedPublicKey) :
    ParsedBlocks (rpgp (published first second)) (asBytes firstBlock) [[first]] := by
  refine ⟨firstBlock, fromUtf8_asBytes _, ?_⟩
  rw [splitOn_firstBlock]
  exact .cons (blockReads_first first second) .nil

/-- The two blocks hold the two certificates. -/
theorem parsedBlocks_bothBlocks (first second : SignedPublicKey) :
    ParsedBlocks (rpgp (published first second)) (asBytes (firstBlock ++ secondBlock))
      [[first], [second]] := by
  refine ⟨firstBlock ++ secondBlock, fromUtf8_asBytes _, ?_⟩
  rw [splitOn_bothBlocks]
  exact .cons (blockReads_first first second) (.cons (blockReads_second first second) .nil)

/-- Read alone, the first certificate is kept. -/
theorem readCertificates_firstBlock (first second : SignedPublicKey) :
    readCertificates (rpgp (published first second)) (asBytes firstBlock) = .ok [first] :=
  readCertificates_eq_ok_iff.mpr
    ⟨[[first]], parsedBlocks_firstBlock first second, by simp, rfl⟩

/-- Of two copies of one certificate the first is kept. -/
theorem readCertificates_bothBlocks {first second : SignedPublicKey}
    (hCopies : first.primaryFingerprint = second.primaryFingerprint) :
    readCertificates (rpgp (published first second)) (asBytes (firstBlock ++ secondBlock)) =
      .ok [first] := by
  refine readCertificates_eq_ok_iff.mpr
    ⟨[[first], [second]], parsedBlocks_bothBlocks first second, by simp, ?_⟩
  simp [firstsBy, keepFirst, hCopies]

/-- Of two certificates with different keys both are kept. -/
theorem readCertificates_distinct {first second : SignedPublicKey}
    (hDistinct : first.primaryFingerprint ≠ second.primaryFingerprint) :
    readCertificates (rpgp (published first second)) (asBytes (firstBlock ++ secondBlock)) =
      .ok [first, second] := by
  refine readCertificates_eq_ok_iff.mpr
    ⟨[[first], [second]], parsedBlocks_bothBlocks first second, by simp, ?_⟩
  simp [firstsBy, keepFirst, hDistinct.symm]

end Reference
end TvcGpg
