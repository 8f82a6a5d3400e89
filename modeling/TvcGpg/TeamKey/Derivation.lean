import TvcGpg.Lib.Attempts
import TvcGpg.Lib.HmacKey
import TvcGpg.Lib.Logged
import TvcGpg.Model.TeamKey

/-!
# Derivation of the team key

`deriveScalar` makes up to 256 attempts: the bare path, and then the path with a counter
byte of 1 to 255 behind it.  The salt buffer is written over from round to round, and what
carries the loop is that it starts with the path throughout (`deriveScalarLoop_eq`).  So a
run is a search through the attempts in turn, and the first one whose output is not out of
range decides what it ends with.

HKDF uses the salt as an HMAC key, and HMAC fills a short key up with zero bytes.  The
counter bytes stand behind the path where the bare path is filled up with a zero, and so no
two attempts are the same to it (`hmacKey_attemptSalt_inj`).
-/

namespace TvcGpg
namespace Team

open Lib Lib.Text Lib.Attempts Lib.HmacKey Lib.Logged

/-! ## The attempts -/

/-- The salt of attempt number `k`: the bare path, and then the path with `k` behind it. -/
def attemptSalt (path : Bytes) (k : Nat) : Bytes :=
  if k = 0 then path else path ++ [UInt8.ofNat k]

/-- Attempt number `k` to derive a scalar. -/
def attempt (seed path : Bytes) (k : Nat) : HkdfInput :=
  { seed, salt := attemptSalt path k }

/-- The first `count` attempts, in their order. -/
def attempts (seed path : Bytes) (count : Nat) : List HkdfInput :=
  (List.range count).map (attempt seed path)

section Attempt

variable (crates : KeyCrates) (asked : List HkdfInput) (seed path : Bytes)

/-- What `derive_secret` answers to attempt number `k`, behind the attempts before it. -/
def answerTo (k : Nat) : Except P256Error Bytes :=
  crates.deriveSecret (asked ++ attempts seed path k) (attempt seed path k)

/-- The output of attempt number `k` is out of range. -/
def OutOfRange (k : Nat) : Prop :=
  ∃ bytes, answerTo crates asked seed path k = .ok bytes ∧ crates.scalarFromSlice bytes = none

/-- The output of attempt number `k` is in range, and is this scalar. -/
def InRange (k : Nat) (scalar : Scalar) : Prop :=
  ∃ bytes,
    answerTo crates asked seed path k = .ok bytes ∧ crates.scalarFromSlice bytes = some scalar

/-- What a run does with an answer: it goes on when the output is out of range. -/
def settled (asked : List HkdfInput) (input : HkdfInput) : Option (Except P256Error Scalar) :=
  match crates.deriveSecret asked input with
  | .error error => some (.error error)
  | .ok bytes => (crates.scalarFromSlice bytes).map .ok

/-- The result of a run that ends with a search. -/
def ofSearch :
    Option (Except P256Error Scalar) × List HkdfInput →
      EStateM.Result TeamKeyError (List HkdfInput) Scalar
  | (some (.ok scalar), after) => .ok scalar after
  | (some (.error error), after) => .error (.derive error) after
  | (none, after) => .error .derivationExhausted after

end Attempt

/-! ## The loop -/

section Loop

variable {crates : KeyCrates} {seed path salt : Bytes}

theorem take_attemptSalt (path : Bytes) (k : Nat) :
    (attemptSalt path k).take path.length = path := by
  unfold attemptSalt
  split
  · exact List.take_length
  · exact List.take_left

/-- The salt of a round, whatever a round before it has left in the buffer. -/
theorem roundSalt_eq {k : Nat} (hk : k < 256) (hSalt : salt.take path.length = path)
    (hFirst : k = 0 → salt = path) :
    (if 0 < UInt8.ofNat k then salt.take path.length ++ [UInt8.ofNat k] else salt) =
      attemptSalt path k := by
  have hCounter : 0 < UInt8.ofNat k ↔ k ≠ 0 := by
    rw [UInt8.lt_iff_toNat_lt, UInt8.toNat_ofNat_of_lt' hk]
    exact Nat.pos_iff_ne_zero
  unfold attemptSalt
  by_cases hZero : k = 0
  · rw [if_neg (by rw [hCounter]; exact not_not.mpr hZero), if_pos hZero, hFirst hZero]
  · rw [if_pos (hCounter.mpr hZero), if_neg hZero, hSalt]

/-- One round of the loop. -/
theorem deriveScalarLoop_cons {k : Nat} (hk : k < 256) (hSalt : salt.take path.length = path)
    (hFirst : k = 0 → salt = path) (counters : List UInt8) (asked : List HkdfInput) :
    deriveScalarLoop crates seed path salt (UInt8.ofNat k :: counters) asked =
      match settled crates asked (attempt seed path k) with
      | some result => ofSearch (some result, asked ++ [attempt seed path k])
      | none =>
          deriveScalarLoop crates seed path (attemptSalt path k) counters
            (asked ++ [attempt seed path k]) := by
  rw [deriveScalarLoop, roundSalt_eq hk hSalt hFirst]
  show (deriveSecret crates (attempt seed path k) >>= _) asked = _
  unfold settled
  cases hAnswer : crates.deriveSecret asked (attempt seed path k) with
  | error error =>
      have hCall : deriveSecret crates (attempt seed path k) asked =
          .error (.derive error) (asked ++ [attempt seed path k]) := by
        simp only [deriveSecret, hAnswer]
      rw [bind_of_error hCall]
      rfl
  | ok bytes =>
      have hCall : deriveSecret crates (attempt seed path k) asked =
          .ok bytes (asked ++ [attempt seed path k]) := by
        simp only [deriveSecret, hAnswer]
      rw [bind_of_ok hCall]
      cases hRange : crates.scalarFromSlice bytes with
      | some scalar => simp only [hRange]; rfl
      | none => simp only [hRange]; rfl

/-- From any round on, the loop is a search through the attempts that are left. -/
theorem deriveScalarLoop_eq {first count : Nat} (hLast : first + count ≤ 256)
    (hSalt : salt.take path.length = path) (hFirst : first = 0 → salt = path)
    (asked : List HkdfInput) :
    deriveScalarLoop crates seed path salt ((List.range' first count).map UInt8.ofNat) asked =
      ofSearch (search (settled crates) asked
        ((List.range' first count).map (attempt seed path))) := by
  induction count generalizing first salt asked with
  | zero => rfl
  | succ count ih =>
      rw [List.range'_succ, List.map_cons, List.map_cons, search,
        deriveScalarLoop_cons (by omega) hSalt hFirst]
      cases settled crates asked (attempt seed path first) with
      | some result => rfl
      | none =>
          exact ih (by omega) (take_attemptSalt path first) (fun hNext => by omega) _

/-- A derivation is a search through all the attempts. -/
theorem deriveScalar_eq (crates : KeyCrates) (seed path : Bytes) (asked : List HkdfInput) :
    deriveScalar crates seed path asked =
      ofSearch (search (settled crates) asked (attempts seed path 256)) := by
  unfold deriveScalar counterBytes attempts
  rw [List.range_eq_range']
  exact deriveScalarLoop_eq (by omega) List.take_length (fun _ => rfl) asked

end Loop

/-! ## What a derivation ends with -/

section Outcome

variable {crates : KeyCrates} {asked after : List HkdfInput} {seed path : Bytes} {k : Nat}

/-- What a run ends with tells what its search has found. -/
theorem ofSearch_injective : Function.Injective ofSearch := by
  rintro ⟨first, firstAsked⟩ ⟨second, secondAsked⟩ hSame
  -- the three results differ in their constructors, and keep all there is
  rcases first with _ | ⟨_ | _⟩ <;> rcases second with _ | ⟨_ | _⟩ <;> cases hSame
  · rfl
  · rfl
  · rfl

/-- A derivation ends the way a search does when its own search is that one. -/
theorem deriveScalar_eq_ofSearch_iff {found : Option (Except P256Error Scalar)} :
    deriveScalar crates seed path asked = ofSearch (found, after) ↔
      search (settled crates) asked (attempts seed path 256) = (found, after) := by
  rw [deriveScalar_eq, ofSearch_injective.eq_iff]

theorem settled_eq_none_iff :
    settled crates (asked ++ attempts seed path k) (attempt seed path k) = none ↔
      OutOfRange crates asked seed path k := by
  unfold settled OutOfRange answerTo
  cases crates.deriveSecret (asked ++ attempts seed path k) (attempt seed path k) with
  | error error => simp
  | ok bytes => simp

theorem settled_eq_ok_iff {scalar : Scalar} :
    settled crates (asked ++ attempts seed path k) (attempt seed path k) = some (.ok scalar) ↔
      InRange crates asked seed path k scalar := by
  unfold settled InRange answerTo
  cases crates.deriveSecret (asked ++ attempts seed path k) (attempt seed path k) with
  | error error => simp
  | ok bytes => simp

theorem settled_eq_error_iff {error : P256Error} :
    settled crates (asked ++ attempts seed path k) (attempt seed path k) = some (.error error) ↔
      answerTo crates asked seed path k = .error error := by
  unfold settled answerTo
  cases crates.deriveSecret (asked ++ attempts seed path k) (attempt seed path k) with
  | error error => simp
  | ok bytes => simp

/-- A derivation settles with the first attempt that is not out of range. -/
theorem search_attempts_iff {result : Except P256Error Scalar} :
    search (settled crates) asked (attempts seed path 256) = (some result, after) ↔
      ∃ k < 256, (∀ j < k, OutOfRange crates asked seed path j) ∧
        settled crates (asked ++ attempts seed path k) (attempt seed path k) = some result ∧
          after = asked ++ attempts seed path (k + 1) := by
  simp only [← settled_eq_none_iff]
  exact search_range_eq_some_iff

/-- It comes to nothing when every attempt is out of range. -/
theorem search_attempts_none_iff :
    search (settled crates) asked (attempts seed path 256) = (none, after) ↔
      (∀ j < 256, OutOfRange crates asked seed path j) ∧
        after = asked ++ attempts seed path 256 := by
  simp only [← settled_eq_none_iff]
  rw [search_eq_none_iff]
  exact and_congr rejectsAll_range_iff Iff.rfl

/-- What a derivation does from any run on: it makes the attempts in turn, and ends with
the first one that is not out of range. -/
structure DerivesInTurn (crates : KeyCrates) (seed path : Bytes) (asked : List HkdfInput) :
    Prop where
  /-- It returns the scalar of the first attempt in range. -/
  returns_iff : ∀ scalar after,
    deriveScalar crates seed path asked = .ok scalar after ↔
      ∃ k < 256, (∀ j < k, OutOfRange crates asked seed path j) ∧
        InRange crates asked seed path k scalar ∧ after = asked ++ attempts seed path (k + 1)
  /-- It stops at an attempt that fails, when those before it are out of range. -/
  fails_iff : ∀ error after,
    deriveScalar crates seed path asked = .error (.derive error) after ↔
      ∃ k < 256, (∀ j < k, OutOfRange crates asked seed path j) ∧
        answerTo crates asked seed path k = .error error ∧
          after = asked ++ attempts seed path (k + 1)
  /-- It is exhausted when all attempts are out of range, and has then made them all. -/
  exhausted_iff : ∀ after,
    deriveScalar crates seed path asked = .error .derivationExhausted after ↔
      (∀ j < 256, OutOfRange crates asked seed path j) ∧
        after = asked ++ attempts seed path 256
  /-- It has no other errors. -/
  no_other_error : ∀ error after,
    deriveScalar crates seed path asked ≠ .error (.pgp error) after

theorem derivesInTurn (crates : KeyCrates) (seed path : Bytes) (asked : List HkdfInput) :
    DerivesInTurn crates seed path asked where
  returns_iff scalar after := by
    show deriveScalar crates seed path asked = ofSearch (some (.ok scalar), after) ↔ _
    rw [deriveScalar_eq_ofSearch_iff, search_attempts_iff]
    simp only [settled_eq_ok_iff]
  fails_iff error after := by
    show deriveScalar crates seed path asked = ofSearch (some (.error error), after) ↔ _
    rw [deriveScalar_eq_ofSearch_iff, search_attempts_iff]
    simp only [settled_eq_error_iff]
  exhausted_iff after := by
    show deriveScalar crates seed path asked = ofSearch (none, after) ↔ _
    rw [deriveScalar_eq_ofSearch_iff, search_attempts_none_iff]
  no_other_error error after := by
    rw [deriveScalar_eq]
    rcases search (settled crates) asked (attempts seed path 256) with ⟨_ | ⟨_ | _⟩, _⟩ <;>
      simp [ofSearch]

end Outcome

/-! ## The salts as HMAC keys -/

section Salts

variable {hash : Bytes → Bytes} {block : Nat} {path : Bytes}

theorem length_attemptSalt_le (path : Bytes) (k : Nat) :
    (attemptSalt path k).length ≤ path.length + 1 := by
  unfold attemptSalt
  split
  · exact Nat.le_succ _
  · exact (List.length_append).le

/-- The salts of all attempts start with the path. -/
theorem getD_attemptSalt_of_lt {position : Nat} (hInside : position < path.length) (k : Nat) :
    (attemptSalt path k).getD position 0 = path.getD position 0 := by
  unfold attemptSalt
  split
  · rfl
  · exact List.getD_append _ _ _ _ hInside

/-- Behind the path stands the number of the attempt: the bare path is number zero. -/
theorem getD_attemptSalt_length (path : Bytes) (k : Nat) :
    (attemptSalt path k).getD path.length 0 = UInt8.ofNat k := by
  unfold attemptSalt
  split
  · next hZero => rw [List.getD_eq_default _ _ le_rfl, hZero]; rfl
  · rw [List.getD_append_right _ _ _ _ le_rfl, Nat.sub_self]; rfl

theorem ofNat_inj_of_lt {j k : Nat} (hj : j < 256) (hk : k < 256)
    (hSame : UInt8.ofNat j = UInt8.ofNat k) : j = k := by
  have hNumbers := congrArg UInt8.toNat hSame
  rwa [UInt8.toNat_ofNat_of_lt' hj, UInt8.toNat_ofNat_of_lt' hk] at hNumbers

/-- HMAC does not take the salt of one attempt for that of another. -/
theorem hmacKey_attemptSalt_inj (hPath : path.length < block) {j k : Nat} (hj : j < 256)
    (hk : k < 256)
    (hSame : hmacKey hash block (attemptSalt path j) = hmacKey hash block (attemptSalt path k)) :
    j = k := by
  have hLengthJ : (attemptSalt path j).length ≤ block := (length_attemptSalt_le path j).trans hPath
  have hLengthK : (attemptSalt path k).length ≤ block := (length_attemptSalt_le path k).trans hPath
  have hRead := (hmacKey_eq_iff hLengthJ hLengthK).mp hSame path.length
  rw [getD_attemptSalt_length, getD_attemptSalt_length] at hRead
  exact ofNat_inj_of_lt hj hk hRead

/-- A counter byte of zero behind the path would repeat the bare path. -/
theorem hmacKey_zero_counter (hPath : path.length < block) :
    hmacKey hash block (path ++ [0]) = hmacKey hash block (attemptSalt path 0) := by
  have hBare : attemptSalt path 0 = path := if_pos rfl
  have hLength : (path ++ [0]).length ≤ block := by
    rw [List.length_append]
    exact hPath
  rw [hBare, hmacKey_eq_iff hLength (Nat.le_of_lt hPath)]
  intro position
  rcases Nat.lt_or_ge position path.length with hInside | hBehind
  · exact List.getD_append _ _ _ _ hInside
  · rw [List.getD_append_right _ _ _ _ hBehind, List.getD_eq_default _ _ hBehind]
    cases position - path.length with
    | zero => rfl
    | succ further => rfl

/-- Nor does it take a salt of one path for a salt of another, where both paths have
different bytes at one position. -/
theorem hmacKey_attemptSalt_ne {first second : Bytes} (hFirst : first.length < block)
    (hSecond : second.length < block) {position : Nat} (hInFirst : position < first.length)
    (hInSecond : position < second.length)
    (hDiffer : first.getD position 0 ≠ second.getD position 0) (j k : Nat) :
    hmacKey hash block (attemptSalt first j) ≠ hmacKey hash block (attemptSalt second k) := by
  intro hSame
  have hLengthFirst : (attemptSalt first j).length ≤ block :=
    (length_attemptSalt_le first j).trans hFirst
  have hLengthSecond : (attemptSalt second k).length ≤ block :=
    (length_attemptSalt_le second k).trans hSecond
  have hRead := (hmacKey_eq_iff hLengthFirst hLengthSecond).mp hSame position
  rw [getD_attemptSalt_of_lt hInFirst, getD_attemptSalt_of_lt hInSecond] at hRead
  exact hDiffer hRead

theorem length_primaryPath : primaryPath.length = 15 := by decide

theorem length_subkeyPath : subkeyPath.length = primaryPath.length := by decide

/-- No salt of the signing key is one of the encryption subkey, to HMAC either. -/
theorem hmacKey_primary_ne_subkey (hBlock : primaryPath.length < block) (j k : Nat) :
    hmacKey hash block (attemptSalt primaryPath j) ≠
      hmacKey hash block (attemptSalt subkeyPath k) := by
  have hSubkey : subkeyPath.length < block := by rwa [length_subkeyPath]
  -- both paths read `tvc_gpg_`, and then one has a `p` where the other has an `e`
  have hInPrimary : 8 < primaryPath.length := by rw [length_primaryPath]; omega
  have hInSubkey : 8 < subkeyPath.length := by rwa [length_subkeyPath]
  exact hmacKey_attemptSalt_ne hBlock hSubkey hInPrimary hInSubkey (by decide) j k

end Salts

/-! ## Both keys -/

section Derive

variable {crates : KeyCrates} {hash : Bytes → Bytes} {block : Nat}

/-- What HKDF makes of an input before it hashes anything. -/
def keyed (hash : Bytes → Bytes) (block : Nat) (input : HkdfInput) : Bytes × Bytes :=
  (input.seed, hmacKey hash block input.salt)

theorem logOf_ofSearch (found : Option (Except P256Error Scalar) × List HkdfInput) :
    logOf (ofSearch found) = found.2 := by
  rcases found with ⟨_ | _ | _, _⟩ <;> rfl

/-- A derivation asks for attempts only, each at most once. -/
theorem deriveScalar_adds (crates : KeyCrates) (seed path : Bytes) :
    Adds (deriveScalar crates seed path) (attempts seed path 256) := by
  intro asked
  obtain ⟨front, hFront, hAsked⟩ :=
    exists_asked (settled crates) asked (attempts seed path 256)
  refine ⟨front, hFront.sublist, ?_⟩
  rw [deriveScalar_eq, logOf_ofSearch, hAsked]

/-- The calls of a whole run: those for the signing key, then those for the subkey. -/
theorem derive_adds (crates : KeyCrates) (quorum : P256Pair) :
    Adds (TeamKey.derive crates quorum)
      (attempts (crates.toMasterSeed quorum) primaryPath 256 ++
        attempts (crates.toMasterSeed quorum) subkeyPath 256) := by
  unfold TeamKey.derive
  refine (deriveScalar_adds crates _ primaryPath).bind fun primaryScalar => ?_
  refine (adds_liftExcept _).bind fun primary => ?_
  refine (deriveScalar_adds crates _ subkeyPath).bind_nil fun subkeyScalar => ?_
  exact (adds_liftExcept _).bind_nil fun subkey => adds_liftExcept _

theorem nodup_keyed_attempts (seed : Bytes) {path : Bytes} (hPath : path.length < block) :
    ((attempts seed path 256).map (keyed hash block)).Nodup := by
  unfold attempts
  rw [List.map_map]
  refine List.Nodup.map_on ?_ List.nodup_range
  intro j hj k hk hSame
  exact hmacKey_attemptSalt_inj hPath (List.mem_range.mp hj) (List.mem_range.mp hk)
    (Prod.mk.inj hSame).2

/-- No two of all the attempts for both keys are the same input to HKDF. -/
theorem nodup_keyed_both (seed : Bytes) (hBlock : primaryPath.length < block) :
    ((attempts seed primaryPath 256 ++ attempts seed subkeyPath 256).map
      (keyed hash block)).Nodup := by
  have hSubkey : subkeyPath.length < block := by rwa [length_subkeyPath]
  rw [List.map_append, List.nodup_append]
  refine ⟨nodup_keyed_attempts seed hBlock, nodup_keyed_attempts seed hSubkey, ?_⟩
  intro first hFirst second hSecond hSame
  obtain ⟨_, hMemFirst, rfl⟩ := List.mem_map.mp hFirst
  obtain ⟨_, hMemSecond, rfl⟩ := List.mem_map.mp hSecond
  obtain ⟨j, -, rfl⟩ := List.mem_map.mp hMemFirst
  obtain ⟨k, -, rfl⟩ := List.mem_map.mp hMemSecond
  exact hmacKey_primary_ne_subkey hBlock j k (Prod.mk.inj hSame).2

theorem assemble_eq_ok {primary : SecretKey} {subkey : SecretSubkey} {createdAt : UInt32}
    {teamKey : TeamKey} (hKey : assemble crates primary subkey createdAt = .ok teamKey) :
    teamKey.secret.primaryKey = primary ∧ teamKey.encryptionSubkey = subkey := by
  obtain ⟨selfSignature, -, hKey⟩ := Fallible.bind_eq_ok_iff.mp hKey
  obtain ⟨binding, -, hKey⟩ := Fallible.bind_eq_ok_iff.mp hKey
  obtain ⟨user, -, hKey⟩ := Fallible.bind_eq_ok_iff.mp hKey
  cases hKey
  exact ⟨rfl, rfl⟩

/-- A run that ends with a key has derived a scalar for each of its two keys. -/
theorem derive_eq_ok {quorum : P256Pair} {asked after : List HkdfInput} {teamKey : TeamKey}
    (hKey : TeamKey.derive crates quorum asked = .ok teamKey after) :
    ∃ signing encryption mid,
      deriveScalar crates (crates.toMasterSeed quorum) primaryPath asked = .ok signing mid ∧
        deriveScalar crates (crates.toMasterSeed quorum) subkeyPath mid = .ok encryption after ∧
          newPrimary crates signing keyCreatedAt = .ok teamKey.secret.primaryKey ∧
            newSubkey crates encryption keyCreatedAt = .ok teamKey.encryptionSubkey := by
  unfold TeamKey.derive at hKey
  obtain ⟨signing, mid, hSigning, hPrimaryKey⟩ := bind_eq_ok_iff.mp hKey
  obtain ⟨primary, _, hPrimary, hSecond⟩ := bind_eq_ok_iff.mp hPrimaryKey
  obtain ⟨hSigningKey, rfl⟩ := liftExcept_eq_ok_iff.mp hPrimary
  obtain ⟨encryption, last, hEncryption, hSubkeyKey⟩ := bind_eq_ok_iff.mp hSecond
  obtain ⟨subkey, _, hSubkey, hAssemble⟩ := bind_eq_ok_iff.mp hSubkeyKey
  obtain ⟨hEncryptionKey, rfl⟩ := liftExcept_eq_ok_iff.mp hSubkey
  obtain ⟨hAssembled, rfl⟩ := liftExcept_eq_ok_iff.mp hAssemble
  obtain ⟨rfl, rfl⟩ := assemble_eq_ok hAssembled
  exact ⟨signing, encryption, _, hSigning, hEncryption, hSigningKey, hEncryptionKey⟩

/-- What comes of deriving both keys, from any run on. -/
structure KeysApart (crates : KeyCrates) (hash : Bytes → Bytes) (block : Nat) (quorum : P256Pair)
    (asked : List HkdfInput) : Prop where
  /-- Whatever it ends with, no two of its calls are the same input to HKDF. -/
  calls_nodup : ∃ calls,
    logOf (TeamKey.derive crates quorum asked) = asked ++ calls ∧
      (calls.map (keyed hash block)).Nodup
  /-- The scalars of the two keys, the one that certifies and the one a release opens session
  keys with, come from attempts at the two paths, which are not the same input to HKDF. -/
  origins : ∀ teamKey after, TeamKey.derive crates quorum asked = .ok teamKey after →
    ∃ signing encryption, ∃ j < 256, ∃ k < 256,
      InRange crates asked (crates.toMasterSeed quorum) primaryPath j signing ∧
        newPrimary crates signing keyCreatedAt = .ok teamKey.secret.primaryKey ∧
          InRange crates (asked ++ attempts (crates.toMasterSeed quorum) primaryPath (j + 1))
            (crates.toMasterSeed quorum) subkeyPath k encryption ∧
            newSubkey crates encryption keyCreatedAt = .ok teamKey.forRelease.encryptionSubkey ∧
              keyed hash block (attempt (crates.toMasterSeed quorum) primaryPath j) ≠
                keyed hash block (attempt (crates.toMasterSeed quorum) subkeyPath k)

theorem keysApart (crates : KeyCrates) (hash : Bytes → Bytes)
    (hBlock : primaryPath.length < block) (quorum : P256Pair) (asked : List HkdfInput) :
    KeysApart crates hash block quorum asked where
  calls_nodup := by
    obtain ⟨calls, hCalls, hLog⟩ := derive_adds crates quorum asked
    exact ⟨calls, hLog, (nodup_keyed_both _ hBlock).sublist (hCalls.map _)⟩
  origins teamKey after hKey := by
    obtain ⟨signing, encryption, mid, hSigning, hEncryption, hPrimary, hSubkey⟩ :=
      derive_eq_ok hKey
    obtain ⟨j, hj, -, hInJ, rfl⟩ :=
      ((derivesInTurn crates _ primaryPath asked).returns_iff signing mid).mp hSigning
    obtain ⟨k, hk, -, hInK, -⟩ :=
      ((derivesInTurn crates _ subkeyPath _).returns_iff encryption after).mp hEncryption
    refine ⟨signing, encryption, j, hj, k, hk, hInJ, hPrimary, hInK, hSubkey, ?_⟩
    intro hSame
    exact hmacKey_primary_ne_subkey hBlock j k (Prod.mk.inj hSame).2

/-- A derivation tries the bare path and then the path with each counter byte behind it, in
this order, and the first output that is not out of range decides it.  For a path shorter
than a block no two of its salts are the same HMAC key, and no salt of the signing key is
one of the encryption subkey; so deriving both keys asks for no input to HKDF twice, and
the two scalars do not come from the same one. -/
theorem derivation_tries_distinct_salts (crates : KeyCrates) (seed path : Bytes)
    (asked : List HkdfInput) (hash : Bytes → Bytes) (block : Nat) (hPath : path.length < block) :
    DerivesInTurn crates seed path asked ∧
      (∀ j < 256, ∀ k < 256,
        hmacKey hash block (attemptSalt path j) = hmacKey hash block (attemptSalt path k) →
          j = k) ∧
        (primaryPath.length < block →
          (∀ j k, hmacKey hash block (attemptSalt primaryPath j) ≠
            hmacKey hash block (attemptSalt subkeyPath k)) ∧
            ∀ quorum, KeysApart crates hash block quorum asked) := by
  refine ⟨derivesInTurn crates seed path asked, ?_, ?_⟩
  · intro j hj k hk hSame
    exact hmacKey_attemptSalt_inj hPath hj hk hSame
  · intro hBlock
    refine ⟨hmacKey_primary_ne_subkey hBlock, ?_⟩
    intro quorum
    exact keysApart crates hash hBlock quorum asked

end Derive

/-! ## A run that tries twice -/

/-- The order of the P-256 group. -/
def groupOrder : Nat := 0xFFFFFFFF00000000FFFFFFFFFFFFFFFFBCE6FAADA7179E84F3B9CAC2FC632551

/-- The number a byte string stands for, most significant byte first. -/
def bigEndian (bytes : Bytes) : Nat :=
  bytes.foldl (fun number byte => 256 * number + byte.toNat) 0

/-- A signature that shows what it is made of, and has no values. -/
def shownSignature (config : SignatureConfig) : Signature where
  config := none
  version := .v4
  typ := some config.typ
  hashAlg := some config.hashAlg
  issuerFingerprint := []
  issuerKeyId := []
  created := some keyCreatedAt
  keyExpirationTime := none
  keyFlags := { sign := false }
  body := []

/-- Crates with the range check of P-256 and a `derive_secret` that gives zero at a bare
path of 15 bytes and the counter byte in front of zeros behind it. -/
def retryCrates : KeyCrates where
  toMasterSeed := P256Pair.octets
  deriveSecret _ input := .ok (zeroPad 32 (input.salt.drop 15))
  scalarFromSlice bytes :=
    if bytes.length = 32 ∧ 0 < bigEndian bytes ∧ bigEndian bytes < groupOrder then some ⟨bytes⟩
    else none
  scalarPublicKey scalar := 0x04 :: scalar.octets ++ scalar.octets
  newPubKeyInner := .ok
  publicKeyFromInner inner := .ok
    { fingerprint := ⟨.v4, List.replicate 20 0xE5⟩
      legacyKeyId := ⟨Vector.replicate 8 0xE5⟩
      createdAt := inner.createdAt
      algorithm := inner.algorithm
      body := []
      fingerprint_octets := by decide }
  publicSubkeyFromInner inner := .ok
    { fingerprint := ⟨.v4, List.replicate 20 0xF6⟩
      legacyKeyId := ⟨Vector.replicate 8 0xF6⟩
      createdAt := inner.createdAt
      algorithm := inner.algorithm
      body := []
      fingerprint_octets := by decide }
  newSecretKey publicKey
    | .ecdsaP256 scalar => .ok { toKeyDetails := publicKey.toKeyDetails, secret := scalar.octets }
    | .ecdhP256 _ => .error ⟨"wrong parameters"⟩
  newSecretSubkey publicSubkey
    | .ecdhP256 secret => .ok { toKeyDetails := publicSubkey.toKeyDetails, secret := secret.octets }
    | .ecdsaP256 _ => .error ⟨"wrong parameters"⟩
  regular data := .ok { isCritical := false, data }
  userIdFromStr text := .ok ⟨asBytes text⟩
  signCertification config _ _ := .ok (shownSignature config)
  signSubkeyBinding config _ _ := .ok (shownSignature config)

theorem derivation_tries_distinct_salts_retry :
    deriveScalar retryCrates [0x5A] primaryPath [] =
        .ok ⟨zeroPad 32 [1]⟩ (attempts [0x5A] primaryPath 2) ∧
      hmacKey id 128 (attemptSalt primaryPath 0) ≠ hmacKey id 128 (attemptSalt primaryPath 1) ∧
        hmacKey id 128 (attemptSalt primaryPath 1) ≠ hmacKey id 128 (attemptSalt subkeyPath 1) ∧
          (∃ teamKey after, TeamKey.derive retryCrates ⟨[0x5A]⟩ [] = .ok teamKey after) ∧
            KeysApart retryCrates id 128 ⟨[0x5A]⟩ [] := by
  have hBlock : primaryPath.length < 128 := by rw [length_primaryPath]; omega
  obtain ⟨hInTurn, hDistinct, hBoth⟩ :=
    derivation_tries_distinct_salts retryCrates [0x5A] primaryPath [] id 128 hBlock
  obtain ⟨hApart, hKeys⟩ := hBoth hBlock
  refine ⟨?_, ?_, hApart 1 1, ⟨_, _, rfl⟩, hKeys ⟨[0x5A]⟩⟩
  · refine (hInTurn.returns_iff _ _).mpr ⟨1, by omega, ?_, ⟨zeroPad 32 [1], rfl, by decide⟩, rfl⟩
    intro j hj
    obtain rfl : j = 0 := by omega
    exact ⟨zeroPad 32 [], rfl, by decide⟩
  · intro hSame
    cases hDistinct 0 (by omega) 1 (by omega) hSame

end Team
end TvcGpg
