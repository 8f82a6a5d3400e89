import TvcGpg.EndToEnd.Agreement
import TvcGpg.Model.ClientRun

/-!
# What becomes of the message file

The session key is fetched for bytes read early, and gpg opens a path again after
the output file has been emptied.  The bytes are the same, and the message is
still there afterwards, exactly when the output argument does not lead to the
file gpg is given (`message_survives_iff`): a name, a link and a second name of
one file are all the same here.  The one exception is a message of no bytes from
stdin, whose temporary file is as empty as the output.
-/

namespace TvcGpg
namespace Client

open Lib Lib.Text Lib.Fallible Lib.Files Lib.Files.FileSystem

variable {crates : Crates} {world : World} {args : Decrypt}

/-! ## Ready for gpg -/

/-- Whatever gpg is given holds the message that was read. -/
structure ReadyFor (world : World) (args : Decrypt) (ready : Ready) : Prop where
  message : readMessage world args.file = .ok ready.message
  readable : ready.files.readFile ready.path = some ready.message
  /-- A file argument is given to gpg as it is. -/
  file : isStdin args.file = false → ready.path = args.file ∧ ready.files = world.files
  /-- What stdin holds goes into the temporary file. -/
  spilled : isStdin args.file = true →
    ready.path = world.temporary ∧ world.stdin = some ready.message ∧
      world.files.createNew world.temporary ready.message = some ready.files

theorem readyFor_of_prepare {ready : Ready} (hPrepare : prepare crates world args = .ok ready) :
    ReadyFor world args ready := by
  unfold prepare at hPrepare
  obtain ⟨quorum, -, hPrepare⟩ := bind_eq_ok_iff.mp hPrepare
  obtain ⟨message, hMessage, hPrepare⟩ := bind_eq_ok_iff.mp hPrepare
  obtain ⟨sessionKey, -, hPrepare⟩ := bind_eq_ok_iff.mp hPrepare
  split at hPrepare
  · rename_i hStdin
    obtain ⟨files, hSpill, hReady⟩ := bind_eq_ok_iff.mp hPrepare
    obtain rfl := Except.ok.inj hReady
    unfold spill at hSpill
    obtain ⟨made, hMade, hSpill⟩ := bind_eq_ok_iff.mp hSpill
    obtain ⟨-, -, hSpill⟩ := bind_eq_ok_iff.mp hSpill
    obtain rfl := Except.ok.inj hSpill
    have hNew := okOr_eq_ok_iff.mp hMade
    refine { message := hMessage, readable := ?_, file := ?_, spilled := ?_ }
    · unfold createNew at hNew
      split at hNew
      · obtain rfl := Option.some.inj hNew
        exact readFile_addFile_self _ _ _
      · cases hNew
    · intro hFile
      rw [hStdin] at hFile
      cases hFile
    · intro _
      unfold readMessage at hMessage
      rw [if_pos hStdin] at hMessage
      exact ⟨rfl, okOr_eq_ok_iff.mp hMessage, hNew⟩
  · rename_i hFile
    obtain rfl := Except.ok.inj hPrepare
    refine { message := hMessage, readable := ?_, file := fun _ => ⟨rfl, rfl⟩
             spilled := fun hStdin => absurd hStdin hFile }
    unfold readMessage at hMessage
    rw [if_neg hFile] at hMessage
    exact okOr_eq_ok_iff.mp hMessage

/-! ## The call of gpg -/

/-- The output argument leads to the same file as `file`, and that file can be written. -/
def Overwrites (files : FileSystem Path) (file : Path) (output : Option Path) : Prop :=
  ∃ path inode, output = some path ∧ files.inodeAt file = some inode ∧
    files.inodeAt path = some inode ∧ files.writable inode = true

/-- gpg is told to read the file at the path. -/
theorem message_decryptArgs (files : FileSystem Path) (path : Path) :
    Started.message ⟨files, decryptArgs path⟩ = files.readFile path := by
  unfold Started.message decryptArgs
  rw [List.getLast?_concat]
  rfl

/-- Where the output is another file, gpg finds the message and the message stays. -/
theorem gpgDecrypt_of_not_overwrites {ready : Ready} {output : Option Path} {message : Bytes}
    (hRead : ready.files.readFile ready.path = some message)
    (hSpares : ¬ Overwrites ready.files ready.path output) (gpg : GpgRun) :
    (∀ started, (gpgDecrypt ready output gpg).started = some started →
        started.message = some message) ∧
      (gpgDecrypt ready output gpg).files.readFile ready.path = some message := by
  unfold gpgDecrypt
  cases output with
  | none =>
      dsimp only
      split
      · refine ⟨?_, hRead⟩
        intro started hStarted
        obtain rfl := Option.some.inj hStarted
        exact (message_decryptArgs _ _).trans hRead
      · refine ⟨?_, hRead⟩
        intro started hStarted
        cases hStarted
  | some path =>
      dsimp only
      obtain ⟨inode, hInode, -, -⟩ := readFile_eq_some_iff.mp hRead
      split
      · refine ⟨?_, hRead⟩
        intro started hStarted
        cases hStarted
      · rename_i files opened hCreate
        -- the file that was opened is not the one gpg is given
        have hNe : inode ≠ opened := by
          rintro rfl
          rcases create_cases hCreate with ⟨hSame, hWritable, -⟩ | ⟨rfl, -⟩
          · exact hSpares ⟨path, inode, rfl, hInode, hSame, hWritable⟩
          · exact absurd (inodeAt_lt_next hInode) (lt_irrefl _)
        obtain ⟨hEmptied, hWritten⟩ := readFile_create_of_ne hCreate hInode hNe gpg.plaintext
        split
        · refine ⟨?_, hWritten.trans hRead⟩
          intro started hStarted
          obtain rfl := Option.some.inj hStarted
          exact (message_decryptArgs _ _).trans (hEmptied.trans hRead)
        · refine ⟨?_, hEmptied.trans hRead⟩
          intro started hStarted
          cases hStarted

/-- A gpg that does not start is given nothing. -/
theorem gpgDecrypt_started_of_not_starts (ready : Ready) (output : Option Path) {gpg : GpgRun}
    (hStarts : gpg.starts = false) : (gpgDecrypt ready output gpg).started = none := by
  unfold gpgDecrypt
  rw [hStarts]
  cases output with
  | none => rfl
  | some path =>
      dsimp only
      split
      · rfl
      · rfl

/-- Where the output is the same file, gpg finds it empty and leaves its own output there. -/
theorem gpgDecrypt_of_overwrites {ready : Ready} {output : Option Path} {message : Bytes}
    (hRead : ready.files.readFile ready.path = some message)
    (hOver : Overwrites ready.files ready.path output) {gpg : GpgRun}
    (hStarts : gpg.starts = true) :
    (∃ started, (gpgDecrypt ready output gpg).started = some started ∧
        started.message = some []) ∧
      (gpgDecrypt ready output gpg).files.readFile ready.path = some gpg.plaintext := by
  obtain ⟨path, inode, rfl, hInode, hOutput, hWritable⟩ := hOver
  obtain ⟨inode', hInode', hReadable, -⟩ := readFile_eq_some_iff.mp hRead
  obtain rfl := Option.some.inj (hInode.symm.trans hInode')
  unfold gpgDecrypt
  dsimp only
  rw [create_of_inodeAt hOutput hWritable]
  dsimp only
  rw [hStarts, if_pos rfl]
  have hEmpty := readFile_setContents_self [] hInode hReadable
  refine ⟨⟨_, rfl, (message_decryptArgs _ _).trans hEmpty⟩, ?_⟩
  refine readFile_setContents_self gpg.plaintext ?_ hReadable
  rw [inodeAt_setContents, hInode]

/-! ## The run -/

/-- gpg reads the message the client read, and a message file keeps it, whatever gpg does. -/
def MessageSurvives (crates : Crates) (world : World) (args : Decrypt) : Prop :=
  ∀ message, readMessage world args.file = .ok message → ∀ gpg,
    (∀ started, (decrypt crates world args gpg).started = some started →
      started.message = some message) ∧
    (isStdin args.file = false →
      (decrypt crates world args gpg).files.readFile args.file = some message)

/-- If the run gets as far as gpg, then the output argument does not lead to the message
file, or it cannot be written; nor does it lead to the temporary file of a message from
stdin, unless that is no bytes. -/
def SparesMessage (crates : Crates) (world : World) (args : Decrypt) : Prop :=
  (∃ ready, prepare crates world args = .ok ready) →
    (isStdin args.file = false → ¬ Overwrites world.files args.file args.output) ∧
      (isStdin args.file = true → ∀ message files, world.stdin = some message →
        world.files.createNew world.temporary message = some files →
          Overwrites files world.temporary args.output → message = [])

/-- The same about what gpg is called with. -/
theorem sparesMessage_iff : SparesMessage crates world args ↔
    ∀ ready, prepare crates world args = .ok ready →
      Overwrites ready.files ready.path args.output →
        isStdin args.file = true ∧ ready.message = [] := by
  constructor
  · intro hSpares ready hPrepare hOver
    have hReady := readyFor_of_prepare hPrepare
    obtain ⟨hFiles, hSpilled⟩ := hSpares ⟨ready, hPrepare⟩
    cases hStdin : isStdin args.file with
    | false =>
        obtain ⟨hPath, hSame⟩ := hReady.file hStdin
        rw [hPath, hSame] at hOver
        exact absurd hOver (hFiles hStdin)
    | true =>
        obtain ⟨hPath, hMessage, hNew⟩ := hReady.spilled hStdin
        rw [hPath] at hOver
        exact ⟨rfl, hSpilled hStdin _ _ hMessage hNew hOver⟩
  · rintro hSpares ⟨ready, hPrepare⟩
    have hReady := readyFor_of_prepare hPrepare
    constructor
    · intro hFile hOver
      obtain ⟨hPath, hSame⟩ := hReady.file hFile
      rw [← hPath, ← hSame] at hOver
      obtain ⟨hStdin, -⟩ := hSpares ready hPrepare hOver
      rw [hFile] at hStdin
      cases hStdin
    · intro hStdin message files hMessage hNew hOver
      obtain ⟨hPath, hSame, hSpill⟩ := hReady.spilled hStdin
      obtain rfl := Option.some.inj (hSame.symm.trans hMessage)
      obtain rfl := Option.some.inj (hSpill.symm.trans hNew)
      rw [← hPath] at hOver
      exact (hSpares ready hPrepare hOver).2

theorem decrypt_of_prepare {ready : Ready} (hPrepare : prepare crates world args = .ok ready)
    (gpg : GpgRun) :
    (decrypt crates world args gpg).started = (gpgDecrypt ready args.output gpg).started ∧
      (isStdin args.file = false →
        (decrypt crates world args gpg).files = (gpgDecrypt ready args.output gpg).files) := by
  unfold decrypt
  rw [hPrepare]
  dsimp only
  split
  · rename_i hStdin
    refine ⟨rfl, ?_⟩
    intro hFile
    rw [hStdin] at hFile
    cases hFile
  · exact ⟨rfl, fun _ => rfl⟩

/-- A run that does not get to gpg leaves the files as they are. -/
theorem decrypt_of_prepare_error {message : String}
    (hPrepare : prepare crates world args = .error message) (gpg : GpgRun) :
    (decrypt crates world args gpg).started = none ∧
      (decrypt crates world args gpg).files = world.files := by
  unfold decrypt
  rw [hPrepare]
  exact ⟨rfl, rfl⟩

theorem sparesMessage_of_messageSurvives (hSurvives : MessageSurvives crates world args) :
    SparesMessage crates world args := by
  apply sparesMessage_iff.mpr
  intro ready hPrepare hOver
  have hReady := readyFor_of_prepare hPrepare
  -- a gpg that leaves anything but the message
  have hStarts : (⟨true, 0 :: ready.message, .ok 0⟩ : GpgRun).starts = true := rfl
  obtain ⟨⟨started, hStarted, hEmpty⟩, hWritten⟩ :=
    gpgDecrypt_of_overwrites hReady.readable hOver hStarts
  obtain ⟨hSame, hFiles⟩ := decrypt_of_prepare hPrepare ⟨true, 0 :: ready.message, .ok 0⟩
  obtain ⟨hGiven, hKept⟩ := hSurvives _ hReady.message ⟨true, 0 :: ready.message, .ok 0⟩
  have hNil : ready.message = [] := by
    have hRead := hGiven started (hSame.trans hStarted)
    rw [hEmpty] at hRead
    exact (Option.some.inj hRead).symm
  cases hStdin : isStdin args.file with
  | true => exact ⟨rfl, hNil⟩
  | false =>
      obtain ⟨hPath, -⟩ := hReady.file hStdin
      have hRead := hKept hStdin
      rw [hFiles hStdin, ← hPath, hWritten] at hRead
      exact absurd (Option.some.inj hRead) (List.cons_ne_self _ _)

theorem messageSurvives_of_sparesMessage (hSpares : SparesMessage crates world args) :
    MessageSurvives crates world args := by
  intro message hMessage gpg
  cases hPrepare : prepare crates world args with
  | error text =>
      obtain ⟨hNone, hFiles⟩ := decrypt_of_prepare_error hPrepare gpg
      constructor
      · intro started hStarted
        rw [hNone] at hStarted
        cases hStarted
      · intro hFile
        unfold readMessage at hMessage
        rw [hFile, if_neg Bool.false_ne_true] at hMessage
        rw [hFiles]
        exact okOr_eq_ok_iff.mp hMessage
  | ok ready =>
      have hReady := readyFor_of_prepare hPrepare
      obtain rfl := Except.ok.inj (hReady.message.symm.trans hMessage)
      obtain ⟨hSame, hFiles⟩ := decrypt_of_prepare hPrepare gpg
      rw [hSame]
      by_cases hOver : Overwrites ready.files ready.path args.output
      · -- the message is no bytes from stdin, and so is what gpg finds
        obtain ⟨hStdin, hNil⟩ := sparesMessage_iff.mp hSpares ready hPrepare hOver
        constructor
        · intro started hStarted
          cases hStarts : gpg.starts with
          | false =>
              rw [gpgDecrypt_started_of_not_starts ready args.output hStarts] at hStarted
              cases hStarted
          | true =>
              obtain ⟨⟨started', hStarted', hEmpty⟩, -⟩ :=
                gpgDecrypt_of_overwrites hReady.readable hOver hStarts
              obtain rfl := Option.some.inj (hStarted.symm.trans hStarted')
              rw [hEmpty, hNil]
        · intro hFile
          rw [hStdin] at hFile
          cases hFile
      · obtain ⟨hGiven, hKept⟩ := gpgDecrypt_of_not_overwrites hReady.readable hOver gpg
        refine ⟨hGiven, ?_⟩
        intro hFile
        obtain ⟨hPath, -⟩ := hReady.file hFile
        rw [hFiles hFile, ← hPath]
        exact hKept

/-- The message survives exactly where the output argument spares it. -/
theorem message_survives_iff (crates : Crates) (world : World) (args : Decrypt) :
    MessageSurvives crates world args ↔ SparesMessage crates world args := by
  constructor
  · exact sparesMessage_of_messageSurvives
  · exact messageSurvives_of_sparesMessage

end Client

/-! ## A run over one message -/

namespace Reference

open Lib Lib.Text Lib.Fallible Lib.Files

/-- The certificate the app serves. -/
def teamCertificate : SignedPublicKey where
  primaryKey := colleagueKey
  details := { revocationSignatures := [], users := [] }
  publicSubkeys := [{ key := { teamSubkey.toKeyDetails with }, signatures := [] }]

/-- What stands for its armored text. -/
def teamKeyText : String := "team key"

/-- The certificate in that text. -/
def publishedTeam (armored : String) : Option (List SignedPublicKey) :=
  if armored = teamKeyText then some [teamCertificate] else none

/-- The reference crates, with the team's certificate. -/
def teamCrates : Crates := crates publishedTeam

theorem encryptionSubkeyId_teamKeyText :
    Client.encryptionSubkeyId teamCrates teamKeyText = .ok teamSubkey.legacyKeyId := by
  have hPublished : publishedTeam teamKeyText = some [teamCertificate] := if_pos rfl
  have hArmor : teamCrates.rpgp.fromArmor teamKeyText = some teamCertificate := by
    show (publishedTeam teamKeyText).bind List.head? = _
    rw [hPublished]
    rfl
  unfold Client.encryptionSubkeyId
  rw [hArmor]
  rfl

/-! ### The app -/

/-- The app's answer to a request at second 1560. -/
@[irreducible]
def appAnswer (payload : String) (signature : Bytes) : Except String Client.SessionKeyResponse :=
  match release teamCrates (state none) (Client.sessionKeyBody teamCrates payload signature) 1560
      [] with
  | .ok response => .ok (clientView response)
  | .error _ => .error "/session-key answered"

theorem appAnswer_of_release {payload : String} {signature : Bytes} {response : SessionKeyResponse}
    (hRelease : release teamCrates (state none)
      (Client.sessionKeyBody teamCrates payload signature) 1560 [] = .ok response) :
    appAnswer payload signature = .ok (clientView response) := by
  unfold appAnswer
  rw [hRelease]

/-- The payload of the run. -/
def runPayload : String :=
  Client.payloadJson teamCrates "team app" (teamCrates.hexEncode pkeskBytes)
    (Client.transportPublicKey teamCrates transport) 1500

/-- The app releases the session key of the run, and the client opens the answer. -/
theorem appAnswer_runPayload :
    ∃ response, appAnswer runPayload (signatureBytes fingerprintArea runPayload) = .ok response ∧
      Client.checkResponse teamCrates response ⟨[0x07]⟩ "team app"
          (Client.transportPublicKey teamCrates transport) pkeskBytes = .ok ⟨⟩ ∧
        Client.openSessionKey teamCrates transport response.wrappedSessionKey =
          .ok (7 :: sessionKey) := by
  have hClock : (((1560 : UInt64).toNat : Int) - ((1500 : UInt64).toNat : Int)).natAbs ≤ 300 := by
    decide
  have hHex : HexLaws teamCrates := hexLaws publishedTeam
  have hQuorum : teamCrates.p256.publicKey (state none).quorumKey = ⟨[0x07]⟩ := rfl
  have hAppId : (state none).appId = "team app" := rfl
  have hPayload : runPayload = Client.payloadJson teamCrates (state none).appId
      (teamCrates.hexEncode pkeskBytes) (Client.transportPublicKey teamCrates transport) 1500 := by
    rw [hAppId, runPayload]
  have hOpens : OpensTo teamCrates (state none) pkeskBytes 7 sessionKey :=
    opensTo_pkeskBytes rfl rfl
  obtain ⟨response, hRelease, hCheck, hOpen⟩ :=
    honest_release hHex jsonLaws p256Laws hOpens (by decide) transport hClock [] hPayload
      (signedBy rfl runPayload (.inl rfl) (nextPacket_fingerprint runPayload))
  rw [hQuorum, hAppId] at hCheck
  exact ⟨clientView response, appAnswer_of_release hRelease, hCheck, hOpen⟩

/-! ### The run -/

/-- The name of the message file. -/
def messageName : Client.Path := asBytes "message.gpg"

/-- A directory with the message in it. -/
def messageFiles : FileSystem Client.Path where
  entry path := if path = messageName then some (.file 0) else none
  contents _ := message
  readable _ := true
  writable _ := true
  creatable _ := true
  next := 1
  fresh := by
    intro path inode hEntry
    split at hEntry
    · cases hEntry
      exact Nat.one_pos
    · cases hEntry

theorem inodeAt_messageName : messageFiles.inodeAt messageName = some 0 := by
  have hEntry : messageFiles.entry messageName = some (.file 0) := by
    show (if messageName = messageName then some (Entry.file 0) else none) = _
    rw [if_pos rfl]
  refine FileSystem.inodeAt_eq_some_iff.mpr ⟨messageName, ?_, hEntry⟩
  rw [maxLinks, FileSystem.follow, hEntry]

/-- What the engineer's run meets. -/
def runWorld : Client.World where
  files := messageFiles
  stdin := none
  display _ := "message.gpg"
  fetchPublicKey _ := .ok teamKeyText
  transport := transport
  clock := some 1500
  sign _ payload := .ok (signatureBytes fingerprintArea payload)
  postSessionKey _ := appAnswer
  temporary := asBytes "spill"
  canSpill := true

/-- The arguments of the run, with the output it is told to write. -/
def runArgs (output : Option Client.Path) : Client.Decrypt where
  appUrl := "https://app"
  appId := "team app"
  quorumPublicKey := "07"
  signer := none
  output := output
  file := messageName

theorem pinnedQuorumKey_runArgs (output : Option Client.Path) :
    Client.pinnedQuorumKey teamCrates (runArgs output).quorumPublicKey = .ok ⟨[0x07]⟩ := by
  have hTrim : trim "07" = "07" := by
    decide +kernel
  have hDecode : Hex.decode "07" = some [0x07] := by
    decide +kernel
  have hText : trim (runArgs output).quorumPublicKey = "07" := hTrim
  have hHex : teamCrates.hexDecode "07" = some [0x07] := hDecode
  have hKey : teamCrates.p256.publicFromBytes [0x07] = some ⟨[0x07]⟩ := rfl
  unfold Client.pinnedQuorumKey
  rw [hText, hHex, okOr_some, ok_bind, hKey, okOr_some]

theorem isStdin_messageName : Client.isStdin messageName = false := by
  decide +kernel

theorem readMessage_runWorld : Client.readMessage runWorld messageName = .ok message := by
  have hContents : messageFiles.contents 0 = message := by
    rw [messageFiles]
  have hRead : runWorld.files.readFile messageName = some message :=
    FileSystem.readFile_eq_some_iff.mpr ⟨0, inodeAt_messageName, rfl, hContents⟩
  unfold Client.readMessage
  rw [isStdin_messageName, if_neg Bool.false_ne_true, hRead, okOr_some]

/-- The run gets the session key. -/
theorem fetchSessionKey_runWorld (output : Option Client.Path) :
    ∃ text, Client.fetchSessionKey teamCrates runWorld (runArgs output) ⟨[0x07]⟩ message =
      .ok text := by
  have hPackets : Client.packetBytes teamCrates message = .ok message := packetBytes_message
  have hWalk : Client.sessionKeyPackets teamCrates message = .ok [pkesk] :=
    sessionKeyPackets_message
  have hFor : Client.pkeskFor teamCrates [pkesk] teamSubkey.legacyKeyId = .ok pkeskBytes := rfl
  have hKey : runWorld.fetchPublicKey (runArgs output).appUrl = .ok teamKeyText := rfl
  have hNow : Client.now runWorld = .ok 1500 := rfl
  have hPayload : Client.payloadJson teamCrates (runArgs output).appId
      (teamCrates.hexEncode pkeskBytes)
      (Client.transportPublicKey teamCrates runWorld.transport) 1500 = runPayload := rfl
  have hSign : runWorld.sign (Client.signArgs (runArgs output).signer) runPayload =
      .ok (signatureBytes fingerprintArea runPayload) := rfl
  obtain ⟨response, hAnswer, hCheck, hOpen⟩ := appAnswer_runPayload
  have hPost : runWorld.postSessionKey (runArgs output).appUrl runPayload
      (signatureBytes fingerprintArea runPayload) = .ok response := hAnswer
  have hAppId : (runArgs output).appId = "team app" := rfl
  have hTransport : runWorld.transport = transport := rfl
  refine ⟨toString (7 : UInt8) ++ ":" ++ Hex.encodeUpper sessionKey, ?_⟩
  unfold Client.fetchSessionKey
  rw [hPackets, ok_bind, hWalk, ok_bind, hKey, ok_bind, encryptionSubkeyId_teamKeyText, ok_bind,
    hFor, ok_bind]
  dsimp only
  rw [hNow, ok_bind, hPayload, hSign, ok_bind, hPost, ok_bind, hAppId, hTransport, hCheck,
    ok_bind, hOpen, ok_bind, sessionKeyString_cons]

/-- The run gets as far as gpg, with the message file. -/
theorem prepare_runWorld (output : Option Client.Path) :
    ∃ text, Client.prepare teamCrates runWorld (runArgs output) =
      .ok { message, sessionKey := text, path := messageName, files := messageFiles } := by
  obtain ⟨text, hText⟩ := fetchSessionKey_runWorld output
  have hMessage : Client.readMessage runWorld (runArgs output).file = .ok message :=
    readMessage_runWorld
  have hFile : Client.isStdin (runArgs output).file = false := isStdin_messageName
  refine ⟨text, ?_⟩
  unfold Client.prepare
  rw [pinnedQuorumKey_runArgs, ok_bind, hMessage, ok_bind, hText, ok_bind, hFile,
    if_neg Bool.false_ne_true]
  rfl

end Reference

namespace Client

open Reference in
/-- A run that is told to write its output over the message loses the message. -/
theorem output_over_message_loses_it :
    ¬ MessageSurvives teamCrates runWorld (runArgs (some messageName)) := by
  intro hSurvives
  obtain ⟨text, hPrepare⟩ := prepare_runWorld (some messageName)
  have hOver : Overwrites messageFiles messageName (some messageName) :=
    ⟨messageName, 0, rfl, inodeAt_messageName, inodeAt_messageName, rfl⟩
  have hSpares := (sparesMessage_of_messageSurvives hSurvives ⟨_, hPrepare⟩).1
  exact hSpares isStdin_messageName hOver

end Client
end TvcGpg
