import TvcGpg.Client.Actions
import TvcGpg.Client.MessageFile

/-!
# What leaves the machine

The client never sends the message.  What it does towards the app and towards the gpg that
signs is the same for any two messages with the same packet for the app's key, whatever
else is different about the two runs on this machine: the encrypted data, the other
recipients, the names of the files, the output, and the quorum key that was pinned.
-/

namespace TvcGpg

open Lib Lib.Text Lib.Fallible Lib.Logged

namespace Client

/-- An action that others get to see: all but the gpg that decrypts. -/
def Action.leaves : Action → Bool
  | .decrypts _ _ => false
  | _ => true

/-- What a run with these packets does towards others. -/
def traffic (crates : Crates) (world : World) (args : Decrypt)
    (pkesks : List PublicKeyEncryptedSessionKey) : List Action :=
  .fetchesPublicKey args.appUrl ::
    match world.fetchPublicKey args.appUrl >>= ask crates world args pkesks with
    | .error _ => []
    | .ok asked =>
        .signs (signArgs args.signer) asked.payload ::
          match world.sign (signArgs args.signer) asked.payload with
          | .error _ => []
          | .ok signature => [.postsSessionKey args.appUrl asked.payload signature]

section Traffic

variable {crates : Crates} {world : World} {args : Decrypt} {examined : Examined}

theorem Finds.fetch_ask {asked : Asked} (hFinds : Finds crates world args examined asked) :
    (world.fetchPublicKey args.appUrl >>= ask crates world args examined.pkesks) = .ok asked := by
  obtain ⟨appKey, hKey, hAsk⟩ := hFinds.asks
  rw [hKey, ok_bind, hAsk]

/-- A request that has been signed makes the whole traffic. -/
theorem Signs.traffic_eq {asked : Asked} {signature : Bytes}
    (hSigns : Signs crates world args examined asked signature) :
    traffic crates world args examined.pkesks = plan args asked.payload signature := by
  unfold traffic
  rw [hSigns.fetch_ask]
  dsimp only
  rw [hSigns.signs]
  rfl

/-- Once the message has been read, what a run has done is its traffic. -/
theorem Story.eq_traffic {done : List Action} {result : Except String Ready}
    (hStory : Story crates world args done result)
    (hExamine : examine crates world args = .ok examined) :
    done = traffic crates world args examined.pkesks := by
  have hOnly {other : Examined} (hOther : examine crates world args = .ok other) :
      other = examined := Except.ok.inj (hOther.symm.trans hExamine)
  cases hStory with
  | unread hNot =>
      rw [hNot] at hExamine
      cases hExamine
  | notFound hOther hNone =>
      obtain rfl := hOnly hOther
      unfold traffic
      rw [hNone]
  | unsigned hFinds hSign =>
      obtain rfl := hOnly hFinds.examines
      unfold traffic
      rw [hFinds.fetch_ask]
      dsimp only
      rw [hSign]
      rfl
  | refused hSigns hNone =>
      obtain rfl := hOnly hSigns.examines
      exact hSigns.traffic_eq.symm
  | opened hAccepts =>
      obtain rfl := hOnly hAccepts.examines
      exact hAccepts.toSigns.traffic_eq.symm

theorem filter_leaves_traffic (pkesks : List PublicKeyEncryptedSessionKey) :
    (traffic crates world args pkesks).filter Action.leaves = traffic crates world args pkesks := by
  refine List.filter_eq_self.mpr fun action hMem => ?_
  unfold traffic at hMem
  split at hMem
  · simp at hMem
    rw [hMem]
    rfl
  · split at hMem
    · simp at hMem
      rcases hMem with rfl | rfl <;> rfl
    · simp at hMem
      rcases hMem with rfl | rfl | rfl <;> rfl

/-- What others see of a run is its traffic. -/
theorem filter_leaves_process (hExamine : examine crates world args = .ok examined)
    (gpg : GpgRun) :
    (process crates world args gpg).1.filter Action.leaves =
      traffic crates world args examined.pkesks := by
  rcases process_cases gpg with ⟨done, result, message, hStory, hDone, -⟩ |
    ⟨other, asked, signature, sessionKey, path, hAccepts, hDone, -⟩
  · rw [hDone, hStory.eq_traffic hExamine, filter_leaves_traffic]
  · obtain rfl : other = examined := Except.ok.inj (hAccepts.examines.symm.trans hExamine)
    rw [hDone, List.filter_append, ← hAccepts.toSigns.traffic_eq, filter_leaves_traffic]
    exact List.append_nil _

end Traffic

/-! ## Two runs -/

/-- Two runs that meet the same app, the same gpg and the same clock, and draw the same
transport pair.  Their files may be different. -/
structure SameOutside (world world' : World) : Prop where
  fetchPublicKey : world.fetchPublicKey = world'.fetchPublicKey
  transport : world.transport = world'.transport
  clock : world.clock = world'.clock
  sign : world.sign = world'.sign

/-- Two runs for the same app and the same signer. -/
structure SameRequest (args args' : Decrypt) : Prop where
  appUrl : args.appUrl = args'.appUrl
  appId : args.appId = args'.appId
  signer : args.signer = args'.signer

/-- Both messages have the same packet for the key the app serves, or neither has one. -/
def SamePkesk (crates : Crates) (world : World) (args : Decrypt)
    (pkesks pkesks' : List PublicKeyEncryptedSessionKey) : Prop :=
  ∀ appKey keyId, world.fetchPublicKey args.appUrl = .ok appKey →
    encryptionSubkeyId crates appKey = .ok keyId →
      pkeskFor crates pkesks keyId = pkeskFor crates pkesks' keyId

section TwoRuns

variable {crates : Crates} {world world' : World} {args args' : Decrypt}

theorem fetch_ask_congr (hOutside : SameOutside world world') (hRequest : SameRequest args args')
    {pkesks pkesks' : List PublicKeyEncryptedSessionKey}
    (hPkesk : SamePkesk crates world args pkesks pkesks') :
    (world.fetchPublicKey args.appUrl >>= ask crates world args pkesks) =
      (world'.fetchPublicKey args'.appUrl >>= ask crates world' args' pkesks') := by
  rw [← hOutside.fetchPublicKey, ← hRequest.appUrl]
  cases hKey : world.fetchPublicKey args.appUrl with
  | error message => rfl
  | ok appKey =>
      rw [ok_bind, ok_bind]
      unfold ask now
      cases hId : encryptionSubkeyId crates appKey with
      | error message => rfl
      | ok keyId =>
          rw [ok_bind, ok_bind, hPkesk appKey keyId hKey hId, hOutside.clock, hOutside.transport,
            hRequest.appId]

/-- Of the message, only the packet for the app's key has an influence on what leaves the
machine. -/
theorem network_sees_only_the_pkesk (hOutside : SameOutside world world')
    (hRequest : SameRequest args args') {examined examined' : Examined}
    (hExamine : examine crates world args = .ok examined)
    (hExamine' : examine crates world' args' = .ok examined')
    (hPkesk : SamePkesk crates world args examined.pkesks examined'.pkesks) (gpg gpg' : GpgRun) :
    (process crates world args gpg).1.filter Action.leaves =
      (process crates world' args' gpg').1.filter Action.leaves := by
  rw [filter_leaves_process hExamine, filter_leaves_process hExamine']
  unfold traffic
  rw [fetch_ask_congr hOutside hRequest hPkesk, hOutside.sign, hRequest.signer, hRequest.appUrl]

end TwoRuns

end Client

namespace Reference

open Client

/-- A message to the team with this encrypted data. -/
def messageWith (cipher : Bytes) : Bytes := pkeskBytes ++ framePacket 0xD2 (1 :: cipher)

theorem packetBytes_messageWith (cipher : Bytes) :
    packetBytes teamCrates (messageWith cipher) = .ok (messageWith cipher) := by
  have hBody : (messageWith cipher).dropWhile isAsciiWhitespace = messageWith cipher := rfl
  have hBinary : (asBytes armorHeader).isPrefixOf (messageWith cipher) = false := rfl
  unfold packetBytes
  simp only [hBody, hBinary, Bool.false_eq_true, if_false]

/-- Its one PKESK is the one of the message. -/
theorem sessionKeyPackets_messageWith {cipher : Bytes} (hCipher : cipher.length < 190) :
    sessionKeyPackets teamCrates (messageWith cipher) = .ok [pkesk] := by
  have hShort : (pkeskBody teamSubkey.legacyKeyId (point [0x0B]) wrappedKey).length < 192 := by
    rw [length_pkeskBody]
    decide
  have hData : (1 :: cipher).length < 192 := by
    rw [List.length_cons]
    omega
  have hPkesk : readBody pkeskHeader
      (pkeskBody teamSubkey.legacyKeyId (point [0x0B]) wrappedKey) =
        some (.publicKeyEncryptedSessionKey pkesk) := by
    unfold readBody
    rw [if_pos rfl, readPkesk_pkeskBody ecdhPkesk.pointLength (by decide)]
    rfl
  have hFuel : (messageWith cipher).length =
      (pkeskBody teamSubkey.legacyKeyId (point [0x0B]) wrappedKey).length + cipher.length + 3 +
        2 := by
    simp only [messageWith, pkeskBytes, framePacket, List.length_append, List.length_cons]
    omega
  have hPackets (bytes : Bytes) : teamCrates.rpgp.messagePackets bytes =
      messagePackets bytes.length bytes := rfl
  unfold sessionKeyPackets
  rw [hPackets, hFuel, messageWith, pkeskBytes, messagePackets_framePacket _ _ _ hShort,
    ← List.append_nil (framePacket 0xD2 _), messagePackets_framePacket _ _ _ hData, messagePacket,
    hPkesk]
  rfl

/-- The engineer's run over a directory with this message in it. -/
def worldWith (cipher : Bytes) : World :=
  { runWorld with files := { messageFiles with contents := fun _ => messageWith cipher } }

theorem examine_worldWith {cipher : Bytes} (hCipher : cipher.length < 190)
    (output : Option Path) :
    examine teamCrates (worldWith cipher) (runArgs output) =
      .ok { quorum := ⟨[0x07]⟩, message := messageWith cipher, pkesks := [pkesk] } := by
  have hInode : (worldWith cipher).files.inodeAt messageName = some 0 := inodeAt_messageName
  have hContents : (worldWith cipher).files.contents 0 = messageWith cipher := rfl
  have hRead : (worldWith cipher).files.readFile messageName = some (messageWith cipher) :=
    Lib.Files.FileSystem.readFile_eq_some_iff.mpr ⟨0, hInode, rfl, hContents⟩
  have hFile : (runArgs output).file = messageName := rfl
  unfold examine readMessage
  rw [pinnedQuorumKey_runArgs, ok_bind, hFile, isStdin_messageName, if_neg Bool.false_ne_true,
    hRead, okOr_some, ok_bind, packetBytes_messageWith, ok_bind,
    sessionKeyPackets_messageWith hCipher, ok_bind]
  rfl

end Reference

namespace Client

open Reference in
/-- Two messages with one packet and different encrypted data, one of them written to a
file by a gpg that fails: nobody outside can tell the runs apart. -/
theorem network_sees_only_the_pkesk_messageWith :
    messageWith [0x7E, 0x7E] ≠ messageWith [0x55] ∧
      (process teamCrates (worldWith [0x7E, 0x7E]) (runArgs none)
          { starts := true, plaintext := [0x61], result := .ok 0 }).1.filter Action.leaves =
        (process teamCrates (worldWith [0x55]) (runArgs (some messageName))
          { starts := true, plaintext := [], result := .ok 2 }).1.filter Action.leaves := by
  have hShort : ([0x7E, 0x7E] : Bytes).length < 190 := by decide
  have hShort' : ([0x55] : Bytes).length < 190 := by decide
  refine ⟨?_, ?_⟩
  · intro hSame
    have hLength := congrArg List.length hSame
    simp [messageWith, framePacket] at hLength
  · have hOutside : SameOutside (worldWith [0x7E, 0x7E]) (worldWith [0x55]) :=
      ⟨rfl, rfl, rfl, rfl⟩
    have hRequest : SameRequest (runArgs none) (runArgs (some messageName)) := ⟨rfl, rfl, rfl⟩
    exact network_sees_only_the_pkesk hOutside hRequest (examine_worldWith hShort none)
      (examine_worldWith hShort' (some messageName)) (fun _ _ _ _ => rfl) _ _

end Client
end TvcGpg
