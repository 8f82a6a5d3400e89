import TvcGpg.EndToEnd.HonestRun

/-!
# The client and the app agree

The two crates define the payload, the receipt and both domain strings on their own.
That no definition of one side has drifted from the other's is a statement about
the composition: from the message the client reads to the text it hands gpg, every
honest run goes through.
-/

namespace TvcGpg

open Lib Lib.Text Lib.Fallible

/-- The client and the app agree on every honest run: from a message whose first
PKESK to the team subkey opens, the body the client posts is released, the answer
it receives passes its checks against the app's quorum key, and what it hands gpg
is the session key the app decrypted. -/
theorem honest_run_agrees {crates : Crates} (hHex : HexLaws crates) (hJson : JsonLaws crates.json)
    (hP256 : P256Laws crates.p256) (hPkesk : PkeskLaws crates.rpgp) (state : AppState)
    {message packets : Bytes} {pkesks : List PublicKeyEncryptedSessionKey}
    {pkesk : PublicKeyEncryptedSessionKey} {point wrapped : Bytes} {symAlg : UInt8} {key : Bytes}
    (hPackets : Client.packetBytes crates message = .ok packets)
    (hWalk : Client.sessionKeyPackets crates packets = .ok pkesks)
    (hFirst : pkesks.find? (fun pkesk => pkesk.id = some state.teamKey.subkeyKeyId) = some pkesk)
    (hEcdh : EcdhPkesk pkesk point wrapped)
    (hOpened : crates.rpgp.decrypt state.teamKey.encryptionSubkey (.ecdh point wrapped) =
      some (some (.v3_4 symAlg key)))
    (hKey : key ≠ []) (transport : P256EncryptPair) {now clock : UInt64}
    (hClock : ((now.toNat : Int) - (clock.toNat : Int)).natAbs ≤ 300) (entropy : Bytes) :
    ∃ pkeskBytes payload,
      (Client.packetBytes crates message >>= Client.sessionKeyPackets crates >>= fun found =>
          Client.pkeskFor crates found state.teamKey.subkeyKeyId) = .ok pkeskBytes ∧
        payload = Client.payloadJson crates state.appId (crates.hexEncode pkeskBytes)
          (Client.transportPublicKey crates transport) clock ∧
        ∀ bytes signature entry, SignedBy crates state payload bytes signature entry →
          ∃ response,
            release crates state (Client.sessionKeyBody crates payload bytes) now entropy =
                .ok response ∧
              ((asBytes (crates.json.write response.toJson)).length ≤ Client.maxResponseBytes →
                Client.readResponse crates (asBytes (crates.json.write response.toJson)) =
                  .ok (clientView response)) ∧
              Client.checkResponse crates (clientView response)
                  (crates.p256.publicKey state.quorumKey) state.appId
                  (Client.transportPublicKey crates transport) pkeskBytes = .ok ⟨⟩ ∧
                Client.openSessionKey crates transport (clientView response).wrappedSessionKey =
                    .ok (symAlg :: key) ∧
                  Client.sessionKeyString (symAlg :: key) =
                    .ok (toString symAlg ++ ":" ++ Hex.encodeUpper key) := by
  obtain ⟨pkeskBytes, hFor, hOpens⟩ := opensTo_of_pkeskFor hPkesk hFirst hEcdh hOpened
  refine ⟨pkeskBytes, _, ?_, rfl, fun bytes signature entry hSigned => ?_⟩
  · rw [hPackets, ok_bind, hWalk, ok_bind, hFor]
  -- whoever signed the payload, the rest of the run is the same
  · obtain ⟨response, hRelease, hCheck, hOpen⟩ :=
      honest_release hHex hJson hP256 hOpens hKey transport hClock entropy rfl hSigned
    exact ⟨response, hRelease, readResponse_toJson hJson, hCheck, hOpen,
      sessionKeyString_cons symAlg key⟩

namespace Reference

/-- A message to the team: its PKESK and the encrypted data behind it. -/
def message : Bytes := pkeskBytes ++ framePacket 0xD2 [1, 0x7E, 0x7E]

theorem engineerCrates_messagePackets (lifetime : Option UInt32) (bytes : Bytes) :
    (engineerCrates lifetime).rpgp.messagePackets bytes = messagePackets bytes.length bytes := rfl

/-- The message is not armored. -/
theorem packetBytes_message :
    Client.packetBytes (engineerCrates none) message = .ok message := by
  have hBody : message.dropWhile Client.isAsciiWhitespace = message := rfl
  have hBinary : (asBytes Client.armorHeader).isPrefixOf message = false := by decide +kernel
  unfold Client.packetBytes
  simp only [hBody, hBinary, Bool.false_eq_true, if_false]

/-- Its one PKESK is read back as it was written. -/
theorem sessionKeyPackets_message :
    Client.sessionKeyPackets (engineerCrates none) message = .ok [pkesk] := by
  have hShort : (pkeskBody teamSubkey.legacyKeyId (point [0x0B]) wrappedKey).length < 192 := by
    rw [length_pkeskBody]
    decide
  have hPkesk : readBody pkeskHeader
      (pkeskBody teamSubkey.legacyKeyId (point [0x0B]) wrappedKey) =
        some (.publicKeyEncryptedSessionKey pkesk) := by
    unfold readBody
    rw [if_pos rfl, readPkesk_pkeskBody ecdhPkesk.pointLength (by decide)]
    rfl
  have hFuel : message.length = (pkeskBody teamSubkey.legacyKeyId (point [0x0B])
      wrappedKey).length + 5 + 2 := by
    simp [message, pkeskBytes, framePacket]
  unfold Client.sessionKeyPackets
  rw [engineerCrates_messagePackets, hFuel, message, pkeskBytes,
    messagePackets_framePacket _ _ _ hShort, ← List.append_nil (framePacket 0xD2 _),
    messagePackets_framePacket _ _ _ (by decide), messagePacket, hPkesk]
  rfl

theorem pkeskFor_message :
    Client.pkeskFor (engineerCrates none) [pkesk] (state none).teamKey.subkeyKeyId =
      .ok pkeskBytes := rfl

end Reference

open Reference in
/-- The engineer reads the message while the enclave is a minute ahead. -/
theorem honest_run_agrees_message : ∃ pkeskBytes response,
    (Client.packetBytes (engineerCrates none) message >>=
        Client.sessionKeyPackets (engineerCrates none) >>= fun found =>
          Client.pkeskFor (engineerCrates none) found teamSubkey.legacyKeyId) = .ok pkeskBytes ∧
      release (engineerCrates none) (state none) (bodyAt none 1500 fingerprintArea) 1560 [] =
          .ok response ∧
        Client.checkResponse (engineerCrates none) (clientView response) ⟨[0x07]⟩ "team app"
            (transportText none) pkeskBytes = .ok ⟨⟩ ∧
          Client.openSessionKey (engineerCrates none) transport
              (clientView response).wrappedSessionKey = .ok (7 :: sessionKey) ∧
            Client.sessionKeyString (7 :: sessionKey) =
              .ok (toString (7 : UInt8) ++ ":" ++ Hex.encodeUpper sessionKey) := by
  have hClock : (((1560 : UInt64).toNat : Int) - ((1500 : UInt64).toNat : Int)).natAbs ≤ 300 := by
    decide
  have hHex : HexLaws (engineerCrates none) := hexLaws _
  obtain ⟨found, payload, hFor, hPayload, hRun⟩ :=
    honest_run_agrees hHex jsonLaws p256Laws (pkeskLaws _) (state none)
      packetBytes_message sessionKeyPackets_message rfl ecdhPkesk (decrypt_wrappedKey rfl)
      (by decide) transport hClock []
  have hFound : pkeskBytes = found := by
    rw [packetBytes_message, ok_bind, sessionKeyPackets_message, ok_bind] at hFor
    exact Except.ok.inj (pkeskFor_message.symm.trans hFor)
  subst hFound
  obtain ⟨response, hRelease, -, hCheck, hOpen, hText⟩ :=
    hRun _ _ _ (signedBy rfl payload (.inl rfl) (nextPacket_fingerprint payload))
  rw [hPayload] at hRelease
  exact ⟨pkeskBytes, response, hFor, hRelease, hCheck, hOpen, hText⟩

end TvcGpg
