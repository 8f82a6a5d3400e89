import TvcGpg.EndToEnd.HonestRun

/-!
# What a failing reply gives away

Two laws about pairs of runs.  A caller who cannot sign learns nothing that
depends on the payload, because nothing of it is read before the signature over
it has verified.  A caller who can sign learns nothing about the PKESK, because
everything from its parsing onward fails with one and the same reply, which no
earlier check gives.
-/

namespace TvcGpg

open Lib Lib.Text Lib.Fallible Lib.OrderedChecks

/-- Only the last reason has the message of the last reason. -/
theorem message_ne_of_ne {reason : RejectReason} (hReason : reason ≠ .rejected) :
    reason.message ≠ RejectReason.rejected.message := by
  cases reason <;> first | decide | exact absurd rfl hReason

section Pkesk

variable (crates : Crates) (state : AppState)

theorem releaseSessionKey_eq_error_iff {body : Bytes} {now : UInt64} {entropy : Bytes}
    {error : AppError} :
    releaseSessionKey crates state body now entropy = .error error ↔
      ∃ reason, release crates state body now entropy = .error reason ∧
        AppError.fromReason reason = error := by
  unfold releaseSessionKey
  cases release crates state body now entropy with
  | ok response => simp [Except.mapError]
  | error reason => simp [Except.mapError]

/-! ## The PKESK stage -/

/-- A request that fails after the transport key has been accepted fails with the
last reason. -/
theorem reason_of_passesThrough {body : Bytes} {now : UInt64} {entropy : Bytes}
    {reason : RejectReason}
    (hPasses : PassesThrough (Check.Holds crates state body now entropy) .transportIsAccepted)
    (hError : release crates state body now entropy = .error reason) : reason = .rejected := by
  obtain ⟨c, hFirst, rfl⟩ := (follows_checks crates state body now entropy).error_iff.mp hError
  -- the first check that fails comes after the transport key
  apply reason_of_late
  apply lt_of_not_ge
  intro hEarly
  exact hFirst.1 (hPasses c hEarly)

/-- A request that fails earlier fails with another reason. -/
theorem reason_of_not_passesThrough {body : Bytes} {now : UInt64} {entropy : Bytes}
    (hNot : ¬ PassesThrough (Check.Holds crates state body now entropy) .transportIsAccepted) :
    ∃ reason, release crates state body now entropy = .error reason ∧ reason ≠ .rejected := by
  obtain ⟨c, hEarly, hFirst⟩ := exists_firstFailure_le hNot
  refine ⟨c.reason, (follows_checks crates state body now entropy).rejects c hFirst, ?_⟩
  cases c <;> first | decide | exact absurd hEarly (by decide)

/-- There is no PKESK oracle: two requests that pass every check up to the
transport key and fail have the same reply, and no request that fails earlier
has the message of that reply. -/
theorem no_pkesk_oracle {now : UInt64} {body body' entropy entropy' : Bytes}
    {error error' : AppError}
    (hPasses : PassesThrough (Check.Holds crates state body now entropy) .transportIsAccepted)
    (hPasses' : PassesThrough (Check.Holds crates state body' now entropy') .transportIsAccepted)
    (hError : releaseSessionKey crates state body now entropy = .error error)
    (hError' : releaseSessionKey crates state body' now entropy' = .error error') :
    error = error' ∧
      ∀ other drawn,
        ¬ PassesThrough (Check.Holds crates state other now drawn) .transportIsAccepted →
          ∃ early, releaseSessionKey crates state other now drawn = .error early ∧
            early.message ≠ error.message := by
  obtain ⟨reason, hReason, rfl⟩ := (releaseSessionKey_eq_error_iff crates state).mp hError
  obtain ⟨reason', hReason', rfl⟩ := (releaseSessionKey_eq_error_iff crates state).mp hError'
  obtain rfl := reason_of_passesThrough crates state hPasses hReason
  obtain rfl := reason_of_passesThrough crates state hPasses' hReason'
  refine ⟨rfl, fun other drawn hNot => ?_⟩
  obtain ⟨early, hEarly, hNe⟩ := reason_of_not_passesThrough crates state hNot
  exact ⟨AppError.fromReason early,
    (releaseSessionKey_eq_error_iff crates state).mpr ⟨early, hEarly, rfl⟩, message_ne_of_ne hNe⟩

end Pkesk

namespace Reference

theorem passesThrough_bodyFor (pkeskText : String) :
    PassesThrough (Check.Holds (engineerCrates none) (state none)
      (bodyFor none pkeskText 1500 fingerprintArea) 1500 []) .transportIsAccepted :=
  Admitted.passesThrough _ _ _ _ _
    (authenticated_bodyFor none pkeskText 1500 (.inl rfl) nextPacket_fingerprint)
    (admitted_bodyFor none pkeskText 1500)

/-- A PKESK text that decodes to nothing the app opens. -/
theorem releaseSessionKey_bodyFor (pkeskText : String)
    (hPkesk : ∀ bytes ∈ Hex.decode pkeskText, nextPacket bytes = none) :
    releaseSessionKey (engineerCrates none) (state none)
        (bodyFor none pkeskText 1500 fingerprintArea) 1500 [] =
      .error (AppError.fromReason .rejected) := by
  refine (releaseSessionKey_eq_error_iff _ _).mpr ⟨.rejected, ?_, rfl⟩
  rw [release_of_authenticated _
      (authenticated_bodyFor none pkeskText 1500 (.inl rfl) nextPacket_fingerprint),
    releaseSigned_of_admitted _ (admitted_bodyFor none pkeskText 1500)]
  cases hStage : releasePkesk (engineerCrates none) (state none) [] (entry none)
      (readPayloadFor none pkeskText 1500)
      ((engineerCrates none).p256.encryptPublicKey transport) with
  | ok response =>
      obtain ⟨opening, hReleased, -⟩ := (releasePkesk_eq_ok_iff _).mp hStage
      have hNone := hPkesk opening.pkeskBytes hReleased.decoded
      have hSome := hReleased.accepted.packet
      cases hNone.symm.trans hSome
  | error reason => rw [releasePkesk_onlyFailsWith _ _ _ _ _ _ reason hStage]

end Reference

open Reference in
/-- Text that is not hex and text of no octets are turned down alike. -/
theorem no_pkesk_oracle_bodyFor : ∃ error,
    releaseSessionKey (engineerCrates none) (state none)
        (bodyFor none "zz" 1500 fingerprintArea) 1500 [] = .error error ∧
      releaseSessionKey (engineerCrates none) (state none)
          (bodyFor none "" 1500 fingerprintArea) 1500 [] = .error error ∧
        ∀ other drawn,
          ¬ PassesThrough (Check.Holds (engineerCrates none) (state none) other 1500 drawn)
              .transportIsAccepted →
            ∃ early, releaseSessionKey (engineerCrates none) (state none) other 1500 drawn =
                .error early ∧ early.message ≠ error.message := by
  have hNotHex : Hex.decode "zz" = none := by decide
  have hEmpty : Hex.decode "" = some [] := by decide
  have hError := releaseSessionKey_bodyFor "zz" (by simp [hNotHex])
  have hError' := releaseSessionKey_bodyFor "" (by simp [hEmpty, nextPacket])
  exact ⟨_, hError, hError',
    (no_pkesk_oracle _ _ (passesThrough_bodyFor "zz") (passesThrough_bodyFor "") hError hError').2⟩

/-! ## Before the signature has verified -/

section Unverified

variable (crates : Crates) (state : AppState)

/-- What a request whose signature does not verify is turned down with.  Neither the
payload nor the clock occurs in it. -/
def unverifiedReason (signature : String) : RejectReason :=
  match parseSignature crates signature with
  | .error reason => reason
  | .ok signature =>
      match checkSignatureShape signature with
      | .error reason => reason
      | .ok _ =>
          match state.allowlist.lookup signature.issuerFingerprint.head?
              signature.issuerKeyId.head? with
          | none => .notOnAllowlist
          | some _ => .signatureInvalid

/-- A request that does not verify is turned down for its signature. -/
theorem release_of_unverified {body : Bytes} {now : UInt64} {entropy : Bytes}
    {request : SessionKeyRequest} (hRequest : requestOf crates body = some request)
    (hNot : ¬ PassesThrough (Check.Holds crates state body now entropy) .signatureVerifies) :
    release crates state body now entropy =
      .error (unverifiedReason crates state request.signature) := by
  unfold requestOf at hRequest
  unfold release unverifiedReason
  rw [hRequest, okOr_some, ok_bind]
  -- one case for each exit that comes before the payload is read
  cases hPacket : parseSignature crates request.signature with
  | error reason => rfl
  | ok signature =>
      rw [ok_bind]
      cases hShape : checkSignatureShape signature with
      | error reason => simp only [hShape, error_bind]
      | ok =>
          cases hLookup : state.allowlist.lookup signature.issuerFingerprint.head?
              signature.issuerKeyId.head? with
          | none => simp only [hShape, ok_bind, hLookup, okOr_none, error_bind]
          | some entry =>
              have hRefuted : ¬ verified crates signature entry request.payload = true := by
                intro hVerified
                have hAuthenticated :
                    Authenticated crates state body request signature entry :=
                  ⟨hRequest, hPacket, hShape, hLookup, hVerified⟩
                exact hNot fun c hEarly =>
                  hAuthenticated.holds crates state body now entropy hEarly
              simp only [hShape, ok_bind, hLookup, okOr_some, require_of_not _ hRefuted,
                error_bind]

/-- Nothing of an unauthenticated payload reaches the reply: two requests with the
same signature field, neither of which verifies, have the same reply, whatever
their payloads and the times they are handled at. -/
theorem unverified_replies_agree {signature payload payload' : String}
    {body body' : Bytes} {now now' : UInt64} {entropy entropy' : Bytes}
    (hRequest : requestOf crates body = some { payload, signature })
    (hRequest' : requestOf crates body' = some { payload := payload', signature })
    (hNot : ¬ PassesThrough (Check.Holds crates state body now entropy) .signatureVerifies)
    (hNot' : ¬ PassesThrough (Check.Holds crates state body' now' entropy') .signatureVerifies) :
    ∃ error, releaseSessionKey crates state body now entropy = .error error ∧
      releaseSessionKey crates state body' now' entropy' = .error error := by
  refine ⟨AppError.fromReason (unverifiedReason crates state signature), ?_, ?_⟩
  · exact (releaseSessionKey_eq_error_iff crates state).mpr
      ⟨_, release_of_unverified crates state hRequest hNot, rfl⟩
  · exact (releaseSessionKey_eq_error_iff crates state).mpr
      ⟨_, release_of_unverified crates state hRequest' hNot', rfl⟩

end Unverified

namespace Reference

/-- A body whose signature is not hex. -/
def unsignedBody (payload : String) : Bytes :=
  asBytes (json.write (.object [("payload", .string payload), ("signature", .string "zz")]))

theorem requestOf_unsignedBody (payload : String) :
    requestOf (engineerCrates none) (unsignedBody payload) =
      some { payload, signature := "zz" } := by
  unfold requestOf unsignedBody
  have hRead := jsonLaws.read_write _
    (flatFields_nil.string.string : FlatFields [("payload", .string payload),
      ("signature", .string "zz")])
  show (json.read _).bind SessionKeyRequest.ofJson = _
  rw [hRead, Option.bind_some]
  rfl

theorem not_passesThrough_unsignedBody (payload : String) (now : UInt64) :
    ¬ PassesThrough
        (Check.Holds (engineerCrates none) (state none) (unsignedBody payload) now [])
        .signatureVerifies := by
  intro hPasses
  have hHex : (signatureBytesOf (engineerCrates none) (unsignedBody payload)).isSome :=
    hPasses .signatureIsHex (by decide)
  have hNotHex : (engineerCrates none).hexDecode "zz" = none := by decide
  unfold signatureBytesOf at hHex
  rw [requestOf_unsignedBody, Option.bind_some, hNotHex] at hHex
  cases hHex

end Reference

open Reference in
/-- Two requests without a signature, a day apart. -/
theorem unverified_replies_agree_unsignedBody : ∃ error,
    releaseSessionKey (engineerCrates none) (state none) (unsignedBody "one") 1500 [] =
        .error error ∧
      releaseSessionKey (engineerCrates none) (state none) (unsignedBody "two") 87900 [] =
        .error error :=
  unverified_replies_agree _ _ (requestOf_unsignedBody "one") (requestOf_unsignedBody "two")
    (not_passesThrough_unsignedBody "one" 1500) (not_passesThrough_unsignedBody "two" 87900)
end TvcGpg
