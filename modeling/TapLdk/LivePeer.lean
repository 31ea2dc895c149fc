import Mathlib
import TapLdk.AssetChannelNegotiation
import TapLdk.AssetPayment
import TapLdk.LibraryFrames
import TapLdk.LibraryJson
import TapLdk.LibrarySessions
import TapLdk.PeerMessage
import TapLdk.ProofReassembly

/-! The live payment session: a client and a server that greet each other, exchange the messages
of a payment one by one with an acknowledgement each, and complete it. -/
namespace TapLdk.LivePeer
open TapLdk.LibraryExcept TapLdk.LibraryBytes TapLdk.LibrarySha256 TapLdk.LibraryFrames
open TapLdk.LibraryJson TapLdk.LibraryStateful TapLdk.LibrarySessions TapLdk.Mssmt TapLdk.Asset
open TapLdk.RfqInvoice TapLdk.AssetPayment TapLdk.AssetChannelNegotiation TapLdk.PeerMessage
open TapLdk.ProofReassembly

def maxFrameLen : ℕ := 1048576

inductive LivePeerWireMessage where
  | hello (peerName : String) (featureBits : List UInt16) (protocolVersion : UInt16)
      (assetId : Bytes32)
  | helloAck (accepted : Bool) (localFeatureBits remoteFeatureBits : List UInt16)
      (channelType : NegotiatedChannelType)
  | customMessage (messageType : UInt64) (payload : Bytes)
  | customMessageAck (messageType : UInt64) (decodedKind : String) (payloadDigest : Bytes32)
  | sessionComplete (paymentId : Bytes32) (messageCount : ℕ)
  | sessionCompleteAck (accepted : Bool) (paymentId : Bytes32)
      (messageCount inputProofReassembledLen outputProofReassembledLen : ℕ)
deriving DecidableEq

inductive LivePeerError where
  | io
  | json
  | negotiation (error : NegotiationError)
  | peerMessage (error : PeerMessage.AssetPeerMessageError)
  | reassembly (error : ProofReassembly.AssetPeerMessageError)
  | missingAssetId
  | frameTooLarge (len : ℕ)
  | protocol (message : String)
  /-- A message of another kind than the one that is expected. -/
  | unexpected (expected : String) (received : LivePeerWireMessage)
deriving DecidableEq

def bits (featureBits : List UInt16) : Value := .array (featureBits.map fun b => .number b.toNat)

def channelTypeValue : NegotiatedChannelType → Value
  | .btcOnly => .text "BtcOnly"
  | .singleAsset assetId protocolVersion => .object [("SingleAsset", .object [
      ("asset_id", .text (toHex assetId)), ("protocol_version", .number protocolVersion.toNat)])]

def wireValue : LivePeerWireMessage → Value
  | .hello peerName featureBits protocolVersion assetId => .object [("Hello", .object [
      ("peer_name", .text peerName), ("feature_bits", bits featureBits),
      ("protocol_version", .number protocolVersion.toNat), ("asset_id", .text (toHex assetId))])]
  | .helloAck accepted localFeatureBits remoteFeatureBits channelType =>
    .object [("HelloAck", .object [
      ("accepted", .bool accepted), ("local_feature_bits", bits localFeatureBits),
      ("remote_feature_bits", bits remoteFeatureBits),
      ("channel_type", channelTypeValue channelType)])]
  | .customMessage messageType payload => .object [("CustomMessage", .object [
      ("message_type", .number messageType.toNat),
      ("payload", .array (payload.map fun b => .number b.toNat))])]
  | .customMessageAck messageType decodedKind payloadDigest =>
    .object [("CustomMessageAck", .object [
      ("message_type", .number messageType.toNat), ("decoded_kind", .text decodedKind),
      ("payload_digest", .text (toHex payloadDigest))])]
  | .sessionComplete paymentId messageCount => .object [("SessionComplete", .object [
      ("payment_id", .text (toHex paymentId)), ("message_count", .number messageCount)])]
  | .sessionCompleteAck accepted paymentId messageCount inputProofReassembledLen
      outputProofReassembledLen => .object [("SessionCompleteAck", .object [
      ("accepted", .bool accepted), ("payment_id", .text (toHex paymentId)),
      ("message_count", .number messageCount),
      ("input_proof_reassembled_len", .number inputProofReassembledLen),
      ("output_proof_reassembled_len", .number outputProofReassembledLen)])]

/-- `serde_json::to_vec`, by the compact text it documents. -/
def wireBytes (message : LivePeerWireMessage) : Bytes := toVec (wireValue message)

/-- `serde_json::from_slice`, which is a parameter. -/
abbrev FromSlice := Bytes → Option LivePeerWireMessage

/-- The bytes that a message takes on the stream. -/
def frameBytes (message : LivePeerWireMessage) : Except LivePeerError Bytes :=
  (writeFrame maxFrameLen (wireBytes message)).mapError fun
    | .tooLarge len => .frameTooLarge len
    | .incomplete => .io

/-- The first message of a stream, and what follows it. -/
def parseFrame (fromSlice : FromSlice) (stream : Bytes) :
    Except LivePeerError (LivePeerWireMessage × Bytes) := do
  let (raw, stream) ← (LibraryFrames.readFrame maxFrameLen stream).mapError fun
    | .tooLarge len => .frameTooLarge len
    | .incomplete => .io
  let message ← okOr (fromSlice raw) .json
  pure (message, stream)

/-- A program of one peer. What it sends and receives are the contents of frames. -/
abbrev Peer (α : Type) := Program Bytes LivePeerError α

def writeFrame (message : LivePeerWireMessage) : Peer Unit := do
  .done (rejectIf (maxFrameLen < (wireBytes message).length)
    (.frameTooLarge (wireBytes message).length))
  .send (wireBytes message) (pure ())

def readFrame (fromSlice : FromSlice) : Peer LivePeerWireMessage :=
  .receive fun raw => .done (do
    rejectIf (maxFrameLen < raw.length) (.frameTooLarge raw.length)
    okOr (fromSlice raw) .json)

def featureSetFromBits (fork : NegotiationFork) (bits : List UInt16) : AssetChannelFeatureSet :=
  if assetChannelRequiredFeatureBit ∈ bits then .require fork
  else if assetChannelOptionalFeatureBit ∈ bits then .advertiseOptional fork
  else .disabled fork

def messageKind : AssetPeerMessage → String
  | .txAssetInputProof .. => "tx_asset_input_proof"
  | .txAssetOutputProof .. => "tx_asset_output_proof"
  | .assetFundingCreated .. => "asset_funding_created"
  | .assetFundingAccepted .. => "asset_funding_accepted"
  | .rfqRequest .. => "rfq_request"
  | .rfqAccept .. => "rfq_accept"
  | .rfqReject .. => "rfq_reject"
  | .assetHtlcBlob .. => "asset_htlc_blob"

def sessionChunkSize : ℕ := 18

def inputProof (assetId : Bytes32) (assetAmount : UInt64) : Bytes :=
  utf8 s!"tap-ldk live asset input proof asset={toHex assetId} amount={assetAmount}"

def outputProof (assetId : Bytes32) (assetAmount : UInt64) : Bytes :=
  utf8 s!"tap-ldk live asset output proof asset={toHex assetId} amount={assetAmount}"

def sampleAssetPaymentSessionMessages (assetId : Bytes32) (assetAmount : UInt64) :
    Except LivePeerError (List AssetPeerMessage) := do
  let pendingChannelId := repeated32 51
  let rfqId := repeated32 61
  let quoteId := repeated32 62
  let invoiceContext := repeated32 63
  let btcMsat ← okOr (checkedMul assetAmount 10) (.protocol "asset amount too large for quote")
  let inputChunks ← (split (inputProof assetId assetAmount) sessionChunkSize).mapError .reassembly
  let outputChunks ← (split (outputProof assetId assetAmount) sessionChunkSize).mapError .reassembly
  pure (inputChunks.map (.txAssetInputProof pendingChannelId assetId assetAmount) ++
    outputChunks.map (.txAssetOutputProof pendingChannelId assetId assetAmount) ++
    [.assetFundingCreated pendingChannelId
        (utf8 s!"asset-channel-funding:{toHex assetId}:{assetAmount}"),
      .assetFundingAccepted pendingChannelId true none,
      .rfqRequest rfqId assetId assetAmount invoiceContext,
      .rfqAccept rfqId quoteId btcMsat 1700000600 42,
      .assetHtlcBlob assetId assetAmount rfqId invoiceContext
        (utf8 s!"asset-htlc-final-hop:{toHex quoteId}:{assetAmount}")])

/-- A message as the payment id covers it. -/
def sessionMessageBytes (message : AssetPeerMessage) : Except LivePeerError Bytes := do
  let payload ← (encode message).mapError .peerMessage
  pure (u64Bytes (messageType message) ++ payload)

def sessionPaymentId (assetId : Bytes32) (assetAmount : UInt64) (messages : List AssetPeerMessage) :
    Except LivePeerError Bytes32 := do
  let encoded ← messages.mapM sessionMessageBytes
  pure (sha256 (assetId.bytes ++ u64Bytes assetAmount ++ encoded.flatten))

structure LiveAssetPaymentSessionServerReport where
  remoteFeatureBits : List UInt16
  sessionComplete : Bool
  orderedMessageKinds : List String
  inputProofReassembledLen : ℕ
  outputProofReassembledLen : ℕ
deriving DecidableEq

/-- What the server has put together from the messages so far. -/
structure SessionProgress where
  inputReassembler : ProofReassembler := .empty
  outputReassembler : ProofReassembler := .empty
  inputProofReassembledLen : ℕ := 0
  outputProofReassembledLen : ℕ := 0
  orderedMessageKinds : List String := []

/-- A chunk is taken, and the length of the proof is noted when it completes one. -/
def takeChunk (reassembler : ProofReassembler) (reassembledLen : ℕ) (chunk : ProofChunk) :
    Except LivePeerError (ProofReassembler × ℕ) :=
  match (push chunk).call reassembler with
  | (.ok (.complete proof), next) => .ok (next, proof.length)
  | (.ok (.incomplete ..), next) => .ok (next, reassembledLen)
  | (.error e, _) => .error (.reassembly e)

def SessionProgress.take (progress : SessionProgress) :
    AssetPeerMessage → Except LivePeerError SessionProgress
  | .txAssetInputProof _ _ _ chunk => do
    let (inputReassembler, inputProofReassembledLen) ←
      takeChunk progress.inputReassembler progress.inputProofReassembledLen chunk
    pure { progress with inputReassembler, inputProofReassembledLen }
  | .txAssetOutputProof _ _ _ chunk => do
    let (outputReassembler, outputProofReassembledLen) ←
      takeChunk progress.outputReassembler progress.outputProofReassembledLen chunk
    pure { progress with outputReassembler, outputProofReassembledLen }
  | _ => pure progress

section Server

variable (fromSlice : FromSlice) (fork : NegotiationFork)

def answerHello (assetId : Bytes32) :
    LivePeerWireMessage → Peer (List UInt16 × NegotiatedChannelType)
  | .hello peerName featureBits protocolVersion remoteAssetId => do
    .done (rejectIf (isBlank peerName) (.protocol "empty peer name"))
    .done (rejectIf (protocolVersion ≠ fork.supportedProtocolVersion)
      (.protocol s!"unsupported peer protocol version {protocolVersion}"))
    .done (rejectIf (remoteAssetId ≠ assetId) (.protocol "peer asset id mismatch"))
    let outcome ← .done ((negotiateChannel fork ⟨.require fork, featureSetFromBits fork featureBits,
      .singleAsset assetId⟩).mapError .negotiation)
    writeFrame (.helloAck true outcome.localFeatureBits outcome.remoteFeatureBits
      outcome.channelType)
    pure (outcome.remoteFeatureBits, outcome.channelType)
  | other => .done (.error (.unexpected "expected hello" other))

def answerMessage (expected : AssetPeerMessage) (sequence : ℕ) (progress : SessionProgress) :
    LivePeerWireMessage → Peer SessionProgress
  | .customMessage type payload => do
    let decoded ← .done ((decode payload).mapError .peerMessage)
    .done (rejectIf (messageType decoded ≠ type)
      (.protocol s!"payment-session message {sequence} type mismatch"))
    .done (rejectIf (decoded ≠ expected) (.protocol
      (s!"payment-session message {sequence} did not match expected " ++ messageKind expected)))
    let progress ← .done (progress.take decoded)
    writeFrame (.customMessageAck type (messageKind decoded) (sha256 payload))
    pure { progress with
      orderedMessageKinds := progress.orderedMessageKinds ++ [messageKind decoded] }
  | other => .done (.error (.unexpected
      s!"expected payment-session custom message {sequence}" other))

/-- The loop over the messages that the server expects. -/
def answerMessages : List AssetPeerMessage → ℕ → SessionProgress → Peer SessionProgress
  | [], _, progress => pure progress
  | expected :: rest, sequence, progress => do
    let progress ← readFrame fromSlice >>= answerMessage expected sequence progress
    answerMessages rest (sequence + 1) progress

def answerCompletion (expectedPaymentId : Bytes32) (expectedCount : ℕ)
    (progress : SessionProgress) : LivePeerWireMessage → Peer Unit
  | .sessionComplete paymentId messageCount => do
    .done (rejectIf (paymentId ≠ expectedPaymentId)
      (.protocol "payment-session completion id mismatch"))
    .done (rejectIf (messageCount ≠ expectedCount)
      (.protocol "payment-session completion count mismatch"))
    writeFrame (.sessionCompleteAck
      (0 < progress.inputProofReassembledLen && 0 < progress.outputProofReassembledLen) paymentId
      messageCount progress.inputProofReassembledLen progress.outputProofReassembledLen)
  | other => .done (.error (.unexpected "expected session completion" other))

/-- The server up to the completion of the session. -/
def serveMessages (assetId : Bytes32) (assetAmount : UInt64) :
    Peer (List UInt16 × Bytes32 × ℕ × SessionProgress) := do
  let (remoteFeatureBits, channelType) ← readFrame fromSlice >>= answerHello fork assetId
  .done ((requireAssetMessageAllowed channelType).mapError .negotiation)
  let expectedMessages ← .done (sampleAssetPaymentSessionMessages assetId assetAmount)
  let expectedPaymentId ← .done (sessionPaymentId assetId assetAmount expectedMessages)
  let progress ← answerMessages fromSlice expectedMessages 0 {}
  pure (remoteFeatureBits, expectedPaymentId, expectedMessages.length, progress)

def runLiveAssetPaymentSessionServer (assetId : Bytes32) (assetAmount : UInt64) :
    Peer LiveAssetPaymentSessionServerReport := do
  let (remoteFeatureBits, paymentId, count, progress) ←
    serveMessages fromSlice fork assetId assetAmount
  readFrame fromSlice >>= answerCompletion paymentId count progress
  pure ⟨remoteFeatureBits, true, progress.orderedMessageKinds, progress.inputProofReassembledLen,
    progress.outputProofReassembledLen⟩

end Server

structure LivePeerMessageReport where
  sequence : ℕ
  messageType : UInt64
  decodedKind : String
  payloadLen : ℕ
  payloadDigest : Bytes32
  acked : Bool
deriving DecidableEq

/-- What the client knows when the session is complete. -/
structure ClientSession where
  localFeatureBits : List UInt16
  remoteFeatureBits : List UInt16
  negotiatedChannelType : NegotiatedChannelType
  messageReports : List LivePeerMessageReport
  inputProofReassembledLen : ℕ
  outputProofReassembledLen : ℕ
  sessionPaymentId : Bytes32
deriving DecidableEq

section Client

variable (fromSlice : FromSlice) (fork : NegotiationFork)

def takeHelloAck :
    LivePeerWireMessage → Peer (List UInt16 × List UInt16 × NegotiatedChannelType)
  | .helloAck accepted localFeatureBits remoteFeatureBits channelType => do
    .done (rejectIf (¬ accepted) (.protocol "server rejected asset-payment session hello"))
    pure (localFeatureBits, remoteFeatureBits, channelType)
  | other => .done (.error (.unexpected "expected hello ack" other))

def takeMessageAck (sequence : ℕ) (type : UInt64) (payload : Bytes) :
    LivePeerWireMessage → Peer LivePeerMessageReport
  | .customMessageAck ackedMessageType decodedKind ackedPayloadDigest => do
    .done (rejectIf (¬ (ackedMessageType = type ∧ ackedPayloadDigest = sha256 payload))
      (.protocol s!"server ack mismatch for payment-session message {sequence}"))
    pure ⟨sequence, type, decodedKind, payload.length, sha256 payload, true⟩
  | other => .done (.error (.unexpected "expected custom message ack" other))

/-- The loop over the messages that the client sends. -/
def sendMessages : List AssetPeerMessage → ℕ → List LivePeerMessageReport →
    Peer (List LivePeerMessageReport)
  | [], _, reports => pure reports
  | message :: rest, sequence, reports => do
    let payload ← .done ((encode message).mapError .peerMessage)
    writeFrame (.customMessage (messageType message) payload)
    let report ← readFrame fromSlice >>= takeMessageAck sequence (messageType message) payload
    sendMessages rest (sequence + 1) (reports ++ [report])

def takeCompletionAck (paymentId : Bytes32) (count : ℕ) : LivePeerWireMessage → Peer (ℕ × ℕ)
  | .sessionCompleteAck accepted ackedPaymentId messageCount inputLen outputLen => do
    .done (rejectIf (¬ (accepted = true ∧ ackedPaymentId = paymentId ∧ messageCount = count))
      (.protocol "payment-session completion ack did not match client state"))
    pure (inputLen, outputLen)
  | other => .done (.error (.unexpected "expected session complete ack" other))

def runLiveAssetPaymentSessionClient (assetId : Bytes32) (assetAmount : UInt64) :
    Peer ClientSession := do
  .done (rejectIf (assetId = FixedBytes.zero 32) .missingAssetId)
  .done (rejectIf (assetAmount = 0)
    (.protocol "live asset payment session requires a non-zero asset amount"))
  writeFrame (.hello "tap-ldk-payment-client"
    (AssetChannelFeatureSet.advertiseOptional fork).featureBits fork.supportedProtocolVersion
    assetId)
  let (localFeatureBits, remoteFeatureBits, channelType) ← readFrame fromSlice >>= takeHelloAck
  let messages ← .done (sampleAssetPaymentSessionMessages assetId assetAmount)
  let paymentId ← .done (sessionPaymentId assetId assetAmount messages)
  let messageReports ← sendMessages fromSlice messages 0 []
  writeFrame (.sessionComplete paymentId messages.length)
  let (inputLen, outputLen) ← readFrame fromSlice >>= takeCompletionAck paymentId messages.length
  pure ⟨localFeatureBits, remoteFeatureBits, channelType, messageReports, inputLen, outputLen,
    paymentId⟩

end Client

/-- The client waits for the server before it reports. -/
def joinServer (server : Except LivePeerError LiveAssetPaymentSessionServerReport)
    (session : ClientSession) : Except LivePeerError ClientSession := do
  let result ← server
  rejectIf (¬ result.sessionComplete)
    (.protocol "server did not record payment-session completion")
  pure session

end TapLdk.LivePeer
