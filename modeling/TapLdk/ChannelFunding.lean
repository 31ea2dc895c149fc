import Mathlib
import TapLdk.LdkFork
import TapLdk.ProofHistory
import TapLdk.TapVm
import TapLdk.TaprootCommitment

/-! The channel funding store: proofs of one asset from both peers become one channel
output, checked by the virtual transition, the commitment, LDK and a history replay. -/
namespace TapLdk.ChannelFunding
open TapLdk.LibraryExcept TapLdk.LibraryMaps TapLdk.LibraryBytes TapLdk.LibrarySha256
open TapLdk.Mssmt TapLdk.Asset TapLdk.Proof TapLdk.ProofHistory TapLdk.TapVm
open TapLdk.TaprootCommitment TapLdk.LdkFork

def storeSchemaVersion : UInt32 := 1

/-- A root in its stored form. -/
abbrev StoredRootHashSum := RootHashSum

inductive AssetChannelFundingStatus where
  | funded
deriving DecidableEq

structure AssetChannelMonitorBlob where
  schemaVersion : UInt32
  commitmentNumber : UInt64
  persisted : Bool
  blobDigest : Bytes32
deriving DecidableEq

structure StoredAssetChannel where
  channelId : String
  localPeer : String
  remotePeer : String
  assetId : Bytes32
  genesisOutpoint : String
  fundingOutpoint : String
  fundingScriptKey : CompressedKey
  fundingTapAssetRoot : StoredRootHashSum
  localBalance : UInt64
  remoteBalance : UInt64
  totalAmount : UInt64
  localInputProofIds : List String
  remoteInputProofIds : List String
  fundingProofHistoryRecordId : String
  fundingProofHistoryOutputId : String
  fundingProofHistoryTransitionId : String
  status : AssetChannelFundingStatus
  monitor : AssetChannelMonitorBlob
deriving DecidableEq

structure AssetChannelStoreMetadata where
  implementation : String
  schema : String
deriving DecidableEq

structure AssetChannelStore where
  version : UInt32
  metadata : AssetChannelStoreMetadata
  channels : BTreeMap String StoredAssetChannel
  spentFundingProofs : BTreeMap String String

structure AssetChannelFundingRequest where
  localPeer : String
  remotePeer : String
  assetId : Bytes32
  fundingOutpoint : String
  fundingScriptKey : CompressedKey
  localInputs : List ProofFile
  remoteInputs : List ProofFile
  expectedFundingRoot : Option RootHashSum

structure ValidatedFundingInput where
  proofId : String
  proof : ProofFile

structure FundingProofHistory where
  recordId : String
  outputId : String
  transitionId : Bytes32
deriving DecidableEq

inductive AssetChannelFundingError where
  | proof (error : ProofError)
  | proofHistory (error : ProofHistoryReplayError)
  | asset (error : AssetError)
  | commitment (error : TaprootCommitmentError)
  | tapVm (error : TapVmError)
  | unsupportedVersion (version : UInt32)
  | emptyPeer
  | missingFundingProofs
  | malformedFundingOutpoint
  | duplicateChannel (channelId : String)
  | amountOverflow
  | assetIdMismatch (expected actual : Bytes32)
  | genesisMismatch
  | fundingRootMismatch (expected actual : StoredRootHashSum)
  | fundingRootSumMismatch (rootSum totalAmount : UInt64)
  | balanceMismatch (localBalance remoteBalance totalAmount : UInt64)
  | spentFundingProof (proofId channelId : String)
  | ldkChannelDescriptor (error : LdkError)
  | ldkFundingHook (error : LdkError)
  | monitorNotPersisted (channelId : String)
  | unexplainedFundingHistory (channelId : String)
  | storageInvariant (message : String)
deriving DecidableEq

def fundingProofId (proof : ProofFile) : String := s!"{toHex proof.assetId}:{proof.anchorOutpoint}"

def lengthPrefixed (text : String) : Bytes := beBytes 8 (utf8 text).length ++ utf8 text

/-- `sort` on a list of texts. -/
def sortTexts (texts : List String) : List String :=
  texts.insertionSort fun a b => (compare a b).isLE

def fundingWitnessContext (inputProofs : List String) : Bytes32 :=
  sha256 (utf8 "tap-ldk:asset-channel-funding-virtual-witness:v1" ++
    beBytes 8 inputProofs.length ++ inputProofs.flatMap lengthPrefixed)

def digestDomain (domain : String) (part : Bytes) : Bytes32 :=
  sha256 (utf8 domain ++ (beBytes 8 part.length ++ part))

def deriveGenesisId (genesisOutpoint : String) : Bytes32 :=
  digestDomain "tap-ldk:asset-channel-genesis-id:v1" (utf8 genesisOutpoint)

def derivePendingChannelId (channelId : String) : Bytes32 :=
  digestDomain "tap-ldk:asset-channel-pending-channel-id:v1" (utf8 channelId)

def deriveChannelId (localPeer remotePeer : String) (assetId : Bytes32) (fundingOutpoint : String)
    (fundingScriptKey : CompressedKey) (localBalance remoteBalance : UInt64)
    (inputProofs : List String) : String :=
  toHex (sha256 (utf8 "tap-ldk:asset-channel-id:v1" ++ lengthPrefixed localPeer ++
    lengthPrefixed remotePeer ++ assetId.bytes ++ lengthPrefixed fundingOutpoint ++
    fundingScriptKey.bytes ++ u64Bytes localBalance ++ u64Bytes remoteBalance ++
    (sortTexts inputProofs).flatMap lengthPrefixed))

def fundingProofHistoryMetadataFromParts (channelId : String) (assetId : Bytes32)
    (fundingOutpoint : String) (fundingScriptKey : CompressedKey)
    (localBalance remoteBalance : UInt64) (inputProofIds : List String) : FundingProofHistory :=
  { recordId := s!"asset-channel-funding:{channelId}"
    outputId := s!"asset-channel-funding-output:{channelId}"
    transitionId := sha256 (utf8 "tap-ldk:asset-channel-funding-proof-history:v1" ++
      utf8 channelId ++ assetId.bytes ++ utf8 fundingOutpoint ++ fundingScriptKey.bytes ++
      u64Bytes localBalance ++ u64Bytes remoteBalance ++
      (sortTexts inputProofIds).flatMap lengthPrefixed) }

def fundingInputTransitionId (proofId : String) (proof : ProofFile) :
    Except AssetChannelFundingError Bytes32 := do
  let encoded ← proof.encode.mapError .proof
  pure (sha256 (utf8 "tap-ldk:asset-channel-funding-input-history:v1" ++ utf8 proofId ++ encoded))

namespace AssetChannelMonitorBlob

def digestFor (channelId : String) (assetId : Bytes32) (localBalance remoteBalance : UInt64)
    (fundingRoot : RootHashSum) : Bytes32 :=
  sha256 (utf8 "tap-ldk:asset-channel-monitor:v1" ++ lengthPrefixed channelId ++ assetId.bytes ++
    u64Bytes localBalance ++ u64Bytes remoteBalance ++ fundingRoot.hash.bytes ++
    u64Bytes fundingRoot.sum)

def new (channelId : String) (assetId : Bytes32) (localBalance remoteBalance : UInt64)
    (fundingRoot : RootHashSum) : AssetChannelMonitorBlob :=
  ⟨storeSchemaVersion, 0, true,
    digestFor channelId assetId localBalance remoteBalance fundingRoot⟩

end AssetChannelMonitorBlob

def validateFundingRequest (request : AssetChannelFundingRequest) :
    Except AssetChannelFundingError Unit := do
  rejectIf (isBlank request.localPeer ∨ isBlank request.remotePeer) .emptyPeer
  rejectIf (isBlank request.fundingOutpoint) .malformedFundingOutpoint
  rejectIf (request.localInputs.isEmpty ∧ request.remoteInputs.isEmpty) .missingFundingProofs

/-- One input of a side: the ids seen on that side and the inputs validated so far. -/
def validateFundingInput (assetId : Bytes32) (spentFundingProofs : BTreeMap String String)
    (acc : BTreeMap String Unit × List ValidatedFundingInput) (proof : ProofFile) :
    Except AssetChannelFundingError (BTreeMap String Unit × List ValidatedFundingInput) := do
  let _ ← (proof.verifySemanticAncestry (.forAsset assetId)).mapError .proof
  rejectIf (proof.assetId ≠ assetId) (.assetIdMismatch assetId proof.assetId)
  let proofId := fundingProofId proof
  rejectIf (acc.1[proofId]?).isSome (.spentFundingProof proofId "current-request")
  rejectIf (spentFundingProofs[proofId]?).isSome
    (.spentFundingProof proofId ((spentFundingProofs[proofId]?).getD ""))
  pure (acc.1.insert proofId (), acc.2 ++ [⟨proofId, proof⟩])

def validateFundingInputs (assetId : Bytes32) (proofs : List ProofFile)
    (spentFundingProofs : BTreeMap String String) :
    Except AssetChannelFundingError (List ValidatedFundingInput) := do
  let (_, validated) ← proofs.foldlM (validateFundingInput assetId spentFundingProofs) (∅, [])
  pure validated

def sharedGenesis (inputs : List ValidatedFundingInput) : Except AssetChannelFundingError String := do
  let first ← okOr inputs.head? .missingFundingProofs
  let genesis := first.proof.genesisOutpoint
  rejectIf (∃ input ∈ inputs, input.proof.genesisOutpoint ≠ genesis) .genesisMismatch
  pure genesis

def sumInputs (inputs : List ValidatedFundingInput) :
    Except AssetChannelFundingError AssetAmount :=
  inputs.foldlM (fun amount input => (addAmount amount input.proof.amount).mapError .asset) 0

def fundingTapCommitment (assetId : Bytes32) (genesisOutpoint : String)
    (fundingScriptKey : CompressedKey) (totalAmount : AssetAmount) :
    Except AssetChannelFundingError TapCommitment :=
  (TapCommitment.fromAssets (some .v2)
    [⟨.v1, assetId, .normal, genesisOutpoint, totalAmount, fundingScriptKey, none⟩]).mapError
    .commitment

def commitmentRoot (commitment : TapCommitment) : RootHashSum :=
  ⟨commitment.treeRoot.hash, commitment.treeRoot.sum⟩

/-- `Txid::from_str`: the hash in display order, as exactly 64 hexadecimal digits. -/
def parseTxid (text : String) : Option Bytes32 := do
  let digits ← (utf8 text).mapM hexDigit
  let bytes := (digits.toChunks 2).map fun pair =>
    UInt8.ofNat (pair.foldl (fun acc d => 16 * acc + d) 0)
  if digits.length = 64 then FixedBytes.ofBytes 32 bytes.reverse else none

/-- `str::parse::<u16>`: decimal digits after an optional plus sign. -/
def parseU16 (text : List Char) : Option UInt16 :=
  let digits := if text.head? = some '+' then text.tail else text
  if digits = [] ∨ ¬ digits.all Char.isDigit then none
  else
    let v := digits.foldl (fun acc c => 10 * acc + (c.toNat - 48)) 0
    if v < 2 ^ 16 then some (UInt16.ofNat v) else none

/-- The text before and after the last colon. -/
def rsplitColon (text : String) : Option (String × List Char) :=
  match text.toList.reverse.dropWhile (· ≠ ':') with
  | [] => none
  | _ :: txid => some (String.ofList txid.reverse, (text.toList.reverse.takeWhile (· ≠ ':')).reverse)

def parseLdkOutpoint (fundingOutpoint : String) : Except AssetChannelFundingError LdkOutPoint := do
  let (txid, index) ← okOr (rsplitColon fundingOutpoint) .malformedFundingOutpoint
  let txid ← okOr (parseTxid txid) .malformedFundingOutpoint
  let index ← okOr (parseU16 index) .malformedFundingOutpoint
  pure ⟨txid, index⟩

/-- The candidate with its last byte moved on by a counter, modulo 256. -/
def bumpCandidate (candidate : Bytes32) (counter : ℕ) : Bytes32 :=
  ⟨candidate.bytes.modify 31 (· + UInt8.ofNat counter), by
    rw [List.length_modify, candidate.length_eq]⟩

/-- The first candidate that is a secret key. The counters add up from one try to the next. -/
def firstPublicKey (ldk : Ldk) : List ℕ → Bytes32 → Option ldk.PublicKey
  | [], _ => none
  | counter :: counters, candidate =>
    let candidate := bumpCandidate candidate counter
    match ldk.publicKeyOf candidate with
    | some key => some key
    | none => firstPublicKey ldk counters candidate

def derivePeerPublicKey (ldk : Ldk) (peer : String) :
    Except AssetChannelFundingError ldk.PublicKey :=
  okOr (firstPublicKey ldk (List.range 256)
      (digestDomain "tap-ldk:ldk-peer-identity:v1" (utf8 peer)))
    (.storageInvariant s!"could not derive LDK peer identity for {peer}")

def validateWithLdkFundingHook (ldk : Ldk) (request : AssetChannelFundingRequest)
    (channelId genesisOutpoint : String) (fundingRoot : RootHashSum)
    (localBalance remoteBalance : UInt64) (proofCount : ℕ) (expectedOutputCommitment : Bytes32)
    (outputCommitmentOverride : Option Bytes32) : Except AssetChannelFundingError Unit := do
  let descriptor ← (ldk.newChannelDescriptor request.assetId ldk.supportedProtocolVersion).mapError
    .ldkChannelDescriptor
  let fundingOutpoint ← parseLdkOutpoint request.fundingOutpoint
  let localPeerId ← derivePeerPublicKey ldk request.localPeer
  let remotePeerId ← derivePeerPublicKey ldk request.remotePeer
  let genesisId := deriveGenesisId genesisOutpoint
  let actualOutputCommitment := outputCommitmentOverride.getD expectedOutputCommitment
  rejectIf (2 ^ 16 ≤ proofCount) .amountOverflow
  let proofCount := UInt16.ofNat proofCount
  let totalAmount ← okOr (checkedAdd localBalance remoteBalance) .amountOverflow
  (ldk.validateAssetChannelFunding
    { pendingChannelId := derivePendingChannelId channelId
      descriptor
      fundingOutpoint
      localPeerId
      remotePeerId
      proofMaterial := ⟨request.assetId, genesisId, none, fundingRoot.hash, fundingRoot.sum,
        proofCount, proofCount⟩
      fundingOutput := ⟨fundingOutpoint, request.assetId, fundingRoot.hash, fundingRoot.sum,
        actualOutputCommitment⟩
      expectations := ⟨request.assetId, genesisId, none, fundingRoot.hash,
        expectedOutputCommitment, totalAmount⟩
      allocation := ⟨localBalance, remoteBalance⟩ }).mapError .ldkFundingHook

/-- The issuance that stands for a funding input. -/
def fundingInputRecord (input : ValidatedFundingInput) :
    Except AssetChannelFundingError ProofHistoryRecord := do
  let transitionId ← fundingInputTransitionId input.proofId input.proof
  pure
    { recordId := s!"asset-channel-funding-input:{input.proofId}"
      kind := .issuance
      virtualTransitionId := transitionId
      inputs := []
      outputs := [⟨input.proofId, input.proof.assetId, input.proof.amount, input.proof.scriptKey,
        input.proof.anchorOutpoint, input.proof.tapAssetRoot, .accepted⟩] }

/-- The output that all inputs of a channel are locked in. -/
def fundingOutput (request : AssetChannelFundingRequest) (outputId : String)
    (totalAmount : AssetAmount) (root : RootHashSum) : ProofHistoryOutput :=
  ⟨outputId, request.assetId, totalAmount, request.fundingScriptKey, request.fundingOutpoint, root,
    .channelLocked⟩

def fundingRecord (request : AssetChannelFundingRequest) (metadata : FundingProofHistory)
    (inputIds : List String) (totalAmount : AssetAmount) (root : RootHashSum) :
    ProofHistoryRecord :=
  { recordId := metadata.recordId
    kind := .channelFunding
    virtualTransitionId := metadata.transitionId
    inputs := inputIds.map fun id => ⟨id⟩
    outputs := [fundingOutput request metadata.outputId totalAmount root] }

def validateFundingProofHistory (channelId : String) (request : AssetChannelFundingRequest)
    (localInputs remoteInputs : List ValidatedFundingInput) (totalAmount : AssetAmount) :
    Except AssetChannelFundingError FundingProofHistory := do
  let root ← (deriveHashSumRoot
    [⟨request.assetId, request.fundingScriptKey, totalAmount⟩]).mapError .asset
  let inputIds := (localInputs ++ remoteInputs).map (·.proofId)
  let localBalance ← sumInputs localInputs
  let remoteBalance ← sumInputs remoteInputs
  let metadata := fundingProofHistoryMetadataFromParts channelId request.assetId
    request.fundingOutpoint request.fundingScriptKey localBalance remoteBalance inputIds
  let inputRecords ← (localInputs ++ remoteInputs).mapM fundingInputRecord
  let record := fundingRecord request metadata inputIds totalAmount root
  let history ← (replay (inputRecords ++ [record])).mapError .proofHistory
  let explanation ← okOr (history.acceptedExplanation metadata.outputId)
    (.unexplainedFundingHistory channelId)
  rejectIf (explanation.resultingState ≠ .channelLocked ∨ explanation.assetId ≠ request.assetId ∨
    explanation.amount ≠ totalAmount ∨ explanation.scriptKey ≠ request.fundingScriptKey ∨
    explanation.anchorOutpoint ≠ request.fundingOutpoint ∨ explanation.tapAssetRoot ≠ root)
    (.unexplainedFundingHistory channelId)
  pure metadata

namespace StoredAssetChannel

def inputProofIds (channel : StoredAssetChannel) : List String :=
  channel.localInputProofIds ++ channel.remoteInputProofIds

def bindingId (channel : StoredAssetChannel) : String :=
  deriveChannelId channel.localPeer channel.remotePeer channel.assetId channel.fundingOutpoint
    channel.fundingScriptKey channel.localBalance channel.remoteBalance channel.inputProofIds

def expectedHistory (channel : StoredAssetChannel) : FundingProofHistory :=
  fundingProofHistoryMetadataFromParts channel.channelId channel.assetId channel.fundingOutpoint
    channel.fundingScriptKey channel.localBalance channel.remoteBalance channel.inputProofIds

def validateFields (channel : StoredAssetChannel) : Except AssetChannelFundingError Unit := do
  rejectIf (isBlank channel.localPeer ∨ isBlank channel.remotePeer) .emptyPeer
  rejectIf (isBlank channel.fundingOutpoint) .malformedFundingOutpoint
  let sum ← okOr (checkedAdd channel.localBalance channel.remoteBalance) .amountOverflow
  rejectIf (sum ≠ channel.totalAmount)
    (.balanceMismatch channel.localBalance channel.remoteBalance channel.totalAmount)
  rejectIf (channel.fundingTapAssetRoot.sum ≠ channel.totalAmount)
    (.fundingRootSumMismatch channel.fundingTapAssetRoot.sum channel.totalAmount)
  let expectedCommitment ← fundingTapCommitment channel.assetId channel.genesisOutpoint
    channel.fundingScriptKey channel.totalAmount
  let expectedRoot := commitmentRoot expectedCommitment
  rejectIf (channel.fundingTapAssetRoot ≠ expectedRoot)
    (.fundingRootMismatch expectedRoot channel.fundingTapAssetRoot)
  rejectIf (channel.localInputProofIds.isEmpty ∧ channel.remoteInputProofIds.isEmpty)
    .missingFundingProofs
  rejectIf (channel.fundingProofHistoryRecordId ≠ channel.expectedHistory.recordId ∨
    channel.fundingProofHistoryOutputId ≠ channel.expectedHistory.outputId ∨
    channel.fundingProofHistoryTransitionId ≠ toHex channel.expectedHistory.transitionId)
    (.unexplainedFundingHistory channel.channelId)

def expectedMonitorDigest (channel : StoredAssetChannel) : Bytes32 :=
  AssetChannelMonitorBlob.digestFor channel.channelId channel.assetId channel.localBalance
    channel.remoteBalance channel.fundingTapAssetRoot

end StoredAssetChannel

namespace AssetChannelStore

def default : AssetChannelStore :=
  { version := storeSchemaVersion
    metadata := ⟨"tap-ldk experimental asset channel store", "bounded-regtest-asset-channel-v1"⟩
    channels := ∅
    spentFundingProofs := ∅ }

def indexProof (channelId : String) (spent : BTreeMap String String) (proofId : String) :
    Except AssetChannelFundingError (BTreeMap String String) := do
  rejectIf (spent[proofId]?).isSome
    (.storageInvariant s!"funding proof {proofId} is assigned to multiple channels")
  pure (spent.insert proofId channelId)

def validateChannel (channelId : String) (channel : StoredAssetChannel) :
    Except AssetChannelFundingError Unit := do
  rejectIf (channelId ≠ channel.channelId) (.storageInvariant
    s!"channel map key {channelId} does not match channel_id {channel.channelId}")
  channel.validateFields
  rejectIf (channel.bindingId ≠ channelId) (.storageInvariant
    s!"channel {channelId} binding hash does not match stored fields")
  rejectIf (¬ channel.monitor.persisted) (.monitorNotPersisted channelId)
  rejectIf (channel.monitor.blobDigest ≠ channel.expectedMonitorDigest) (.storageInvariant
    s!"channel {channelId} monitor digest does not match stored fields")

def indexChannel (spent : BTreeMap String String) (entry : String × StoredAssetChannel) :
    Except AssetChannelFundingError (BTreeMap String String) := do
  validateChannel entry.1 entry.2
  entry.2.inputProofIds.foldlM (indexProof entry.1) spent

def validate (store : AssetChannelStore) : Except AssetChannelFundingError Unit := do
  rejectIf (store.version ≠ storeSchemaVersion) (.unsupportedVersion store.version)
  let spent ← store.channels.toList.foldlM indexChannel ∅
  -- two maps are equal exactly when they list the same entries
  rejectIf (spent.toList ≠ store.spentFundingProofs.toList)
    (.storageInvariant "spent funding proof index does not match channels")

def checkExpectedRoot (expected : Option RootHashSum) (actual : RootHashSum) :
    Except AssetChannelFundingError Unit :=
  match expected with
  | some expected => rejectIf (expected ≠ actual) (.fundingRootMismatch expected actual)
  | none => pure ()

/-- The store with one more channel, whose inputs are spent. -/
def insertChannel (store : AssetChannelStore) (channel : StoredAssetChannel) : AssetChannelStore :=
  { store with
    channels := store.channels.insert channel.channelId channel
    spentFundingProofs := insertAll store.spentFundingProofs
      (channel.inputProofIds.map fun id => (id, channel.channelId)) }

def fundChannelWithForkCommitmentOverride (ldk : Ldk) (store : AssetChannelStore)
    (request : AssetChannelFundingRequest) (outputCommitmentOverride : Option Bytes32) :
    Except AssetChannelFundingError (StoredAssetChannel × AssetChannelStore) := do
  validateFundingRequest request
  let localInputs ← validateFundingInputs request.assetId request.localInputs
    store.spentFundingProofs
  let remoteInputs ← validateFundingInputs request.assetId request.remoteInputs
    store.spentFundingProofs
  let genesisOutpoint ← sharedGenesis (localInputs ++ remoteInputs)
  let localBalance ← sumInputs localInputs
  let remoteBalance ← sumInputs remoteInputs
  let totalAmount ← (addAmount localBalance remoteBalance).mapError .asset
  let inputProofs := (localInputs ++ remoteInputs).map (·.proofId)
  let fundingTransition := AssetVirtualTransition.channelFunding request.assetId
    ((localInputs ++ remoteInputs).map (·.proof.amount)) totalAmount request.fundingScriptKey
    (fundingWitnessContext inputProofs)
  let _ ← fundingTransition.validate.mapError .tapVm
  let fundingCommitment ← fundingTapCommitment request.assetId genesisOutpoint
    request.fundingScriptKey totalAmount
  let fundingRoot := commitmentRoot fundingCommitment
  let expectedOutputCommitment ← (fundingCommitment.tapscriptRoot none).mapError .commitment
  checkExpectedRoot request.expectedFundingRoot fundingRoot
  let channelId := deriveChannelId request.localPeer request.remotePeer request.assetId
    request.fundingOutpoint request.fundingScriptKey localBalance remoteBalance inputProofs
  rejectIf (store.channels[channelId]?).isSome (.duplicateChannel channelId)
  validateWithLdkFundingHook ldk request channelId genesisOutpoint fundingRoot localBalance
    remoteBalance inputProofs.length expectedOutputCommitment outputCommitmentOverride
  let proofHistory ← validateFundingProofHistory channelId request localInputs remoteInputs
    totalAmount
  let channel : StoredAssetChannel :=
    { channelId
      localPeer := request.localPeer
      remotePeer := request.remotePeer
      assetId := request.assetId
      genesisOutpoint
      fundingOutpoint := request.fundingOutpoint
      fundingScriptKey := request.fundingScriptKey
      fundingTapAssetRoot := fundingRoot
      localBalance
      remoteBalance
      totalAmount
      localInputProofIds := localInputs.map (·.proofId)
      remoteInputProofIds := remoteInputs.map (·.proofId)
      fundingProofHistoryRecordId := proofHistory.recordId
      fundingProofHistoryOutputId := proofHistory.outputId
      fundingProofHistoryTransitionId := toHex proofHistory.transitionId
      status := .funded
      monitor := .new channelId request.assetId localBalance remoteBalance fundingRoot }
  let next := store.insertChannel channel
  next.validate
  pure (channel, next)

def fundChannel (ldk : Ldk) (store : AssetChannelStore) (request : AssetChannelFundingRequest) :
    Except AssetChannelFundingError (StoredAssetChannel × AssetChannelStore) :=
  store.fundChannelWithForkCommitmentOverride ldk request none

end AssetChannelStore

end TapLdk.ChannelFunding
