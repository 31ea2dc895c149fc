import Mathlib
import TapLdk.ProofCourier

/-! The local wallet: stored proofs, the UTXOs they back, and the operations that import
proofs, issue assets, follow anchor notices and send local transfers. -/
namespace TapLdk.Wallet
open TapLdk.LibraryExcept TapLdk.LibraryMaps TapLdk.LibraryBytes TapLdk.LibrarySha256
open TapLdk.Mssmt TapLdk.Asset TapLdk.TapdProof TapLdk.Proof TapLdk.ProofHistory
open TapLdk.ProofCourier

def walletSchemaVersion : UInt32 := 1

structure WalletMetadata where
  implementation : String := "tap-ldk experimental wallet"
  schema : String := "bounded-regtest-v1"
deriving DecidableEq

structure StoredProof where
  proofId : String
  proofTlvHex : String
  verificationScope : String
  proofHistoryRecordId : String
  proofHistoryOutputId : String
  proofHistoryTransitionId : String
  tapdRawProofFileHex : Option String
  tapdRawProofFileDigest : Option Bytes32
deriving DecidableEq

inductive UtxoStatus where
  | spendable
  | pending
  | unresolved
  | rejected
deriving DecidableEq

def UtxoStatus.fromAnchorState : ProofAnchorState → UtxoStatus
  | .confirmed => .spendable
  | .pending => .pending
  | .unknown => .unresolved
  | .stale | .reorged => .rejected

structure SpendableAssetUtxo where
  utxoId : String
  proofId : String
  assetId : String
  genesisOutpoint : String
  anchorOutpoint : String
  anchorState : ProofAnchorState
  scriptKey : String
  amount : UInt64
  proofHistoryOutputId : String
  status : UtxoStatus
deriving DecidableEq

structure PendingOperation where
  operationId : String
  kind : String
  assetId : String
  amount : UInt64
deriving DecidableEq

structure WalletState where
  version : UInt32
  metadata : WalletMetadata
  proofs : BTreeMap String StoredProof
  spendableUtxos : BTreeMap String SpendableAssetUtxo
  pendingOperations : List PendingOperation

def WalletState.default : WalletState := ⟨walletSchemaVersion, {}, ∅, ∅, []⟩

structure AssetBalance where
  assetId : String
  spendable : UInt64
deriving DecidableEq

inductive ImportOutcome where
  | imported (proofId : String)
  | alreadyPresent (proofId : String)
deriving DecidableEq

namespace ImportOutcome

def proofId : ImportOutcome → String
  | imported proofId | alreadyPresent proofId => proofId

def status : ImportOutcome → String
  | imported _ => "imported"
  | alreadyPresent _ => "already_present"

end ImportOutcome

inductive WalletError where
  | proof (error : ProofError)
  | proofHistory (error : ProofHistoryReplayError)
  | proofCourier (error : ProofCourierError)
  | tapdProof (error : TapdProofError)
  | asset (error : AssetError)
  | unsupportedVersion (version : UInt32)
  | invalidHexLength
  | invalidHexByte (value : String)
  | conflictingProof (proofId : String)
  | unknownProof (proofId : String)
  | unknownAnchorOutpoint (anchorOutpoint : String)
  | noTapdProofFile (proofId : String)
  | unexplainedProofHistory (proofId : String)
  | obsoleteProofExport (proofId : String)
  | zeroIssuanceAmount
  | zeroTransferAmount
  | invalidTicker
  | insufficientAssetBalance (assetId : String) (requested : UInt64)
  | storageInvariant (message : String)
  /-- Stands for a panic of the program. -/
  | panicked (message : String)
deriving DecidableEq

/-- What a method that may change the wallet returns: its result and the wallet it leaves
behind, on errors too. -/
abbrev WalletResult (α : Type) := Except WalletError α × WalletState

/-- A method that works on a copy and replaces the wallet only when all went well. -/
def replaceOnOk {α : Type} (w : WalletState) : Except WalletError (α × WalletState) → WalletResult α
  | .ok (a, next) => (.ok a, next)
  | .error e => (.error e, w)

def decodeHex (hex : String) : Except WalletError Bytes := do
  rejectIf ((utf8 hex).length % 2 ≠ 0) .invalidHexLength
  decodeHexPairs .invalidHexByte (.panicked "hex input is str") (utf8 hex)

def proofId (proof : ProofFile) : String := s!"{toHex proof.assetId}:{proof.anchorOutpoint}"

def taggedHash (tag payload : Bytes) : Bytes32 :=
  sha256 ((sha256 tag).bytes ++ (sha256 tag).bytes ++ payload)

structure WalletProofHistory where
  recordId : String
  outputId : String
  transitionId : Bytes32
deriving DecidableEq

def walletProofHistoryMetadata (proofId : String) (proof : ProofFile) :
    Except WalletError WalletProofHistory := do
  let encoded ← proof.encode.mapError .proof
  let payload := utf8 proofId ++ encoded
  let transitionId := taggedHash (utf8 "tap-ldk:wallet-proof-history-transition:v1") payload
  pure ⟨s!"wallet-import:{proofId}", proofId, transitionId⟩

/-- The issuance record that stands for an imported proof. -/
def historyRecord (metadata : WalletProofHistory) (proof : ProofFile) : ProofHistoryRecord :=
  { recordId := metadata.recordId
    kind := .issuance
    virtualTransitionId := metadata.transitionId
    inputs := []
    outputs := [
      { outputId := metadata.outputId
        assetId := proof.assetId
        amount := proof.amount
        scriptKey := proof.scriptKey
        anchorOutpoint := proof.anchorOutpoint
        tapAssetRoot := proof.tapAssetRoot
        resultingState := .accepted }] }

def replayWalletProofHistoryWithAnchorPolicy (metadata : WalletProofHistory) (proof : ProofFile)
    (anchorPolicy : ProofAnchorPolicy) : Except WalletError AcceptedBalanceExplanation := do
  let replay ← (replayWithAnchorPolicy [historyRecord metadata proof] anchorPolicy).mapError
    .proofHistory
  okOr (replay.acceptedExplanation metadata.outputId) (.unexplainedProofHistory metadata.outputId)

def replayWalletProofHistory (metadata : WalletProofHistory) (proof : ProofFile) :
    Except WalletError AcceptedBalanceExplanation :=
  replayWalletProofHistoryWithAnchorPolicy metadata proof .assumeAllConfirmedForRegtest

def acceptedWalletProofHistory (proofId : String) (proof : ProofFile) :
    Except WalletError WalletProofHistory := do
  let metadata ← walletProofHistoryMetadata proofId proof
  let explanation ← replayWalletProofHistory metadata proof
  rejectIf (explanation.outputId ≠ metadata.outputId ∨ explanation.assetId ≠ proof.assetId ∨
    explanation.amount ≠ proof.amount ∨ explanation.scriptKey ≠ proof.scriptKey ∨
    explanation.anchorOutpoint ≠ proof.anchorOutpoint ∨
    explanation.tapAssetRoot ≠ proof.tapAssetRoot ∨ explanation.resultingState ≠ .accepted)
    (.unexplainedProofHistory proofId)
  pure metadata

def StoredProof.matchesProofHistory (stored : StoredProof) (history : WalletProofHistory) : Bool :=
  stored.proofHistoryRecordId == history.recordId &&
    stored.proofHistoryOutputId == history.outputId &&
    stored.proofHistoryTransitionId == toHex history.transitionId

def validateStoredProofHistoryWithAnchorPolicy (stored : StoredProof) (proof : ProofFile)
    (anchorPolicy : ProofAnchorPolicy) : Except WalletError AcceptedBalanceExplanation := do
  let metadata ← acceptedWalletProofHistory stored.proofId proof
  rejectIf (¬ stored.matchesProofHistory metadata) (.unexplainedProofHistory stored.proofId)
  replayWalletProofHistoryWithAnchorPolicy metadata proof anchorPolicy

def validateStoredProofHistory (stored : StoredProof) (proof : ProofFile) :
    Except WalletError AcceptedBalanceExplanation := do
  let metadata ← acceptedWalletProofHistory stored.proofId proof
  rejectIf (¬ stored.matchesProofHistory metadata) (.unexplainedProofHistory stored.proofId)
  replayWalletProofHistory metadata proof

def anchorPolicyForUtxo (utxo : SpendableAssetUtxo) : ProofAnchorPolicy :=
  ProofAnchorPolicy.strictConfirmed.withAnchorState utxo.anchorOutpoint utxo.anchorState

/-- The ancestry file stored beside a proof. -/
def StoredProof.tapdSummary (stored : StoredProof) :
    Except WalletError (Option TapdProofFileSummary) :=
  match stored.tapdRawProofFileHex with
  | some tapdHex => do
    let tapdBytes ← decodeHex tapdHex
    let summary ← (decodeTapdProofFile tapdBytes).mapError .tapdProof
    pure (some summary)
  | none => pure none

def validateStoredProof (key : String) (stored : StoredProof) : Except WalletError ProofFile := do
  rejectIf (key ≠ stored.proofId)
    (.storageInvariant s!"proof map key {key} does not match proof_id {stored.proofId}")
  let encoded ← decodeHex stored.proofTlvHex
  let proof ← (ProofFile.decode encoded).mapError .proof
  let tapdSummary ← stored.tapdSummary
  let context := tapdSummary.elim ProofValidationContext.default ProofValidationContext.forTapdImport
  let _ ← (proof.verifySemanticAncestry context).mapError .proof
  rejectIf (proofId proof ≠ key)
    (.storageInvariant s!"proof key {key} does not match encoded proof")
  rejectIf (proof.verificationScope.asStr ≠ stored.verificationScope)
    (.storageInvariant s!"proof {key} verification scope does not match encoded proof")
  match tapdSummary with
  | some summary =>
    let expectedDigest ← okOr stored.tapdRawProofFileDigest
      (.storageInvariant s!"proof {key} has tapd proof bytes without digest")
    rejectIf (summary.rawDigest ≠ expectedDigest)
      (.storageInvariant s!"proof {key} tapd proof digest does not match stored bytes")
  | none =>
    rejectIf stored.tapdRawProofFileDigest.isSome
      (.storageInvariant s!"proof {key} has tapd proof digest without bytes")
  pure proof

namespace WalletState

def validateUtxo (w : WalletState) (decodedProofs : BTreeMap String ProofFile) (key : String)
    (utxo : SpendableAssetUtxo) : Except WalletError Unit := do
  rejectIf (key ≠ utxo.utxoId)
    (.storageInvariant s!"utxo map key {key} does not match utxo_id {utxo.utxoId}")
  let proof ← okOr decodedProofs[utxo.proofId]? (.unknownProof utxo.proofId)
  let assetId ← (bytes32FromStr utxo.assetId).mapError .asset
  let scriptKey ← (compressedKeyFromStr utxo.scriptKey).mapError .asset
  rejectIf (assetId ≠ proof.assetId ∨ utxo.genesisOutpoint ≠ proof.genesisOutpoint ∨
    utxo.anchorOutpoint ≠ proof.anchorOutpoint ∨ scriptKey ≠ proof.scriptKey ∨
    utxo.amount ≠ proof.amount ∨ utxo.proofHistoryOutputId ≠ utxo.proofId)
    (.storageInvariant s!"utxo {key} does not match verified proof {utxo.proofId}")
  let stored ← okOr w.proofs[utxo.proofId]? (.unknownProof utxo.proofId)
  rejectIf (utxo.status ≠ UtxoStatus.fromAnchorState utxo.anchorState)
    (.storageInvariant
      s!"utxo {key} status does not match anchor state {utxo.anchorState.asStr}")
  let explanation ← validateStoredProofHistory stored proof
  rejectIf (explanation.outputId ≠ utxo.proofHistoryOutputId)
    (.unexplainedProofHistory utxo.proofId)
  if utxo.status = .spendable then
    let _ ← validateStoredProofHistoryWithAnchorPolicy stored proof (anchorPolicyForUtxo utxo)

def decodedProofs (w : WalletState) : Except WalletError (BTreeMap String ProofFile) :=
  collect validateStoredProof w.proofs

def validate (w : WalletState) : Except WalletError Unit := do
  rejectIf (w.version ≠ walletSchemaVersion) (.unsupportedVersion w.version)
  let decodedProofs ← w.decodedProofs
  w.spendableUtxos.toList.forM fun e => w.validateUtxo decodedProofs e.1 e.2

def acceptedWalletBalanceExplanation (w : WalletState) (proofId : String) :
    Except WalletError AcceptedBalanceExplanation := do
  let stored ← okOr w.proofs[proofId]? (.unknownProof proofId)
  let utxo ← okOr w.spendableUtxos[proofId]? (.obsoleteProofExport proofId)
  rejectIf (utxo.status ≠ .spendable ∨ utxo.proofHistoryOutputId ≠ proofId)
    (.unexplainedProofHistory proofId)
  let encoded ← decodeHex stored.proofTlvHex
  let proof ← (ProofFile.decode encoded).mapError .proof
  let explanation ←
    validateStoredProofHistoryWithAnchorPolicy stored proof (anchorPolicyForUtxo utxo)
  rejectIf (explanation.outputId ≠ utxo.proofHistoryOutputId) (.unexplainedProofHistory proofId)
  pure explanation

/-- The UTXOs that a balance adds up. -/
def counted (w : WalletState) : List SpendableAssetUtxo :=
  (w.spendableUtxos.toList.map (·.2)).filter fun utxo => utxo.status = .spendable

def addBalance (w : WalletState) (totals : BTreeMap String AssetAmount)
    (utxo : SpendableAssetUtxo) : Except WalletError (BTreeMap String AssetAmount) := do
  let explanation ← w.acceptedWalletBalanceExplanation utxo.proofId
  let current := (totals[toHex explanation.assetId]?).getD 0
  let next ← (addAmount current explanation.amount).mapError .asset
  pure (totals.insert (toHex explanation.assetId) next)

def balances (w : WalletState) : Except WalletError (List AssetBalance) := do
  let totals ← w.counted.foldlM w.addBalance ∅
  pure (totals.toList.map fun e => ⟨e.1, e.2⟩)

def exportEncodedProof (w : WalletState) (proofId : String) : Except WalletError Bytes := do
  let _ ← w.acceptedWalletBalanceExplanation proofId
  let stored ← okOr w.proofs[proofId]? (.unknownProof proofId)
  decodeHex stored.proofTlvHex

def exportTapdProofFile (w : WalletState) (proofId : String) : Except WalletError Bytes := do
  let _ ← w.acceptedWalletBalanceExplanation proofId
  let stored ← okOr w.proofs[proofId]? (.unknownProof proofId)
  let tapdHex ← okOr stored.tapdRawProofFileHex (.noTapdProofFile proofId)
  decodeHex tapdHex

def exportProofCourierBundle (w : WalletState) (proofId : String) :
    Except WalletError ProofCourierBundle := do
  w.validate
  let encoded ← w.exportEncodedProof proofId
  let proof ← (ProofFile.decode encoded).mapError .proof
  let stored ← okOr w.proofs[proofId]? (.unknownProof proofId)
  let utxo ← okOr w.spendableUtxos[proofId]? (.obsoleteProofExport proofId)
  pure
    { version := proofCourierBundleSchemaVersion
      transport := proofCourierTransport
      proofId
      assetId := toHex proof.assetId
      amount := proof.amount
      scriptKey := toHex proof.scriptKey
      genesisOutpoint := proof.genesisOutpoint
      anchorOutpoint := proof.anchorOutpoint
      anchorState := utxo.anchorState
      proofHistoryRecordId := stored.proofHistoryRecordId
      proofHistoryOutputId := stored.proofHistoryOutputId
      proofHistoryTransitionId := stored.proofHistoryTransitionId
      proofTlvHex := proofHexFor encoded
      proofTlvDigest := proofDigestFor encoded
      tapdRawProofFileHex := stored.tapdRawProofFileHex
      tapdRawProofFileDigest := stored.tapdRawProofFileDigest }

def decodeProof (w : WalletState) (proofId : String) : Except WalletError ProofFile := do
  let encoded ← w.exportEncodedProof proofId
  (ProofFile.decode encoded).mapError .proof

end WalletState

/-- The values an import computes before it looks at the wallet. -/
structure PreparedImport where
  proofId : String
  proofHex : String
  proofHistory : WalletProofHistory
  tapdRawProofFileHex : Option String
  tapdRawProofFileDigest : Option Bytes32
deriving DecidableEq

def prepareImport (proof : ProofFile) (tapdProofFile : Option Bytes)
    (tapdProofSummary : Option TapdProofFileSummary) : Except WalletError PreparedImport := do
  let context :=
    tapdProofSummary.elim ProofValidationContext.default ProofValidationContext.forTapdImport
  let _ ← (proof.verifySemanticAncestry context).mapError .proof
  let encoded ← proof.encode.mapError .proof
  let proofHistory ← acceptedWalletProofHistory (proofId proof) proof
  pure ⟨proofId proof, encodeHex encoded, proofHistory, tapdProofFile.map encodeHex,
    tapdProofFile.map sha256⟩

def PreparedImport.storedProof (prepared : PreparedImport) (proof : ProofFile) : StoredProof :=
  { proofId := prepared.proofId
    proofTlvHex := prepared.proofHex
    verificationScope := proof.verificationScope.asStr
    proofHistoryRecordId := prepared.proofHistory.recordId
    proofHistoryOutputId := prepared.proofHistory.outputId
    proofHistoryTransitionId := toHex prepared.proofHistory.transitionId
    tapdRawProofFileHex := prepared.tapdRawProofFileHex
    tapdRawProofFileDigest := prepared.tapdRawProofFileDigest }

def PreparedImport.utxo (prepared : PreparedImport) (proof : ProofFile)
    (anchorState : ProofAnchorState) : SpendableAssetUtxo :=
  { utxoId := prepared.proofId
    proofId := prepared.proofId
    assetId := toHex proof.assetId
    genesisOutpoint := proof.genesisOutpoint
    anchorOutpoint := proof.anchorOutpoint
    anchorState
    scriptKey := toHex proof.scriptKey
    amount := proof.amount
    proofHistoryOutputId := prepared.proofHistory.outputId
    status := .fromAnchorState anchorState }

structure TapdProofImportRequest where
  assetId : Bytes32
  genesisOutpoint : String
  anchorOutpoint : String
  amount : AssetAmount
  scriptKey : CompressedKey
  tapdProofFile : Bytes
deriving DecidableEq

def TapdProofImportRequest.buildSemanticProof (request : TapdProofImportRequest)
    (proofSummary : TapdProofFileSummary) : Except WalletError ProofFile := do
  let leaf ← okOr proofSummary.latestAssetLeaf
    (.proof (.brokenAncestry "tapd proof missing asset leaf"))
  let assetType ← (AssetType.fromU8 leaf.assetType).mapError .asset
  let tapAssetRoot ←
    (deriveHashSumRoot [⟨request.assetId, request.scriptKey, request.amount⟩]).mapError .asset
  pure
    { version := 0
      assetId := request.assetId
      genesisOutpoint := request.genesisOutpoint
      anchorOutpoint := request.anchorOutpoint
      amount := request.amount
      scriptKey := request.scriptKey
      tapAssetRoot
      verificationScope := .semanticAncestry
      network := .regtest
      assetType }

namespace WalletState

/-- A second ancestry file for a stored proof has to be the first one. -/
def rejectOtherTapdFile (proofId : String) (existing new : Option String) :
    Except WalletError Unit :=
  match existing, new with
  | some existingTapd, some newTapd => rejectIf (existingTapd ≠ newTapd) (.conflictingProof proofId)
  | _, _ => pure ()

/-- The import of a proof whose id the wallet already stores. -/
def importExisting (w : WalletState) (existing : StoredProof) (prepared : PreparedImport) :
    Except WalletError (ImportOutcome × WalletState) := do
  let proofId := prepared.proofId
  rejectIf (existing.proofTlvHex ≠ prepared.proofHex) (.conflictingProof proofId)
  rejectIf (¬ existing.matchesProofHistory prepared.proofHistory) (.unexplainedProofHistory proofId)
  rejectOtherTapdFile proofId existing.tapdRawProofFileHex prepared.tapdRawProofFileHex
  if prepared.tapdRawProofFileHex.isNone ∨ existing.tapdRawProofFileHex.isSome then
    pure (.alreadyPresent proofId, w)
  else
    let stored :=
      { existing with
        tapdRawProofFileHex := prepared.tapdRawProofFileHex
        tapdRawProofFileDigest := prepared.tapdRawProofFileDigest }
    let next := { w with proofs := w.proofs.insert proofId stored }
    next.validate
    pure (.imported proofId, next)

/-- The wallet with one more proof and its UTXO. -/
def insertProof (w : WalletState) (stored : StoredProof) (utxo : SpendableAssetUtxo) : WalletState :=
  { w with
    proofs := w.proofs.insert stored.proofId stored
    spendableUtxos := w.spendableUtxos.insert utxo.utxoId utxo }

/-- A new proof is written before the wallet is validated, and stays when that fails. -/
def importVerifiedProofWithTapd (w : WalletState) (proof : ProofFile) (tapdProofFile : Option Bytes)
    (tapdProofSummary : Option TapdProofFileSummary) (anchorState : ProofAnchorState) :
    WalletResult ImportOutcome :=
  match prepareImport proof tapdProofFile tapdProofSummary with
  | .error e => (.error e, w)
  | .ok prepared =>
    match w.proofs[prepared.proofId]? with
    | some existing => replaceOnOk w (w.importExisting existing prepared)
    | none =>
      let next := w.insertProof (prepared.storedProof proof) (prepared.utxo proof anchorState)
      (next.validate.map fun _ => .imported prepared.proofId, next)

def importVerifiedProofWithAnchorState (w : WalletState) (proof : ProofFile)
    (anchorState : ProofAnchorState) : WalletResult ImportOutcome :=
  w.importVerifiedProofWithTapd proof none none anchorState

def importVerifiedProof (w : WalletState) (proof : ProofFile) : WalletResult ImportOutcome :=
  w.importVerifiedProofWithAnchorState proof .confirmed

def importEncodedProof (w : WalletState) (bytes : Bytes) : WalletResult ImportOutcome :=
  match (ProofFile.decode bytes).mapError .proof with
  | .error e => (.error e, w)
  | .ok proof => w.importVerifiedProof proof

/-- The ancestry file of a request and the proof built from the two. -/
def buildTapdImport (request : TapdProofImportRequest) :
    Except WalletError (TapdProofFileSummary × ProofFile) := do
  let proofSummary ← (decodeTapdProofFile request.tapdProofFile).mapError .tapdProof
  let proof ← request.buildSemanticProof proofSummary
  pure (proofSummary, proof)

def importTapdProofFileWithAnchorState (w : WalletState) (request : TapdProofImportRequest)
    (anchorState : ProofAnchorState) : WalletResult ImportOutcome :=
  match buildTapdImport request with
  | .error e => (.error e, w)
  | .ok (proofSummary, proof) =>
    w.importVerifiedProofWithTapd proof (some request.tapdProofFile) (some proofSummary) anchorState

def importTapdProofFile (w : WalletState) (request : TapdProofImportRequest) :
    WalletResult ImportOutcome :=
  w.importTapdProofFileWithAnchorState request .confirmed

def requireImportedBundleState (w : WalletState) (bundle : ProofCourierBundle) :
    Except WalletError Unit := do
  let stored ← okOr w.proofs[bundle.proofId]? (.unknownProof bundle.proofId)
  let utxo ← okOr w.spendableUtxos[bundle.proofId]? (.obsoleteProofExport bundle.proofId)
  rejectIf (stored.proofHistoryRecordId ≠ bundle.proofHistoryRecordId ∨
    stored.proofHistoryOutputId ≠ bundle.proofHistoryOutputId ∨
    stored.proofHistoryTransitionId ≠ bundle.proofHistoryTransitionId ∨
    utxo.proofHistoryOutputId ≠ bundle.proofHistoryOutputId ∨
    utxo.anchorState ≠ bundle.anchorState) (.unexplainedProofHistory bundle.proofId)

/-- What a bundle asks the wallet to import: a proof, or a request with an ancestry file. -/
def openBundle (bundle : ProofCourierBundle) :
    Except WalletError (ProofFile ⊕ TapdProofImportRequest) := do
  let validation ← bundle.validate.mapError .proofCourier
  let proof := validation.proof
  let expectedHistory ← walletProofHistoryMetadata bundle.proofId proof
  rejectIf (bundle.proofHistoryRecordId ≠ expectedHistory.recordId ∨
    bundle.proofHistoryOutputId ≠ expectedHistory.outputId ∨
    bundle.proofHistoryTransitionId ≠ toHex expectedHistory.transitionId)
    (.unexplainedProofHistory bundle.proofId)
  match bundle.tapdRawProofFileHex with
  | some tapdHex =>
    let tapdProofFile ← decodeHex tapdHex
    pure (.inr ⟨proof.assetId, proof.genesisOutpoint, proof.anchorOutpoint, proof.amount,
      proof.scriptKey, tapdProofFile⟩)
  | none => pure (.inl proof)

def importProofCourierBundle (w : WalletState) (bundle : ProofCourierBundle) :
    WalletResult ImportOutcome :=
  match openBundle bundle with
  | .error e => (.error e, w)
  | .ok content =>
    let (outcome, next) :=
      match content with
      | .inl proof => w.importVerifiedProofWithAnchorState proof bundle.anchorState
      | .inr request => w.importTapdProofFileWithAnchorState request bundle.anchorState
    (outcome >>= fun outcome => next.requireImportedBundleState bundle >>= fun _ => .ok outcome,
      next)

end WalletState

structure RegtestIssueRequest where
  ticker : String
  amount : AssetAmount
  scriptKey : CompressedKey
deriving DecidableEq

structure RegtestIssueOutcome where
  status : String
  ticker : String
  assetId : String
  amount : UInt64
  proofId : String
deriving DecidableEq

/-- `str::trim` and then `to_ascii_uppercase`. -/
def normalizeTicker (ticker : String) : String :=
  String.ofList
    (((ticker.toList.dropWhile isWhitespace).rdropWhile isWhitespace).map Char.toUpper)

namespace RegtestIssueRequest

def genesis (normalizedTicker : String) : Genesis :=
  let hash := taggedHash (utf8 "tap-ldk:regtest:first-prev-out:v1") (utf8 normalizedTicker)
  { firstPrevOut := s!"{toHex hash}:0"
    tag := taggedHash (utf8 "tap-ldk:regtest:asset-tag:v1") (utf8 normalizedTicker)
    metaHash := taggedHash (utf8 "tap-ldk:regtest:asset-meta:v1")
      (utf8 s!"{normalizedTicker}:mock-stablecoin")
    outputIndex := 0
    assetType := .normal }

def buildProof (request : RegtestIssueRequest) : Except WalletError ProofFile := do
  rejectIf (request.amount = 0) .zeroIssuanceAmount
  let normalizedTicker := normalizeTicker request.ticker
  rejectIf (normalizedTicker = "") .invalidTicker
  let genesis := genesis normalizedTicker
  let assetId := genesis.assetId
  let tapAssetRoot ←
    (deriveHashSumRoot [⟨assetId, request.scriptKey, request.amount⟩]).mapError .asset
  let anchorHash := taggedHash (utf8 "tap-ldk:regtest:issuance-anchor:v1")
    (utf8 s!"{toHex assetId}:{toHex request.scriptKey}:{request.amount}")
  pure
    { version := 0
      assetId
      genesisOutpoint := genesis.firstPrevOut
      anchorOutpoint := s!"{toHex anchorHash}:0"
      amount := request.amount
      scriptKey := request.scriptKey
      tapAssetRoot
      verificationScope := .semanticAncestry
      network := .regtest
      assetType := .normal }

end RegtestIssueRequest

def WalletState.issueRegtestAsset (w : WalletState) (request : RegtestIssueRequest) :
    WalletResult RegtestIssueOutcome :=
  match request.buildProof with
  | .error e => (.error e, w)
  | .ok proof =>
    let (outcome, next) := w.importVerifiedProof proof
    (outcome.map fun outcome =>
      ⟨outcome.status, request.ticker, toHex proof.assetId, request.amount, outcome.proofId⟩, next)

def SpendableAssetUtxo.withAnchorState (utxo : SpendableAssetUtxo) (anchorOutpoint : String)
    (anchorState : ProofAnchorState) : SpendableAssetUtxo :=
  if utxo.anchorOutpoint = anchorOutpoint then
    { utxo with anchorState, status := .fromAnchorState anchorState }
  else utxo

def WalletState.updateAnchorState (w : WalletState) (anchorOutpoint : String)
    (anchorState : ProofAnchorState) : Except WalletError (Unit × WalletState) := do
  let next := { w with
    spendableUtxos := w.spendableUtxos.map fun _ utxo =>
      utxo.withAnchorState anchorOutpoint anchorState }
  rejectIf (¬ w.spendableUtxos.toList.any fun e => e.2.anchorOutpoint = anchorOutpoint)
    (.unknownAnchorOutpoint anchorOutpoint)
  next.validate
  pure ((), next)

structure LocalTransferRequest where
  assetId : Bytes32
  amount : AssetAmount
  receiverScriptKey : CompressedKey
deriving DecidableEq

structure LocalTransferOutcome where
  assetId : String
  sentAmount : UInt64
  spentProofId : String
  receiverProofId : String
  receiverProofTlv : Bytes
  changeProofId : Option String
  changeAmount : UInt64
deriving DecidableEq

def transferOutputProof (inputProof : ProofFile) (amount : AssetAmount) (scriptKey : CompressedKey)
    (outputIndex : UInt32) : Except WalletError ProofFile := do
  let tapAssetRoot ← (deriveHashSumRoot [⟨inputProof.assetId, scriptKey, amount⟩]).mapError .asset
  let anchorHash := taggedHash (utf8 "tap-ldk:regtest:transfer-anchor:v1")
    (utf8 s!"{inputProof.anchorOutpoint}:{toHex scriptKey}:{amount}:{outputIndex}")
  pure
    { version := 0
      assetId := inputProof.assetId
      genesisOutpoint := inputProof.genesisOutpoint
      anchorOutpoint := s!"{toHex anchorHash}:{outputIndex}"
      amount
      scriptKey
      tapAssetRoot
      verificationScope := .semanticAncestry
      network := inputProof.network
      assetType := inputProof.assetType }

namespace WalletState

/-- The first UTXO, in key order, that covers the request. -/
def selectInput (w : WalletState) (request : LocalTransferRequest) :
    Option (String × SpendableAssetUtxo) :=
  w.spendableUtxos.toList.find? fun e =>
    e.2.status = .spendable ∧ e.2.assetId = toHex request.assetId ∧ request.amount ≤ e.2.amount

/-- The wallet without an input. -/
def removeInput (w : WalletState) (inputId : String) : WalletState :=
  { w with
    proofs := w.proofs.erase inputId
    spendableUtxos := w.spendableUtxos.erase inputId }

/-- What is left of the input goes back to its owner as a proof of its own. -/
def payChange (w : WalletState) (inputProof : ProofFile) (changeAmount : AssetAmount)
    (changeScriptKey : CompressedKey) : Except WalletError (Option String × WalletState) :=
  if changeAmount = 0 then pure (none, w)
  else do
    let changeProof ← transferOutputProof inputProof changeAmount changeScriptKey 1
    let (outcome, next) := w.importVerifiedProof changeProof
    let outcome ← outcome
    pure (some outcome.proofId, next)

def sendLocalTransfer (w : WalletState) (request : LocalTransferRequest) :
    Except WalletError (LocalTransferOutcome × WalletState) := do
  rejectIf (request.amount = 0) .zeroTransferAmount
  let (inputId, inputUtxo) ← okOr (w.selectInput request)
    (.insufficientAssetBalance (toHex request.assetId) request.amount)
  let inputProof ← w.decodeProof inputUtxo.proofId
  let _ ← (inputProof.verifySemanticAncestry .default).mapError .proof
  let inputAmount := inputUtxo.amount
  let changeAmount ← (subAmount inputAmount request.amount).mapError .asset
  let changeScriptKey ← (compressedKeyFromStr inputUtxo.scriptKey).mapError .asset
  let splitOutputs : List AssetLeaf :=
    ⟨request.assetId, request.receiverScriptKey, request.amount⟩ ::
      if changeAmount ≠ 0 then [⟨request.assetId, changeScriptKey, changeAmount⟩] else []
  let _ ← (validateSplitConservation inputAmount splitOutputs).mapError .asset
  let receiverProof ← transferOutputProof inputProof request.amount request.receiverScriptKey 0
  let receiverProofTlv ← receiverProof.encode.mapError .proof
  let next := w.removeInput inputId
  let (changeProofId, next) ← next.payChange inputProof changeAmount changeScriptKey
  next.validate
  pure
    ({ assetId := toHex request.assetId
       sentAmount := request.amount
       spentProofId := inputId
       receiverProofId := proofId receiverProof
       receiverProofTlv
       changeProofId
       changeAmount }, next)

end WalletState

end TapLdk.Wallet
