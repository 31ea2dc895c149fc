import Mathlib
import TapLdk.ProofHistory

/-! Courier bundles: a proof file in transit with a manifest that repeats its fields, and
the checks that compare the two. -/
namespace TapLdk.ProofCourier
open TapLdk.LibraryExcept TapLdk.LibraryBytes TapLdk.LibrarySha256 TapLdk.Mssmt TapLdk.Asset
open TapLdk.TapdProof TapLdk.Proof TapLdk.ProofHistory

def proofCourierBundleSchemaVersion : UInt32 := 1

def proofCourierTransport : String := "tap-ldk-local-proof-courier-v1"

structure ProofCourierBundle where
  version : UInt32
  transport : String
  proofId : String
  assetId : String
  amount : UInt64
  scriptKey : String
  genesisOutpoint : String
  anchorOutpoint : String
  anchorState : ProofAnchorState
  proofHistoryRecordId : String
  proofHistoryOutputId : String
  proofHistoryTransitionId : String
  proofTlvHex : String
  proofTlvDigest : Bytes32
  tapdRawProofFileHex : Option String
  tapdRawProofFileDigest : Option Bytes32
deriving DecidableEq

structure ProofCourierValidation where
  proof : ProofFile
  proofDigest : Bytes32
  tapdProofFileDigest : Option Bytes32
deriving DecidableEq

inductive ProofCourierError where
  | unsupportedVersion (version : UInt32)
  | unsupportedTransport (transport : String)
  | missingField (field : String)
  | missingDigest (field : String)
  | missingBytes (field : String)
  | fieldMismatch (field : String)
  | digestMismatch (field : String)
  | proofHex (error : TapdProofError)
  | proof (error : ProofError)
  | tapdProof (error : TapdProofError)
deriving DecidableEq

def proofIdFor (proof : ProofFile) : String := s!"{toHex proof.assetId}:{proof.anchorOutpoint}"

def proofDigestFor (bytes : Bytes) : Bytes32 := sha256 bytes

def proofHexFor (bytes : Bytes) : String := encodeHex bytes

def requireNonempty (field value : String) : Except ProofCourierError Unit :=
  rejectIf (value = "") (.missingField field)

/-- A manifest field has to repeat the field of the proof. -/
def requireField {α : Type} [DecidableEq α] (field : String) (manifest actual : α) :
    Except ProofCourierError Unit :=
  rejectIf (manifest ≠ actual) (.fieldMismatch field)

namespace ProofCourierBundle

/-- The ancestry file in the bundle, read and compared with its digest. -/
def tapdSummary (bundle : ProofCourierBundle) :
    Except ProofCourierError (Option TapdProofFileSummary) :=
  match bundle.tapdRawProofFileHex, bundle.tapdRawProofFileDigest with
  | some hex, some expectedDigest => do
    let tapdBytes ← (decodeHexText hex).mapError .proofHex
    rejectIf (sha256 tapdBytes ≠ expectedDigest) (.digestMismatch "tapd_raw_proof_file_digest")
    let summary ← (decodeTapdProofFile tapdBytes).mapError .tapdProof
    rejectIf (summary.rawDigest ≠ expectedDigest) (.digestMismatch "tapd_raw_proof_file_digest")
    pure (some summary)
  | none, none => pure none
  | some _, none => .error (.missingDigest "tapd_raw_proof_file_digest")
  | none, some _ => .error (.missingBytes "tapd_raw_proof_file_hex")

def validate (bundle : ProofCourierBundle) : Except ProofCourierError ProofCourierValidation := do
  rejectIf (bundle.version ≠ proofCourierBundleSchemaVersion) (.unsupportedVersion bundle.version)
  rejectIf (bundle.transport ≠ proofCourierTransport) (.unsupportedTransport bundle.transport)
  requireNonempty "proof_id" bundle.proofId
  requireNonempty "asset_id" bundle.assetId
  requireNonempty "script_key" bundle.scriptKey
  requireNonempty "genesis_outpoint" bundle.genesisOutpoint
  requireNonempty "anchor_outpoint" bundle.anchorOutpoint
  requireNonempty "proof_history_record_id" bundle.proofHistoryRecordId
  requireNonempty "proof_history_output_id" bundle.proofHistoryOutputId
  requireNonempty "proof_history_transition_id" bundle.proofHistoryTransitionId
  let proofBytes ← (decodeHexText bundle.proofTlvHex).mapError .proofHex
  let proofDigest := sha256 proofBytes
  rejectIf (proofDigest ≠ bundle.proofTlvDigest) (.digestMismatch "proof_tlv_digest")
  let proof ← (ProofFile.decode proofBytes).mapError .proof
  requireField "proof_id" bundle.proofId (proofIdFor proof)
  requireField "asset_id" bundle.assetId (toHex proof.assetId)
  requireField "amount" bundle.amount proof.amount
  requireField "script_key" bundle.scriptKey (toHex proof.scriptKey)
  requireField "genesis_outpoint" bundle.genesisOutpoint proof.genesisOutpoint
  requireField "anchor_outpoint" bundle.anchorOutpoint proof.anchorOutpoint
  let tapdSummary ← bundle.tapdSummary
  let context := tapdSummary.elim .default .forTapdImport
  let _ ← (proof.verifySemanticAncestry context).mapError .proof
  pure ⟨proof, proofDigest, tapdSummary.map (·.rawDigest)⟩

end ProofCourierBundle

@[simp] theorem requireField_eq_ok {α : Type} [DecidableEq α] {field : String}
    {manifest actual : α} {u : Unit} :
    requireField field manifest actual = .ok u ↔ manifest = actual := by
  simp [requireField]

/-- An accepted bundle names its proof, and the proof passes the checks. -/
theorem validate_spec {bundle : ProofCourierBundle} {validation : ProofCourierValidation}
    (h : bundle.validate = .ok validation) :
    bundle.proofId = proofIdFor validation.proof ∧ Verified validation.proof := by
  simp only [ProofCourierBundle.validate, bind_eq_ok, mapError_eq_ok, requireField_eq_ok,
    pure_eq_ok, Except.ok.injEq] at h
  obtain ⟨_, -, _, -, _, -, _, -, _, -, _, -, _, -, _, -, _, -, _, -, _, -, _, -, proof, -, _, hid,
    _, -, _, -, _, -, _, -, _, -, summary, -, _, hverify, rfl⟩ := h
  refine ⟨hid, verified_of_verify ?_ hverify⟩
  cases summary <;> rfl

end TapLdk.ProofCourier
