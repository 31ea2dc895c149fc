import Mathlib
import TapLdk.TapdProof

/-! Proof files of a single asset leaf: the TLV codec, the semantic checks against a
validation context, and the outpoint parser. -/
namespace TapLdk.Proof
open TapLdk.LibraryExcept TapLdk.LibraryMaps TapLdk.LibraryBytes TapLdk.Mssmt TapLdk.Asset
open TapLdk.Tlv TapLdk.TapdProof

inductive VerificationScope where
  | boundedAnchorOnly
  | semanticAncestry
deriving DecidableEq

def VerificationScope.asStr : VerificationScope → String
  | .boundedAnchorOnly => "bounded-anchor-only"
  | .semanticAncestry => "semantic-ancestry"

inductive ProofNetwork where
  | regtest
deriving DecidableEq

def ProofNetwork.asStr : ProofNetwork → String
  | .regtest => "regtest"

inductive ProofError where
  | tlv (error : TlvError)
  | asset (error : AssetError)
  | missingField (field : UInt64)
  | invalidFieldLength (field : String) (expected actual : ℕ)
  | invalidUtf8 (field : String)
  | unsupportedVersion (version : UInt8)
  | unsupportedScope (scope : String)
  | unsupportedNetwork (network : String)
  | zeroAssetId
  | zeroAmount
  | rootSumMismatch (amount rootSum : UInt64)
  | malformedOutpoint (field : String)
  | wrongNetwork (expected actual : ProofNetwork)
  | wrongAssetType (expected actual : AssetType)
  | wrongAsset (expected actual : Bytes32)
  | wrongOwner (expected actual : CompressedKey)
  | wrongAmount (expected actual : UInt64)
  | commitmentRootMismatch (expectedHash actualHash : Bytes32) (expectedSum actualSum : UInt64)
  | brokenAncestry (reason : String)
  | staleProof (anchorOutpoint : String)
  | missingTapdProofSummary
  | staleTapdProof (expected actual : Bytes32)
deriving DecidableEq

def VerificationScope.fromStr (value : String) : Except ProofError VerificationScope :=
  if value = "bounded-anchor-only" then .ok .boundedAnchorOnly
  else if value = "semantic-ancestry" then .ok .semanticAncestry
  else .error (.unsupportedScope value)

def ProofNetwork.fromStr (value : String) : Except ProofError ProofNetwork :=
  if value = "regtest" then .ok .regtest else .error (.unsupportedNetwork value)

structure ProofFile where
  version : UInt8
  assetId : Bytes32
  genesisOutpoint : String
  anchorOutpoint : String
  amount : AssetAmount
  scriptKey : CompressedKey
  tapAssetRoot : RootHashSum
  verificationScope : VerificationScope
  network : ProofNetwork
  assetType : AssetType
deriving DecidableEq

/-- The asset leaf a proof commits to. -/
def ProofFile.leaf (proof : ProofFile) : AssetLeaf := ⟨proof.assetId, proof.scriptKey, proof.amount⟩

def typeVersion : UInt64 := 1
def typeAssetId : UInt64 := 3
def typeGenesisOutpoint : UInt64 := 5
def typeAnchorOutpoint : UInt64 := 7
def typeAmount : UInt64 := 9
def typeScriptKey : UInt64 := 11
def typeRootHash : UInt64 := 13
def typeRootSum : UInt64 := 15
def typeVerificationScope : UInt64 := 17
def typeNetwork : UInt64 := 19
def typeAssetType : UInt64 := 21

def knownTypes : List UInt64 :=
  [typeVersion, typeAssetId, typeGenesisOutpoint, typeAnchorOutpoint, typeAmount, typeScriptKey,
    typeRootHash, typeRootSum, typeVerificationScope, typeNetwork, typeAssetType]

def ProofFile.records (proof : ProofFile) : List TlvRecord :=
  [⟨typeVersion, [proof.version]⟩,
    ⟨typeAssetId, proof.assetId.bytes⟩,
    ⟨typeGenesisOutpoint, utf8 proof.genesisOutpoint⟩,
    ⟨typeAnchorOutpoint, utf8 proof.anchorOutpoint⟩,
    ⟨typeAmount, u64Bytes proof.amount⟩,
    ⟨typeScriptKey, proof.scriptKey.bytes⟩,
    ⟨typeRootHash, proof.tapAssetRoot.hash.bytes⟩,
    ⟨typeRootSum, u64Bytes proof.tapAssetRoot.sum⟩,
    ⟨typeVerificationScope, utf8 proof.verificationScope.asStr⟩,
    ⟨typeNetwork, utf8 proof.network.asStr⟩,
    ⟨typeAssetType, [proof.assetType.asU8]⟩]

def ProofFile.encode (proof : ProofFile) : Except ProofError Bytes :=
  (encodeStream proof.records).mapError .tlv

def required (fields : BTreeMap UInt64 Bytes) (field : UInt64) : Except ProofError Bytes :=
  okOr fields[field]? (.missingField field)

def parseU8 (field : String) (bytes : Bytes) : Except ProofError UInt8 := do
  rejectIf (bytes.length ≠ 1) (.invalidFieldLength field 1 bytes.length)
  pure (bytes.headD 0)

def parseU64 (field : String) (bytes : Bytes) : Except ProofError UInt64 := do
  rejectIf (bytes.length ≠ 8) (.invalidFieldLength field 8 bytes.length)
  pure (UInt64.ofNat (beValue bytes))

def parseAssetType (bytes : Bytes) : Except ProofError AssetType := do
  let value ← parseU8 "asset_type" bytes
  (AssetType.fromU8 value).mapError .asset

def parseString (bytes : Bytes) : Except ProofError String :=
  okOr (fromUtf8 bytes) (.invalidUtf8 "string")

def parseBytes32 (bytes : Bytes) : Except ProofError Bytes32 :=
  okOr (FixedBytes.ofBytes 32 bytes) (.invalidFieldLength "bytes32" 32 bytes.length)

def parseCompressedKey (bytes : Bytes) : Except ProofError CompressedKey :=
  (compressedKeyFromStr (encodeHex bytes)).mapError .asset

def ProofFile.decode (bytes : Bytes) : Except ProofError ProofFile := do
  let records ← (decodeStream bytes).mapError .tlv
  (rejectUnknownRequired records knownTypes).mapError .tlv
  let fields : BTreeMap UInt64 Bytes :=
    records.foldl (fun fields record => fields.insert record.typeId record.value) ∅
  let version ← parseU8 "version" (← required fields typeVersion)
  let assetId ← parseBytes32 (← required fields typeAssetId)
  let genesisOutpoint ← parseString (← required fields typeGenesisOutpoint)
  let anchorOutpoint ← parseString (← required fields typeAnchorOutpoint)
  let amount ← parseU64 "amount" (← required fields typeAmount)
  let scriptKey ← parseCompressedKey (← required fields typeScriptKey)
  let rootHash ← parseBytes32 (← required fields typeRootHash)
  let rootSum ← parseU64 "root_sum" (← required fields typeRootSum)
  let verificationScope ←
    VerificationScope.fromStr (← parseString (← required fields typeVerificationScope))
  let network ← ProofNetwork.fromStr (← parseString (← required fields typeNetwork))
  let assetType ← parseAssetType (← required fields typeAssetType)
  pure ⟨version, assetId, genesisOutpoint, anchorOutpoint, amount, scriptKey, ⟨rootHash, rootSum⟩,
    verificationScope, network, assetType⟩

structure ParsedOutpoint where
  txid : String
  vout : UInt32
deriving DecidableEq

def isHexDigit (c : Char) : Bool := c.isDigit || ('a' ≤ c && c ≤ 'f') || ('A' ≤ c && c ≤ 'F')

/-- `str::parse::<u32>` on a text without a leading sign: decimal digits, leading zeros
included, below `2 ^ 32`. -/
def parseU32 (digits : List Char) : Option UInt32 :=
  if digits = [] ∨ ¬ digits.all Char.isDigit then none
  else
    let v := digits.foldl (fun acc c => 10 * acc + (c.toNat - 48)) 0
    if v < 2 ^ 32 then some (UInt32.ofNat v) else none

def parseOutpoint (value field : String) : Except ProofError ParsedOutpoint :=
  match value.toList.splitOn ':' with
  | [txid, vout] => do
    -- a byte that is no ASCII digit is rejected, so characters count as bytes here
    rejectIf (txid.length ≠ 64 ∨ ¬ txid.all isHexDigit ∨ txid.all (· == '0') ∨ vout = [] ∨
      vout.head? = some '+') (.malformedOutpoint field)
    let vout ← okOr (parseU32 vout) (.malformedOutpoint field)
    pure ⟨String.ofList (txid.map Char.toLower), vout⟩
  | _ => .error (.malformedOutpoint field)

structure ProofValidationContext where
  expectedNetwork : ProofNetwork := .regtest
  expectedAssetType : AssetType := .normal
  expectedAssetId : Option Bytes32 := none
  expectedAmount : Option AssetAmount := none
  expectedScriptKey : Option CompressedKey := none
  expectedGenesisOutpoint : Option String := none
  expectedAnchorOutpoint : Option String := none
  staleAnchorOutpoint : Option String := none
  requireTapdAncestry : Bool := false
  expectedTapdProofFileDigest : Option Bytes32 := none
  tapdProofSummary : Option TapdProofFileSummary := none

namespace ProofValidationContext

def default : ProofValidationContext := {}

def forAsset (assetId : Bytes32) : ProofValidationContext := { expectedAssetId := some assetId }

def forClose (assetId : Bytes32) (amount : AssetAmount) (scriptKey : CompressedKey)
    (genesisOutpoint anchorOutpoint : String) : ProofValidationContext :=
  { expectedAssetId := some assetId
    expectedAmount := some amount
    expectedScriptKey := some scriptKey
    expectedGenesisOutpoint := some genesisOutpoint
    expectedAnchorOutpoint := some anchorOutpoint }

def forTapdImport (summary : TapdProofFileSummary) : ProofValidationContext :=
  { requireTapdAncestry := true
    expectedTapdProofFileDigest := some summary.rawDigest
    tapdProofSummary := some summary }

end ProofValidationContext

structure ProofValidationReport where
  validationScope : VerificationScope
  network : ProofNetwork
  assetType : AssetType
  assetId : Bytes32
  amount : AssetAmount
  genesisOutpoint : String
  anchorOutpoint : String
  scriptKey : CompressedKey
  tapAssetRoot : RootHashSum
  tapdProofCount : Option ℕ
  tapdProofFileDigest : Option Bytes32
deriving DecidableEq

/-- A check of a field against an expectation that may be absent. -/
def rejectUnexpected {α : Type} [DecidableEq α] (expected : Option α) (actual : α)
    (error : α → ProofError) : Except ProofError Unit :=
  match expected with
  | some e => rejectIf (actual ≠ e) (error e)
  | none => pure ()

namespace ProofFile

/-- One proof of the ancestry carries every record the import relies on. -/
def validateTapdProof (proof : TapdProofSummary) : Except ProofError Unit := do
  rejectIf (proof.transitionVersion ≠ some 0 ∧ proof.transitionVersion ≠ some 1)
    (.brokenAncestry "unsupported tapd transition version")
  rejectIf (¬ (proof.hasPrevOut && proof.hasBlockHeader && proof.hasAnchorTx &&
      proof.hasTxMerkleProof && proof.hasAssetLeaf && proof.hasInclusionProof))
    (.brokenAncestry "tapd proof missing required ancestry records")

def validateTapdAncestry (proof : ProofFile) (summary : TapdProofFileSummary)
    (context : ProofValidationContext) : Except ProofError Unit := do
  rejectUnexpected context.expectedTapdProofFileDigest summary.rawDigest fun e =>
    .staleTapdProof e summary.rawDigest
  summary.proofs.forM validateTapdProof
  let leaf ← okOr summary.latestAssetLeaf (.brokenAncestry "tapd proof missing asset leaf")
  rejectIf (leaf.assetId ≠ proof.assetId) (.wrongAsset proof.assetId leaf.assetId)
  if leaf.assetType ≠ proof.assetType.asU8 then
    let actual ← (AssetType.fromU8 leaf.assetType).mapError fun _ =>
      .brokenAncestry "unsupported tapd asset type"
    .error (.wrongAssetType proof.assetType actual)
  rejectIf (leaf.amount ≠ proof.amount) (.wrongAmount proof.amount leaf.amount)
  rejectIf (leaf.scriptKey ≠ proof.scriptKey) (.wrongOwner proof.scriptKey leaf.scriptKey)
  rejectIf (leaf.genesis.firstPrevOut ≠ proof.genesisOutpoint)
    (.brokenAncestry "tapd genesis outpoint mismatch")

def verifySemanticAncestry (proof : ProofFile) (context : ProofValidationContext) :
    Except ProofError ProofValidationReport := do
  rejectIf (proof.version ≠ 0) (.unsupportedVersion proof.version)
  rejectIf (proof.verificationScope ≠ .semanticAncestry)
    (.unsupportedScope proof.verificationScope.asStr)
  rejectIf (proof.network ≠ context.expectedNetwork)
    (.wrongNetwork context.expectedNetwork proof.network)
  rejectIf (proof.assetType ≠ context.expectedAssetType)
    (.wrongAssetType context.expectedAssetType proof.assetType)
  rejectIf (proof.assetId = Bytes32.ZERO) .zeroAssetId
  rejectIf (proof.amount = 0) .zeroAmount
  rejectIf (proof.tapAssetRoot.sum ≠ proof.amount)
    (.rootSumMismatch proof.amount proof.tapAssetRoot.sum)
  rejectIf (proof.tapAssetRoot.hash = Bytes32.ZERO) (.brokenAncestry "zero tap asset root hash")
  let genesis ← parseOutpoint proof.genesisOutpoint "genesis_outpoint"
  let anchor ← parseOutpoint proof.anchorOutpoint "anchor_outpoint"
  rejectIf (genesis = anchor) (.brokenAncestry "genesis and anchor outpoints must differ")
  let derivedRoot ← (deriveHashSumRoot [proof.leaf]).mapError .asset
  rejectIf (proof.tapAssetRoot ≠ derivedRoot)
    (.commitmentRootMismatch derivedRoot.hash proof.tapAssetRoot.hash derivedRoot.sum
      proof.tapAssetRoot.sum)
  rejectUnexpected context.expectedAssetId proof.assetId fun e => .wrongAsset e proof.assetId
  rejectUnexpected context.expectedAmount proof.amount fun e => .wrongAmount e proof.amount
  rejectUnexpected context.expectedScriptKey proof.scriptKey fun e => .wrongOwner e proof.scriptKey
  rejectUnexpected context.expectedGenesisOutpoint proof.genesisOutpoint fun _ =>
    .brokenAncestry "genesis outpoint mismatch"
  rejectUnexpected context.expectedAnchorOutpoint proof.anchorOutpoint fun _ =>
    .brokenAncestry "anchor outpoint mismatch"
  rejectIf (context.staleAnchorOutpoint = some proof.anchorOutpoint)
    (.staleProof proof.anchorOutpoint)
  if context.requireTapdAncestry then
    let summary ← okOr context.tapdProofSummary .missingTapdProofSummary
    proof.validateTapdAncestry summary context
  pure
    { validationScope := proof.verificationScope
      network := proof.network
      assetType := proof.assetType
      assetId := proof.assetId
      amount := proof.amount
      genesisOutpoint := proof.genesisOutpoint
      anchorOutpoint := proof.anchorOutpoint
      scriptKey := proof.scriptKey
      tapAssetRoot := proof.tapAssetRoot
      tapdProofCount := context.tapdProofSummary.map (·.proofCount)
      tapdProofFileDigest := context.tapdProofSummary.map (·.rawDigest) }

end ProofFile

theorem encode_eq (proof : ProofFile) :
    proof.encode = .ok (proof.records.flatMap encodeRecord) := by
  have hsorted : ensureSortedUnique none proof.records = .ok () := rfl
  rw [ProofFile.encode, encodeStream, hsorted]
  rfl

/-- A field map holds the record of each type when no type occurs twice. -/
theorem fields_get {records : List TlvRecord} (h : (records.map (·.typeId)).Nodup)
    {record : TlvRecord} (hr : record ∈ records) :
    (records.foldl (fun fields r => fields.insert r.typeId r.value)
      (∅ : BTreeMap UInt64 Bytes))[record.typeId]? = some record.value := by
  induction records using List.reverseRecOn with
  | nil => cases hr
  | append_singleton records last ih =>
    rw [List.map_append, List.nodup_append] at h
    obtain ⟨hnodup, -, hdisj⟩ := h
    rw [List.foldl_append, List.foldl_cons, List.foldl_nil]
    rcases List.mem_append.mp hr with hmem | hmem
    · have hne : record.typeId ≠ last.typeId :=
        hdisj _ (List.mem_map_of_mem hmem) _ (by simp)
      rw [get_insert_ne hne]
      exact ih hnodup hmem
    · rw [List.mem_singleton] at hmem
      subst hmem
      exact get_insert_self _ _ _

theorem parseU64_u64Bytes (field : String) (v : UInt64) : parseU64 field (u64Bytes v) = .ok v := by
  simp [parseU64, rejectIf, beValue_u64Bytes]

/-- The texts of a proof fit the length fields of its encoding. -/
def TextsFit (proof : ProofFile) : Prop :=
  (utf8 proof.genesisOutpoint).length < 2 ^ 64 ∧ (utf8 proof.anchorOutpoint).length < 2 ^ 64

/-- An encoding is decoded, to the proof it encodes, exactly when the key has a point prefix. -/
theorem decode_encode_eq_ok {proof decoded : ProofFile} (hfit : TextsFit proof) {bytes : Bytes}
    (h : proof.encode = .ok bytes) :
    ProofFile.decode bytes = .ok decoded ↔ HasKeyPrefix proof.scriptKey ∧ decoded = proof := by
  have hstream : encodeStream proof.records = .ok bytes := mapError_eq_ok.mp h
  have hlen : ∀ r ∈ proof.records, r.value.length < 2 ^ 64 := by
    have hscope : (utf8 proof.verificationScope.asStr).length < 2 ^ 64 := by
      cases proof.verificationScope <;> decide +kernel
    have hnet : (utf8 proof.network.asStr).length < 2 ^ 64 := by
      cases proof.network
      decide +kernel
    simpa [ProofFile.records, FixedBytes.length_eq] using ⟨hfit.1, hfit.2, hscope, hnet⟩
  have hrecords := decodeStream_encodeStream hstream hlen
  have hknown : rejectUnknownRequired proof.records knownTypes = .ok () := by
    simp [rejectUnknownRequired, ProofFile.records, knownTypes]
  have hnodup : (proof.records.map (·.typeId)).Nodup := by
    simp only [ProofFile.records, List.map_cons, List.map_nil]
    decide
  have hget : ∀ r ∈ proof.records, required (proof.records.foldl
      (fun fields r => fields.insert r.typeId r.value) ∅) r.typeId = .ok r.value := by
    intro r hr
    rw [required, fields_get hnodup hr]
    rfl
  have hscope : VerificationScope.fromStr proof.verificationScope.asStr =
      .ok proof.verificationScope := by
    cases proof.verificationScope <;> rfl
  have hnet : ProofNetwork.fromStr proof.network.asStr = .ok proof.network := by
    cases proof.network
    rfl
  generalize hfields : proof.records.foldl (fun fields r => fields.insert r.typeId r.value)
    (∅ : BTreeMap UInt64 Bytes) = fields at hget
  simp only [ProofFile.records, List.forall_mem_cons, List.not_mem_nil, false_implies,
    implies_true, and_true] at hget
  obtain ⟨h1, h3, h5, h7, h9, h11, h13, h15, h17, h19, h21⟩ := hget
  simp only [ProofFile.decode, hrecords, Except.mapError, ok_bind, hknown, hfields, h1, h3, h5, h7,
    h9, h11, h13, h15, h17, h19, h21]
  simp [parseU8, parseU64_u64Bytes, parseString, parseBytes32, parseCompressedKey, parseAssetType,
    rejectIf, okOr, hscope, hnet]
  constructor
  · rintro ⟨key, hkey, rfl⟩
    obtain ⟨rfl, hpoint⟩ := compressedKeyFromStr_toHex.mp hkey
    exact ⟨hpoint, rfl⟩
  · rintro ⟨hkey, rfl⟩
    exact ⟨_, compressedKeyFromStr_toHex.mpr ⟨rfl, hkey⟩, rfl⟩

/-- Decoding undoes encoding for a proof whose key has a point prefix. -/
theorem decode_encode {proof : ProofFile} (hkey : HasKeyPrefix proof.scriptKey)
    (hfit : TextsFit proof) {bytes : Bytes} (h : proof.encode = .ok bytes) :
    ProofFile.decode bytes = .ok proof :=
  (decode_encode_eq_ok hfit h).mpr ⟨hkey, rfl⟩

/-- The parsed form of an outpoint text, whatever field it came from. -/
def outpointOf (value : String) : Option ParsedOutpoint := (parseOutpoint value "").toOption

theorem parseOutpoint_eq_ok {value field : String} {p : ParsedOutpoint} :
    parseOutpoint value field = .ok p ↔ outpointOf value = some p := by
  unfold outpointOf parseOutpoint
  split
  · simp only [rejectIf, okOr]
    split <;> split <;> simp_all [Except.toOption]
  · simp [Except.toOption]

/-- The proofs that pass the semantic checks without an ancestry file: what they commit to
is derived from their own fields. -/
structure Verified (proof : ProofFile) : Prop where
  version : proof.version = 0
  scope : proof.verificationScope = .semanticAncestry
  assetType : proof.assetType = .normal
  assetId : proof.assetId ≠ Bytes32.ZERO
  amount : proof.amount ≠ 0
  rootHash : proof.tapAssetRoot.hash ≠ Bytes32.ZERO
  root : proof.tapAssetRoot = singleRoot proof.leaf
  outpoints : ∃ genesis anchor, outpointOf proof.genesisOutpoint = some genesis ∧
    outpointOf proof.anchorOutpoint = some anchor ∧ genesis ≠ anchor

/-- Every successful check against the default expectations makes the proof verified. -/
theorem verified_of_verify {proof : ProofFile} {context : ProofValidationContext}
    {report : ProofValidationReport} (htype : context.expectedAssetType = .normal)
    (h : proof.verifySemanticAncestry context = .ok report) : Verified proof := by
  simp only [ProofFile.verifySemanticAncestry, bind_eq_ok, rejectIf_eq_ok, mapError_eq_ok,
    parseOutpoint_eq_ok, ne_eq, not_not, htype] at h
  obtain ⟨_, hversion, _, hscope, _, -, _, htype', _, hasset, _, hamount, _, hsum, _, hhash,
    genesis, hgenesis, anchor, hanchor, _, hne, derived, hderived, _, hroot, -⟩ := h
  rw [deriveHashSumRoot_single (by exact hamount), Except.ok.injEq] at hderived
  exact ⟨hversion, hscope, htype', hasset, hamount, hhash, hroot.trans hderived.symm,
    genesis, anchor, hgenesis, hanchor, hne⟩

theorem rejectUnexpected_eq_ok {α : Type} [DecidableEq α] {expected : Option α} {actual : α}
    {error : α → ProofError} {u : Unit} :
    rejectUnexpected expected actual error = .ok u ↔ ∀ e, expected = some e → actual = e := by
  cases expected <;> simp [rejectUnexpected]

/-- A verified proof passes every context whose expectations it meets. -/
theorem verify_of_expected {proof : ProofFile} {context : ProofValidationContext}
    (h : Verified proof) (htype : context.expectedAssetType = .normal)
    (hasset : ∀ e, context.expectedAssetId = some e → proof.assetId = e)
    (hamount : ∀ e, context.expectedAmount = some e → proof.amount = e)
    (hkey : ∀ e, context.expectedScriptKey = some e → proof.scriptKey = e)
    (hgenesis : ∀ e, context.expectedGenesisOutpoint = some e → proof.genesisOutpoint = e)
    (hanchor : ∀ e, context.expectedAnchorOutpoint = some e → proof.anchorOutpoint = e)
    (hstale : context.staleAnchorOutpoint = none) (htapd : context.requireTapdAncestry = false) :
    ∃ report, proof.verifySemanticAncestry context = .ok report := by
  obtain ⟨genesis, anchor, hg, ha, hne⟩ := h.outpoints
  have hsum : proof.tapAssetRoot.sum = proof.amount := by rw [h.root]; rfl
  have hleaf : proof.leaf.amount ≠ 0 := h.amount
  simp [ProofFile.verifySemanticAncestry, rejectIf, h.version, h.scope, h.assetType, htype,
    h.assetId, h.amount, h.rootHash, hsum, parseOutpoint_eq_ok.mpr hg, parseOutpoint_eq_ok.mpr ha,
    hne, deriveHashSumRoot_single hleaf, ← h.root, rejectUnexpected_eq_ok, hstale, htapd,
    Except.mapError]
  exact ⟨hasset, hamount, hkey, hgenesis, hanchor⟩

theorem verify_of_verified {proof : ProofFile} (h : Verified proof) :
    ∃ report, proof.verifySemanticAncestry .default = .ok report := by
  obtain ⟨genesis, anchor, hgenesis, hanchor, hne⟩ := h.outpoints
  have hsum : proof.tapAssetRoot.sum = proof.amount := by rw [h.root]; rfl
  have hamount : proof.leaf.amount ≠ 0 := h.amount
  simp [ProofFile.verifySemanticAncestry, rejectIf, h.version, h.scope, h.assetType, h.assetId,
    h.amount, h.rootHash, hsum, parseOutpoint_eq_ok.mpr hgenesis, parseOutpoint_eq_ok.mpr hanchor,
    hne, deriveHashSumRoot_single hamount, ← h.root, ProofValidationContext.default,
    rejectUnexpected, Except.mapError]

def regtestAsset : Bytes32 :=
  ⟨beBytes 32 0x7a3811630bb33503c6536c3a223d3caecb93fe55f4b3439528edf27b10d38e93, beBytes_length ..⟩

def regtestKey : CompressedKey :=
  ⟨beBytes 33 0x02a0afeb165f0ec36880b68e0baabd9ad9c62fd1a69aa998bc30e9a346202e078f,
    beBytes_length ..⟩

def regtestRoot : RootHashSum :=
  ⟨⟨beBytes 32 0x9ea821c401b02557fefd361b277db98dcfdd1dbbb1f137f173208b4a79542d13,
    beBytes_length ..⟩, 1000000⟩

def regtestGenesis : String := "9673b7a0ff70658b94b29c7719af53ba52fe624c330f1db166a221898f343a7d:0"

def regtestProof (anchorOutpoint : String) : ProofFile :=
  { version := 0
    assetId := regtestAsset
    genesisOutpoint := regtestGenesis
    anchorOutpoint
    amount := 1000000
    scriptKey := regtestKey
    tapAssetRoot := regtestRoot
    verificationScope := .semanticAncestry
    network := .regtest
    assetType := .normal }

def nodeOf (digest : ℕ) (sum : UInt64) : MssmtNode := ⟨LibrarySha256.digestOf digest, sum⟩

/-- The empty nodes at every 64th level above the leaves. -/
def empty192 : MssmtNode := nodeOf 0x0f96dae8381087eafad638190169621191231d3cb08bf1bf769a4106b9874746 0
def empty128 : MssmtNode := nodeOf 0xb1608e367f212970f098c0a39dc9e641a03949deae3d4f5258d475c0413ec2cb 0
def empty64 : MssmtNode := nodeOf 0xfa2b5540043c74c65649c61cc2af795963152fec6c72362c69b7ff466230b6fb 0
def empty0 : MssmtNode := nodeOf 0xb1e8e8f2dc3b266452988cfe169aa73be25405eeead02ab5dd6b3c6fd0ca8d67 0

/-- The root of one leaf, hashed a quarter of the levels at a time. -/
theorem singleRoot_of_climbs {leaf : AssetLeaf} {key : Bytes32} {node192 node128 node64 root : MssmtNode}
    (hkey : syntheticAssetLeafKey leaf 0 = key)
    (h192 : climbs key 192 64 ((mssmtLeafOf leaf).node, MssmtLeaf.empty.node) = (node192, empty192))
    (h128 : climbs key 128 64 (node192, empty192) = (node128, empty128))
    (h64 : climbs key 64 64 (node128, empty128) = (node64, empty64))
    (h0 : climbs key 0 64 (node64, empty64) = (root, empty0)) :
    singleRoot leaf = ⟨root.hash, leaf.amount⟩ := by
  subst hkey
  have hpath : pathRoot (syntheticAssetLeafKey leaf 0) maxTreeLevels (mssmtLeafOf leaf).node
      MssmtLeaf.empty.node = root :=
    calc pathRoot (syntheticAssetLeafKey leaf 0) maxTreeLevels (mssmtLeafOf leaf).node
          MssmtLeaf.empty.node
        = pathRoot (syntheticAssetLeafKey leaf 0) 192 node192 empty192 :=
          pathRoot_of_climbs rfl h192
      _ = pathRoot (syntheticAssetLeafKey leaf 0) 128 node128 empty128 := pathRoot_of_climbs rfl h128
      _ = pathRoot (syntheticAssetLeafKey leaf 0) 64 node64 empty64 := pathRoot_of_climbs rfl h64
      _ = pathRoot (syntheticAssetLeafKey leaf 0) 0 root empty0 := pathRoot_of_climbs rfl h0
      _ = root := pathRoot.eq_1 ..
  exact congrArg (fun node => RootHashSum.mk node.hash leaf.amount) hpath

def regtestLeaf : AssetLeaf := ⟨regtestAsset, regtestKey, 1000000⟩

def regtestLeafKey : Bytes32 := syntheticAssetLeafKey regtestLeaf 0

def regtest192 : MssmtNode :=
  nodeOf 0x61de70e5ba25917a1fbb1b7efb53e9c2fd05b9510eab8705bf3f6a6cf30c5997 1000000
def regtest128 : MssmtNode :=
  nodeOf 0xe3f07ef1a01ba545549a0a136ccdbee861bde10f414529d7b7732413219fb0ff 1000000
def regtest64 : MssmtNode :=
  nodeOf 0xeb6a5e1c3618b5a404db7304dc53e70c244fcfc151da97f4eab90eac61f2179e 1000000

theorem singleRoot_regtest : singleRoot ⟨regtestAsset, regtestKey, 1000000⟩ = regtestRoot := by
  have h192 : climbs regtestLeafKey 192 64 ((mssmtLeafOf regtestLeaf).node, MssmtLeaf.empty.node) =
      (regtest192, empty192) := climbs_of_leaf (by decide +kernel)
  have h128 : climbs regtestLeafKey 128 64 (regtest192, empty192) = (regtest128, empty128) :=
    climbs_of_number (by decide +kernel)
  have h64 : climbs regtestLeafKey 64 64 (regtest128, empty128) = (regtest64, empty64) :=
    climbs_of_number (by decide +kernel)
  have h0 : climbs regtestLeafKey 0 64 (regtest64, empty64) = (⟨regtestRoot.hash, 1000000⟩, empty0) :=
    climbs_of_number (by decide +kernel)
  exact @singleRoot_of_climbs regtestLeaf regtestLeafKey _ _ _ _ rfl h192 h128 h64 h0

def regtestAnchor : String := "aaaaaaaaaaaaaaaaaaaaaaaaaaaaaaaaaaaaaaaaaaaaaaaaaaaaaaaaaaaaaaaa:1"

/-- An outpoint other than the genesis outpoint, in any spelling, anchors the proof. -/
theorem regtestProof_verified {anchorOutpoint : String} {anchor : ParsedOutpoint}
    (hanchor : outpointOf anchorOutpoint = some anchor)
    (hne : outpointOf regtestGenesis ≠ some anchor) : Verified (regtestProof anchorOutpoint) := by
  obtain ⟨genesis, hgenesis⟩ : ∃ genesis, outpointOf regtestGenesis = some genesis :=
    Option.isSome_iff_exists.mp (by decide +kernel)
  rw [hgenesis, ne_eq, Option.some.injEq] at hne
  have hasset : regtestAsset ≠ Bytes32.ZERO := by decide
  have hhash : regtestRoot.hash ≠ Bytes32.ZERO := by decide
  have hamount : (1000000 : AssetAmount) ≠ 0 := by decide
  exact ⟨rfl, rfl, rfl, hasset, hamount, hhash, singleRoot_regtest.symm, genesis, anchor, hgenesis,
    hanchor, hne⟩

end TapLdk.Proof
