import Mathlib
import TapLdk.Asset

/-! Virtual transitions: the inputs, outputs and witnesses of one asset movement, the rules
they have to obey, and the digests that identify them. -/
namespace TapLdk.TapVm
open TapLdk.LibraryExcept TapLdk.LibraryBytes TapLdk.LibrarySha256 TapLdk.Mssmt TapLdk.Asset

inductive SigningDomain where
  | taprootAssets
  | bitcoin
deriving DecidableEq

inductive TapVmTransitionKind where
  | issuance
  | transfer
  | channelFunding
  | htlcSettlement
  | close
  | recovery
deriving DecidableEq

def TapVmTransitionKind.asU8 : TapVmTransitionKind → UInt8
  | .issuance => 0
  | .transfer => 1
  | .channelFunding => 2
  | .htlcSettlement => 3
  | .close => 4
  | .recovery => 5

structure AssetVirtualInput where
  amount : UInt64
  previousId : Bytes32
deriving DecidableEq

structure AssetVirtualOutput where
  amount : UInt64
  scriptKey : CompressedKey
  outputIndex : UInt32
deriving DecidableEq

structure AssetVirtualWitness where
  nonce : Bytes32
  authorization : Bytes32
deriving DecidableEq

structure AssetVirtualTransition where
  version : UInt8
  kind : TapVmTransitionKind
  assetId : Bytes32
  signingDomain : SigningDomain
  inputs : List AssetVirtualInput
  outputs : List AssetVirtualOutput
  witnesses : List AssetVirtualWitness
deriving DecidableEq

structure TapVmValidationSummary where
  transitionKind : TapVmTransitionKind
  inputCount : ℕ
  outputCount : ℕ
  inputAmount : UInt64
  outputAmount : UInt64
  witnessCount : ℕ
  splitRootSum : Option UInt64
  scriptWitnessesChecked : ℕ
deriving DecidableEq

inductive TapVmError where
  | mssmt (error : MssmtError)
  | malformedHex (value : String)
  | malformedBytes32 (error : AssetError)
  | unsupportedVersion (version : UInt32)
  | unsupportedScriptVersion (version : UInt32)
  | unsupportedGenesisType (genesisType : UInt8)
  | malformedOutpoint (outpoint : String)
  | malformedKey (key : String)
  | malformedSignature (signature : String)
  | missingPrevWitnesses
  | missingWitnessStack
  | emptyWitness
  | wrongSigningDomain
  | noInputs
  | noOutputs
  | genesisHasInputs
  | genesisHasSplitSet
  | genesisPrevIdNotZero
  | zeroAmount
  | zeroAssetId
  | collectibleAmountInvalid (amount : UInt64)
  | witnessCountMismatch (expected actual : ℕ)
  | inputPrevIdMismatch
  | assetDefinitionMismatch
  | assetIdMismatch
  | amountOverflow
  | amountNotConserved (inputs outputs : UInt64)
  | missingSplitRoot
  | missingSplitCommitment
  | splitRootSumMismatch (expected actual : UInt64)
  | splitRootMismatch
  | splitRootLocatorMismatch
  | splitOutputIndexMismatch
  | splitKeyValueMismatch
  | invalidSplitWitness
  | unsupportedWitnessShape (count : ℕ)
  | unsupportedScript (script : String)
  | hashLockFailed
  /-- Stands for a panic of the program. -/
  | panicked (message : String)
deriving DecidableEq

def decodeHex (value : String) : Except TapVmError Bytes := do
  rejectIf ((utf8 value).length % 2 ≠ 0) (.malformedHex value)
  decodeHexPairs (fun _ => .malformedHex value) (.malformedHex value) (utf8 value)

def validateCompressedKey (key : String) : Except TapVmError Unit := do
  let bytes ← decodeHex key
  rejectIf (bytes.length ≠ 33 ∨ (bytes.headD 0 ≠ 2 ∧ bytes.headD 0 ≠ 3)) (.malformedKey key)

def checkedSum (amounts : List UInt64) : Except TapVmError UInt64 :=
  amounts.foldlM (fun total amount => okOr (checkedAdd total amount) .amountOverflow) 0

def virtualPrevId (assetId : Bytes32) (index : ℕ) (context : Bytes32) : Bytes32 :=
  sha256 (utf8 "tap-ldk:virtual-prev-id:v1" ++ assetId.bytes ++ beBytes 8 index ++ context.bytes)

def AssetVirtualWitness.fromContext (domain : String) (assetId : Bytes32) (index : ℕ)
    (context : Bytes32) : AssetVirtualWitness :=
  let nonce := sha256 (utf8 domain ++ utf8 ":nonce" ++ assetId.bytes ++ beBytes 8 index ++
    context.bytes)
  let authorization := sha256 (utf8 domain ++ utf8 ":authorization" ++ assetId.bytes ++
    beBytes 8 index ++ context.bytes ++ nonce.bytes)
  ⟨nonce, authorization⟩

namespace AssetVirtualTransition

def channelFunding (assetId : Bytes32) (inputAmounts : List UInt64) (outputAmount : UInt64)
    (scriptKey : CompressedKey) (witnessContext : Bytes32) : AssetVirtualTransition :=
  let inputs := inputAmounts.mapIdx fun index amount =>
    (⟨amount, virtualPrevId assetId index witnessContext⟩ : AssetVirtualInput)
  { version := 0
    kind := .channelFunding
    assetId
    signingDomain := .taprootAssets
    inputs
    outputs := [⟨outputAmount, scriptKey, 0⟩]
    witnesses := inputs.mapIdx fun index _ =>
      .fromContext "tap-ldk:virtual-channel-funding-witness:v1" assetId index witnessContext }

def localScriptKey : CompressedKey := ⟨List.replicate 33 2, List.length_replicate⟩
def remoteScriptKey : CompressedKey := ⟨List.replicate 33 3, List.length_replicate⟩

def channelBalanceUpdate (kind : TapVmTransitionKind) (assetId : Bytes32)
    (totalAmount localBalance remoteBalance : UInt64) (assetNonce : Bytes32) :
    AssetVirtualTransition :=
  { version := 0
    kind
    assetId
    signingDomain := .taprootAssets
    inputs := [⟨totalAmount, virtualPrevId assetId 0 assetNonce⟩]
    outputs := [⟨localBalance, localScriptKey, 0⟩, ⟨remoteBalance, remoteScriptKey, 1⟩]
    witnesses :=
      [.fromContext "tap-ldk:virtual-channel-update-witness:v1" assetId 0 assetNonce] }

/-- The rules of a kind, given the total of the outputs. -/
def validateKind (t : AssetVirtualTransition) (outputTotal : UInt64) : Except TapVmError Unit :=
  match t.kind with
  | .issuance => do
    rejectIf (t.inputs ≠ [] ∨ t.witnesses ≠ []) .genesisHasInputs
    rejectIf (outputTotal = 0) .zeroAmount
  | .transfer | .channelFunding | .htlcSettlement | .close | .recovery => do
    rejectIf (t.inputs = []) .noInputs
    rejectIf (t.witnesses.length ≠ t.inputs.length)
      (.witnessCountMismatch t.inputs.length t.witnesses.length)
    let inputTotal ← checkedSum (t.inputs.map (·.amount))
    rejectIf (inputTotal ≠ outputTotal) (.amountNotConserved inputTotal outputTotal)
    t.witnesses.forM fun witness =>
      rejectIf (witness.nonce = Bytes32.ZERO ∨ witness.authorization = Bytes32.ZERO) .emptyWitness

def validate (t : AssetVirtualTransition) : Except TapVmError TapVmValidationSummary := do
  rejectIf (1 < t.version) (.unsupportedVersion t.version.toUInt32)
  rejectIf (t.signingDomain ≠ .taprootAssets) .wrongSigningDomain
  let outputTotal ← checkedSum (t.outputs.map (·.amount))
  rejectIf (t.outputs = []) .noOutputs
  t.outputs.forM fun output => validateCompressedKey (toHex output.scriptKey)
  t.validateKind outputTotal
  let inputTotal ← checkedSum (t.inputs.map (·.amount))
  pure ⟨t.kind, t.inputs.length, t.outputs.length, inputTotal, outputTotal, t.witnesses.length,
    none, t.witnesses.length⟩

def digestPreimage (t : AssetVirtualTransition) (domain : String) : Bytes :=
  utf8 domain ++ [t.version] ++ [t.kind.asU8] ++ t.assetId.bytes ++ beBytes 8 t.inputs.length ++
    (t.inputs.flatMap fun input => u64Bytes input.amount ++ input.previousId.bytes) ++
    beBytes 8 t.outputs.length ++
    (t.outputs.flatMap fun output =>
      u32Bytes output.outputIndex ++ u64Bytes output.amount ++ output.scriptKey.bytes) ++
    beBytes 8 t.witnesses.length ++
    t.witnesses.flatMap fun witness => witness.nonce.bytes ++ witness.authorization.bytes

def digest (t : AssetVirtualTransition) (domain : String) : Bytes32 :=
  sha256 (t.digestPreimage domain)

def txId (t : AssetVirtualTransition) : Except TapVmError Bytes32 := do
  let _ ← t.validate
  pure (t.digest "tap-ldk:asset-virtual-tx:v2")

def witnessDigest (t : AssetVirtualTransition) : Except TapVmError Bytes32 := do
  let _ ← t.validate
  pure (sha256 (utf8 "tap-ldk:asset-virtual-witness:v2" ++ [t.version] ++ [t.kind.asU8] ++
    t.assetId.bytes ++ beBytes 8 t.witnesses.length ++
    t.witnesses.flatMap fun witness => witness.nonce.bytes ++ witness.authorization.bytes))

end AssetVirtualTransition

theorem foldlM_checkedAdd {amounts : List UInt64} {start total : UInt64} :
    amounts.foldlM (fun sum amount =>
        (okOr (checkedAdd sum amount) .amountOverflow : Except TapVmError UInt64)) start =
      .ok total ↔ total.toNat = start.toNat + (amounts.map UInt64.toNat).sum := by
  induction amounts generalizing start with
  | nil => simp [eq_comm, UInt64.toNat_inj]
  | cons amount amounts ih =>
    simp only [List.foldlM_cons, bind_eq_ok, okOr_eq_ok, checkedAdd_eq_some, ih, List.map_cons,
      List.sum_cons]
    constructor
    · rintro ⟨mid, hmid, htotal⟩
      omega
    · intro htotal
      have hlt := total.toNat_lt
      have hmid : (UInt64.ofNat (start.toNat + amount.toNat)).toNat =
          start.toNat + amount.toNat := UInt64.toNat_ofNat_of_lt' (by
        simp only [UInt64.size]
        omega)
      exact ⟨_, hmid, by omega⟩

/-- A checked sum is the exact sum, when that fits. -/
theorem checkedSum_eq_ok {amounts : List UInt64} {total : UInt64} :
    checkedSum amounts = .ok total ↔ total.toNat = (amounts.map UInt64.toNat).sum := by
  simpa [checkedSum] using @foldlM_checkedAdd amounts 0 total

theorem validateCompressedKey_toHex {key : CompressedKey} {u : Unit} :
    validateCompressedKey (toHex key) = .ok u ↔ HasKeyPrefix key := by
  have hlen : ¬ (utf8 (toHex key)).length % 2 ≠ 0 := by
    rw [toHex, utf8_encodeHex_length]
    omega
  have hdecode : decodeHex (toHex key) = .ok key.bytes := by
    rw [decodeHex, rejectIf_false hlen, ok_bind]
    exact decodeHexPairs_encodeHex _ _ key.bytes
  rw [validateCompressedKey, hdecode, ok_bind, rejectIf_eq_ok, HasKeyPrefix, key.length_eq]
  tauto

/-- Both parts of a witness are hashes that must not be zero. -/
def AssetVirtualWitness.NonZero (witness : AssetVirtualWitness) : Prop :=
  witness.nonce ≠ Bytes32.ZERO ∧ witness.authorization ≠ Bytes32.ZERO

instance (witness : AssetVirtualWitness) : Decidable witness.NonZero :=
  inferInstanceAs (Decidable (_ ∧ _))

namespace AssetVirtualTransition

/-- A transition that consumes inputs is valid when it conserves the amount and every witness
is filled in. -/
theorem validate_ok {t : AssetVirtualTransition} {total : UInt64} (hversion : t.version = 0)
    (hdomain : t.signingDomain = .taprootAssets) (hkind : t.kind ≠ .issuance)
    (hinputs : t.inputs ≠ []) (houtputs : t.outputs ≠ [])
    (hkeys : ∀ output ∈ t.outputs, HasKeyPrefix output.scriptKey)
    (hin : checkedSum (t.inputs.map (·.amount)) = .ok total)
    (hout : checkedSum (t.outputs.map (·.amount)) = .ok total)
    (hcount : t.witnesses.length = t.inputs.length)
    (hwitness : ∀ witness ∈ t.witnesses, witness.NonZero) :
    ∃ summary, t.validate = .ok summary := by
  have hkeysOk : (t.outputs.forM fun output => validateCompressedKey (toHex output.scriptKey)) =
      .ok () := forM_eq_ok.mpr fun output ho => validateCompressedKey_toHex.mpr (hkeys output ho)
  have hwitnessOk : (t.witnesses.forM fun witness => rejectIf
      (witness.nonce = Bytes32.ZERO ∨ witness.authorization = Bytes32.ZERO)
      TapVmError.emptyWitness) = .ok () :=
    forM_eq_ok.mpr fun witness hw => rejectIf_false (not_or.mpr (hwitness witness hw))
  have hkindOk : t.validateKind total = .ok () := by
    unfold validateKind
    split
    · exact absurd ‹t.kind = .issuance› hkind
    all_goals
      rw [rejectIf_false hinputs, ok_bind, rejectIf_false (not_not.mpr hcount), ok_bind, hin,
        ok_bind, rejectIf_false (not_not.mpr rfl), ok_bind, hwitnessOk]
  have hnew : ¬ 1 < t.version := by
    rw [hversion]
    decide
  rw [validate, rejectIf_false hnew, ok_bind, rejectIf_false (not_not.mpr hdomain), ok_bind, hout,
    ok_bind, rejectIf_false houtputs, ok_bind, hkeysOk, ok_bind, hkindOk, ok_bind, hin, ok_bind]
  exact ⟨_, rfl⟩

/-- The witness of a balance update. -/
def updateWitness (assetId nonce : Bytes32) : AssetVirtualWitness :=
  .fromContext "tap-ldk:virtual-channel-update-witness:v1" assetId 0 nonce

theorem channelBalanceUpdate_valid {kind : TapVmTransitionKind} {assetId nonce : Bytes32}
    {total localBalance remoteBalance : UInt64} (hkind : kind ≠ .issuance)
    (hsum : checkedAdd localBalance remoteBalance = some total)
    (hwitness : (updateWitness assetId nonce).NonZero) :
    ∃ summary, (channelBalanceUpdate kind assetId total localBalance remoteBalance nonce).validate =
      .ok summary := by
  rw [checkedAdd_eq_some] at hsum
  have hlocal : HasKeyPrefix localScriptKey := .inl rfl
  have hremote : HasKeyPrefix remoteScriptKey := .inr rfl
  refine @validate_ok _ total rfl rfl hkind (by simp [channelBalanceUpdate])
    (by simp [channelBalanceUpdate]) ?_ ?_ ?_ rfl ?_
  · simp [channelBalanceUpdate, hlocal, hremote]
  · rw [checkedSum_eq_ok]
    simp [channelBalanceUpdate]
  · rw [checkedSum_eq_ok]
    simp [channelBalanceUpdate, hsum]
  · intro witness hw
    rw [List.mem_singleton.mp hw]
    exact hwitness

/-- The witness of one input of a funding. -/
def fundingWitness (assetId context : Bytes32) (index : ℕ) : AssetVirtualWitness :=
  .fromContext "tap-ldk:virtual-channel-funding-witness:v1" assetId index context

theorem channelFunding_valid {assetId context : Bytes32} {amounts : List UInt64} {total : UInt64}
    {key : CompressedKey} (hne : amounts ≠ []) (hkey : HasKeyPrefix key)
    (hsum : total.toNat = (amounts.map UInt64.toNat).sum)
    (hwitness : ∀ index < amounts.length, (fundingWitness assetId context index).NonZero) :
    ∃ summary, (channelFunding assetId amounts total key context).validate = .ok summary := by
  have hamounts : (channelFunding assetId amounts total key context).inputs.map (·.amount) =
      amounts := by
    refine List.ext_getElem (by simp [channelFunding]) fun index _ _ => ?_
    simp [channelFunding]
  refine @validate_ok _ total rfl rfl (by simp [channelFunding])
    (by simpa [channelFunding] using hne) (by simp [channelFunding]) ?_ ?_ ?_ ?_ ?_
  · simpa [channelFunding] using hkey
  · rw [hamounts, checkedSum_eq_ok, hsum]
  · rw [checkedSum_eq_ok]
    simp [channelFunding]
  · simp [channelFunding]
  · intro witness hw
    simp only [channelFunding, List.mapIdx_mapIdx, List.mem_mapIdx] at hw
    obtain ⟨index, hindex, rfl⟩ := hw
    exact hwitness index hindex

end AssetVirtualTransition

end TapLdk.TapVm
