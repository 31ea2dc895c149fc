import Mathlib
import TapLdk.TapVm
import TapLdk.Proof
import TapLdk.MssmtCompressed

/-! The validation of single virtual transitions given as test vectors: an asset with its
witnesses, the inputs it spends, and the outputs it is split into. -/
namespace TapLdk.TapVmFixture
open TapLdk.LibraryExcept TapLdk.LibraryBytes TapLdk.LibrarySha256 TapLdk.Mssmt
open TapLdk.Asset (bytes32FromStr toHex)
open TapLdk.Proof (parseU32)
open TapLdk.MssmtProofs TapLdk.MssmtCompressed TapLdk.TapVm

def zeroOutpoint : String := "0000000000000000000000000000000000000000000000000000000000000000:0"
def zeroAssetId : String := "0000000000000000000000000000000000000000000000000000000000000000"
def zeroScriptKey : String := "000000000000000000000000000000000000000000000000000000000000000000"

structure TapVmPrevId where
  outPoint : String
  assetId : String
  scriptKey : String
deriving DecidableEq

structure TapVmRoot where
  hash : String
  sum : UInt64

structure TapVmGroupKey where
  groupKey : String
  groupKeySig : String

mutual

structure TapVmAsset where
  version : UInt32
  genesisFirstPrevOut : String
  genesisTag : String
  genesisMetaHash : String
  genesisOutputIndex : UInt64
  genesisType : UInt8
  amount : UInt64
  prevWitnesses : Option (List TapVmPrevWitness)
  splitCommitmentRoot : Option TapVmRoot
  scriptVersion : UInt32
  scriptKey : String
  groupKey : Option TapVmGroupKey

structure TapVmPrevWitness where
  prevId : TapVmPrevId
  txWitness : Option (List String)
  splitCommitment : Option TapVmSplitCommitment

structure TapVmSplitCommitment where
  proof : String
  rootAsset : TapVmAsset

end

structure TapVmInput where
  prevId : TapVmPrevId
  asset : TapVmAsset

structure TapVmSplitKey where
  outputIndex : UInt64
  assetId : String
  scriptKey : String
  amount : UInt64

structure TapVmSplitValue where
  asset : TapVmAsset
  outputIndex : UInt64

structure TapVmSplit where
  key : TapVmSplitKey
  value : TapVmSplitValue

structure TapVmFixtureCase where
  asset : TapVmAsset
  splitSet : List TapVmSplit
  inputSet : List TapVmInput

def TapVmPrevId.isZero (prevId : TapVmPrevId) : Bool :=
  prevId.outPoint == zeroOutpoint && prevId.assetId == zeroAssetId &&
    prevId.scriptKey == zeroScriptKey

def validateHexLen (value : String) (byteLen : ℕ) : Except TapVmError Unit := do
  let bytes ← decodeHex value
  rejectIf (bytes.length ≠ byteLen) (.malformedHex value)

/-- `str::parse::<u32>`, which allows a leading plus sign. -/
def parseVout : List Char → Option UInt32
  | '+' :: digits => parseU32 digits
  | digits => parseU32 digits

def validateOutpoint (outpoint : String) : Except TapVmError Unit :=
  match outpoint.toList.dropWhile (· ≠ ':') with
  | [] => .error (.malformedOutpoint outpoint)
  | _ :: vout => do
    validateHexLen (String.ofList (outpoint.toList.takeWhile (· ≠ ':'))) 32
    rejectIf ((parseVout vout).isNone) (.malformedOutpoint outpoint)

def validateSignatureBytes (bytes : Bytes) (source : String) : Except TapVmError Unit :=
  rejectIf ((bytes.length ≠ 64 ∧ bytes.length ≠ 65) ∨ bytes.all (· == 0))
    (.malformedSignature source)

def validateSignatureHex (signature : String) : Except TapVmError Unit := do
  let bytes ← decodeHex signature
  validateSignatureBytes bytes signature

def validateGroupKey (groupKey : TapVmGroupKey) : Except TapVmError Unit := do
  validateCompressedKey groupKey.groupKey
  validateSignatureHex groupKey.groupKeySig

def validateAssetShape (asset : TapVmAsset) : Except TapVmError Unit := do
  rejectIf (1 < asset.version) (.unsupportedVersion asset.version)
  rejectIf (asset.scriptVersion ≠ 0) (.unsupportedScriptVersion asset.scriptVersion)
  rejectIf (asset.genesisType ≠ 0 ∧ asset.genesisType ≠ 1)
    (.unsupportedGenesisType asset.genesisType)
  validateOutpoint asset.genesisFirstPrevOut
  validateHexLen asset.genesisTag 32
  validateHexLen asset.genesisMetaHash 32
  validateCompressedKey asset.scriptKey
  asset.groupKey.toList.forM validateGroupKey
  asset.splitCommitmentRoot.toList.forM fun root => validateHexLen root.hash 32

def validateAssetAmountForType (asset : TapVmAsset) : Except TapVmError Unit :=
  if asset.genesisType = 0 ∧ 0 < asset.amount then .ok ()
  else if asset.genesisType = 1 then
    rejectIf (asset.amount ≠ 1) (.collectibleAmountInvalid asset.amount)
  else .error .zeroAmount

def sameAssetDefinition (a b : TapVmAsset) : Bool :=
  a.version == b.version && a.genesisType == b.genesisType && a.scriptVersion == b.scriptVersion

def sameScriptKeyXonly (a b : String) : Except TapVmError Bool := do
  let a ← decodeHex a
  let b ← decodeHex b
  rejectIf (a.length ≠ 33 ∨ b.length ≠ 33) (.malformedKey s!"{encodeHex a} / {encodeHex b}")
  pure (a.drop 1 == b.drop 1)

/-- The proof that a text spells in its compressed form. -/
def readMssmtProof (proofHex : String) : Except TapVmError MssmtProof := do
  let bytes ← decodeHex proofHex
  let proof ← (MssmtCompressedProof.decode bytes).mapError .mssmt
  proof.decompress.mapError .mssmt

def decodeMssmtProof (proofHex : String) : Except TapVmError Unit := do
  let _ ← readMssmtProof proofHex

section

variable (ripemd160 : Bytes → FixedBytes 20)

def hash160 (bytes : Bytes) : FixedBytes 20 := ripemd160 (sha256 bytes).bytes

def isHashLock (script : Bytes) : Bool :=
  script.length == 24 && script.getD 0 0 == 0x76 && script.getD 1 0 == 0xa9 &&
    script.getD 2 0 == 0x14 && script.getD 23 0 == 0x88

def isSignatureScript (script : Bytes) : Bool :=
  34 ≤ script.length && script.getD 0 0 == 0x20 &&
    (script.getD 33 0 == 0xac || script.getD 33 0 == 0xad)

def validateScriptPath (argument script : Bytes) (scriptHex : String) : Except TapVmError Unit :=
  if isHashLock script then
    rejectIf ((hash160 ripemd160 argument).bytes ≠ (script.drop 3).take 20) .hashLockFailed
  else if isSignatureScript script then validateSignatureBytes argument (encodeHex argument)
  else .error (.unsupportedScript scriptHex)

def validateControlBlock (controlBlock : Bytes) : Except TapVmError Unit :=
  rejectIf (controlBlock.length < 33 ∨
    (controlBlock.headD 0 ≠ 0xc0 ∧ controlBlock.headD 0 ≠ 0xc1))
    (.malformedKey (encodeHex controlBlock))

def validateWitnessStack (stack : List String) : Except TapVmError Unit :=
  match stack with
  | [] => .error .emptyWitness
  | [signature] => validateSignatureHex signature
  | [argumentHex, scriptHex, controlBlockHex] => do
    let argument ← decodeHex argumentHex
    let script ← decodeHex scriptHex
    let controlBlock ← decodeHex controlBlockHex
    validateControlBlock controlBlock
    validateScriptPath ripemd160 argument script scriptHex
  | stack => .error (.unsupportedWitnessShape stack.length)

/-- The single witness of a split output, which carries its proof. -/
def TapVmSplit.splitCommitment (split : TapVmSplit) : Except TapVmError TapVmSplitCommitment := do
  let witnesses ← okOr split.value.asset.prevWitnesses .missingPrevWitnesses
  match witnesses with
  | [witness] =>
    rejectIf (¬ witness.prevId.isZero ∨ witness.txWitness.isSome) .invalidSplitWitness
    okOr witness.splitCommitment .missingSplitCommitment
  | _ => .error (.witnessCountMismatch 1 witnesses.length)

def TapVmSplit.validate (split : TapVmSplit) (topAsset : TapVmAsset) (assetId : Bytes32)
    (root : TapVmRoot) : Except TapVmError Unit := do
  rejectIf (split.key.assetId ≠ toHex assetId) .assetIdMismatch
  rejectIf (split.key.outputIndex ≠ split.value.outputIndex) .splitOutputIndexMismatch
  rejectIf (split.key.amount ≠ split.value.asset.amount) .splitKeyValueMismatch
  let same ← sameScriptKeyXonly split.key.scriptKey split.value.asset.scriptKey
  rejectIf (¬ same) .splitKeyValueMismatch
  validateCompressedKey split.key.scriptKey
  validateAssetShape split.value.asset
  rejectIf (¬ sameAssetDefinition topAsset split.value.asset) .assetDefinitionMismatch
  let splitCommitment ← split.splitCommitment
  decodeMssmtProof splitCommitment.proof
  rejectIf (¬ sameAssetDefinition topAsset splitCommitment.rootAsset) .assetDefinitionMismatch
  let rootAssetRoot ← okOr splitCommitment.rootAsset.splitCommitmentRoot .missingSplitRoot
  rejectIf (rootAssetRoot.hash ≠ root.hash ∨ rootAssetRoot.sum ≠ root.sum) .splitRootMismatch

/-- The split that stands for the asset itself. -/
def isTopLevelLocator (asset : TapVmAsset) (assetId : Bytes32) (split : TapVmSplit) :
    Except TapVmError Bool :=
  if split.key.outputIndex = 0 ∧ split.key.amount = asset.amount then do
    let same ← sameScriptKeyXonly split.key.scriptKey asset.scriptKey
    pure (same && split.key.assetId == toHex assetId)
  else pure false

namespace TapVmFixtureCase

variable (c : TapVmFixtureCase)

def validateGenesis (witnesses : List TapVmPrevWitness) :
    Except TapVmError TapVmValidationSummary := do
  rejectIf (c.splitSet ≠ []) .genesisHasSplitSet
  match witnesses with
  | [witness] =>
    rejectIf (¬ witness.prevId.isZero) .genesisPrevIdNotZero
    rejectIf (witness.txWitness.isSome ∨ witness.splitCommitment.isSome) .genesisHasInputs
    validateAssetAmountForType c.asset
    pure ⟨.issuance, 0, 1, 0, c.asset.amount, 0, none, 0⟩
  | _ => .error (.witnessCountMismatch 1 witnesses.length)

/-- The checks on one input, with the total and the number of stacks checked so far. -/
def checkInput (witnesses : List TapVmPrevWitness) (checked : UInt64 × ℕ) (input : TapVmInput) :
    Except TapVmError (UInt64 × ℕ) := do
  validateAssetShape input.asset
  rejectIf (¬ sameAssetDefinition c.asset input.asset) .assetDefinitionMismatch
  let witness ← okOr (witnesses.find? fun witness => witness.prevId = input.prevId)
    .inputPrevIdMismatch
  let stack ← okOr witness.txWitness .missingWitnessStack
  validateWitnessStack ripemd160 stack
  let inputTotal ← okOr (checkedAdd checked.1 input.asset.amount) .amountOverflow
  pure (inputTotal, checked.2 + 1)

/-- The checks on one split, with the total so far and whether the top-level one was found. -/
def checkSplit (assetId : Bytes32) (root : TapVmRoot) (checked : UInt64 × Bool)
    (split : TapVmSplit) : Except TapVmError (UInt64 × Bool) := do
  split.validate c.asset assetId root
  let splitTotal ← okOr (checkedAdd checked.1 split.key.amount) .amountOverflow
  let found ← isTopLevelLocator c.asset assetId split
  pure (splitTotal, checked.2 || found)

/-- The end of a transfer into one output. -/
def validateWhole (witnesses : List TapVmPrevWitness) (checked : UInt64 × ℕ) :
    Except TapVmError TapVmValidationSummary := do
  rejectIf (c.asset.amount ≠ checked.1) (.amountNotConserved checked.1 c.asset.amount)
  pure ⟨.transfer, c.inputSet.length, 1, checked.1, c.asset.amount, witnesses.length, none,
    checked.2⟩

/-- The end of a transfer that is split. -/
def validateSplits (witnesses : List TapVmPrevWitness) (assetId : Bytes32)
    (checked : UInt64 × ℕ) : Except TapVmError TapVmValidationSummary := do
  let root ← okOr c.asset.splitCommitmentRoot .missingSplitRoot
  rejectIf (root.sum ≠ checked.1) (.splitRootSumMismatch checked.1 root.sum)
  let splits ← c.splitSet.foldlM (c.checkSplit assetId root) (0, false)
  rejectIf (splits.1 ≠ checked.1) (.amountNotConserved checked.1 splits.1)
  rejectIf (¬ splits.2) .splitRootLocatorMismatch
  pure ⟨.transfer, c.inputSet.length, c.splitSet.length, checked.1, splits.1, witnesses.length,
    some root.sum, checked.2⟩

def validateTransfer (witnesses : List TapVmPrevWitness) :
    Except TapVmError TapVmValidationSummary := do
  rejectIf (witnesses.length ≠ c.inputSet.length)
    (.witnessCountMismatch c.inputSet.length witnesses.length)
  let first ← okOr witnesses.head? (.panicked "index out of bounds")
  let transitionAssetId ← (bytes32FromStr first.prevId.assetId).mapError .malformedBytes32
  rejectIf (transitionAssetId = Bytes32.ZERO) .zeroAssetId
  let checked ← c.inputSet.foldlM (c.checkInput ripemd160 witnesses) (0, 0)
  if c.splitSet = [] then c.validateWhole witnesses checked
  else c.validateSplits witnesses transitionAssetId checked

def validate : Except TapVmError TapVmValidationSummary := do
  validateAssetShape c.asset
  let witnesses ← okOr c.asset.prevWitnesses .missingPrevWitnesses
  if c.inputSet = [] then c.validateGenesis witnesses
  else c.validateTransfer ripemd160 witnesses

end TapVmFixtureCase

end

end TapLdk.TapVmFixture
