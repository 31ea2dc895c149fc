import Mathlib
import TapLdk.Mssmt

/-! Asset identifiers, keys and amounts, and the hash-sum root of a list of asset leaves. -/
namespace TapLdk.Asset
open TapLdk.LibraryExcept TapLdk.LibraryBytes TapLdk.LibrarySha256 TapLdk.Mssmt

abbrev CompressedKey := FixedBytes 33

abbrev AssetAmount := UInt64

inductive AssetError where
  | hexLength
  | hexCharacter (value : String)
  | invalidLength (field : String) (expected actual : ℕ)
  | invalidCompressedKeyPrefix (byte : UInt8)
  | amountOverflow
  | amountUnderflow
  | amountNotConserved (input output : UInt64)
  | unsupportedAssetType (value : UInt8)
  | emptyInputSet
  | mismatchedAssetId (expected actual : Bytes32)
  | mssmt (error : MssmtError)
  /-- Stands for a panic of the program. -/
  | panicked (message : String)
deriving DecidableEq

def toHex {n : ℕ} (b : FixedBytes n) : String := encodeHex b.bytes

def decodeHex (hex : String) : Except AssetError Bytes := do
  rejectIf ((utf8 hex).length % 2 ≠ 0) .hexLength
  decodeHexPairs .hexCharacter (.panicked "hex input is str") (utf8 hex)

def bytes32FromStr (value : String) : Except AssetError Bytes32 := do
  let bytes ← decodeHex value
  okOr (FixedBytes.ofBytes 32 bytes) (.invalidLength "bytes32" 32 ((utf8 value).length / 2))

def compressedKeyFromStr (value : String) : Except AssetError CompressedKey := do
  let bytes ← decodeHex value
  let key ← okOr (FixedBytes.ofBytes 33 bytes) (.invalidLength "compressed_key" 33 bytes.length)
  let first := bytes.headD 0
  rejectIf (first ≠ 2 ∧ first ≠ 3) (.invalidCompressedKeyPrefix first)
  pure key

inductive AssetType where
  | normal
  | collectible
deriving DecidableEq

def AssetType.asU8 : AssetType → UInt8
  | .normal => 0
  | .collectible => 1

def AssetType.fromU8 (value : UInt8) : Except AssetError AssetType :=
  if value = 0 then .ok .normal
  else if value = 1 then .ok .collectible
  else .error (.unsupportedAssetType value)

structure Genesis where
  firstPrevOut : String
  tag : Bytes32
  metaHash : Bytes32
  outputIndex : UInt32
  assetType : AssetType
deriving DecidableEq

def Genesis.assetId (g : Genesis) : Bytes32 :=
  sha256 (utf8 "tap-ldk:asset-id:v0" ++ beBytes 8 (utf8 g.firstPrevOut).length ++
    utf8 g.firstPrevOut ++ g.tag.bytes ++ g.metaHash.bytes ++ u32Bytes g.outputIndex ++
    [g.assetType.asU8])

def addAmount (a b : AssetAmount) : Except AssetError AssetAmount :=
  okOr (checkedAdd a b) .amountOverflow

def subAmount (a b : AssetAmount) : Except AssetError AssetAmount :=
  okOr (checkedSub a b) .amountUnderflow

structure AssetLeaf where
  assetId : Bytes32
  scriptKey : CompressedKey
  amount : AssetAmount
deriving DecidableEq

structure RootHashSum where
  hash : Bytes32
  sum : AssetAmount
deriving DecidableEq

/-- The order of the leaves in a root: asset, then key, then amount. -/
def compareLeaf (a b : AssetLeaf) : Ordering :=
  (compare a.assetId b.assetId).then
    ((compare a.scriptKey b.scriptKey).then (compare a.amount b.amount))

def syntheticAssetLeafKey (leaf : AssetLeaf) (index : ℕ) : Bytes32 :=
  sha256 (utf8 "tap-ldk:synthetic-asset-mssmt-key:v1" ++ leaf.assetId.bytes ++
    leaf.scriptKey.bytes ++ u64Bytes leaf.amount ++ beBytes 8 index)

def syntheticAssetLeafValue (leaf : AssetLeaf) : Bytes :=
  leaf.assetId.bytes ++ leaf.scriptKey.bytes ++ u64Bytes leaf.amount

def mssmtLeafOf (leaf : AssetLeaf) : MssmtLeaf := ⟨syntheticAssetLeafValue leaf, leaf.amount⟩

def sumAmounts (leaves : List AssetLeaf) : Except AssetError AssetAmount :=
  leaves.foldlM (fun sum leaf => addAmount sum leaf.amount) 0

def deriveHashSumRoot (leaves : List AssetLeaf) : Except AssetError RootHashSum := do
  let sorted := leaves.insertionSort fun a b => (compareLeaf a b).isLE
  let sum ← sumAmounts sorted
  let mssmtLeaves := sorted.zipIdx.map fun e => (syntheticAssetLeafKey e.1 e.2, mssmtLeafOf e.1)
  let tree ← (MssmtTree.fromLeaves mssmtLeaves).mapError .mssmt
  pure ⟨tree.root.hash, sum⟩

def validateSplitConservation (inputAmount : AssetAmount) (outputs : List AssetLeaf) :
    Except AssetError RootHashSum := do
  let root ← deriveHashSumRoot outputs
  rejectIf (root.sum ≠ inputAmount) (.amountNotConserved inputAmount root.sum)
  pure root

theorem toHex_length (b : Bytes32) : (toHex b).toList.length = 64 := by
  simp [toHex, encodeHex, List.length_flatMap, b.length_eq]

theorem toHex_injective {n : ℕ} : Function.Injective (toHex (n := n)) := fun _ _ h =>
  FixedBytes.ext (encodeHex_injective h)

@[simp] theorem decodeHex_encodeHex (bs : Bytes) : decodeHex (encodeHex bs) = .ok bs := by
  have hlen : ¬ (utf8 (encodeHex bs)).length % 2 ≠ 0 := by
    rw [utf8_encodeHex_length]
    omega
  rw [decodeHex, rejectIf_false hlen, ok_bind]
  exact decodeHexPairs_encodeHex _ _ bs

@[simp] theorem bytes32FromStr_toHex (b : Bytes32) : bytes32FromStr (toHex b) = .ok b := by
  simp [bytes32FromStr, toHex, okOr]

/-- The prefixes of a compressed point. -/
def HasKeyPrefix (key : CompressedKey) : Prop := key.bytes.headD 0 = 2 ∨ key.bytes.headD 0 = 3

/-- A key is read back from its text exactly when its first byte is a point prefix. -/
theorem compressedKeyFromStr_toHex {key key' : CompressedKey} :
    compressedKeyFromStr (toHex key) = .ok key' ↔ key' = key ∧ HasKeyPrefix key := by
  simp only [compressedKeyFromStr, toHex, decodeHex_encodeHex, ok_bind, FixedBytes.ofBytes_bytes,
    okOr, bind_eq_ok, rejectIf_eq_ok, pure_eq_ok, Except.ok.injEq, HasKeyPrefix]
  constructor
  · rintro ⟨⟨⟩, hfirst, rfl⟩
    exact ⟨rfl, by tauto⟩
  · rintro ⟨rfl, hfirst⟩
    exact ⟨(), by tauto, rfl⟩

@[simp] theorem fromU8_asU8 (t : AssetType) : AssetType.fromU8 t.asU8 = .ok t := by
  cases t <;> rfl

theorem addAmount_eq_ok {a b c : AssetAmount} :
    addAmount a b = .ok c ↔ c.toNat = a.toNat + b.toNat := by
  rw [addAmount, okOr_eq_ok, checkedAdd_eq_some]

theorem subAmount_eq_ok {a b c : AssetAmount} :
    subAmount a b = .ok c ↔ c.toNat + b.toNat = a.toNat := by
  rw [subAmount, okOr_eq_ok, checkedSub_eq_some]

/-- A successful checked sum is the exact sum. -/
theorem sumAmounts_eq_ok {leaves : List AssetLeaf} {sum : AssetAmount}
    (h : sumAmounts leaves = .ok sum) : sum.toNat = (leaves.map fun l => l.amount.toNat).sum := by
  refine foldlM_induction (fun done s => s.toNat = (done.map fun l : AssetLeaf => l.amount.toNat).sum)
    rfl ?_ h
  intro done leaf s s' hs hstep
  rw [addAmount_eq_ok] at hstep
  simp [hstep, hs]

/-- The root of one leaf with a positive amount. -/
def singleRoot (leaf : AssetLeaf) : RootHashSum :=
  ⟨(pathRoot (syntheticAssetLeafKey leaf 0) maxTreeLevels (mssmtLeafOf leaf).node
    MssmtLeaf.empty.node).hash, leaf.amount⟩

theorem deriveHashSumRoot_single {leaf : AssetLeaf} (h : leaf.amount ≠ 0) :
    deriveHashSumRoot [leaf] = .ok (singleRoot leaf) := by
  have hpos : (mssmtLeafOf leaf).sum ≠ 0 := h
  obtain ⟨tree, htree, hroot⟩ := fromLeaves_single (syntheticAssetLeafKey leaf 0) hpos
  have hsum : sumAmounts [leaf] = .ok leaf.amount := by
    simp [sumAmounts, addAmount, zero_checkedAdd, okOr]
  simp [deriveHashSumRoot, hsum, htree, hroot, singleRoot, Except.mapError]

/-- The sum in a derived root is the exact sum of the leaves' amounts. -/
theorem deriveHashSumRoot_sum {leaves : List AssetLeaf} {root : RootHashSum}
    (h : deriveHashSumRoot leaves = .ok root) :
    root.sum.toNat = (leaves.map fun l => l.amount.toNat).sum := by
  simp only [deriveHashSumRoot, bind_eq_ok, pure_eq_ok, Except.ok.injEq] at h
  obtain ⟨sum, hsum, _, _, rfl⟩ := h
  rw [sumAmounts_eq_ok hsum]
  exact ((List.perm_insertionSort _ leaves).map _).sum_eq

end TapLdk.Asset
