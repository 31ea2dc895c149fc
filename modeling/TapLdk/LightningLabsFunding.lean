import Mathlib
import TapLdk.LightningLabsBlobWire

/-! The funding state that a pair of decoded blobs is reconciled to: totals over all outputs of
each list, asset and proof of the first output only. -/
namespace TapLdk.LightningLabsFunding
open TapLdk.LibraryExcept TapLdk.LibraryBytes TapLdk.LibrarySha256 TapLdk.Mssmt TapLdk.Asset
open TapLdk.Tlv TapLdk.LightningLabsBlob TapLdk.LightningLabsBlobWire

structure LightningLabsFundingTarget where
  bitcoindImage : String := "polarlightning/bitcoind:30.0"
  lndImage : String := "polarlightning/lnd:0.19.0-beta"
  tapdImage : String := "polarlightning/tapd:0.7.0-alpha"
deriving DecidableEq

inductive LightningLabsFundingInteropStatus where
  | stoppedAtDocumentedGap
deriving DecidableEq

structure FundingBalanceComparison where
  fundingTotal : UInt64
  localBalance : UInt64
  remoteBalance : UInt64
  balancesMatch : Bool
deriving DecidableEq

structure FundingInteropGap where
  field : String
  reason : String
  nextStep : String
deriving DecidableEq

structure LightningLabsFundingInteropState where
  interopId : String
  target : LightningLabsFundingTarget
  status : LightningLabsFundingInteropStatus
  assetId : Bytes32
  fundingTotalAmount : UInt64
  localBalance : UInt64
  remoteBalance : UInt64
  fundingBlobDigest : Bytes32
  commitmentBlobDigest : Bytes32
  fundingAssetOutputDigest : Bytes32
  fundingAssetProofDigest : Bytes32
  localCommitmentOutputDigest : Bytes32
  remoteCommitmentOutputDigest : Bytes32
  balanceComparison : FundingBalanceComparison
  documentedGap : FundingInteropGap
deriving DecidableEq

inductive LightningLabsFundingInteropError where
  | missingAssetOutput
  | missingCommitmentOutput (side : String)
  | assetIdMismatch (field : String) (expected actual : Bytes32)
  | balanceMismatch (fundingTotal localBalance remoteBalance : UInt64)
  | amountOverflow
  | storageInvariant (message : String)
deriving DecidableEq

abbrev FundingResult (α : Type) := Except LightningLabsFundingInteropError α

/-- The checks of one output of a list. -/
def singleOutput (output : Option AssetOutputSummary) (field : String)
    (err : LightningLabsFundingInteropError) : FundingResult AssetOutputSummary := do
  let output ← okOr output err
  rejectIf (output.amount = 0 ∨ output.proofLen = 0 ∨ output.proofDigest = Bytes32.ZERO)
    (.storageInvariant s!"{field} asset output is missing amount or proof material")
  pure output

def requireAssetId (field : String) (expected actual : Bytes32) : FundingResult Unit :=
  rejectIf (actual ≠ expected) (.assetIdMismatch field expected actual)

def deriveInteropId (assetId : Bytes32) (fundingTotal localBalance remoteBalance : UInt64)
    (fundingBlobDigest commitmentBlobDigest : Bytes32) : String :=
  toHex (sha256 (utf8 "tap-ldk:lightning-labs-funding-interop:v1" ++ assetId.bytes ++
    u64Bytes fundingTotal ++ u64Bytes localBalance ++ u64Bytes remoteBalance ++
    fundingBlobDigest.bytes ++ commitmentBlobDigest.bytes))

/-- The gap that every state documents. -/
def liveFundingGap : FundingInteropGap where
  field := "live_funding_outpoint_and_proof_mapping"
  reason := "static tapchannelmsg fixtures prove the Lightning Labs funding asset ID, total, " ++
    "allocation, and proof/output digests, but they do not by themselves perform the live " ++
    "LND/tapd custom-channel funding handshake or bind a freshly generated funding outpoint to " ++
    "a fully verified proof chain"
  nextStep := "drive the headless or Polar-backed Lightning Labs counterparty through channel " ++
    "funding and compare the live funding outpoint, proof file, funding blob, and initial " ++
    "balances against this fixture-backed state"

def buildStateFromFixture (funding : LightningLabsFundingBlob)
    (commitment : LightningLabsCommitmentBlob) : FundingResult LightningLabsFundingInteropState := do
  let fundingOutput ← singleOutput funding.fundedAssets.outputs.head? "funding" .missingAssetOutput
  let localOutput ← singleOutput commitment.localAssets.outputs.head? "commitment.local"
    (.missingCommitmentOutput "local")
  let remoteOutput ← singleOutput commitment.remoteAssets.outputs.head? "commitment.remote"
    (.missingCommitmentOutput "remote")
  requireAssetId "commitment.local" fundingOutput.assetId localOutput.assetId
  requireAssetId "commitment.remote" fundingOutput.assetId remoteOutput.assetId
  let localBalance := commitment.localAssets.totalAmount
  let remoteBalance := commitment.remoteAssets.totalAmount
  let fundingTotal := funding.fundedAssets.totalAmount
  let balancesSum ← okOr (checkedAdd localBalance remoteBalance) .amountOverflow
  rejectIf (balancesSum ≠ fundingTotal) (.balanceMismatch fundingTotal localBalance remoteBalance)
  pure
    { interopId := deriveInteropId fundingOutput.assetId fundingTotal localBalance remoteBalance
        funding.rawDigest commitment.rawDigest
      target := {}
      status := .stoppedAtDocumentedGap
      assetId := fundingOutput.assetId
      fundingTotalAmount := fundingTotal
      localBalance
      remoteBalance
      fundingBlobDigest := funding.rawDigest
      commitmentBlobDigest := commitment.rawDigest
      fundingAssetOutputDigest := fundingOutput.outputDigest
      fundingAssetProofDigest := fundingOutput.proofDigest
      localCommitmentOutputDigest := localOutput.outputDigest
      remoteCommitmentOutputDigest := remoteOutput.outputDigest
      balanceComparison := ⟨fundingTotal, localBalance, remoteBalance, true⟩
      documentedGap := liveFundingGap }

/-- Of the asset, with an amount and a proof. -/
def CarriesAsset (assetId : Bytes32) (output : AssetOutputSummary) : Prop :=
  output.assetId = assetId ∧ output.amount ≠ 0 ∧ output.proofLen ≠ 0

/-- What the outputs of one asset in a list add up to. -/
def amountOfAsset (assetId : Bytes32) (outputs : List AssetOutputSummary) : ℕ :=
  ((outputs.filter fun output => output.assetId = assetId).map (·.amount.toNat)).sum

/-- Every output in the list carries the asset, and the total is what the list holds of it. -/
structure CountsAsset (assetId : Bytes32) (list : AssetOutputListSummary) (total : UInt64) : Prop where
  outputs : ∀ output ∈ list.outputs, CarriesAsset assetId output
  total : total.toNat = amountOfAsset assetId list.outputs

structure CountsOneAsset (funding : LightningLabsFundingBlob) (commitment : LightningLabsCommitmentBlob)
    (state : LightningLabsFundingInteropState) : Prop where
  funding : CountsAsset state.assetId funding.fundedAssets state.fundingTotalAmount
  localSide : CountsAsset state.assetId commitment.localAssets state.localBalance
  remoteSide : CountsAsset state.assetId commitment.remoteAssets state.remoteBalance

/-- The outputs after the first are of the first one's asset, with an amount and a proof. -/
def RestAgrees (list : AssetOutputListSummary) : Prop :=
  ∀ first rest, list.outputs = first :: rest → ∀ output ∈ rest, CarriesAsset first.assetId output

theorem singleOutput_eq_ok {output : Option AssetOutputSummary} {field : String}
    {err : LightningLabsFundingInteropError} {first : AssetOutputSummary}
    (h : singleOutput output field err = .ok first) :
    output = some first ∧ CarriesAsset first.assetId first := by
  simp only [singleOutput, bind_eq_ok, okOr_eq_ok, rejectIf_eq_ok, pure_eq_ok, Except.ok.injEq,
    not_or, exists_const] at h
  obtain ⟨_, houtput, ⟨hamount, hproof, -⟩, rfl⟩ := h
  exact ⟨houtput, rfl, hamount, hproof⟩

/-- If its first output carries the asset and the total is that of all outputs, a list counts
the asset only exactly if the other outputs agree with the first. -/
theorem countsAsset_iff {list : AssetOutputListSummary} {first : AssetOutputSummary}
    (hfirst : list.outputs.head? = some first) (hcarries : CarriesAsset first.assetId first)
    (htotal : list.totalAmount.toNat = (list.outputs.map (·.amount.toNat)).sum) :
    CountsAsset first.assetId list list.totalAmount ↔ RestAgrees list := by
  obtain ⟨rest, hlist⟩ := List.head?_eq_some_iff.mp hfirst
  constructor
  · intro h first' rest' hlist' output houtput
    obtain ⟨rfl, rfl⟩ := List.cons.inj (hlist.symm.trans hlist')
    exact h.outputs output (by simp [hlist, houtput])
  · intro h
    have hall : ∀ output ∈ list.outputs, CarriesAsset first.assetId output := by
      rw [hlist, List.forall_mem_cons]
      exact ⟨hcarries, h first rest hlist⟩
    refine ⟨hall, ?_⟩
    rw [htotal, amountOfAsset, List.filter_eq_self.mpr]
    intro output houtput
    exact decide_eq_true (hall output houtput).1

/-- A state built from a pair of decoded blobs counts one asset only exactly if in each of the
three lists the outputs after the first agree with the first. -/
theorem funding_counts_one_asset_iff {fundingBytes commitmentBytes : Bytes}
    {funding : LightningLabsFundingBlob} {commitment : LightningLabsCommitmentBlob}
    {state : LightningLabsFundingInteropState} (hfunding : decodeFundingBlob fundingBytes = .ok funding)
    (hcommitment : decodeCommitmentBlob commitmentBytes = .ok commitment)
    (hstate : buildStateFromFixture funding commitment = .ok state) :
    CountsOneAsset funding commitment state ↔ RestAgrees funding.fundedAssets ∧
      RestAgrees commitment.localAssets ∧ RestAgrees commitment.remoteAssets := by
  obtain ⟨-, -, _, -, -, hfunded⟩ := decodeFundingBlob_lists hfunding
  obtain ⟨-, -, ⟨_, -, -, hlocal⟩, ⟨_, -, -, hremote⟩, -, -⟩ := decodeCommitmentBlob_lists hcommitment
  simp only [buildStateFromFixture, requireAssetId, bind_eq_ok, rejectIf_eq_ok, okOr_eq_ok, pure_eq_ok,
    Except.ok.injEq, not_not, exists_const] at hstate
  obtain ⟨first, hfirst, localFirst, hlocalFirst, remoteFirst, hremoteFirst, hlocalAsset, hremoteAsset,
    sum, -, -, rfl⟩ := hstate
  obtain ⟨hhead, hcarries⟩ := singleOutput_eq_ok hfirst
  obtain ⟨hlocalHead, hlocalCarries⟩ := singleOutput_eq_ok hlocalFirst
  obtain ⟨hremoteHead, hremoteCarries⟩ := singleOutput_eq_ok hremoteFirst
  have h₁ := countsAsset_iff hhead hcarries hfunded.total
  have h₂ := countsAsset_iff hlocalHead hlocalCarries hlocal.total
  have h₃ := countsAsset_iff hremoteHead hremoteCarries hremote.total
  rw [hlocalAsset] at h₂
  rw [hremoteAsset] at h₃
  rw [← h₁, ← h₂, ← h₃]
  constructor
  · rintro ⟨hfunding, hlocalSide, hremoteSide⟩
    exact ⟨hfunding, hlocalSide, hremoteSide⟩
  · rintro ⟨hfunding, hlocalSide, hremoteSide⟩
    exact ⟨hfunding, hlocalSide, hremoteSide⟩

def fundingBytes (outputs : List Bytes) : Bytes :=
  [⟨typeOpenChannelFundedAssets, listBytes outputs⟩, ⟨typeOpenChannelDecimalDisplay, [6]⟩].flatMap
    encodeRecord

/-- A commitment of one unit of the first asset on each side. -/
def evenCommitment : Bytes :=
  commitmentBytes (listBytes [outputBytes 1 1]) (listBytes [outputBytes 1 1]) (htlcBytes [])
    (htlcBytes [])

/-- A unit each of two assets, where the commitment has two of the first. -/
def mixedFunding : Bytes := fundingBytes [outputBytes 1 1, outputBytes 2 1]

/-- The state built from two blobs, beside what they decode to. -/
def builtFrom (fundingBytes commitmentBytes : Bytes) : Option (LightningLabsFundingBlob ×
    LightningLabsCommitmentBlob × LightningLabsFundingInteropState) := do
  let funding ← (decodeFundingBlob fundingBytes).toOption
  let commitment ← (decodeCommitmentBlob commitmentBytes).toOption
  let state ← (buildStateFromFixture funding commitment).toOption
  pure (funding, commitment, state)

theorem builtFrom_eq_some {fundingBytes commitmentBytes : Bytes}
    {e : LightningLabsFundingBlob × LightningLabsCommitmentBlob × LightningLabsFundingInteropState}
    (h : builtFrom fundingBytes commitmentBytes = some e) :
    decodeFundingBlob fundingBytes = .ok e.1 ∧ decodeCommitmentBlob commitmentBytes = .ok e.2.1 ∧
      buildStateFromFixture e.1 e.2.1 = .ok e.2.2 := by
  simp only [builtFrom, Option.bind_eq_bind, Option.bind_eq_some_iff, Option.pure_def,
    Option.some.injEq] at h
  obtain ⟨funding, hfunding, commitment, hcommitment, state, hstate, rfl⟩ := h
  exact ⟨toOption_eq_some hfunding, toOption_eq_some hcommitment, toOption_eq_some hstate⟩

theorem mixed_assets_counted : ∃ funding commitment state,
    decodeFundingBlob mixedFunding = .ok funding ∧
    decodeCommitmentBlob evenCommitment = .ok commitment ∧
    buildStateFromFixture funding commitment = .ok state ∧ ¬ CountsOneAsset funding commitment state := by
  have h : (builtFrom mixedFunding evenCommitment).map (fun e =>
      e.1.fundedAssets.outputs.map fun output => output.assetId.bytes.head?) =
        some [some 1, some 2] := by
    decide +kernel
  obtain ⟨⟨funding, commitment, state⟩, hbuilt, hassets⟩ := Option.map_eq_some_iff.mp h
  obtain ⟨hfunding, hcommitment, hstate⟩ := builtFrom_eq_some hbuilt
  refine ⟨funding, commitment, state, hfunding, hcommitment, hstate, fun hone => ?_⟩
  -- both outputs of the funding blob would be of the state's asset
  have hsame : ∀ first ∈ funding.fundedAssets.outputs.map (fun output => output.assetId.bytes.head?),
      first = state.assetId.bytes.head? := by
    intro first hmem
    obtain ⟨output, houtput, rfl⟩ := List.mem_map.mp hmem
    rw [(hone.funding.outputs output houtput).1]
  rw [hassets] at hsame
  have hone := hsame (some 1) (by simp)
  have htwo := hsame (some 2) (by simp)
  exact absurd (hone.trans htwo.symm) (by decide)

/-- Two units of one asset, listed as two outputs. -/
theorem funding_counts_one_asset_iff_split : ∃ funding commitment state,
    decodeFundingBlob (fundingBytes [outputBytes 1 1, outputBytes 1 1]) = .ok funding ∧
    decodeCommitmentBlob evenCommitment = .ok commitment ∧
    (CountsOneAsset funding commitment state ↔ RestAgrees funding.fundedAssets ∧
      RestAgrees commitment.localAssets ∧ RestAgrees commitment.remoteAssets) := by
  have h : (builtFrom (fundingBytes [outputBytes 1 1, outputBytes 1 1]) evenCommitment).isSome := by
    decide +kernel
  obtain ⟨⟨funding, commitment, state⟩, hbuilt⟩ := Option.isSome_iff_exists.mp h
  obtain ⟨hfunding, hcommitment, hstate⟩ := builtFrom_eq_some hbuilt
  exact ⟨funding, commitment, state, hfunding, hcommitment,
    funding_counts_one_asset_iff hfunding hcommitment hstate⟩

end TapLdk.LightningLabsFunding
