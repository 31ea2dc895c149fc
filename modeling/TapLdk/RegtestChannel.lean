import Mathlib
import TapLdk.AssetCloseAccepts

/-! The channel of two regtest proofs, and its closes at the first and at the second commitment.
The hashes these closes depend on are computed here. -/
namespace TapLdk.RegtestChannel
open TapLdk.LibraryExcept TapLdk.LibraryMaps TapLdk.LibraryBytes TapLdk.LibrarySha256
open TapLdk.LibraryRuns TapLdk.Mssmt TapLdk.Asset TapLdk.Proof TapLdk.ProofHistory TapLdk.TapVm TapLdk.LdkFork
open TapLdk.ChannelFunding TapLdk.ChannelFundingAccepts TapLdk.Commitment
open TapLdk.CommitmentSteps TapLdk.CommitmentStory TapLdk.CommitmentAccepts TapLdk.AssetClose
open TapLdk.AssetCloseSpec TapLdk.AssetCloseAccepts

def regtestChannelId : String := "9b626e0bf029075552c61481494227747c78e0f5166633bd1a4c032dd5ef7447"

theorem channelIdOf_twoPeer : channelIdOf twoPeerFunding = regtestChannelId := by decide +kernel

def regtestCloseGenesis : String :=
  "3bc631fc91635ea73851a4bb9f8efe33a5f76b41bd3fb2b1e4c7bba3c7bae988:0"

theorem closeGenesis_regtest : closeGenesisOutpoint regtestAsset = regtestCloseGenesis := by
  decide +kernel

/-- A state of the channel: all that a close of it hashes. -/
structure RegtestState (localBalance remoteBalance number : UInt64) (output : String)
    (transition : Bytes32) (state : AssetCommitmentChannelState) : Prop where
  channelId : state.channelId = regtestChannelId
  assetId : state.assetId = regtestAsset
  signingKey : state.assetSigningKey = regtestKey
  fundingOutpoint : state.fundingOutpoint = regtestFundingOutpoint
  total : state.totalAmount = 2000000
  localBalance : state.localBalance = localBalance
  remoteBalance : state.remoteBalance = remoteBalance
  number : state.latestCommitmentNumber = number
  output : state.latestProofHistoryOutputId = output
  transition : state.latestProofHistoryTransitionId = transition

/-- The hashes of a close. -/
structure CloseTexts where
  closeId : String
  localAnchor : String
  remoteAnchor : String
  localDigest : Bytes32
  remoteDigest : Bytes32

def firstClose : CloseTexts where
  closeId := "94dd8dda5227077a4e9f2764c62e0930f087955269fa260ca2eef6eeb292eab4"
  localAnchor := "5ffff7e9b68f98bc82d61f22585274d6599df036d07993777999a1f472d9b1d6:0"
  remoteAnchor := "798e0867f816cf0bbcb55c43e58cb8d064e8facbabcd1f474125cc231edfdb2b:1"
  localDigest := ⟨beBytes 32 0x0ff137bda81dbcb7b6c908b383153b89cc9f4489ec7fadb02be473196c3c74ca,
    beBytes_length ..⟩
  remoteDigest := ⟨beBytes 32 0x9204252b0f6ca4f1bc87191e213335c4e7856688b7baffa4395bdf13b16c03b4,
    beBytes_length ..⟩

def secondClose : CloseTexts where
  closeId := "532fb1a35158fceb39fccbef70a20cab7edbf9fac23e5f123be37fae89690a18"
  localAnchor := "9cf23c2dfb5fdcacbcd12b10eb251b499d46a765c9a8ce208d96d9b515807ffb:0"
  remoteAnchor := "18546744f0c2cfa8ca3fa6080e8747f1f43f004841ade34c930eeb63dad9a50e:1"
  localDigest := ⟨beBytes 32 0xeae8a863032c2092ef457dcf3a85fc8feb968120bf82c487174a1c57a7711965,
    beBytes_length ..⟩
  remoteDigest := ⟨beBytes 32 0xd1ef2a0a0af98d5ffdd8cf43dabf3656a246b09f449a90cb0b0518263694a4e1,
    beBytes_length ..⟩

/-- A close exports the proof of an asset of its own: the genesis is not that of its inputs. -/
def exportedProof (anchorOutpoint : String) : ProofFile :=
  { regtestProof anchorOutpoint with genesisOutpoint := regtestCloseGenesis }

/-- The hashes that identify the transitions of a close. -/
def transitionHashes (number : UInt64) (output : String) (t : CloseTexts) : List Bytes32 :=
  [sha256 (utf8 "tap-ldk:native-asset-close-prior-input:v1" ++ lengthPrefixed t.closeId ++
      regtestAsset.bytes ++ u64Bytes 2000000 ++ lengthPrefixed regtestFundingOutpoint),
    closeTransitionId t.closeId regtestAsset number 1000000 1000000 output t.localDigest
      t.remoteDigest,
    closeExportTransitionId t.closeId .localOwner s!"native-asset-close-output:{t.closeId}:local"
      t.localDigest,
    closeExportTransitionId t.closeId .remoteOwner s!"native-asset-close-output:{t.closeId}:remote"
      t.remoteDigest]

structure Computed (number : UInt64) (output : String) (t : CloseTexts) : Prop where
  closeId : closeIdFromParts regtestChannelId regtestAsset number 1000000 1000000 output = t.closeId
  localAnchor : closeAnchorOutpoint regtestChannelId .localOwner number regtestAsset 1000000
    regtestKey = t.localAnchor
  remoteAnchor : closeAnchorOutpoint regtestChannelId .remoteOwner number regtestAsset 1000000
    regtestKey = t.remoteAnchor
  localDigest : proofHandoffDigest .localOwner (proofHex (exportedProof t.localAnchor)) =
    t.localDigest
  remoteDigest : proofHandoffDigest .remoteOwner (proofHex (exportedProof t.remoteAnchor)) =
    t.remoteDigest
  outpoints : outpointOf regtestCloseGenesis ≠ none ∧
    ∀ anchor ∈ [t.localAnchor, t.remoteAnchor], outpointOf anchor ≠ none ∧
      outpointOf anchor ≠ outpointOf regtestCloseGenesis
  hashes : ∀ hash ∈ transitionHashes number output t, hash ≠ Bytes32.ZERO

def fundingOutput : String :=
  "asset-channel-funding-output:9b626e0bf029075552c61481494227747c78e0f5166633bd1a4c032dd5ef7447"

def updateDigest : String := "3bbe7c5a83fd0a5e7783eb86ea2708209d8584b77852dbca5c9df5084277a0cc"

def updateOutput : String :=
  "asset-commitment-output:9b626e0bf029075552c61481494227747c78e0f5166633bd1a4c032dd5ef7447:1:" ++
    updateDigest

/-- The digest of an exported proof, without the text it is exported as. -/
theorem proofHandoffDigest_proofHex (owner : CloseOwnerSide) (proof : ProofFile) :
    proofHandoffDigest owner (proofHex proof) =
      sha256 (utf8 "tap-ldk:native-close-proof-handoff:v1" ++ utf8 owner.asStr ++
        (beBytes 8 (2 * (proof.records.flatMap Tlv.encodeRecord).length) ++
          (proof.records.flatMap Tlv.encodeRecord).flatMap fun (b : UInt8) =>
            [UInt8.ofNat (hexChar (b.toNat / 16)).toNat,
              UInt8.ofNat (hexChar (b.toNat % 16)).toNat])) := by
  rw [proofHandoffDigest, lengthPrefixed, proofHex, utf8_encodeHex_length, utf8_encodeHex]

theorem firstClose_computed : Computed 0 fundingOutput firstClose where
  closeId := by decide +kernel
  localAnchor := by decide +kernel
  remoteAnchor := by decide +kernel
  localDigest := by
    rw [proofHandoffDigest_proofHex]
    decide +kernel
  remoteDigest := by
    rw [proofHandoffDigest_proofHex]
    decide +kernel
  outpoints := by decide +kernel
  hashes := by decide +kernel

theorem secondClose_computed : Computed 1 updateOutput secondClose where
  closeId := by decide +kernel
  localAnchor := by decide +kernel
  remoteAnchor := by decide +kernel
  localDigest := by
    rw [proofHandoffDigest_proofHex]
    decide +kernel
  remoteDigest := by
    rw [proofHandoffDigest_proofHex]
    decide +kernel
  outpoints := by decide +kernel
  hashes := by decide +kernel

section Closable

variable {number : UInt64} {output : String} {transition id : Bytes32} {t : CloseTexts}
  {state : AssetCommitmentChannelState}

theorem closeProof_regtest (h : RegtestState 1000000 1000000 number output transition state)
    (owner : CloseOwnerSide) : closeProof state owner regtestKey 1000000 =
      exportedProof (closeAnchorOutpoint regtestChannelId owner number regtestAsset 1000000
        regtestKey) := by
  rw [closeProof, h.assetId, h.channelId, h.number, singleRoot_regtest, closeGenesis_regtest]
  rfl

theorem exportedProof_verified {anchorOutpoint : String} (hanchor : outpointOf anchorOutpoint ≠ none)
    (hgenesis : outpointOf regtestCloseGenesis ≠ none)
    (hne : outpointOf anchorOutpoint ≠ outpointOf regtestCloseGenesis) :
    Verified (exportedProof anchorOutpoint) := by
  obtain ⟨anchor, hanchor⟩ := Option.ne_none_iff_exists'.mp hanchor
  obtain ⟨genesis, hgenesis⟩ := Option.ne_none_iff_exists'.mp hgenesis
  rw [hanchor, hgenesis, ne_eq, Option.some.injEq] at hne
  have hasset : regtestAsset ≠ Bytes32.ZERO := by decide
  have hhash : regtestRoot.hash ≠ Bytes32.ZERO := by decide
  have hamount : (1000000 : AssetAmount) ≠ 0 := by decide
  exact ⟨rfl, rfl, rfl, hasset, hamount, hhash, singleRoot_regtest.symm, genesis, anchor, hgenesis,
    hanchor, Ne.symm hne⟩

theorem acceptedClose_closeId (id : Bytes32) (h : RegtestState 1000000 1000000 number output transition state)
    (hc : Computed number output t) :
    (acceptedClose state id regtestKey regtestKey).closeId = t.closeId := by
  have hid : (acceptedClose state id regtestKey regtestKey).closeId = closeIdFromParts
      state.channelId state.assetId state.latestCommitmentNumber state.localBalance
      state.remoteBalance state.latestProofHistoryOutputId := rfl
  rw [hid, h.channelId, h.assetId, h.number, h.localBalance, h.remoteBalance, h.output, hc.closeId]

/-- The digests of the two exported proofs. -/
theorem handoffDigests_regtest (h : RegtestState 1000000 1000000 number output transition state)
    (hc : Computed number output t) :
    proofHandoffDigest .localOwner (proofHex (closeProof state .localOwner regtestKey
        state.localBalance)) = t.localDigest ∧
      proofHandoffDigest .remoteOwner (proofHex (closeProof state .remoteOwner regtestKey
        state.remoteBalance)) = t.remoteDigest := by
  have hlocal := closeProof_regtest h .localOwner
  have hremote := closeProof_regtest h .remoteOwner
  rw [hc.localAnchor] at hlocal
  rw [hc.remoteAnchor] at hremote
  rw [h.localBalance, h.remoteBalance, hlocal, hremote]
  exact ⟨hc.localDigest, hc.remoteDigest⟩

theorem closable_regtest (h : RegtestState 1000000 1000000 number output transition state)
    (hc : Computed number output t) (hid : bytes32FromStr regtestChannelId = .ok id)
    (hprior : ∃ x, output = "asset-" ++ x) (htransition : transition ≠ Bytes32.ZERO) :
    Closable state id regtestKey regtestKey := by
  have hlocal := closeProof_regtest h .localOwner
  have hremote := closeProof_regtest h .remoteOwner
  rw [hc.localAnchor] at hlocal
  rw [hc.remoteAnchor] at hremote
  have hcloseId := acceptedClose_closeId id h hc
  obtain ⟨hgenesis, hanchors⟩ := hc.outpoints
  obtain ⟨hlocalAnchor, hremoteAnchor⟩ : _ ∧ _ := by
    simpa only [List.forall_mem_cons, List.not_mem_nil, false_implies, implies_true, and_true]
      using hanchors
  have hhashes := hc.hashes
  simp only [transitionHashes, List.forall_mem_cons, List.not_mem_nil, false_implies, implies_true,
    and_true] at hhashes
  obtain ⟨hinput, hclose, hlocalExport, hremoteExport⟩ := hhashes
  obtain ⟨hlocalDigest, hremoteDigest⟩ := handoffDigests_regtest h hc
  constructor
  case channelId => rwa [h.channelId]
  case balances =>
    rw [h.localBalance, h.remoteBalance, h.total]
    decide
  case total =>
    rw [h.total]
    decide
  case anchor =>
    rw [h.fundingOutpoint]
    exact Option.isSome_iff_exists.mp (by decide +kernel)
  case prior => rwa [h.output]
  case localKey => exact regtestKey_prefix
  case remoteKey => exact regtestKey_prefix
  case localProof =>
    rw [h.localBalance, hlocal]
    exact exportedProof_verified hlocalAnchor.1 hgenesis hlocalAnchor.2
  case remoteProof =>
    rw [h.remoteBalance, hremote]
    exact exportedProof_verified hremoteAnchor.1 hgenesis hremoteAnchor.2
  case priorTransition =>
    rw [h.transition]
    exact htransition
  case priorInput =>
    have heq : closePriorInputTransitionId (acceptedClose state id regtestKey regtestKey) =
        sha256 (utf8 "tap-ldk:native-asset-close-prior-input:v1" ++
          lengthPrefixed (acceptedClose state id regtestKey regtestKey).closeId ++
          state.assetId.bytes ++ u64Bytes state.totalAmount ++
          lengthPrefixed state.fundingOutpoint) := rfl
    rw [heq, hcloseId, h.assetId, h.total, h.fundingOutpoint]
    exact hinput
  case closeTransition =>
    have heq : (acceptedClose state id regtestKey regtestKey).closeProofHistoryTransitionId =
        closeTransitionId (acceptedClose state id regtestKey regtestKey).closeId state.assetId
          state.latestCommitmentNumber state.localBalance state.remoteBalance
          state.latestProofHistoryOutputId
          (proofHandoffDigest .localOwner (proofHex (closeProof state .localOwner regtestKey
            state.localBalance)))
          (proofHandoffDigest .remoteOwner (proofHex (closeProof state .remoteOwner regtestKey
            state.remoteBalance))) := rfl
    rw [heq, hcloseId, hlocalDigest, hremoteDigest, h.assetId, h.number, h.localBalance,
      h.remoteBalance, h.output]
    exact hclose
  case localExport =>
    have heq : (acceptedClose state id regtestKey regtestKey).localExportProofHistoryTransitionId =
        closeExportTransitionId (acceptedClose state id regtestKey regtestKey).closeId .localOwner
          s!"native-asset-close-output:{(acceptedClose state id regtestKey regtestKey).closeId}:local"
          (proofHandoffDigest .localOwner (proofHex (closeProof state .localOwner regtestKey
            state.localBalance))) := rfl
    rw [heq, hcloseId, hlocalDigest]
    exact hlocalExport
  case remoteExport =>
    have heq : (acceptedClose state id regtestKey regtestKey).remoteExportProofHistoryTransitionId =
        closeExportTransitionId (acceptedClose state id regtestKey regtestKey).closeId .remoteOwner
          s!"native-asset-close-output:{(acceptedClose state id regtestKey regtestKey).closeId}:remote"
          (proofHandoffDigest .remoteOwner (proofHex (closeProof state .remoteOwner regtestKey
            state.remoteBalance))) := rfl
    rw [heq, hcloseId, hremoteDigest]
    exact hremoteExport

end Closable

def regtestTransition : Bytes32 := (historyOf twoPeerFunding).transitionId

theorem regtest_takenOver {genesis : String} {root : RootHashSum} {transition : Bytes32}
    {state : AssetCommitmentChannelState}
    (h : TakenOver (channelOf twoPeerFunding genesis root) transition state) :
    RegtestState 1000000 1000000 0 fundingOutput transition state where
  channelId := h.funded.channelId.trans channelIdOf_twoPeer
  assetId := h.funded.assetId
  signingKey := h.funded.signingKey
  fundingOutpoint := h.funded.fundingOutpoint
  total := h.funded.totalAmount
  localBalance := h.funded.localBalance
  remoteBalance := h.funded.remoteBalance
  number := h.funded.number
  output := by
    have heq : (channelOf twoPeerFunding genesis root).fundingProofHistoryOutputId =
        s!"asset-channel-funding-output:{channelIdOf twoPeerFunding}" := rfl
    rw [h.funded.latestOutput, heq, channelIdOf_twoPeer]
    rfl
  transition := h.latestTransition

def regtestNonce : Bytes32 := ⟨beBytes 32 1, beBytes_length ..⟩

/-- The transition of an update that leaves the balances as they are. -/
def evenUpdateTxId : Bytes32 :=
  ⟨beBytes 32 0xfde2b112320078bd1606e1f8a83f0807bb76fedf94d06626ba3e338bfa693803, beBytes_length ..⟩

theorem evenUpdateTxId_eq : (AssetVirtualTransition.channelBalanceUpdate .htlcSettlement
    regtestAsset 2000000 1000000 1000000 regtestNonce).digest "tap-ldk:asset-virtual-tx:v2" =
      evenUpdateTxId := by
  decide +kernel

/-- The replay root of the first update's record. -/
def firstReplayRoot (localBalance remoteBalance : UInt64) (txId : Bytes32) : Bytes32 :=
  sha256 (utf8 "tap-ldk:asset-commitment-proof-history:v1" ++ utf8 regtestChannelId ++
    regtestAsset.bytes ++ u64Bytes 1 ++ u64Bytes localBalance ++ u64Bytes remoteBalance ++
    (commitmentStateDigest regtestChannelId regtestAsset 1 localBalance remoteBalance).bytes ++
    txId.bytes ++ lengthPrefixed fundingOutput)

def firstOutput (localBalance remoteBalance : UInt64) (txId : Bytes32) : String :=
  s!"asset-commitment-output:{regtestChannelId}:{(1 : UInt64)}:{toHex
    (firstReplayRoot localBalance remoteBalance txId)}"

theorem firstOutput_eq (localBalance remoteBalance : UInt64) (txId : Bytes32) :
    firstOutput localBalance remoteBalance txId =
      s!"asset-commitment-output:{regtestChannelId}:{(1 : UInt64)}:{toHex
        (firstReplayRoot localBalance remoteBalance txId)}" := rfl

theorem firstOutput_asset (localBalance remoteBalance : UInt64) (txId : Bytes32) :
    ∃ x, firstOutput localBalance remoteBalance txId = "asset-" ++ x := by
  have hprefix : "asset-commitment-output:" = "asset-" ++ "commitment-output:" := by decide +kernel
  rw [firstOutput_eq]
  simp only [toString_string, hprefix, String.append_assoc]
  exact ⟨_, rfl⟩

theorem updateOutput_eq : firstOutput 1000000 1000000 evenUpdateTxId = updateOutput := by
  decide +kernel

/-- The first update of the channel, for amounts that its balances cover. -/
theorem first_built {transition : Bytes32} {state : AssetCommitmentChannelState}
    (hunused : state.usedAssetNonces = ∅) (h : RegtestState 1000000 1000000 0 fundingOutput transition state)
    {sent received localBalance remoteBalance : UInt64}
    (hmoved : state.movedBalances sent received = .ok (localBalance, remoteBalance)) :
    ∃ request snapshot, state.buildCommitmentUpdate sent received regtestNonce = .ok request ∧
      Built state sent received regtestNonce request snapshot ∧
      snapshot.localBalance = localBalance ∧ snapshot.remoteBalance = remoteBalance ∧
      request.virtualTxId = (AssetVirtualTransition.channelBalanceUpdate .htlcSettlement
        regtestAsset 2000000 localBalance remoteBalance regtestNonce).digest
          "tap-ldk:asset-virtual-tx:v2" := by
  have hnumber : checkedAdd state.latestCommitmentNumber 1 = some 1 := by
    rw [h.number]
    rfl
  have hbalances : checkedAdd state.localBalance state.remoteBalance = some state.totalAmount := by
    rw [h.localBalance, h.remoteBalance, h.total]
    rfl
  have hnonce : state.usedAssetNonces[regtestNonce]? = none := by
    rw [hunused]
    simp
  have hwitness : (AssetVirtualTransition.updateWitness state.assetId regtestNonce).NonZero := by
    rw [h.assetId]
    decide +kernel
  obtain ⟨request, snapshot, hcall, hbuilt, hlocal, hremote⟩ := buildCommitmentUpdate_ok hnumber
    hmoved hbalances hnonce hwitness
  refine ⟨request, snapshot, hcall, hbuilt, hlocal, hremote, ?_⟩
  rw [hbuilt.virtualTxId, hlocal, hremote, AssetCommitmentChannelState.updateTransition, h.assetId,
    h.total]

/-- The first update as it is built and applied. -/
structure FirstUpdate (state : AssetCommitmentChannelState)
    (sent received localBalance remoteBalance : UInt64) (txId : Bytes32)
    (request : AssetCommitmentUpdateRequest) (snapshot : AssetCommitmentSnapshot)
    (updated : AssetCommitmentChannelState) : Prop where
  built : state.buildCommitmentUpdate sent received regtestNonce = .ok request
  virtualTxId : request.virtualTxId = txId
  balances : snapshot.localBalance = localBalance ∧ snapshot.remoteBalance = remoteBalance
  applied : (AssetCommitmentStore.default.putChannel regtestChannelId state).applyUpdate
    acceptingLdk request = .ok (snapshot, (AssetCommitmentStore.default.putChannel
      regtestChannelId state).putChannel regtestChannelId updated)
  root : updated.monitorBlob.fundingRoot = state.monitorBlob.fundingRoot
  state : RegtestState localBalance remoteBalance 1 (firstOutput localBalance remoteBalance txId)
    txId updated

/-- The initialised channel applies every update that its balances cover. -/
theorem first_update {channel : StoredAssetChannel} {id : Bytes32}
    {state : AssetCommitmentChannelState} (hchannelId : channel.channelId = regtestChannelId)
    (hinit : Initializable channel id regtestTransition)
    (hstate : TakenOver channel regtestTransition state)
    (h : RegtestState 1000000 1000000 0 fundingOutput regtestTransition state)
    {sent received localBalance remoteBalance : UInt64} {txId : Bytes32}
    (hmoved : state.movedBalances sent received = .ok (localBalance, remoteBalance))
    (hdigest : (AssetVirtualTransition.channelBalanceUpdate .htlcSettlement regtestAsset 2000000
      localBalance remoteBalance regtestNonce).digest "tap-ldk:asset-virtual-tx:v2" = txId)
    (hne : txId ≠ Bytes32.ZERO) : ∃ request snapshot updated,
      FirstUpdate state sent received localBalance remoteBalance txId request snapshot
        updated := by
  have hvalid := putChannel_valid storeValid_default (takenOver_valid hinit hstate)
  rw [h.channelId] at hvalid
  obtain ⟨request, snapshot, hbuild, hbuilt, hlocal, hremote, htx⟩ :=
    first_built hstate.funded.nonces h hmoved
  rw [hdigest] at htx
  have hchannel : request.channelId = regtestChannelId := hbuilt.valid.channelId.trans h.channelId
  have hnext : request.nextCommitmentNumber = 1 := by
    rw [← UInt64.toNat_inj, hbuilt.valid.number, h.number]
    rfl
  have hsnapshot := hbuilt.valid.snapshot
  rw [hlocal, hremote, hnext, h.channelId, h.assetId, h.total] at hsnapshot
  obtain ⟨blob, -, hroot, hcall⟩ := applyUpdate_ok acceptingLdk_acceptsOwnBlobs hvalid
    (by rw [hchannel]; exact get_insert_self ..)
    (by rw [h.channelId, ← hchannelId]; exact hinit.channelId)
    (story_zero hinit.funded hstate.funded) (takenOver_fits hinit hstate) hbuilt.valid
    (by rw [htx]; exact hne) ⟨_, rfl⟩
  rw [h.channelId] at hcall
  refine ⟨request, snapshot, _, hbuild, htx, ⟨hlocal, hremote⟩, hcall, hroot, ?_⟩
  constructor
  case channelId => exact h.channelId
  case assetId => exact h.assetId
  case signingKey => exact h.signingKey
  case fundingOutpoint => exact h.fundingOutpoint
  case total => exact h.total
  case localBalance => exact hlocal
  case remoteBalance => exact hremote
  case number => exact congrArg AssetCommitmentSnapshot.commitmentNumber hsnapshot
  case transition => exact htx
  case output =>
    have heq : (updatedState state request snapshot blob).latestProofHistoryOutputId =
        (state.commitmentProofHistoryMetadataFromParts snapshot.commitmentNumber
          snapshot.localBalance snapshot.remoteBalance snapshot.stateDigest request.virtualTxId
          state.latestProofHistoryOutputId).outputId := rfl
    rw [heq, htx, hsnapshot, h.output, AssetCommitmentChannelState.commitmentProofHistoryMetadataFromParts,
      h.channelId, h.assetId]
    exact (firstOutput_eq ..).symm

/-- The channel initialised in an empty store and updated once. -/
structure RegtestRun (c : FundedChannel acceptingLdk) (root : RootHashSum) (id : Bytes32)
    (state updated : AssetCommitmentChannelState) (request : AssetCommitmentUpdateRequest)
    (snapshot : AssetCommitmentSnapshot) : Prop where
  channel : c.channel = channelOf twoPeerFunding regtestGenesis root
  funds : AssetChannelStore.default.fundChannel acceptingLdk twoPeerFunding =
    .ok (c.channel, AssetChannelStore.default.insertChannel c.channel)
  channelId : c.channel.channelId = regtestChannelId
  parsed : bytes32FromStr regtestChannelId = .ok id
  initializable : Initializable c.channel id regtestTransition
  takenOver : TakenOver c.channel regtestTransition state
  initializes : AssetCommitmentStore.default.initializeChannel acceptingLdk c.channel =
    .ok (state, AssetCommitmentStore.default.putChannel regtestChannelId state)
  before : RegtestState 1000000 1000000 0 fundingOutput regtestTransition state
  updates : (AssetCommitmentStore.default.putChannel regtestChannelId state).applyUpdate
    acceptingLdk request = .ok (snapshot, (AssetCommitmentStore.default.putChannel regtestChannelId
      state).putChannel regtestChannelId updated)
  after : RegtestState 1000000 1000000 1 updateOutput evenUpdateTxId updated
  transition : regtestTransition ≠ Bytes32.ZERO

section Run

variable {c : FundedChannel acceptingLdk} {root : RootHashSum} {id : Bytes32}
  {state updated : AssetCommitmentChannelState} {request : AssetCommitmentUpdateRequest}
  {snapshot : AssetCommitmentSnapshot}

theorem regtest_initialized (h : AssetCommitmentStore.default.initializeChannel acceptingLdk
      c.channel = .ok (state, AssetCommitmentStore.default.putChannel regtestChannelId state)) :
    (commitmentMachine acceptingLdk).run [.initializeChannel c] =
      AssetCommitmentStore.default.putChannel regtestChannelId state := by
  rw [Machine.run, List.foldl_cons, List.foldl_nil]
  simp only [commitmentMachine, h, storeAfter_ok]

theorem regtest_held (h : RegtestRun c root id state updated request snapshot) :
    ((commitmentMachine acceptingLdk).run [.initializeChannel c]).channels[regtestChannelId]? =
      some state := by
  rw [regtest_initialized h.initializes]
  exact get_insert_self ..

theorem closable_before (h : RegtestRun c root id state updated request snapshot) :
    Closable state id regtestKey regtestKey :=
  closable_regtest h.before firstClose_computed h.parsed
    ⟨"channel-funding-output:" ++ regtestChannelId, by decide +kernel⟩ h.transition

theorem closable_after (h : RegtestRun c root id state updated request snapshot) :
    Closable updated id regtestKey regtestKey :=
  closable_regtest h.after secondClose_computed h.parsed
    ⟨"commitment-output:" ++ regtestChannelId ++ ":1:" ++ updateDigest, by decide +kernel⟩ (by decide)

end Run

theorem regtest_run : ∃ c root id state updated request snapshot,
    RegtestRun c root id state updated request snapshot := by
  obtain ⟨c, root, id, state, hchannel, hfund, hinit, hstate, hcall⟩ :=
    initialized_of_acceptable twoPeerFunding_acceptable (by decide +kernel)
  have hid : c.channel.channelId = regtestChannelId := by
    rw [hchannel]
    exact channelIdOf_twoPeer
  have hregtest := regtest_takenOver (hchannel ▸ hstate)
  rw [hid] at hcall
  have hmoved : state.movedBalances 0 0 = .ok (1000000, 1000000) := by
    rw [AssetCommitmentChannelState.movedBalances, hregtest.localBalance, hregtest.remoteBalance]
    rfl
  obtain ⟨request, snapshot, updated, hupdate⟩ := first_update hid hinit hstate hregtest hmoved
    evenUpdateTxId_eq (by decide)
  have hupdated := hupdate.state
  rw [updateOutput_eq] at hupdated
  exact ⟨c, root, id, state, updated, request, snapshot, hchannel, hfund, hid, hid ▸ hinit.channelId,
    hinit, hstate, hcall, hregtest, hupdate.applied, hupdated, hinit.funding⟩

/-- The transition of an update that moves all that the local side has. -/
def drainTxId : Bytes32 :=
  ⟨beBytes 32 0x6d491fb54527d286755d2409c80fc87ea4cb644aac2bb3190c12b0357243f901, beBytes_length ..⟩

theorem drainTxId_eq : (AssetVirtualTransition.channelBalanceUpdate .htlcSettlement regtestAsset
    2000000 0 2000000 regtestNonce).digest "tap-ldk:asset-virtual-tx:v2" = drainTxId := by
  decide +kernel

/-- The initialised channel can send all it has. -/
theorem RegtestRun.drains {c : FundedChannel acceptingLdk} {root : RootHashSum} {id : Bytes32}
    {state updated : AssetCommitmentChannelState} {request : AssetCommitmentUpdateRequest}
    {snapshot : AssetCommitmentSnapshot} (h : RegtestRun c root id state updated request snapshot) :
    ∃ request' snapshot' updated',
      FirstUpdate state 1000000 0 0 2000000 drainTxId request' snapshot' updated' := by
  have hmoved : state.movedBalances 1000000 0 = .ok (0, 2000000) := by
    rw [AssetCommitmentChannelState.movedBalances, h.before.localBalance, h.before.remoteBalance]
    rfl
  exact first_update h.channelId h.initializable h.takenOver h.before hmoved drainTxId_eq (by decide)

end TapLdk.RegtestChannel
