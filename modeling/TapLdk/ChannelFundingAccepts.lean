import Mathlib
import TapLdk.ChannelFundingSpec
import TapLdk.ProofHistoryReplay

/-! Funding requests that succeed: distinct unspent proofs of one asset and genesis, under a
library that accepts consistent data, become the channel their fields determine. -/
namespace TapLdk.ChannelFundingAccepts
open TapLdk.LibraryExcept TapLdk.LibraryMaps TapLdk.LibraryBytes TapLdk.LibrarySha256
open TapLdk.Tlv TapLdk.Mssmt TapLdk.Asset TapLdk.Proof TapLdk.ProofHistory TapLdk.ProofHistoryReplay
open TapLdk.TapVm TapLdk.TaprootCommitment TapLdk.LdkFork TapLdk.ChannelFunding
open TapLdk.ChannelFundingSpec

def inputs (request : AssetChannelFundingRequest) : List ProofFile :=
  request.localInputs ++ request.remoteInputs

def inputIds (request : AssetChannelFundingRequest) : List String :=
  (inputs request).map fundingProofId

def amountOf (proofs : List ProofFile) : ℕ := (proofs.map fun p => p.amount.toNat).sum

/-- The sum of the amounts, where it fits 64 bits. -/
def sumOf (proofs : List ProofFile) : UInt64 := UInt64.ofNat (amountOf proofs)

def channelIdOf (request : AssetChannelFundingRequest) : String :=
  deriveChannelId request.localPeer request.remotePeer request.assetId request.fundingOutpoint
    request.fundingScriptKey (sumOf request.localInputs) (sumOf request.remoteInputs)
    (inputIds request)

def historyOf (request : AssetChannelFundingRequest) : FundingProofHistory :=
  fundingProofHistoryMetadataFromParts (channelIdOf request) request.assetId
    request.fundingOutpoint request.fundingScriptKey (sumOf request.localInputs)
    (sumOf request.remoteInputs) (inputIds request)

/-- The channel a request becomes, given the genesis of its proofs and the funding root. -/
def channelOf (request : AssetChannelFundingRequest) (genesis : String) (root : RootHashSum) :
    StoredAssetChannel :=
  { channelId := channelIdOf request
    localPeer := request.localPeer
    remotePeer := request.remotePeer
    assetId := request.assetId
    genesisOutpoint := genesis
    fundingOutpoint := request.fundingOutpoint
    fundingScriptKey := request.fundingScriptKey
    fundingTapAssetRoot := root
    localBalance := sumOf request.localInputs
    remoteBalance := sumOf request.remoteInputs
    totalAmount := sumOf (inputs request)
    localInputProofIds := request.localInputs.map fundingProofId
    remoteInputProofIds := request.remoteInputs.map fundingProofId
    fundingProofHistoryRecordId := (historyOf request).recordId
    fundingProofHistoryOutputId := (historyOf request).outputId
    fundingProofHistoryTransitionId := toHex (historyOf request).transitionId
    status := .funded
    monitor := .new (channelIdOf request) request.assetId (sumOf request.localInputs)
      (sumOf request.remoteInputs) root }

/-- The digest that identifies a proof as a funding input. -/
def inputDigest (proof : ProofFile) : Bytes32 :=
  sha256 (utf8 "tap-ldk:asset-channel-funding-input-history:v1" ++ utf8 (fundingProofId proof) ++
    proof.records.flatMap encodeRecord)

/-- All that a request needs but the common genesis of its proofs. -/
structure Fundable (s : AssetChannelStore) (request : AssetChannelFundingRequest) : Prop where
  localPeer : isBlank request.localPeer = false
  remotePeer : isBlank request.remotePeer = false
  outpoint : isBlank request.fundingOutpoint = false
  nonempty : inputs request ≠ []
  spendable : ∀ proof ∈ inputs request, Spendable s request.assetId proof
  distinct : (inputIds request).Nodup
  bounded : amountOf (inputs request) < 2 ^ 64
  count : (inputs request).length < 2 ^ 16
  key : HasKeyPrefix request.fundingScriptKey
  anchor : ∃ p, outpointOf request.fundingOutpoint = some p
  ldkOutpoint : ∃ o, parseLdkOutpoint request.fundingOutpoint = .ok o
  noRoot : request.expectedFundingRoot = none
  fresh : s.channels[channelIdOf request]? = none
  witnesses : ∀ index < (inputs request).length, (AssetVirtualTransition.fundingWitness
    request.assetId (fundingWitnessContext (inputIds request)) index).NonZero
  inputDigests : ∀ proof ∈ inputs request, inputDigest proof ≠ Bytes32.ZERO
  transition : (historyOf request).transitionId ≠ Bytes32.ZERO

structure Acceptable (s : AssetChannelStore) (request : AssetChannelFundingRequest)
    (genesis : String) : Prop extends Fundable s request where
  shared : ∀ proof ∈ inputs request, proof.genesisOutpoint = genesis

theorem validateFundingInputs_loop {s : AssetChannelStore} {assetId : Bytes32}
    {proofs : List ProofFile} (hspend : ∀ p ∈ proofs, Spendable s assetId p)
    {seen : BTreeMap String Unit} {ids : List String} (hseen : Collects seen ids)
    (hnodup : (ids ++ proofs.map fundingProofId).Nodup) (validated : List ValidatedFundingInput) :
    ∃ seen', proofs.foldlM (validateFundingInput assetId s.spentFundingProofs) (seen, validated) =
      .ok (seen', validated ++ proofs.map fundingInput) := by
  induction proofs generalizing seen ids validated with
  | nil => exact ⟨seen, by simp⟩
  | cons proof proofs ih =>
    have hproof := hspend proof (List.mem_cons_self ..)
    have hsplit : ids ++ (proof :: proofs).map fundingProofId =
        (ids ++ [fundingProofId proof]) ++ proofs.map fundingProofId := by simp
    rw [hsplit] at hnodup
    have hnot : fundingProofId proof ∉ ids := by
      have hconcat := (List.nodup_append.mp hnodup).1
      exact fun hmem => (List.nodup_append.mp hconcat).2.2 _ hmem _ (by simp) rfl
    obtain ⟨report, hreport⟩ : ∃ report,
        proof.verifySemanticAncestry (.forAsset assetId) = .ok report :=
      verify_of_expected hproof.verified rfl (fun e he => by
        rw [← Option.some.inj he, hproof.assetId]) (by simp [ProofValidationContext.forAsset])
        (by simp [ProofValidationContext.forAsset]) (by simp [ProofValidationContext.forAsset])
        (by simp [ProofValidationContext.forAsset]) rfl rfl
    have hstep : validateFundingInput assetId s.spentFundingProofs (seen, validated) proof =
        .ok (seen.insert (fundingProofId proof) (), validated ++ [fundingInput proof]) := by
      simp [validateFundingInput, hreport, Except.mapError, rejectIf, hproof.assetId,
        (hseen _).mpr hnot, hproof.unspent, fundingInput]
    obtain ⟨seen', hrest⟩ := ih (fun p hp => hspend p (List.mem_cons_of_mem _ hp))
      (collects_concat hseen _) hnodup (validated ++ [fundingInput proof])
    refine ⟨seen', ?_⟩
    rw [List.foldlM_cons, hstep, ok_bind, hrest, List.map_cons, List.append_assoc,
      List.singleton_append]

theorem validateFundingInputs_ok {s : AssetChannelStore} {assetId : Bytes32}
    {proofs : List ProofFile} (hspend : ∀ p ∈ proofs, Spendable s assetId p)
    (hnodup : (proofs.map fundingProofId).Nodup) :
    validateFundingInputs assetId proofs s.spentFundingProofs = .ok (proofs.map fundingInput) := by
  obtain ⟨seen, hfold⟩ := validateFundingInputs_loop hspend collects_nil
    (by rwa [List.nil_append]) []
  rw [validateFundingInputs, hfold]
  rfl

theorem sumInputs_loop {proofs : List ProofFile} {start : AssetAmount}
    (hbound : start.toNat + amountOf proofs < 2 ^ 64) :
    (proofs.map fundingInput).foldlM (fun amount input =>
        ((addAmount amount input.proof.amount).mapError .asset :
          Except AssetChannelFundingError AssetAmount)) start =
      .ok (UInt64.ofNat (start.toNat + amountOf proofs)) := by
  induction proofs generalizing start with
  | nil => simp [amountOf]
  | cons proof proofs ih =>
    have hsum : amountOf (proof :: proofs) = proof.amount.toNat + amountOf proofs := by
      simp [amountOf]
    rw [hsum] at hbound ⊢
    have hnat : (UInt64.ofNat (start.toNat + proof.amount.toNat)).toNat =
        start.toNat + proof.amount.toNat := UInt64.toNat_ofNat_of_lt' (by
      simp only [UInt64.size]
      omega)
    have hadd : addAmount start (fundingInput proof).proof.amount =
        .ok (UInt64.ofNat (start.toNat + proof.amount.toNat)) := addAmount_eq_ok.mpr hnat
    rw [List.map_cons, List.foldlM_cons, hadd]
    change List.foldlM _ (UInt64.ofNat (start.toNat + proof.amount.toNat)) _ = _
    rw [ih (by omega), hnat, Nat.add_assoc]

theorem sumInputs_ok {proofs : List ProofFile} (hbound : amountOf proofs < 2 ^ 64) :
    sumInputs (proofs.map fundingInput) = .ok (sumOf proofs) := by
  have hloop := @sumInputs_loop proofs 0 (by simpa using hbound)
  rw [sumInputs, hloop]
  simp [sumOf]

theorem sharedGenesis_ok {proofs : List ProofFile} {genesis : String} (hne : proofs ≠ [])
    (h : ∀ p ∈ proofs, p.genesisOutpoint = genesis) :
    sharedGenesis (proofs.map fundingInput) = .ok genesis := by
  cases proofs with
  | nil => exact absurd rfl hne
  | cons proof proofs =>
    have hfirst := h proof (List.mem_cons_self ..)
    have hall : ¬ ∃ input ∈ (proof :: proofs).map fundingInput,
        input.proof.genesisOutpoint ≠ (fundingInput proof).proof.genesisOutpoint := by
      rintro ⟨input, hinput, hdiffers⟩
      obtain ⟨p, hp, rfl⟩ := List.mem_map.mp hinput
      exact hdiffers ((h p hp).trans hfirst.symm)
    rw [sharedGenesis, List.map_cons, List.head?_cons, okOr, ok_bind, ← List.map_cons]
    dsimp only
    rw [rejectIf_false hall, ok_bind]
    exact congrArg Except.ok hfirst

theorem mapM_ok {ε α β : Type} {f : α → Except ε β} {g : α → β} {xs : List α}
    (h : ∀ x ∈ xs, f x = .ok (g x)) : xs.mapM f = .ok (xs.map g) := by
  induction xs with
  | nil => rfl
  | cons x xs ih =>
    rw [List.mapM_cons, h x (List.mem_cons_self ..), ok_bind,
      ih fun y hy => h y (List.mem_cons_of_mem _ hy)]
    rfl

def inputOutput (proof : ProofFile) : ProofHistoryOutput :=
  ⟨fundingProofId proof, proof.assetId, proof.amount, proof.scriptKey, proof.anchorOutpoint,
    proof.tapAssetRoot, .accepted⟩

def inputRecord (proof : ProofFile) : ProofHistoryRecord :=
  { recordId := s!"asset-channel-funding-input:{fundingProofId proof}"
    kind := .issuance
    virtualTransitionId := inputDigest proof
    inputs := []
    outputs := [inputOutput proof] }

theorem fundingInputRecord_ok (proof : ProofFile) :
    fundingInputRecord (fundingInput proof) = .ok (inputRecord proof) := by
  have hencode : (fundingInput proof).proof.encode = .ok (proof.records.flatMap encodeRecord) :=
    encode_eq proof
  rw [fundingInputRecord, fundingInputTransitionId, hencode]
  rfl

theorem fundingProofId_ne (proof : ProofFile) (channelId : String) :
    fundingProofId proof ≠ s!"asset-channel-funding-output:{channelId}" := by
  have hne : proof.assetId.bytes ≠ [] := by
    intro h
    have hlen := proof.assetId.length_eq
    simp [h] at hlen
  have hs : ∀ v < 16, 's' ≠ hexChar v := by decide
  have h := append_ne_encodeHex (a := 'a') (s := "set-channel-funding-output:".toList) channelId
    (":" ++ proof.anchorOutpoint) hs hne
  intro heq
  refine h ?_
  change "asset-channel-funding-output:" ++ channelId = _
  rw [← String.append_assoc]
  exact heq.symm

theorem inputOutput_valid {proof : ProofFile} (h : Verified proof) :
    IsOutput (inputRecord proof) (inputOutput proof) where
  outputId := by
    intro hempty
    have hmem : ':' ∈ (fundingProofId proof).toList := by
      change ':' ∈ (toHex proof.assetId ++ ":" ++ proof.anchorOutpoint).toList
      simp
    change fundingProofId proof = "" at hempty
    rw [hempty] at hmem
    simp at hmem
  allowed := rfl
  amount := h.amount
  anchor := by
    obtain ⟨_, anchor, -, hanchor, -⟩ := h.outpoints
    exact ⟨anchor, hanchor⟩
  root := h.root

theorem createdIds_inputRecords (proofs : List ProofFile) :
    createdIds (proofs.map inputRecord) = proofs.map fundingProofId := by
  induction proofs with
  | nil => rfl
  | cons proof proofs ih =>
    rw [List.map_cons, createdIds, List.flatMap_cons]
    change [fundingProofId proof] ++ createdIds (proofs.map inputRecord) = _
    rw [ih]
    rfl

theorem inputRecord_injective {p q : ProofFile}
    (h : (inputRecord p).recordId = (inputRecord q).recordId) :
    fundingProofId p = fundingProofId q := by
  change "asset-channel-funding-input:" ++ fundingProofId p =
    "asset-channel-funding-input:" ++ fundingProofId q at h
  exact String.append_right_inj _ |>.mp h

theorem inputRecords_admissible {proofs : List ProofFile} (hverified : ∀ p ∈ proofs, Verified p)
    (hdigest : ∀ p ∈ proofs, inputDigest p ≠ Bytes32.ZERO)
    (hnodup : (proofs.map fundingProofId).Nodup) (before : List ProofHistoryRecord)
    (r : ProofHistoryRecord) (after : List ProofHistoryRecord)
    (heq : proofs.map inputRecord = before ++ r :: after) : Admissible regtestPolicy before r := by
  obtain ⟨xs, rest, rfl, rfl, hrest⟩ := List.map_eq_append_iff.mp heq
  obtain ⟨p, ys, rfl, rfl, -⟩ := List.map_eq_cons_iff.mp hrest
  have hnot : fundingProofId p ∉ xs.map fundingProofId := by
    rw [List.map_append, List.nodup_append] at hnodup
    exact fun hmem => hnodup.2.2 _ hmem _ (by simp) rfl
  have hp : p ∈ xs ++ p :: ys := by simp
  refine admissible_issue rfl rfl rfl ?_ ?_ (hdigest p hp) (inputOutput_valid (hverified p hp)) ?_
    (regtest_accepts _)
  · change "asset-channel-funding-input:" ++ fundingProofId p ≠ ""
    simp
  · rw [List.map_map]
    intro hmem
    obtain ⟨q, hq, hid⟩ := List.mem_map.mp hmem
    exact hnot (List.mem_map.mpr ⟨q, hq, inputRecord_injective hid⟩)
  · rw [createdIds_inputRecords]
    exact hnot

section History

variable {s : AssetChannelStore} {request : AssetChannelFundingRequest} {genesis : String}

def fundingRoot (request : AssetChannelFundingRequest) : RootHashSum :=
  singleRoot ⟨request.assetId, request.fundingScriptKey, sumOf (inputs request)⟩

theorem sumOf_toNat {proofs : List ProofFile} (h : amountOf proofs < 2 ^ 64) :
    (sumOf proofs).toNat = amountOf proofs := UInt64.toNat_ofNat_of_lt' h

theorem sumOf_ne_zero (h : Acceptable s request genesis) : sumOf (inputs request) ≠ 0 := by
  intro hzero
  have hnat := sumOf_toNat h.bounded
  obtain ⟨proof, hproof⟩ := List.exists_mem_of_ne_nil _ h.nonempty
  have hamount := (h.spendable proof hproof).verified.amount
  have hle : proof.amount.toNat ≤ amountOf (inputs request) :=
    List.single_le_sum (fun _ _ => Nat.zero_le _) _ (List.mem_map_of_mem hproof)
  rw [hzero] at hnat
  have hpos : proof.amount.toNat ≠ 0 := fun h0 => hamount (UInt64.toNat_inj.mp h0)
  simp only [UInt64.toNat_zero] at hnat
  omega

/-- The record that locks all inputs in the channel output. -/
def lockRecord (request : AssetChannelFundingRequest) : ProofHistoryRecord :=
  fundingRecord request (historyOf request) (inputIds request) (sumOf (inputs request))
    (fundingRoot request)

theorem lockRecord_admissible (h : Acceptable s request genesis) :
    Admissible regtestPolicy ((inputs request).map inputRecord) (lockRecord request) where
  recordId := by
    change "asset-channel-funding:" ++ channelIdOf request ≠ ""
    simp
  newRecord := by
    rw [List.map_map]
    intro hmem
    obtain ⟨p, -, hid⟩ := List.mem_map.mp hmem
    exact append_ne_append (a := "asset-channel-funding-input:") (b := "asset-channel-funding:") _ _
      (by decide) hid
  transitionId := h.transition
  inputs_nil := by
    have hne : inputIds request ≠ [] := by simpa [inputIds] using h.nonempty
    simp [hne, lockRecord, fundingRecord]
  outputs_ne := by simp [lockRecord, fundingRecord]
  inputIds_nodup := by
    simpa [ProofHistoryRecord.inputIds, lockRecord, fundingRecord, Function.comp_def]
      using h.distinct
  outputIds_nodup := by simp [ProofHistoryRecord.outputIds, lockRecord, fundingRecord]
  output o ho := by
    obtain rfl := List.mem_singleton.mp ho
    refine ⟨?_, rfl, sumOf_ne_zero h, h.anchor, rfl⟩
    change "asset-channel-funding-output:" ++ channelIdOf request ≠ ""
    simp
  bounded := by
    simpa [lockRecord, fundingRecord, fundingOutput] using (sumOf (inputs request)).toNat_lt
  fresh o ho := by
    obtain rfl := List.mem_singleton.mp ho
    rw [createdIds_inputRecords]
    intro hmem
    obtain ⟨p, -, hid⟩ := List.mem_map.mp hmem
    exact fundingProofId_ne p _ hid
  anchor o _ := regtest_accepts _
  sources := by
    refine ⟨(inputs request).map inputOutput, ?_, fun o ho => ?_, fun _ => ?_⟩
    · simp [ProofHistoryRecord.inputIds, lockRecord, fundingRecord, inputIds, inputOutput,
        Function.comp_def]
    · obtain ⟨p, hp, rfl⟩ := List.mem_map.mp ho
      refine ⟨⟨inputRecord p, List.mem_map_of_mem hp, List.mem_singleton.mpr rfl⟩, rfl, ?_⟩
      intro o' ho'
      obtain rfl := List.mem_singleton.mp ho'
      exact (h.spendable p hp).assetId.symm
    · have hsum : amountOf (inputs request) = (sumOf (inputs request)).toNat :=
        (sumOf_toNat h.bounded).symm
      simpa [inputOutput, Function.comp_def, lockRecord, fundingRecord, amountOf, fundingOutput]
        using hsum

theorem validateFundingProofHistory_ok (h : Acceptable s request genesis)
    (hlocal : amountOf request.localInputs < 2 ^ 64)
    (hremote : amountOf request.remoteInputs < 2 ^ 64) :
    validateFundingProofHistory (channelIdOf request) request
      (request.localInputs.map fundingInput) (request.remoteInputs.map fundingInput)
      (sumOf (inputs request)) = .ok (historyOf request) := by
  have hroot : deriveHashSumRoot [⟨request.assetId, request.fundingScriptKey,
      sumOf (inputs request)⟩] = .ok (fundingRoot request) :=
    deriveHashSumRoot_single (sumOf_ne_zero h)
  have happend : request.localInputs.map fundingInput ++ request.remoteInputs.map fundingInput =
      (inputs request).map fundingInput := (List.map_append ..).symm
  have hids : ((inputs request).map fundingInput).map (·.proofId) = inputIds request := by
    simp [inputIds, fundingInput, Function.comp_def]
  have hrecords : ((inputs request).map fundingInput).mapM fundingInputRecord =
      .ok ((inputs request).map inputRecord) := by
    rw [mapM_ok (g := fun input => inputRecord input.proof), List.map_map]
    · rfl
    · intro input hinput
      obtain ⟨p, -, rfl⟩ := List.mem_map.mp hinput
      exact fundingInputRecord_ok p
  have hadmissible : ∀ before r after, (inputs request).map inputRecord = before ++ r :: after →
      Admissible regtestPolicy before r := inputRecords_admissible
    (fun p hp => (h.spendable p hp).verified) h.inputDigests h.distinct
  obtain ⟨issued, hissued, -⟩ := replayState_ok hadmissible
  obtain ⟨priors, history, hreplay, -, hexplained⟩ := replay_concat
    (replay_eq_ok.mpr ⟨issued, hissued, rfl⟩) (lockRecord_admissible h) (List.mem_singleton.mpr rfl)
  simp only [validateFundingProofHistory, bind_eq_ok, mapError_eq_ok, okOr_eq_ok, rejectIf_eq_ok,
    exists_const, pure_eq_ok, Except.ok.injEq, happend, hids]
  refine ⟨_, hroot, _, sumInputs_ok hlocal, _, sumInputs_ok hremote, _, hrecords, _, hreplay, _,
    hexplained, ?_, rfl⟩
  simp [explanationOf, lockRecord, fundingRecord, fundingOutput]

end History

theorem bumpCandidate_zero (candidate : Bytes32) : bumpCandidate candidate 0 = candidate := by
  refine FixedBytes.ext ?_
  change candidate.bytes.modify 31 (· + UInt8.ofNat 0) = candidate.bytes
  have hid : (fun b : UInt8 => b + UInt8.ofNat 0) = id := by
    funext b
    simp
  rw [hid, List.modify_id]

/-- Every name has a key: of zero and the candidate after it, one is a secret. -/
theorem derivePeerPublicKey_ok (peer : String) :
    ∃ key, derivePeerPublicKey acceptingLdk peer = .ok key := by
  have hsome (candidate : Bytes32) (counters : List ℕ) :
      ∃ key, firstPublicKey acceptingLdk (0 :: 1 :: counters) candidate = some key := by
    simp only [firstPublicKey, bumpCandidate_zero]
    by_cases hzero : candidate = Bytes32.ZERO
    · have hone : bumpCandidate Bytes32.ZERO 1 ≠ Bytes32.ZERO := by decide
      exact ⟨bumpCandidate Bytes32.ZERO 1, by simp [acceptingLdk, hzero, hone]⟩
    · exact ⟨candidate, by simp [acceptingLdk, hzero]⟩
  have hrange : List.range 256 = 0 :: 1 :: List.range' 2 254 := by
    rw [List.range_eq_range', List.range'_succ, List.range'_succ]
  obtain ⟨key, hkey⟩ := hsome (digestDomain "tap-ldk:ldk-peer-identity:v1" (utf8 peer))
    (List.range' 2 254)
  rw [← hrange] at hkey
  exact ⟨key, okOr_eq_ok.mpr hkey⟩

section Accepted

variable {s : AssetChannelStore} {request : AssetChannelFundingRequest} {genesis : String}

theorem amountOf_inputs (request : AssetChannelFundingRequest) : amountOf (inputs request) =
    amountOf request.localInputs + amountOf request.remoteInputs := by
  simp [amountOf, inputs]

theorem checkedAdd_sumOf (h : Acceptable s request genesis) :
    checkedAdd (sumOf request.localInputs) (sumOf request.remoteInputs) =
      some (sumOf (inputs request)) := by
  have hbound := h.bounded
  have hsum := amountOf_inputs request
  rw [checkedAdd_eq_some, sumOf_toNat hbound, sumOf_toNat (by omega), sumOf_toNat (by omega)]
  exact hsum

theorem validateWithLdkFundingHook_ok (h : Acceptable s request genesis) (root : RootHashSum)
    (commitment : Bytes32) :
    validateWithLdkFundingHook acceptingLdk request (channelIdOf request) genesis root
      (sumOf request.localInputs) (sumOf request.remoteInputs) (inputIds request).length
      commitment none = .ok () := by
  obtain ⟨outpoint, houtpoint⟩ := h.ldkOutpoint
  obtain ⟨localKey, hlocal⟩ := derivePeerPublicKey_ok request.localPeer
  obtain ⟨remoteKey, hremote⟩ := derivePeerPublicKey_ok request.remotePeer
  have hcount : ¬ 2 ^ 16 ≤ (inputIds request).length := by
    have := h.count
    simp only [inputIds, List.length_map]
    omega
  simp only [validateWithLdkFundingHook, bind_eq_ok, mapError_eq_ok, okOr_eq_ok, rejectIf_eq_ok,
    exists_const]
  exact ⟨_, rfl, _, houtpoint, _, hlocal, _, hremote, hcount, _, checkedAdd_sumOf h,
    rejectIf_false (not_not.mpr rfl)⟩

/-- The virtual transition that moves the inputs into the channel. -/
theorem fundingTransition_valid (h : Acceptable s request genesis) :
    ∃ summary, (AssetVirtualTransition.channelFunding request.assetId
      ((inputs request).map (·.amount)) (sumOf (inputs request)) request.fundingScriptKey
      (fundingWitnessContext (inputIds request))).validate = .ok summary := by
  refine AssetVirtualTransition.channelFunding_valid ?_ h.key ?_ ?_
  · simpa using h.nonempty
  · rw [sumOf_toNat h.bounded, amountOf, List.map_map]
    rfl
  · simpa using h.witnesses

theorem channelOf_valid (h : Acceptable s request genesis) {root : RootHashSum}
    {commitment : TapCommitment} (hcommitment : fundingTapCommitment request.assetId genesis
      request.fundingScriptKey (sumOf (inputs request)) = .ok commitment)
    (hroot : root = commitmentRoot commitment) (hsum : root.sum = sumOf (inputs request)) :
    AssetChannelStore.validateChannel (channelIdOf request) (channelOf request genesis root) =
      .ok () := by
  have hids : (channelOf request genesis root).inputProofIds = inputIds request :=
    (List.map_append ..).symm
  have hsome : ¬ ((channelOf request genesis root).localInputProofIds.isEmpty ∧
      (channelOf request genesis root).remoteInputProofIds.isEmpty) := by
    have hne := h.nonempty
    simp only [inputs, ne_eq, List.append_eq_nil_iff] at hne
    simpa [channelOf] using hne
  have hhistory : (channelOf request genesis root).expectedHistory = historyOf request := by
    rw [StoredAssetChannel.expectedHistory, hids]
    rfl
  have hbinding : (channelOf request genesis root).bindingId = channelIdOf request := by
    rw [StoredAssetChannel.bindingId, hids]
    rfl
  simp only [AssetChannelStore.validateChannel, StoredAssetChannel.validateFields, bind_eq_ok,
    rejectIf_eq_ok, okOr_eq_ok, exists_const, hhistory, hbinding, ne_eq, not_not]
  exact ⟨rfl, ⟨by simp [channelOf, h.localPeer, h.remotePeer], by simp [channelOf, h.outpoint], _,
    checkedAdd_sumOf h, rfl, hsum, _, hcommitment, hroot, hsome, by simp [channelOf]⟩, trivial, rfl, rfl⟩

theorem insertChannel_valid (hstore : StoreValid s) (h : Acceptable s request genesis)
    {root : RootHashSum} (hchannel : AssetChannelStore.validateChannel (channelIdOf request)
      (channelOf request genesis root) = .ok ()) :
    StoreValid (s.insertChannel (channelOf request genesis root)) := by
  have hids : (channelOf request genesis root).inputProofIds = inputIds request :=
    (List.map_append ..).symm
  have hkeys : (((channelOf request genesis root).inputProofIds.map fun id =>
      (id, (channelOf request genesis root).channelId)).map (·.1)) = inputIds request := by
    simp [hids, Function.comp_def]
  have hunspent : ∀ id ∈ inputIds request, s.spentFundingProofs[id]? = none := by
    intro id hid
    obtain ⟨p, hp, rfl⟩ := List.mem_map.mp hid
    exact (h.spendable p hp).unspent
  have hget (id : String) (c : StoredAssetChannel) :
      (s.insertChannel (channelOf request genesis root)).channels[id]? = some c ↔
        id = channelIdOf request ∧ c = channelOf request genesis root ∨
          s.channels[id]? = some c := by
    constructor
    · intro hc
      exact (get_insert_eq_some hc).imp (fun hnew => hnew) fun hold => hold.2
    · rintro (⟨rfl, rfl⟩ | hc)
      · exact get_insert_self ..
      · have hne : id ≠ channelIdOf request := by
          rintro rfl
          rw [h.fresh] at hc
          cases hc
        exact (get_insert_ne hne).trans hc
  constructor
  case version => exact hstore.version
  case channel =>
    intro id c hc
    rcases (hget id c).mp hc with ⟨rfl, rfl⟩ | hc
    · exact hchannel
    · exact hstore.channel id c hc
  case nodup =>
    intro id c hc
    rcases (hget id c).mp hc with ⟨rfl, rfl⟩ | hc
    · rw [hids]
      exact h.distinct
    · exact hstore.nodup id c hc
  case index =>
    intro proofId channelId
    simp only [hget]
    change (insertAll s.spentFundingProofs _)[proofId]? = _ ↔ _
    by_cases hid : proofId ∈ inputIds request
    · have hmem : (proofId, channelIdOf request) ∈
          (channelOf request genesis root).inputProofIds.map fun id =>
            (id, (channelOf request genesis root).channelId) :=
        List.mem_map.mpr ⟨proofId, hids ▸ hid, rfl⟩
      rw [get_insertAll_of_mem (by rw [hkeys]; exact h.distinct) hmem, Option.some.injEq]
      constructor
      · rintro rfl
        exact ⟨_, .inl ⟨rfl, rfl⟩, hids ▸ hid⟩
      · rintro ⟨c, ⟨rfl, -⟩ | hc, hpc⟩
        · rfl
        · have hspent := (hstore.index proofId channelId).mpr ⟨c, hc, hpc⟩
          rw [hunspent proofId hid] at hspent
          cases hspent
    · rw [get_insertAll_of_not_mem (by rwa [hkeys]), hstore.index]
      constructor
      · rintro ⟨c, hc, hpc⟩
        exact ⟨c, .inr hc, hpc⟩
      · rintro ⟨c, ⟨-, rfl⟩ | hc, hpc⟩
        · exact absurd (hids ▸ hpc) hid
        · exact ⟨c, hc, hpc⟩

/-- An acceptable request is funded. -/
theorem fundChannel_ok (hstore : StoreValid s) (h : Acceptable s request genesis) :
    ∃ root, s.fundChannel acceptingLdk request = .ok (channelOf request genesis root,
      s.insertChannel (channelOf request genesis root)) := by
  have hsumInputs := amountOf_inputs request
  have hbound := h.bounded
  have hlocal : ∀ p ∈ request.localInputs, Spendable s request.assetId p := fun p hp =>
    h.spendable p (List.mem_append_left _ hp)
  have hremote : ∀ p ∈ request.remoteInputs, Spendable s request.assetId p := fun p hp =>
    h.spendable p (List.mem_append_right _ hp)
  have hdistinct := h.distinct
  rw [inputIds, inputs, List.map_append, List.nodup_append] at hdistinct
  have happend : request.localInputs.map fundingInput ++ request.remoteInputs.map fundingInput =
      (inputs request).map fundingInput := (List.map_append ..).symm
  have hids : ((inputs request).map fundingInput).map (·.proofId) = inputIds request := by
    simp [inputIds, fundingInput, Function.comp_def]
  have hamounts : ((inputs request).map fundingInput).map (·.proof.amount) =
      (inputs request).map (·.amount) := by
    simp [fundingInput, Function.comp_def]
  let asset : TapAsset := ⟨.v1, request.assetId, .normal, genesis, sumOf (inputs request),
    request.fundingScriptKey, none⟩
  have hamount : asset.amount ≠ 0 := sumOf_ne_zero h
  obtain ⟨commitment, hcommitment, hsum⟩ := fromAssets_single .v2 hamount
  have htap : fundingTapCommitment request.assetId genesis request.fundingScriptKey
      (sumOf (inputs request)) = .ok commitment := mapError_eq_ok.mpr hcommitment
  have hadd : addAmount (sumOf request.localInputs) (sumOf request.remoteInputs) =
      .ok (sumOf (inputs request)) := okOr_eq_ok.mpr (checkedAdd_sumOf h)
  obtain ⟨summary, htransition⟩ := fundingTransition_valid h
  have hlocalIds : (request.localInputs.map fundingInput).map (·.proofId) =
      request.localInputs.map fundingProofId := by simp [fundingInput, Function.comp_def]
  have hremoteIds : (request.remoteInputs.map fundingInput).map (·.proofId) =
      request.remoteInputs.map fundingProofId := by simp [fundingInput, Function.comp_def]
  have hrequest : validateFundingRequest request = .ok () := by
    have hne := h.nonempty
    simp only [inputs, ne_eq, List.append_eq_nil_iff] at hne
    simp [validateFundingRequest, rejectIf, h.localPeer, h.remotePeer, h.outpoint, hne]
  have hvalid := ChannelFundingSpec.validate_eq_ok.mpr (insertChannel_valid hstore h
    (channelOf_valid h htap rfl hsum))
  refine ⟨commitmentRoot commitment, ?_⟩
  simp only [AssetChannelStore.fundChannel,
    AssetChannelStore.fundChannelWithForkCommitmentOverride, bind_eq_ok, mapError_eq_ok,
    rejectIf_eq_ok, exists_const, pure_eq_ok, Except.ok.injEq, Prod.mk.injEq]
  refine ⟨(), hrequest, _, validateFundingInputs_ok hlocal hdistinct.1, _,
    validateFundingInputs_ok hremote hdistinct.2.1, genesis, ?_⟩
  rw [happend, hids, hamounts]
  refine ⟨sharedGenesis_ok h.nonempty h.shared, _, sumInputs_ok (by omega), _,
    sumInputs_ok (by omega), _, hadd, summary, htransition, commitment, htap, _, rfl, (), ?_, ?_⟩
  · rw [h.noRoot]
    rfl
  have hfresh : ¬ (s.channels[channelIdOf request]?).isSome := by simp [h.fresh]
  refine ⟨hfresh, (), validateWithLdkFundingHook_ok h _ _, _,
    validateFundingProofHistory_ok h (by omega) (by omega), (), ?_, ?_, ?_⟩
  · rw [hlocalIds, hremoteIds]
    exact hvalid
  · rw [hlocalIds, hremoteIds]
    rfl
  · rw [hlocalIds, hremoteIds]
    rfl

end Accepted

def regtestFunding (fundingOutpoint : String) (localAnchors remoteAnchors : List String) :
    AssetChannelFundingRequest :=
  { localPeer := "alice"
    remotePeer := "bob"
    assetId := regtestAsset
    fundingOutpoint
    fundingScriptKey := regtestKey
    localInputs := localAnchors.map regtestProof
    remoteInputs := remoteAnchors.map regtestProof
    expectedFundingRoot := none }

def regtestRemoteAnchor : String :=
  "bbbbbbbbbbbbbbbbbbbbbbbbbbbbbbbbbbbbbbbbbbbbbbbbbbbbbbbbbbbbbbbb:1"

def regtestFundingOutpoint : String :=
  "cccccccccccccccccccccccccccccccccccccccccccccccccccccccccccccccc:0"

/-- Both peers bring one proof. -/
def twoPeerFunding : AssetChannelFundingRequest :=
  regtestFunding regtestFundingOutpoint [regtestAnchor] [regtestRemoteAnchor]

theorem regtestKey_prefix : HasKeyPrefix regtestKey := .inl (by decide)

theorem storeValid_default : StoreValid .default where
  version := rfl
  channel id c h := by simp [AssetChannelStore.default] at h
  nodup id c h := by simp [AssetChannelStore.default] at h
  index proofId channelId := by simp [AssetChannelStore.default]

theorem regtestProof_spendable {s : AssetChannelStore} {anchorOutpoint : String}
    (hanchor : ∃ p, outpointOf anchorOutpoint = some p ∧ outpointOf regtestGenesis ≠ some p)
    (hunspent : s.spentFundingProofs[fundingProofId (regtestProof anchorOutpoint)]? = none) :
    Spendable s regtestAsset (regtestProof anchorOutpoint) := by
  obtain ⟨p, hp, hne⟩ := hanchor
  exact ⟨regtestProof_verified hp hne, rfl, hunspent⟩

theorem twoPeerFunding_acceptable : Acceptable .default twoPeerFunding regtestGenesis where
  localPeer := by decide
  remotePeer := by decide
  outpoint := by decide
  nonempty := by simp [inputs, twoPeerFunding, regtestFunding]
  spendable proof hproof := by
    have hcases : proof = regtestProof regtestAnchor ∨ proof = regtestProof regtestRemoteAnchor := by
      simpa [inputs, twoPeerFunding, regtestFunding] using hproof
    rcases hcases with rfl | rfl
    · exact regtestProof_spendable
        ⟨⟨"aaaaaaaaaaaaaaaaaaaaaaaaaaaaaaaaaaaaaaaaaaaaaaaaaaaaaaaaaaaaaaaa", 1⟩,
          by decide +kernel, by decide +kernel⟩ (by simp [AssetChannelStore.default])
    · exact regtestProof_spendable
        ⟨⟨"bbbbbbbbbbbbbbbbbbbbbbbbbbbbbbbbbbbbbbbbbbbbbbbbbbbbbbbbbbbbbbbb", 1⟩,
          by decide +kernel, by decide +kernel⟩ (by simp [AssetChannelStore.default])
  distinct := by decide +kernel
  shared proof hproof := by
    have hcases : proof = regtestProof regtestAnchor ∨ proof = regtestProof regtestRemoteAnchor := by
      simpa [inputs, twoPeerFunding, regtestFunding] using hproof
    rcases hcases with rfl | rfl <;> rfl
  bounded := by decide +kernel
  count := by decide +kernel
  key := regtestKey_prefix
  anchor := ⟨⟨"cccccccccccccccccccccccccccccccccccccccccccccccccccccccccccccccc", 0⟩,
    by decide +kernel⟩
  ldkOutpoint := ⟨⟨⟨List.replicate 32 0xcc, rfl⟩, 0⟩, by decide +kernel⟩
  noRoot := rfl
  fresh := by simp [AssetChannelStore.default]
  witnesses := by decide +kernel
  inputDigests := by decide +kernel
  transition := by decide +kernel

end TapLdk.ChannelFundingAccepts
