import Mathlib
import TapLdk.TapVmTransfer

/-! Conservation: an accepted virtual transition creates what its inputs hold, and what
acceptance does not compare between the inputs. -/
namespace TapLdk.TapVmConservation
open TapLdk.LibraryExcept TapLdk.LibraryBytes TapLdk.LibrarySha256 TapLdk.Mssmt
open TapLdk.Asset (bytes32FromStr toHex CompressedKey AssetAmount)
open TapLdk.TapVm TapLdk.TapVmFixture TapLdk.TapVmTransfer

/-- What the acceptance of a transition that consumes inputs establishes. -/
structure Consumes (t : AssetVirtualTransition) : Prop where
  inputs : t.inputs ≠ []
  count : t.witnesses.length = t.inputs.length
  witnesses : ∀ witness ∈ t.witnesses, witness.NonZero
  conserved : (t.outputs.map (·.amount.toNat)).sum = (t.inputs.map (·.amount.toNat)).sum

theorem validateKind_spec {t : AssetVirtualTransition} {outputTotal : UInt64}
    (h : t.validateKind outputTotal = .ok ()) (hkind : t.kind ≠ .issuance) :
    t.inputs ≠ [] ∧ t.witnesses.length = t.inputs.length ∧
      (∀ witness ∈ t.witnesses, witness.NonZero) ∧
      checkedSum (t.inputs.map (·.amount)) = .ok outputTotal := by
  unfold AssetVirtualTransition.validateKind at h
  split at h
  case h_1 => exact absurd ‹t.kind = .issuance› hkind
  all_goals
    simp only [bind_eq_ok, rejectIf_eq_ok, forM_eq_ok, exists_const, ne_eq, not_not, not_or] at h
    obtain ⟨hinputs, hcount, inputTotal, htotal, rfl, hwitnesses⟩ := h
    exact ⟨hinputs, hcount, hwitnesses, htotal⟩

theorem transition_spec {t : AssetVirtualTransition} {summary : TapVmValidationSummary}
    (h : t.validate = .ok summary) (hkind : t.kind ≠ .issuance) : Consumes t := by
  simp only [AssetVirtualTransition.validate, bind_eq_ok] at h
  obtain ⟨_, -, _, -, outputTotal, houtput, _, -, _, -, _, hvalid, -⟩ := h
  obtain ⟨hinputs, hcount, hwitnesses, hinput⟩ := validateKind_spec hvalid hkind
  rw [checkedSum_eq_ok, List.map_map] at houtput hinput
  exact ⟨hinputs, hcount, hwitnesses, houtput.symm.trans hinput⟩

theorem issuance_spec {t : AssetVirtualTransition} {summary : TapVmValidationSummary}
    (h : t.validate = .ok summary) (hkind : t.kind = .issuance) : t.inputs = [] := by
  simp only [AssetVirtualTransition.validate, bind_eq_ok] at h
  obtain ⟨_, -, _, -, outputTotal, -, _, -, _, -, _, hvalid, -⟩ := h
  simp only [AssetVirtualTransition.validateKind, hkind, bind_eq_ok, rejectIf_eq_ok, not_or,
    not_not, exists_const, ne_eq] at hvalid
  exact hvalid.1.1

/-- The message whose digest is the previous id at an index. -/
def virtualPrevIdMessage (assetId : Bytes32) (index : ℕ) (context : Bytes32) : Bytes :=
  utf8 "tap-ldk:virtual-prev-id:v1" ++ assetId.bytes ++ beBytes 8 index ++ context.bytes

theorem virtualPrevIdMessage_inj {assetId context : Bytes32} {i j : ℕ} (hi : i < 2 ^ 64)
    (hj : j < 2 ^ 64)
    (h : virtualPrevIdMessage assetId i context = virtualPrevIdMessage assetId j context) :
    i = j := by
  rw [virtualPrevIdMessage, virtualPrevIdMessage, List.append_left_inj,
    List.append_right_inj] at h
  apply beBytes_inj _ _ h
  · omega
  · omega

/-- The indices of a funding whose previous ids are the digests of different messages. -/
def Clash (assetId context : Bytes32) (count : ℕ) : Prop :=
  ∃ i < count, ∃ j < count, i ≠ j ∧
    Collision (virtualPrevIdMessage assetId i context) (virtualPrevIdMessage assetId j context)

theorem channelFunding_previousIds (assetId context : Bytes32) (amounts : List UInt64)
    (total : UInt64) (key : CompressedKey) :
    (AssetVirtualTransition.channelFunding assetId amounts total key context).inputs.map
        (·.previousId) =
      (List.range amounts.length).map fun index => virtualPrevId assetId index context := by
  apply List.ext_getElem
  · simp [AssetVirtualTransition.channelFunding]
  · intro index _ _
    simp [AssetVirtualTransition.channelFunding]

/-- A funding names its inputs apart, unless the digests of two indices collide. -/
theorem channelFunding_distinct {assetId context : Bytes32} {amounts : List UInt64}
    {total : UInt64} {key : CompressedKey} (hlength : amounts.length ≤ 2 ^ 64) :
    ((AssetVirtualTransition.channelFunding assetId amounts total key context).inputs.map
      (·.previousId)).Nodup ∨ Clash assetId context amounts.length := by
  by_cases hclash : Clash assetId context amounts.length
  · exact .inr hclash
  left
  rw [channelFunding_previousIds]
  apply List.Nodup.map_on _ List.nodup_range
  intro i hi j hj heq
  rw [List.mem_range] at hi hj
  by_contra hne
  apply hclash
  refine ⟨i, hi, j, hj, hne, fun hmessage => hne ?_, heq⟩
  exact virtualPrevIdMessage_inj (by omega) (by omega) hmessage

/-- What an accepted case with inputs has spent and created. -/
structure Accepted (ripemd160 : Bytes → FixedBytes 20) (c : TapVmFixtureCase)
    (witnesses : List TapVmPrevWitness) (assetId : Bytes32) : Prop where
  count : witnesses.length = c.inputSet.length
  first : ∃ first, witnesses.head? = some first ∧
    bytes32FromStr first.prevId.assetId = .ok assetId
  nonzero : assetId ≠ Bytes32.ZERO
  inputs : ∀ input ∈ c.inputSet, InputPasses ripemd160 c witnesses input
  splits : ∀ split ∈ c.splitSet, split.key.assetId = toHex assetId ∧
    split.key.amount = split.value.asset.amount
  conserved : outputTotal c = inputTotal c
  distinct : (c.inputSet.map (·.prevId)).Nodup → outputTotal c = distinctTotal c

theorem accepted_of_validate {ripemd160 : Bytes → FixedBytes 20} {c : TapVmFixtureCase}
    {summary : TapVmValidationSummary} (h : c.validate ripemd160 = .ok summary)
    (hinputs : c.inputSet ≠ []) : ∃ witnesses assetId, c.asset.prevWitnesses = some witnesses ∧
      Accepted ripemd160 c witnesses assetId := by
  obtain ⟨witnesses, hwitnesses, htransfer⟩ := validate_spec h hinputs
  have hspec := validateTransfer_spec htransfer
  obtain ⟨first, assetId, hfirst, hassetId, hnonzero, hsplit⟩ := hspec.assetId
  refine ⟨witnesses, assetId, hwitnesses, hspec.count, ⟨first, hfirst, hassetId⟩, hnonzero,
    hspec.inputs, fun split hmem => ?_, hspec.conserved, fun hnodup => ?_⟩
  · obtain ⟨root, -, -, hsplits⟩ := (hsplit (List.ne_nil_of_mem hmem)).splits
    exact ⟨(hsplits split hmem).assetId, (hsplits split hmem).amount⟩
  · rw [hspec.conserved, distinctTotal_of_nodup hnodup]

/-- Acceptance conserves the amounts of the listed inputs. -/
theorem acceptance_conserves :
    (∀ (ripemd160 : Bytes → FixedBytes 20) (c : TapVmFixtureCase)
      (summary : TapVmValidationSummary), c.validate ripemd160 = .ok summary → c.inputSet ≠ [] →
      ∃ witnesses assetId, c.asset.prevWitnesses = some witnesses ∧
        Accepted ripemd160 c witnesses assetId) ∧
    (∀ (t : AssetVirtualTransition) (summary : TapVmValidationSummary),
      t.validate = .ok summary → (t.kind = .issuance ∧ t.inputs = []) ∨ Consumes t) ∧
    ∀ (assetId context : Bytes32) (amounts : List UInt64) (total : UInt64) (key : CompressedKey),
      amounts.length ≤ 2 ^ 64 →
      ((AssetVirtualTransition.channelFunding assetId amounts total key context).inputs.map
        (·.previousId)).Nodup ∨ Clash assetId context amounts.length := by
  refine ⟨fun ripemd160 c summary h hinputs => accepted_of_validate h hinputs,
    fun t summary h => ?_, fun assetId context amounts total key => channelFunding_distinct⟩
  by_cases hkind : t.kind = .issuance
  · exact .inl ⟨hkind, issuance_spec h hkind⟩
  · exact .inr (transition_spec h hkind)

/-- The id that a case gives to its transition. -/
def transitionAssetId (c : TapVmFixtureCase) : Option Bytes32 := do
  let witnesses ← c.asset.prevWitnesses
  let first ← witnesses.head?
  (bytes32FromStr first.prevId.assetId).toOption

/-- Assets of one genesis. -/
def SameGenesis (a b : TapVmAsset) : Prop :=
  a.genesisFirstPrevOut = b.genesisFirstPrevOut ∧ a.genesisTag = b.genesisTag ∧
    a.genesisMetaHash = b.genesisMetaHash ∧ a.genesisOutputIndex = b.genesisOutputIndex ∧
    a.genesisType = b.genesisType

/-- Acceptance spends each previous output of one asset once. -/
def SpendsEachOnce (ripemd160 : Bytes → FixedBytes 20) : Prop :=
  (∀ (c : TapVmFixtureCase) (summary : TapVmValidationSummary),
    c.validate ripemd160 = .ok summary → c.inputSet ≠ [] →
    (c.inputSet.map (·.prevId)).Nodup ∧
    (∀ input ∈ c.inputSet, (bytes32FromStr input.prevId.assetId).toOption = transitionAssetId c) ∧
    (∀ input ∈ c.inputSet, SameGenesis c.asset input.asset) ∧
    outputTotal c = distinctTotal c) ∧
  ∀ (t : AssetVirtualTransition) (summary : TapVmValidationSummary),
    t.validate = .ok summary → (t.inputs.map (·.previousId)).Nodup

def hex32 (byte : UInt8) : String := encodeHex (List.replicate 32 byte)

def sampleKey : String := encodeHex (List.replicate 33 2)

def sampleSignature : String := encodeHex (List.replicate 64 1)

/-- An asset of a genesis that depends on a byte. -/
def sampleAsset (seed : UInt8) (amount : UInt64) : TapVmAsset :=
  { version := 0
    genesisFirstPrevOut := hex32 seed ++ ":0"
    genesisTag := hex32 seed
    genesisMetaHash := hex32 seed
    genesisOutputIndex := 0
    genesisType := 0
    amount
    prevWitnesses := none
    splitCommitmentRoot := none
    scriptVersion := 0
    scriptKey := sampleKey
    groupKey := none }

def samplePrevId (seed : UInt8) : TapVmPrevId := ⟨hex32 seed ++ ":1", hex32 seed, sampleKey⟩

def sampleWitness (seed : UInt8) : TapVmPrevWitness :=
  ⟨samplePrevId seed, some [sampleSignature], none⟩

/-- Two inputs of two assets, merged into one output. -/
def mergedCase : TapVmFixtureCase :=
  { asset := { sampleAsset 1 12 with prevWitnesses := some [sampleWitness 1, sampleWitness 2] }
    splitSet := []
    inputSet := [⟨samplePrevId 1, sampleAsset 1 7⟩, ⟨samplePrevId 2, sampleAsset 2 5⟩] }

theorem sampleAsset_shape : validateAssetShape (sampleAsset 1 12) = .ok () ∧
    validateAssetShape (sampleAsset 1 7) = .ok () ∧
    validateAssetShape (sampleAsset 2 5) = .ok () := by
  decide +kernel

theorem mergedCase_ids : bytes32FromStr (hex32 1) = .ok ⟨List.replicate 32 1, rfl⟩ ∧
    bytes32FromStr (hex32 2) = .ok ⟨List.replicate 32 2, rfl⟩ := by
  decide +kernel

theorem sampleSignature_valid : validateSignatureHex sampleSignature = .ok () := by
  decide +kernel

/-- The witness that a lookup finds for each input of the merged case. -/
theorem mergedCase_witnesses :
    [sampleWitness 1, sampleWitness 2].find? (fun w => w.prevId = samplePrevId 1) =
      some (sampleWitness 1) ∧
    [sampleWitness 1, sampleWitness 2].find? (fun w => w.prevId = samplePrevId 2) =
      some (sampleWitness 2) := by
  have hne : samplePrevId 1 ≠ samplePrevId 2 := by decide +kernel
  simp [sampleWitness, hne]

/-- An input of a sample asset passes when its witness is found. -/
theorem checkInput_sample {ripemd160 : Bytes → FixedBytes 20} {witnesses : List TapVmPrevWitness}
    {checked : UInt64 × ℕ} {seed : UInt8} {amount total : UInt64}
    (hshape : validateAssetShape (sampleAsset seed amount) = .ok ())
    (hfind : witnesses.find? (fun w => w.prevId = samplePrevId seed) = some (sampleWitness seed))
    (htotal : checkedAdd checked.1 amount = some total) :
    mergedCase.checkInput ripemd160 witnesses checked ⟨samplePrevId seed, sampleAsset seed amount⟩ =
      .ok (total, checked.2 + 1) := by
  have hsame : sameAssetDefinition mergedCase.asset (sampleAsset seed amount) = true := rfl
  have hstack : validateWitnessStack ripemd160 [sampleSignature] = .ok () := sampleSignature_valid
  have hamount : (sampleAsset seed amount).amount = amount := rfl
  simp [TapVmFixtureCase.checkInput, hshape, hsame, hfind, sampleWitness, hstack, hamount, htotal,
    rejectIf, okOr]

theorem mergedCase_accepted (ripemd160 : Bytes → FixedBytes 20) :
    ∃ summary, mergedCase.validate ripemd160 = .ok summary := by
  obtain ⟨hwhole, hone, htwo⟩ := sampleAsset_shape
  obtain ⟨hfirst, hsecond⟩ := mergedCase_witnesses
  have hshape : validateAssetShape mergedCase.asset = .ok () := hwhole
  have hid : bytes32FromStr (sampleWitness 1).prevId.assetId = .ok ⟨List.replicate 32 1, rfl⟩ :=
    mergedCase_ids.1
  have hwitnesses : mergedCase.asset.prevWitnesses = some [sampleWitness 1, sampleWitness 2] := rfl
  have hinputs : mergedCase.inputSet.foldlM
      (mergedCase.checkInput ripemd160 [sampleWitness 1, sampleWitness 2]) (0, 0) =
        .ok (12, 2) := by
    rw [mergedCase, List.foldlM_cons, ← mergedCase, checkInput_sample hone hfirst rfl, ok_bind,
      List.foldlM_cons, checkInput_sample htwo hsecond rfl]
    rfl
  refine ⟨⟨.transfer, 2, 1, 12, 12, 2, none, 2⟩, ?_⟩
  rw [TapVmFixtureCase.validate, hshape, ok_bind, hwitnesses]
  simp [TapVmFixtureCase.validateTransfer, hid, hinputs, rejectIf, okOr, Except.mapError]
  rfl

theorem acceptance_conserves_merged : ∃ witnesses assetId,
    mergedCase.asset.prevWitnesses = some witnesses ∧
      Accepted (fun _ => .zero 20) mergedCase witnesses assetId := by
  obtain ⟨summary, haccepted⟩ := mergedCase_accepted fun _ => .zero 20
  exact acceptance_conserves.1 _ mergedCase summary haccepted (List.cons_ne_nil _ _)

/-- A case that spends outputs of two assets of different geneses is accepted. -/
theorem merged_assets_accepted : ¬ ∃ ripemd160, SpendsEachOnce ripemd160 := by
  rintro ⟨ripemd160, honce, -⟩
  obtain ⟨summary, haccepted⟩ := mergedCase_accepted ripemd160
  have hne : mergedCase.inputSet ≠ [] := List.cons_ne_nil _ _
  obtain ⟨-, hids, -, -⟩ := honce mergedCase summary haccepted hne
  have hsecond := hids ⟨samplePrevId 2, sampleAsset 2 5⟩ (by simp [mergedCase])
  have hspent : bytes32FromStr (samplePrevId 2).assetId = .ok ⟨List.replicate 32 2, rfl⟩ :=
    mergedCase_ids.2
  have hfirst : transitionAssetId mergedCase = some ⟨List.replicate 32 1, rfl⟩ := by
    have hid : bytes32FromStr (sampleWitness 1).prevId.assetId =
        .ok ⟨List.replicate 32 1, rfl⟩ := mergedCase_ids.1
    simp [transitionAssetId, mergedCase, hid, Except.toOption]
  rw [hfirst, hspent] at hsecond
  exact absurd hsecond (by decide)

end TapLdk.TapVmConservation
