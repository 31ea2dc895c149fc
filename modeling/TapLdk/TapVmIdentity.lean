import Mathlib
import TapLdk.TapVm

/-! What the id of a virtual transition commits to. The message that is hashed counts each of
its lists, so it determines the transition; validation fixes the one field it leaves out. -/
namespace TapLdk.TapVmIdentity
open TapLdk.LibraryExcept TapLdk.LibraryBytes TapLdk.LibrarySha256 TapLdk.Mssmt TapLdk.Asset
open TapLdk.TapVm TapLdk.TapVm.AssetVirtualTransition

def inputBytes (input : AssetVirtualInput) : Bytes :=
  u64Bytes input.amount ++ input.previousId.bytes

def outputBytes (output : AssetVirtualOutput) : Bytes :=
  u32Bytes output.outputIndex ++ (u64Bytes output.amount ++ output.scriptKey.bytes)

def witnessBytes (witness : AssetVirtualWitness) : Bytes :=
  witness.nonce.bytes ++ witness.authorization.bytes

theorem inputBytes_injective : Function.Injective inputBytes := by
  rintro ⟨amount, previousId⟩ ⟨amount', previousId'⟩ h
  obtain ⟨hamount, hprevious⟩ := List.append_inj h (by simp)
  obtain rfl : amount = amount' := u64Bytes_inj.mp hamount
  obtain rfl : previousId = previousId' := FixedBytes.ext hprevious
  rfl

theorem outputBytes_injective : Function.Injective outputBytes := by
  rintro ⟨amount, scriptKey, outputIndex⟩ ⟨amount', scriptKey', outputIndex'⟩ h
  obtain ⟨hindex, hrest⟩ := List.append_inj h (by simp)
  obtain ⟨hamount, hkey⟩ := List.append_inj hrest (by simp)
  obtain rfl : outputIndex = outputIndex' :=
    UInt32.toNat_inj.mp (beBytes_inj outputIndex.toNat_lt outputIndex'.toNat_lt hindex)
  obtain rfl : amount = amount' := u64Bytes_inj.mp hamount
  obtain rfl : scriptKey = scriptKey' := FixedBytes.ext hkey
  rfl

theorem witnessBytes_injective : Function.Injective witnessBytes := by
  rintro ⟨nonce, authorization⟩ ⟨nonce', authorization'⟩ h
  obtain ⟨hnonce, hauthorization⟩ := List.append_inj h (by simp [FixedBytes.length_eq])
  obtain rfl : nonce = nonce' := FixedBytes.ext hnonce
  obtain rfl : authorization = authorization' := FixedBytes.ext hauthorization
  rfl

theorem inputBytes_length (input : AssetVirtualInput) : (inputBytes input).length = 40 := by
  simp [inputBytes, FixedBytes.length_eq]

theorem outputBytes_length (output : AssetVirtualOutput) : (outputBytes output).length = 45 := by
  simp [outputBytes, FixedBytes.length_eq]

theorem witnessBytes_length (witness : AssetVirtualWitness) : (witnessBytes witness).length = 64 := by
  simp [witnessBytes, FixedBytes.length_eq]

/-- Vectors have fewer than `2 ^ 64` items. -/
structure Sized (t : AssetVirtualTransition) : Prop where
  inputs : t.inputs.length < 2 ^ 64
  outputs : t.outputs.length < 2 ^ 64
  witnesses : t.witnesses.length < 2 ^ 64

theorem asU8_injective : Function.Injective TapVmTransitionKind.asU8 := by
  intro kind kind' h
  cases kind <;> cases kind' <;> first | rfl | cases h

/-- The message determines every field of the transition but the signing domain. -/
theorem digestPreimage_inj {t t' : AssetVirtualTransition} {domain : String} (ht : Sized t)
    (ht' : Sized t') (h : t.digestPreimage domain = t'.digestPreimage domain) :
    t = { t' with signingDomain := t.signingDomain } := by
  simp only [digestPreimage, List.append_assoc] at h
  have hdomain := List.append_cancel_left h
  obtain ⟨hversion, hkind⟩ := List.append_inj hdomain rfl
  obtain ⟨hkind, hasset⟩ := List.append_inj hkind rfl
  obtain ⟨hasset, hinputs⟩ := List.append_inj hasset (by simp [FixedBytes.length_eq])
  obtain ⟨hinputs, houtputs⟩ := counted_append_inj (f := inputBytes) inputBytes_length
    inputBytes_injective ht.inputs ht'.inputs hinputs
  obtain ⟨houtputs, hwitnesses⟩ := counted_append_inj (f := outputBytes) outputBytes_length
    outputBytes_injective ht.outputs ht'.outputs houtputs
  have hwitnesses : beBytes 8 t.witnesses.length ++ (t.witnesses.flatMap witnessBytes ++ []) =
      beBytes 8 t'.witnesses.length ++ (t'.witnesses.flatMap witnessBytes ++ []) := by
    rw [List.append_nil, List.append_nil]
    exact hwitnesses
  obtain ⟨hwitnesses, -⟩ := counted_append_inj witnessBytes_length witnessBytes_injective
    ht.witnesses ht'.witnesses hwitnesses
  obtain ⟨version, kind, assetId, signingDomain, inputs, outputs, witnesses⟩ := t
  obtain ⟨version', kind', assetId', signingDomain', inputs', outputs', witnesses'⟩ := t'
  obtain rfl : version = version' := List.head_eq_of_cons_eq hversion
  obtain rfl : kind = kind' := asU8_injective (List.head_eq_of_cons_eq hkind)
  obtain rfl : assetId = assetId' := FixedBytes.ext hasset
  obtain rfl : inputs = inputs' := hinputs
  obtain rfl : outputs = outputs' := houtputs
  obtain rfl : witnesses = witnesses' := hwitnesses
  rfl

def inputTotal (t : AssetVirtualTransition) : ℕ := (t.inputs.map fun i => i.amount.toNat).sum

def outputTotal (t : AssetVirtualTransition) : ℕ := (t.outputs.map fun o => o.amount.toNat).sum

/-- What an accepted transition does to the amount of its asset. -/
structure Balanced (t : AssetVirtualTransition) : Prop where
  conserved : t.kind ≠ .issuance → inputTotal t = outputTotal t
  issued : t.kind = .issuance → t.inputs = [] ∧ 0 < outputTotal t

theorem validate_spec {t : AssetVirtualTransition} {summary : TapVmValidationSummary}
    (h : t.validate = .ok summary) : t.signingDomain = .taprootAssets ∧ Balanced t := by
  simp only [validate, bind_eq_ok, rejectIf_eq_ok, exists_const, checkedSum_eq_ok, List.map_map,
    ne_eq, not_not] at h
  obtain ⟨-, hdomain, total, htotal, -, _, -, _, hkind, -⟩ := h
  change total.toNat = outputTotal t at htotal
  unfold validateKind at hkind
  split at hkind
  · rename_i hissuance
    simp only [bind_eq_ok, rejectIf_eq_ok, exists_const, not_or, not_not] at hkind
    obtain ⟨⟨hinputs, -⟩, hpos⟩ := hkind
    have hne : total.toNat ≠ 0 := fun hzero => hpos (UInt64.toNat_inj.mp hzero)
    exact ⟨hdomain, fun hne => absurd hissuance hne, fun _ => ⟨hinputs, by omega⟩⟩
  all_goals
    rename_i hother
    simp only [bind_eq_ok, rejectIf_eq_ok, exists_const, checkedSum_eq_ok, List.map_map, ne_eq,
      not_not] at hkind
    obtain ⟨-, -, total', htotal', rfl, -⟩ := hkind
    exact ⟨hdomain, fun _ => htotal'.symm.trans htotal, fun h => by rw [hother] at h; cases h⟩

def txDomain : String := "tap-ldk:asset-virtual-tx:v2"

theorem txId_eq_ok {t : AssetVirtualTransition} {id : Bytes32} :
    t.txId = .ok id ↔ (∃ summary, t.validate = .ok summary) ∧
      sha256 (t.digestPreimage txDomain) = id := by
  simp only [txId, bind_eq_ok, pure_eq_ok, Except.ok.injEq, digest, txDomain, exists_and_right]

/-- Accepted transitions with one id are equal, or their messages collide; and an accepted
transition conserves the amount, unless it is an issuance, which creates all that it holds. -/
theorem txId_commits :
    (∀ t t' id, Sized t → Sized t' → t.txId = .ok id → t'.txId = .ok id →
      t = t' ∨ Collision (t.digestPreimage txDomain) (t'.digestPreimage txDomain)) ∧
    ∀ (t : AssetVirtualTransition) summary, t.validate = .ok summary → Balanced t := by
  refine ⟨fun t t' id ht ht' hid hid' => ?_, fun t summary h => (validate_spec h).2⟩
  obtain ⟨⟨summary, hvalid⟩, hsha⟩ := txId_eq_ok.mp hid
  obtain ⟨⟨summary', hvalid'⟩, hsha'⟩ := txId_eq_ok.mp hid'
  refine (eq_or_collision (hsha.trans hsha'.symm)).imp_left fun hmessage => ?_
  have heq := digestPreimage_inj ht ht' hmessage
  rw [(validate_spec hvalid).1, ← (validate_spec hvalid').1] at heq
  exact heq

/-- Five units come into being. -/
def sampleIssuance : AssetVirtualTransition :=
  { version := 0
    kind := .issuance
    assetId := ⟨List.replicate 32 42, rfl⟩
    signingDomain := .taprootAssets
    inputs := []
    outputs := [⟨5, localScriptKey, 0⟩]
    witnesses := [] }

theorem sampleIssuance_valid : sampleIssuance.validate =
    .ok ⟨.issuance, 0, 1, 0, 5, 0, none, 0⟩ := by
  decide +kernel

/-- An issuance is accepted, and its totals differ. -/
theorem issuance_not_conserved :
    ∃ summary, sampleIssuance.validate = .ok summary ∧
      inputTotal sampleIssuance ≠ outputTotal sampleIssuance :=
  ⟨_, sampleIssuance_valid, by decide⟩

/-- Three and two units are sent on as four and one. -/
def sampleTransfer : AssetVirtualTransition :=
  { sampleIssuance with
    kind := .transfer
    inputs := [⟨3, .replicate 32 1⟩, ⟨2, .replicate 32 2⟩]
    outputs := [⟨4, localScriptKey, 0⟩, ⟨1, remoteScriptKey, 1⟩]
    witnesses := [⟨.replicate 32 8, .replicate 32 9⟩, ⟨.replicate 32 9, .replicate 32 8⟩] }

theorem sampleTransfer_valid : sampleTransfer.validate = .ok ⟨.transfer, 2, 2, 5, 5, 2, none, 2⟩ := by
  decide +kernel

/-- The ids of the issuance and of the transfer are two, and both conserve the amount. -/
theorem txId_commits_transfer : ∃ id id', sampleIssuance.txId = .ok id ∧
    sampleTransfer.txId = .ok id' ∧
    (id = id' → Collision (sampleIssuance.digestPreimage txDomain)
      (sampleTransfer.digestPreimage txDomain)) ∧
    Balanced sampleIssuance ∧ Balanced sampleTransfer ∧
    inputTotal sampleTransfer = outputTotal sampleTransfer := by
  have hissuance : Sized sampleIssuance := by constructor <;> decide
  have htransfer : Sized sampleTransfer := by constructor <;> decide
  have hid := txId_eq_ok.mpr ⟨⟨_, sampleIssuance_valid⟩, rfl⟩
  have hid' := txId_eq_ok.mpr ⟨⟨_, sampleTransfer_valid⟩, rfl⟩
  have hbalanced := txId_commits.2 _ _ sampleTransfer_valid
  refine ⟨_, _, hid, hid', fun hsame => ?_, txId_commits.2 _ _ sampleIssuance_valid, hbalanced,
    hbalanced.conserved (by decide)⟩
  rw [← hsame] at hid'
  exact (txId_commits.1 _ _ _ hissuance htransfer hid hid').resolve_left (by decide)

end TapLdk.TapVmIdentity
