import Mathlib
import TapLdk.LivePeer

/-! What the server of a payment session puts together: the chunks of the two proofs, taken in
the order of the session, complete each proof at its last chunk. -/
namespace TapLdk.LivePeerReassembly
open TapLdk.LibraryExcept TapLdk.LibraryBytes TapLdk.LibrarySha256 TapLdk.LibraryStateful
open TapLdk.LibraryJson TapLdk.Mssmt TapLdk.Asset TapLdk.RfqInvoice TapLdk.AssetPayment
open TapLdk.PeerMessage
open TapLdk.ProofReassembly TapLdk.LivePeer

theorem toString_length (n : UInt64) : (utf8 (toString n)).length ≤ 80 := by
  have hdigits : (Nat.repr n.toNat).length ≤ 20 := by
    refine Nat.repr_length _ _ (by omega) ?_
    have hlt := n.toNat_lt
    omega
  have hlist := utf8_length_le (Nat.repr n.toNat).toList
  rw [String.ofList_toList, String.length_toList] at hlist
  change (utf8 (Nat.repr n.toNat)).length ≤ 80
  omega

theorem toHex_utf8_length (b : Bytes32) : (utf8 (toHex b)).length = 64 := by
  rw [toHex, utf8_encodeHex_length, b.length_eq]

/-- A text between an asset id and an amount, which is short if its fixed parts are. -/
theorem text_length (a b : String) (assetId : Bytes32) (amount : UInt64)
    (h : (utf8 a).length + (utf8 b).length ≤ 50) :
    (utf8 (a ++ toHex assetId ++ b ++ toString amount)).length ≤ 200 := by
  have hhex := toHex_utf8_length assetId
  have hamount := toString_length amount
  simp only [utf8_append, List.length_append]
  omega

theorem inputProof_length (assetId : Bytes32) (amount : UInt64) :
    (inputProof assetId amount).length ≤ 200 := by
  refine text_length "tap-ldk live asset input proof asset=" " amount=" assetId amount ?_
  decide

theorem outputProof_length (assetId : Bytes32) (amount : UInt64) :
    (outputProof assetId amount).length ≤ 200 := by
  refine text_length "tap-ldk live asset output proof asset=" " amount=" assetId amount ?_
  decide

theorem text_ne_nil (a b : String) (assetId : Bytes32) (amount : UInt64) (h : utf8 a ≠ []) :
    utf8 (a ++ toHex assetId ++ b ++ toString amount) ≠ [] := by
  intro hnil
  simp only [utf8_append, List.append_eq_nil_iff] at hnil
  exact h hnil.1.1.1

theorem inputProof_ne_nil (assetId : Bytes32) (amount : UInt64) :
    inputProof assetId amount ≠ [] := by
  refine text_ne_nil "tap-ldk live asset input proof asset=" " amount=" assetId amount ?_
  decide

theorem outputProof_ne_nil (assetId : Bytes32) (amount : UInt64) :
    outputProof assetId amount ≠ [] := by
  refine text_ne_nil "tap-ldk live asset output proof asset=" " amount=" assetId amount ?_
  decide

def sessionChunks (proof : Bytes) : List ProofChunk :=
  (List.range (chunkTotal proof sessionChunkSize)).map (chunkAt proof sessionChunkSize)

section Chunks

variable {proof : Bytes}

theorem chunkTotal_lt (h : proof.length ≤ 200) : chunkTotal proof sessionChunkSize < 2 ^ 32 := by
  have hle : chunkTotal proof sessionChunkSize ≤ proof.length + sessionChunkSize - 1 :=
    Nat.div_le_self ..
  rw [sessionChunkSize] at hle ⊢
  omega

theorem takeChunks (hproof : proof ≠ []) (hshort : proof.length ≤ 200) {count : ℕ}
    (hcount : count ≤ chunkTotal proof sessionChunkSize) : ∃ r,
      ((List.range count).map (chunkAt proof sessionChunkSize)).foldlM
        (fun s chunk => takeChunk s.1 s.2 chunk) (.empty, 0) =
          .ok (r, if count = chunkTotal proof sessionChunkSize then proof.length else 0) ∧
      Holds proof sessionChunkSize (List.range count) r := by
  have hsize : 1 ≤ sessionChunkSize := by decide
  have htotal := chunkTotal_lt hshort
  have hpos := total_pos hproof hsize
  induction count with
  | zero =>
    refine ⟨.empty, ?_, holds_empty⟩
    rw [if_neg (by omega)]
    rfl
  | succ count ih =>
    obtain ⟨r, hfold, hholds⟩ := ih (by omega)
    have hbefore : count ≠ chunkTotal proof sessionChunkSize := by omega
    rw [if_neg hbefore] at hfold
    have hnew : count ∉ List.range count := by simp
    obtain ⟨hnext, -, hlast, hmiddle⟩ := push_chunk hholds hsize htotal
      (fun i hi => by have := List.mem_range.mp hi; omega) hcount
    rw [← List.range_succ] at hnext hlast hmiddle
    rw [List.range_succ, List.map_append, List.map_singleton, foldlM_concat, hfold, ok_bind]
    refine ⟨_, ?_, List.range_succ ▸ hnext⟩
    by_cases hend : count + 1 = chunkTotal proof sessionChunkSize
    · have hfull : ∀ i < chunkTotal proof sessionChunkSize, i ∈ List.range (count + 1) := by
        intro i hi
        rw [List.mem_range]
        omega
      rw [if_pos hend, takeChunk, ← Prod.eta ((push _).call r), hlast hnew hfull]
    · have hmissing : ¬ ∀ i < chunkTotal proof sessionChunkSize, i ∈ List.range (count + 1) := by
        intro hall
        have hmem := hall (count + 1) (by omega)
        simp at hmem
      obtain ⟨received, hincomplete⟩ := hmiddle hnew hmissing
      rw [if_neg hend, takeChunk, ← Prod.eta ((push _).call r), hincomplete]

end Chunks

/-- The messages of a session, at its price. -/
def sessionMessages (assetId : Bytes32) (assetAmount btcMsat : UInt64) : List AssetPeerMessage :=
  (sessionChunks (inputProof assetId assetAmount)).map
      (.txAssetInputProof (repeated32 51) assetId assetAmount) ++
    (sessionChunks (outputProof assetId assetAmount)).map
      (.txAssetOutputProof (repeated32 51) assetId assetAmount) ++
    [.assetFundingCreated (repeated32 51)
        (utf8 s!"asset-channel-funding:{toHex assetId}:{assetAmount}"),
      .assetFundingAccepted (repeated32 51) true none,
      .rfqRequest (repeated32 61) assetId assetAmount (repeated32 63),
      .rfqAccept (repeated32 61) (repeated32 62) btcMsat 1700000600 42,
      .assetHtlcBlob assetId assetAmount (repeated32 61) (repeated32 63)
        (utf8 s!"asset-htlc-final-hop:{toHex (repeated32 62)}:{assetAmount}")]

theorem sampleMessages_eq_ok {assetId : Bytes32} {assetAmount : UInt64}
    {messages : List AssetPeerMessage} :
    sampleAssetPaymentSessionMessages assetId assetAmount = .ok messages ↔
      ∃ btcMsat, checkedMul assetAmount 10 = some btcMsat ∧
        messages = sessionMessages assetId assetAmount btcMsat := by
  have hsize : 1 ≤ sessionChunkSize := by decide
  simp only [sampleAssetPaymentSessionMessages, bind_eq_ok, okOr_eq_ok, mapError_eq_ok,
    split_ok (inputProof_ne_nil assetId assetAmount) hsize,
    split_ok (outputProof_ne_nil assetId assetAmount) hsize, Except.ok.injEq, pure_eq_ok,
    exists_eq_left']
  constructor
  · rintro ⟨btcMsat, hmsat, rfl⟩
    exact ⟨btcMsat, hmsat, rfl⟩
  · rintro ⟨btcMsat, hmsat, rfl⟩
    exact ⟨btcMsat, hmsat, rfl⟩

/-- What the server keeps of a message. -/
def takeMessage (progress : SessionProgress) (message : AssetPeerMessage) :
    Except LivePeerError SessionProgress := do
  let progress ← progress.take message
  pure { progress with
    orderedMessageKinds := progress.orderedMessageKinds ++ [messageKind message] }

theorem takeMessages_inputs (pendingChannelId assetId : Bytes32) (amount : UInt64)
    (chunks : List ProofChunk) (progress : SessionProgress) :
    (chunks.map (.txAssetInputProof pendingChannelId assetId amount)).foldlM takeMessage progress =
      (chunks.foldlM (fun s chunk => takeChunk s.1 s.2 chunk)
        (progress.inputReassembler, progress.inputProofReassembledLen)).map fun s =>
          { progress with
            inputReassembler := s.1
            inputProofReassembledLen := s.2
            orderedMessageKinds := progress.orderedMessageKinds ++
              List.replicate chunks.length "tx_asset_input_proof" } := by
  induction chunks generalizing progress with
  | nil => simp [Except.map]
  | cons chunk chunks ih =>
    rw [List.map_cons, List.foldlM_cons, List.foldlM_cons, takeMessage, SessionProgress.take]
    cases takeChunk progress.inputReassembler progress.inputProofReassembledLen chunk with
    | error e => rfl
    | ok s =>
      simp only [ok_bind, pure_eq_ok, ih, messageKind, List.append_assoc, List.length_cons]
      rfl

theorem takeMessages_outputs (pendingChannelId assetId : Bytes32) (amount : UInt64)
    (chunks : List ProofChunk) (progress : SessionProgress) :
    (chunks.map (.txAssetOutputProof pendingChannelId assetId amount)).foldlM takeMessage progress =
      (chunks.foldlM (fun s chunk => takeChunk s.1 s.2 chunk)
        (progress.outputReassembler, progress.outputProofReassembledLen)).map fun s =>
          { progress with
            outputReassembler := s.1
            outputProofReassembledLen := s.2
            orderedMessageKinds := progress.orderedMessageKinds ++
              List.replicate chunks.length "tx_asset_output_proof" } := by
  induction chunks generalizing progress with
  | nil => simp [Except.map]
  | cons chunk chunks ih =>
    rw [List.map_cons, List.foldlM_cons, List.foldlM_cons, takeMessage, SessionProgress.take]
    cases takeChunk progress.outputReassembler progress.outputProofReassembledLen chunk with
    | error e => rfl
    | ok s =>
      simp only [ok_bind, pure_eq_ok, ih, messageKind, List.append_assoc, List.length_cons]
      rfl

/-- The messages of a session complete both proofs. -/
theorem takeMessages_session (assetId : Bytes32) (assetAmount btcMsat : UInt64) : ∃ progress,
    (sessionMessages assetId assetAmount btcMsat).foldlM takeMessage {} = .ok progress ∧
      progress.inputProofReassembledLen = (inputProof assetId assetAmount).length ∧
      progress.outputProofReassembledLen = (outputProof assetId assetAmount).length ∧
      progress.orderedMessageKinds =
        (sessionMessages assetId assetAmount btcMsat).map messageKind := by
  obtain ⟨r, hinput, -⟩ := takeChunks (inputProof_ne_nil assetId assetAmount)
    (inputProof_length assetId assetAmount) le_rfl
  obtain ⟨r', houtput, -⟩ := takeChunks (outputProof_ne_nil assetId assetAmount)
    (outputProof_length assetId assetAmount) le_rfl
  rw [if_pos rfl] at hinput houtput
  have hinputs : (sessionChunks (inputProof assetId assetAmount)).foldlM
      (fun s chunk => takeChunk s.1 s.2 chunk) (({} : SessionProgress).inputReassembler,
        ({} : SessionProgress).inputProofReassembledLen) =
          .ok (r, (inputProof assetId assetAmount).length) := hinput
  rw [sessionMessages, List.foldlM_append, List.foldlM_append, takeMessages_inputs, hinputs,
    Except.map, ok_bind, takeMessages_outputs]
  have houtputs : (sessionChunks (outputProof assetId assetAmount)).foldlM
      (fun s chunk => takeChunk s.1 s.2 chunk) (({} : SessionProgress).outputReassembler,
        ({} : SessionProgress).outputProofReassembledLen) =
          .ok (r', (outputProof assetId assetAmount).length) := houtput
  rw [houtputs, Except.map, ok_bind]
  refine ⟨_, rfl, rfl, rfl, ?_⟩
  simp [messageKind, Function.comp_def]

end TapLdk.LivePeerReassembly
