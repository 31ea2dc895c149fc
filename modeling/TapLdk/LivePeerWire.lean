import Mathlib
import TapLdk.LivePeerReassembly

/-! The messages of a live peer on the wire: each is written in its own way, and those of a
payment session fit into frames. -/
namespace TapLdk.LivePeerWire
open TapLdk.LibraryExcept TapLdk.LibraryBytes TapLdk.LibraryFrames TapLdk.LibraryJson TapLdk.Mssmt
open TapLdk.Asset TapLdk.RfqInvoice TapLdk.AssetPayment TapLdk.AssetChannelNegotiation
open TapLdk.Tlv TapLdk.TlvCanonical TapLdk.TlvFields TapLdk.PeerMessage TapLdk.ProofReassembly
open TapLdk.LivePeer TapLdk.LivePeerReassembly

theorem bits_inj {bs bs' : List UInt16} : bits bs = bits bs' ↔ bs = bs' := by
  rw [bits, bits, Value.array.injEq]
  refine (List.map_injective_iff.mpr fun b b' hb => ?_).eq_iff
  exact UInt16.toNat_inj.mp (Value.number.inj hb)

theorem payload_inj {bs bs' : Bytes} :
    bs.map (fun b => Value.number b.toNat) = bs'.map (fun b => .number b.toNat) ↔ bs = bs' := by
  refine (List.map_injective_iff.mpr fun b b' hb => ?_).eq_iff
  exact UInt8.toNat_inj.mp (Value.number.inj hb)

theorem toHex_inj {b b' : Bytes32} : toHex b = toHex b' ↔ b = b' := toHex_injective.eq_iff

theorem channelTypeValue_inj {t t' : NegotiatedChannelType} :
    channelTypeValue t = channelTypeValue t' ↔ t = t' := by
  cases t <;> cases t' <;> simp [channelTypeValue, toHex_inj, UInt16.toNat_inj]

theorem wireValue_injective : Function.Injective wireValue := by
  intro m m' h
  cases m <;> cases m' <;>
    simp [wireValue, bits_inj, payload_inj, toHex_inj, channelTypeValue_inj, UInt16.toNat_inj,
      UInt64.toNat_inj] at h ⊢ <;>
    exact h

/-- Messages are told apart by their bytes. -/
theorem wireBytes_injective : Function.Injective wireBytes :=
  toVec_injective.comp wireValue_injective

/-- The counts of a message are those of machine integers. -/
def Counts : LivePeerWireMessage → Prop
  | .sessionComplete _ messageCount => messageCount < 2 ^ 64
  | .sessionCompleteAck _ _ messageCount inputLen outputLen =>
    messageCount < 2 ^ 64 ∧ inputLen < 2 ^ 64 ∧ outputLen < 2 ^ 64
  | _ => True

/-- Reading undoes writing. -/
def Lossless (fromSlice : FromSlice) : Prop :=
  ∀ message, Counts message → fromSlice (wireBytes message) = some message

/-- Some reading of the messages undoes their writing. -/
theorem exists_lossless : ∃ fromSlice, Lossless fromSlice :=
  ⟨Function.partialInv wireBytes, fun message _ =>
    Function.partialInv_left wireBytes_injective message⟩

/-- A number of messages, one after the other. -/
def parseFrames (fromSlice : FromSlice) :
    ℕ → Bytes → Except LivePeerError (List LivePeerWireMessage × Bytes)
  | 0, stream => pure ([], stream)
  | count + 1, stream => do
    let (message, stream) ← parseFrame fromSlice stream
    let (messages, stream) ← parseFrames fromSlice count stream
    pure (message :: messages, stream)

theorem frameBytes_eq_ok {m : LivePeerWireMessage} {bytes : Bytes} :
    frameBytes m = .ok bytes ↔ (wireBytes m).length ≤ maxFrameLen ∧ bytes = frame (wireBytes m) := by
  rw [frameBytes, mapError_eq_ok, writeFrame_eq_ok]

theorem framesBytes_eq_ok {written : List LivePeerWireMessage} {frames : List Bytes} :
    written.mapM frameBytes = .ok frames ↔
      (∀ raw ∈ written.map wireBytes, raw.length ≤ maxFrameLen) ∧
        frames = (written.map wireBytes).map frame := by
  rw [mapM_eq_ok]
  simp only [frameBytes_eq_ok]
  induction written generalizing frames with
  | nil => simp
  | cons m written ih =>
    simp only [List.forall₂_cons_left_iff, ih, List.map_cons, List.forall_mem_cons]
    constructor
    · rintro ⟨_, _, ⟨hm, rfl⟩, ⟨hfits, rfl⟩, rfl⟩
      exact ⟨⟨hm, hfits⟩, rfl⟩
    · rintro ⟨⟨hm, hfits⟩, rfl⟩
      exact ⟨_, _, ⟨hm, rfl⟩, ⟨hfits, rfl⟩, rfl⟩

theorem parseFrames_eq_ok {fromSlice : FromSlice} {count : ℕ} {stream rest : Bytes}
    {read : List LivePeerWireMessage} : parseFrames fromSlice count stream = .ok (read, rest) ↔
      ∃ raws, readFrames maxFrameLen count stream = .ok (raws, rest) ∧
        List.Forall₂ (fun raw m => fromSlice raw = some m) raws read := by
  induction count generalizing stream rest read with
  | zero =>
    simp only [parseFrames, readFrames, pure_eq_ok, Except.ok.injEq, Prod.mk.injEq]
    constructor
    · rintro ⟨rfl, rfl⟩
      exact ⟨[], ⟨rfl, rfl⟩, .nil⟩
    · rintro ⟨_, ⟨rfl, rfl⟩, hread⟩
      exact ⟨(List.forall₂_nil_left_iff.mp hread).symm, rfl⟩
  | succ count ih =>
    simp only [parseFrames, parseFrame, readFrames, bind_eq_ok, mapError_eq_ok, okOr_eq_ok,
      pure_eq_ok, Except.ok.injEq, Prod.exists, Prod.mk.injEq, ih]
    constructor
    · rintro ⟨m, tail, ⟨raw, _, hraw, _, hm, rfl, rfl⟩, ms, _, ⟨raws, hraws, hms⟩, rfl, rfl⟩
      exact ⟨raw :: raws, ⟨raw, _, hraw, raws, _, hraws, rfl, rfl⟩, .cons hm hms⟩
    · rintro ⟨_, ⟨raw, tail, hraw, raws, _, hraws, rfl, rfl⟩, hread⟩
      cases hread with
      | cons hm hms =>
        exact ⟨_, _, ⟨raw, tail, hraw, _, hm, rfl, rfl⟩, _, _, ⟨raws, hraws, hms⟩, rfl, rfl⟩

/-- A message of at most five fields, each of which is short. -/
theorem wireBytes_length {m : LivePeerWireMessage} {tag : String}
    {fields : List (String × Value)} (hm : wireValue m = .object [(tag, .object fields)])
    (htag : tag.length ≤ 32) (hkeys : ∀ key ∈ fields.map (·.1), key.length ≤ 32)
    (hcount : fields.length ≤ 5) (hvalues : ∀ v ∈ fields.map (·.2), (print v).length ≤ 50000) :
    (wireBytes m).length ≤ maxFrameLen := by
  have hinner := print_object_length hkeys hvalues
  have hle := Nat.mul_le_mul_right (50000 + 200) hcount
  have houter : (print (.object [(tag, .object fields)])).length ≤
      [(tag, Value.object fields)].length * (251002 + 200) + 2 := by
    apply print_object_length
    · simpa using htag
    · intro v hv
      obtain rfl : v = .object fields := by simpa using hv
      omega
  rw [List.length_singleton] at houter
  have hutf8 := utf8_length_le (print (wireValue m))
  rw [hm] at hutf8
  rw [wireBytes, toVec, hm, maxFrameLen]
  omega

theorem print_hex_length (b : Bytes32) : (print (.text (toHex b))).length ≤ 400 := by
  have htext := print_text_length (toHex b)
  rw [← String.length_toList, toHex_length] at htext
  omega

theorem print_bits_length (set : AssetChannelFeatureSet) :
    (print (bits set.featureBits)).length ≤ 400 := by
  have harray : (print (bits set.featureBits)).length ≤
      (set.featureBits.map fun b => Value.number b.toNat).length * (20 + 1) + 2 := by
    apply print_array_length
    intro v hv
    obtain ⟨b, -, rfl⟩ := List.mem_map.mp hv
    exact print_number_length (by have := b.toNat_lt; omega)
  have hcount : set.featureBits.length ≤ 2 := by
    unfold AssetChannelFeatureSet.featureBits
    split <;> try split
    all_goals simp
  rw [List.length_map] at harray
  omega

theorem print_payload_length {payload : Bytes} (h : payload.length ≤ 2000) :
    (print (.array (payload.map fun b => .number b.toNat))).length ≤ 50000 := by
  have harray : (print (.array (payload.map fun b => .number b.toNat))).length ≤
      (payload.map fun b => Value.number b.toNat).length * (20 + 1) + 2 := by
    apply print_array_length
    intro v hv
    obtain ⟨b, -, rfl⟩ := List.mem_map.mp hv
    exact print_number_length (by have := b.toNat_lt; omega)
  rw [List.length_map] at harray
  omega

theorem messageKind_length (m : AssetPeerMessage) : (messageKind m).length ≤ 32 := by
  cases m <;> rw [messageKind] <;> decide

theorem fits_hello (set : AssetChannelFeatureSet) (version : UInt16) (assetId : Bytes32) :
    (wireBytes (.hello "tap-ldk-payment-client" set.featureBits version assetId)).length ≤
      maxFrameLen := by
  apply wireBytes_length rfl (by decide) (by simp only [List.map]; decide) (by simp)
  have hname := print_text_length "tap-ldk-payment-client"
  have hchars : "tap-ldk-payment-client".length = 22 := by decide
  have hbits := print_bits_length set
  have hversion := print_number_length (n := version.toNat) (by have := version.toNat_lt; omega)
  have hhex := print_hex_length assetId
  simp only [List.map_cons, List.map_nil, List.forall_mem_cons, List.not_mem_nil, false_imp_iff,
    implies_true, and_true]
  omega

theorem fits_helloAck (accepted : Bool) (ours theirs : AssetChannelFeatureSet)
    (assetId : Bytes32) (version : UInt16) :
    (wireBytes (.helloAck accepted ours.featureBits theirs.featureBits
      (.singleAsset assetId version))).length ≤ maxFrameLen := by
  apply wireBytes_length rfl (by decide) (by simp only [List.map]; decide) (by simp)
  have haccepted : (print (.bool accepted)).length ≤ 5 := by cases accepted <;> decide
  have hours := print_bits_length ours
  have htheirs := print_bits_length theirs
  have hversion := print_number_length (n := version.toNat) (by have := version.toNat_lt; omega)
  have hhex := print_hex_length assetId
  have hinner : (print (.object [("asset_id", .text (toHex assetId)),
      ("protocol_version", .number version.toNat)])).length ≤ 2 * (400 + 200) + 2 := by
    apply print_object_length (by simp only [List.map]; decide)
    simp only [List.map_cons, List.map_nil, List.forall_mem_cons, List.not_mem_nil, false_imp_iff,
      implies_true, and_true]
    omega
  have hchannel : (print (channelTypeValue (.singleAsset assetId version))).length ≤
      1 * (1202 + 200) + 2 := by
    apply print_object_length (by simp only [List.map]; decide)
    simpa using hinner
  simp only [List.map_cons, List.map_nil, List.forall_mem_cons, List.not_mem_nil, false_imp_iff,
    implies_true, and_true]
  omega

theorem fits_customMessage (type : UInt64) {payload : Bytes} (h : payload.length ≤ 2000) :
    (wireBytes (.customMessage type payload)).length ≤ maxFrameLen := by
  apply wireBytes_length rfl (by decide) (by simp only [List.map]; decide) (by simp)
  have htype := print_number_length type.toNat_lt
  have hpayload := print_payload_length h
  simp only [List.map_cons, List.map_nil, List.forall_mem_cons, List.not_mem_nil, false_imp_iff,
    implies_true, and_true]
  omega

theorem fits_customMessageAck (type : UInt64) (m : AssetPeerMessage) (digest : Bytes32) :
    (wireBytes (.customMessageAck type (messageKind m) digest)).length ≤ maxFrameLen := by
  apply wireBytes_length rfl (by decide) (by simp only [List.map]; decide) (by simp)
  have htype := print_number_length type.toNat_lt
  have hkind := print_text_length (messageKind m)
  have hchars := messageKind_length m
  have hdigest := print_hex_length digest
  simp only [List.map_cons, List.map_nil, List.forall_mem_cons, List.not_mem_nil, false_imp_iff,
    implies_true, and_true]
  omega

theorem fits_sessionComplete (paymentId : Bytes32) {count : ℕ} (h : count < 2 ^ 64) :
    (wireBytes (.sessionComplete paymentId count)).length ≤ maxFrameLen := by
  apply wireBytes_length rfl (by decide) (by simp only [List.map]; decide) (by simp)
  have hid := print_hex_length paymentId
  have hcount := print_number_length h
  simp only [List.map_cons, List.map_nil, List.forall_mem_cons, List.not_mem_nil, false_imp_iff,
    implies_true, and_true]
  omega

theorem fits_sessionCompleteAck (accepted : Bool) (paymentId : Bytes32)
    {count inputLen outputLen : ℕ}
    (h : Counts (.sessionCompleteAck accepted paymentId count inputLen outputLen)) :
    (wireBytes (.sessionCompleteAck accepted paymentId count inputLen outputLen)).length ≤
      maxFrameLen := by
  obtain ⟨hcount, hinput, houtput⟩ := h
  apply wireBytes_length rfl (by decide) (by simp only [List.map]; decide) (by simp)
  have haccepted : (print (.bool accepted)).length ≤ 5 := by cases accepted <;> decide
  have hid := print_hex_length paymentId
  have hcount := print_number_length hcount
  have hinput := print_number_length hinput
  have houtput := print_number_length houtput
  simp only [List.map_cons, List.map_nil, List.forall_mem_cons, List.not_mem_nil, false_imp_iff,
    implies_true, and_true]
  omega

/-- Messages are written on a stream that is cut anywhere. What is read of it are the first of the
messages, as many as have come whole. -/
theorem frames_delivered {fromSlice : FromSlice} (hlossless : Lossless fromSlice)
    {written : List LivePeerWireMessage} (hcounts : ∀ m ∈ written, Counts m)
    {frames : List Bytes} (hwritten : written.mapM frameBytes = .ok frames) {stream : Bytes}
    (hcut : stream <+: frames.flatten) {count : ℕ} {read : List LivePeerWireMessage} {rest : Bytes} :
    parseFrames fromSlice count stream = .ok (read, rest) ↔
      count ≤ written.length ∧ read = written.take count ∧
        stream = (frames.take count).flatten ++ rest := by
  have hmax : maxFrameLen < 256 ^ 4 := by decide
  obtain ⟨hfits, rfl⟩ := framesBytes_eq_ok.mp hwritten
  have hbytes (raws : List Bytes) : (raws.map frame).flatten = raws.flatMap frame := rfl
  have hdelivered (n : ℕ) : List.Forall₂ (fun raw m => fromSlice raw = some m)
      ((written.take n).map wireBytes) (written.take n) := by
    rw [List.forall₂_map_left_iff, List.forall₂_same]
    exact fun m hm => hlossless m (hcounts m (List.mem_of_mem_take hm))
  rw [parseFrames_eq_ok]
  constructor
  · rintro ⟨raws, hraws, hread⟩
    obtain ⟨rfl, hsizes, rfl⟩ := (readFrames_eq_ok hmax).mp hraws
    have hprefix := frames_prefix hmax hsizes hfits hcut
    have htake : raws = (written.take raws.length).map wireBytes := by
      rw [List.map_take]
      exact List.prefix_iff_eq_take.mp hprefix
    have hcount : raws.length ≤ written.length := by
      simpa using hprefix.length_le
    refine ⟨hcount, ?_, ?_⟩
    · have hfirst := hdelivered raws.length
      rw [← htake] at hfirst
      refine List.right_unique_forall₂' (fun raw m m' h h' => ?_) hread hfirst
      exact Option.some.inj (h.symm.trans h')
    · rw [← List.map_take, ← List.map_take, ← htake, hbytes]
  · rintro ⟨hcount, rfl, rfl⟩
    refine ⟨(written.map wireBytes).take count, (readFrames_eq_ok hmax).mpr ⟨?_, ?_, ?_⟩, ?_⟩
    · rw [List.length_take, List.length_map, Nat.min_eq_left hcount]
    · exact fun raw hraw => hfits raw (List.mem_of_mem_take hraw)
    · rw [← List.map_take, hbytes]
    · rw [← List.map_take]
      exact hdelivered count

theorem frames_delivered_first : ∃ fromSlice hello complete,
    frameBytes (.hello "tap-ldk-payment-client" [] 1 (repeated32 8)) = .ok hello ∧
    frameBytes (.sessionComplete (repeated32 9) 2) = .ok complete ∧
    parseFrames fromSlice 1 (hello ++ complete.take 7) =
      .ok ([.hello "tap-ldk-payment-client" [] 1 (repeated32 8)], complete.take 7) := by
  obtain ⟨fromSlice, hlossless⟩ := exists_lossless
  have hhello := frameBytes_eq_ok.mpr ⟨fits_hello ⟨false, false, 1⟩ 1 (repeated32 8), rfl⟩
  have hcomplete := frameBytes_eq_ok.mpr
    ⟨fits_sessionComplete (repeated32 9) (show 2 < 2 ^ 64 by decide), rfl⟩
  have hwritten := mapM_eq_ok.mpr (.cons hhello (.cons hcomplete .nil))
  have hcounts : ∀ m ∈ [.hello "tap-ldk-payment-client" [] 1 (repeated32 8),
      .sessionComplete (repeated32 9) 2], Counts m := by
    simp [Counts]
  have hcut (hello complete : Bytes) : hello ++ complete.take 7 <+: [hello, complete].flatten := by
    simpa using List.take_prefix 7 complete
  refine ⟨fromSlice, _, _, hhello, hcomplete, ?_⟩
  exact (frames_delivered hlossless hcounts hwritten (hcut _ _)).mpr ⟨by decide, rfl, by simp⟩

/-- A message whose fields have at most 200 bytes each. -/
def Short (m : AssetPeerMessage) : Prop :=
  ∀ slot ∈ messageRecords m, ∀ value ∈ slot.2, value.length ≤ 200

theorem Short.record {m : AssetPeerMessage} (h : Short m) :
    ∀ r ∈ recordsOf (messageRecords m), r.value.length ≤ 200 := fun r hr =>
  h (r.typeId, some r.value) (mem_recordsOf.mp hr) r.value rfl

theorem messageRecords_length (m : AssetPeerMessage) :
    (recordsOf (messageRecords m)).length ≤ 9 := by
  refine (List.length_filterMap_le ..).trans ?_
  cases m <;> simp [messageRecords, bodyRecords, chunkRecords]

/-- A short message has an encoding, which is short and decodes to the message. -/
theorem encode_short {m : AssetPeerMessage} (h : Short m) :
    ∃ payload, encode m = .ok payload ∧ decode payload = .ok m ∧ payload.length ≤ 2000 := by
  have hnodup := carriedTypes_nodup m
  have hencode := encodeStream_recordsOf hnodup
  have hfits : ∀ r ∈ recordsOf (messageRecords m), r.value.length < 2 ^ 64 := fun r hr =>
    (h.record r hr).trans_lt (by decide)
  obtain ⟨records, hrecords, htypes, hreads⟩ := decodeStream_recordsOf hnodup hencode hfits
  have hknown : ∀ r ∈ records, ¬ r.typeId ∈ knownTypes → r.typeId % 2 ≠ 0 := fun r hr hunknown =>
    absurd (carriedTypes_known m _ (htypes r hr)) hunknown
  refine ⟨_, mapError_eq_ok.mpr hencode, decode_eq_ok.mpr ⟨records, hrecords, hknown, hreads⟩, ?_⟩
  have hlength := records_length 
    fun r hr => h.record r (mem_sortByType.mp hr)
  have hcount := messageRecords_length m
  rw [(sortByType_perm _).length_eq] at hlength
  omega

theorem sessionMessages_short {assetId : Bytes32} {assetAmount btcMsat : UInt64} :
    ∀ m ∈ sessionMessages assetId assetAmount btcMsat, Short m := by
  have hfunding : (utf8 s!"asset-channel-funding:{toHex assetId}:{assetAmount}").length ≤ 200 :=
    text_length "asset-channel-funding:" ":" assetId assetAmount (by decide)
  have hhop : (utf8 s!"asset-htlc-final-hop:{toHex (repeated32 62)}:{assetAmount}").length ≤ 200 :=
    text_length "asset-htlc-final-hop:" ":" (repeated32 62) assetAmount (by decide)
  intro m hm
  simp only [sessionMessages, sessionChunks, List.mem_append, List.mem_map, List.mem_cons,
    List.not_mem_nil, or_false] at hm
  rcases hm with (⟨_, ⟨i, -, rfl⟩, rfl⟩ | ⟨_, ⟨i, -, rfl⟩, rfl⟩) | rfl | rfl | rfl | rfl | rfl
  · simp [Short, messageRecords, bodyRecords, chunkRecords, chunkAt, piece, boolByte,
      FixedBytes.length_eq, sessionChunkSize]
  · simp [Short, messageRecords, bodyRecords, chunkRecords, chunkAt, piece, boolByte,
      FixedBytes.length_eq, sessionChunkSize]
  · simpa [Short, messageRecords, bodyRecords, FixedBytes.length_eq] using hfunding
  · simp [Short, messageRecords, bodyRecords, boolByte, FixedBytes.length_eq]
  · simp [Short, messageRecords, bodyRecords, FixedBytes.length_eq]
  · simp [Short, messageRecords, bodyRecords, FixedBytes.length_eq]
  · simpa [Short, messageRecords, bodyRecords, FixedBytes.length_eq] using hhop

theorem sessionMessages_count (assetId : Bytes32) (assetAmount btcMsat : UInt64) :
    (sessionMessages assetId assetAmount btcMsat).length < 2 ^ 64 := by
  have hinput := chunkTotal_lt (inputProof_length assetId assetAmount)
  have houtput := chunkTotal_lt (outputProof_length assetId assetAmount)
  simp only [sessionMessages, sessionChunks, List.length_append, List.length_map, List.length_range,
    List.length_cons, List.length_nil]
  omega

end TapLdk.LivePeerWire
