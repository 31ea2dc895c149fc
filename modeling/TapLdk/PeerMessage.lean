import Mathlib
import TapLdk.RfqInvoice
import TapLdk.TlvFields

/-! The codec of peer messages: eight kinds of message over one space of record types. -/
namespace TapLdk.PeerMessage
open TapLdk.LibraryExcept TapLdk.LibraryMaps TapLdk.LibraryBytes TapLdk.Mssmt TapLdk.Asset
open TapLdk.Tlv TapLdk.TlvCanonical TapLdk.TlvFields TapLdk.RfqInvoice

def tapMessageTypeBaseOffset : UInt64 := 32768 + 20116
def tapChannelMessageTypeOffset : UInt64 := tapMessageTypeBaseOffset + 256
def txAssetInputProofType : UInt64 := tapChannelMessageTypeOffset
def txAssetOutputProofType : UInt64 := tapChannelMessageTypeOffset + 1
def assetFundingCreatedType : UInt64 := tapChannelMessageTypeOffset + 2
def assetFundingAcceptedType : UInt64 := tapChannelMessageTypeOffset + 3
def rfqRequestType : UInt64 := tapChannelMessageTypeOffset + 64
def rfqAcceptType : UInt64 := tapChannelMessageTypeOffset + 65
def rfqRejectType : UInt64 := tapChannelMessageTypeOffset + 66
def assetHtlcBlobType : UInt64 := tapChannelMessageTypeOffset + 96

def typeMessageKind : UInt64 := 1
def typePendingChannelId : UInt64 := 3
def typeAssetId : UInt64 := 5
def typeAssetAmount : UInt64 := 7
def typeProofDigest : UInt64 := 9
def typeChunkIndex : UInt64 := 11
def typeChunkCount : UInt64 := 13
def typeChunkBytes : UInt64 := 15
def typeLastChunk : UInt64 := 17
def typeFundingBlob : UInt64 := 19
def typeAccept : UInt64 := 21
def typeRejectReason : UInt64 := 23
def typeRfqId : UInt64 := 25
def typeBtcMsat : UInt64 := 27
def typeExpiryUnixSeconds : UInt64 := 29
def typeInvoiceContext : UInt64 := 31
def typeHtlcBlob : UInt64 := 33
def typeQuoteId : UInt64 := 35
def typeScidAlias : UInt64 := 37

def knownTypes : List UInt64 :=
  [typeMessageKind, typePendingChannelId, typeAssetId, typeAssetAmount, typeProofDigest,
    typeChunkIndex, typeChunkCount, typeChunkBytes, typeLastChunk, typeFundingBlob, typeAccept,
    typeRejectReason, typeRfqId, typeBtcMsat, typeExpiryUnixSeconds, typeInvoiceContext,
    typeHtlcBlob, typeQuoteId, typeScidAlias]

/-- The errors of the codec. -/
inductive AssetPeerMessageError where
  | tlv (error : TlvError)
  | missingField (field : UInt64)
  | invalidFieldLength (field : String) (expected actual : ℕ)
  | invalidBool (value : UInt8)
  | invalidUtf8
  | unknownMessageType (messageType : UInt64)
deriving DecidableEq

def messageType : AssetPeerMessage → UInt64
  | .txAssetInputProof .. => txAssetInputProofType
  | .txAssetOutputProof .. => txAssetOutputProofType
  | .assetFundingCreated .. => assetFundingCreatedType
  | .assetFundingAccepted .. => assetFundingAcceptedType
  | .rfqRequest .. => rfqRequestType
  | .rfqAccept .. => rfqAcceptType
  | .rfqReject .. => rfqRejectType
  | .assetHtlcBlob .. => assetHtlcBlobType

/-- `[u8::from(value)]`. -/
def boolByte (value : Bool) : Bytes := [if value then 1 else 0]

def chunkRecords (chunk : ProofChunk) : List Slot :=
  [(typeProofDigest, some chunk.proofDigest.bytes),
    (typeChunkIndex, some (u32Bytes chunk.chunkIndex)),
    (typeChunkCount, some (u32Bytes chunk.chunkCount)),
    (typeChunkBytes, some chunk.bytes),
    (typeLastChunk, some (boolByte chunk.last))]

/-- The records `encode` pushes after the message kind, in its order. -/
def bodyRecords : AssetPeerMessage → List Slot
  | .txAssetInputProof pendingChannelId assetId amount chunk
  | .txAssetOutputProof pendingChannelId assetId amount chunk =>
    chunkRecords chunk ++
      [(typePendingChannelId, some pendingChannelId.bytes),
        (typeAssetId, some assetId.bytes),
        (typeAssetAmount, some (u64Bytes amount))]
  | .assetFundingCreated pendingChannelId fundingBlob =>
    [(typePendingChannelId, some pendingChannelId.bytes),
      (typeFundingBlob, some fundingBlob)]
  | .assetFundingAccepted pendingChannelId accept rejectReason =>
    [(typePendingChannelId, some pendingChannelId.bytes),
      (typeAccept, some (boolByte accept)),
      (typeRejectReason, rejectReason.map utf8)]
  | .rfqRequest rfqId assetId assetAmount invoiceContext =>
    [(typeRfqId, some rfqId.bytes),
      (typeAssetId, some assetId.bytes),
      (typeAssetAmount, some (u64Bytes assetAmount)),
      (typeInvoiceContext, some invoiceContext.bytes)]
  | .rfqAccept rfqId quoteId btcMsat expiryUnixSeconds scidAlias =>
    [(typeRfqId, some rfqId.bytes),
      (typeQuoteId, some quoteId.bytes),
      (typeBtcMsat, some (u64Bytes btcMsat)),
      (typeExpiryUnixSeconds, some (u64Bytes expiryUnixSeconds)),
      (typeScidAlias, some (u64Bytes scidAlias))]
  | .rfqReject rfqId rejectReason =>
    [(typeRfqId, some rfqId.bytes),
      (typeRejectReason, some (utf8 rejectReason))]
  | .assetHtlcBlob assetId assetAmount rfqId invoiceContext htlcBlob =>
    [(typeAssetId, some assetId.bytes),
      (typeAssetAmount, some (u64Bytes assetAmount)),
      (typeRfqId, some rfqId.bytes),
      (typeInvoiceContext, some invoiceContext.bytes),
      (typeHtlcBlob, some htlcBlob)]

def messageRecords (message : AssetPeerMessage) : List Slot :=
  (typeMessageKind, some (u64Bytes (messageType message))) :: bodyRecords message

def encode (message : AssetPeerMessage) : Except AssetPeerMessageError Bytes :=
  (encodeStream (sortByType (recordsOf (messageRecords message)))).mapError .tlv

def required (fields : BTreeMap UInt64 Bytes) (field : UInt64) :
    Except AssetPeerMessageError Bytes :=
  okOr fields[field]? (.missingField field)

def parseBytes32 (bytes : Bytes) : Except AssetPeerMessageError Bytes32 :=
  okOr (FixedBytes.ofBytes 32 bytes) (.invalidFieldLength "bytes32" 32 bytes.length)

def parseU32 (bytes : Bytes) (field : String) : Except AssetPeerMessageError UInt32 := do
  rejectIf (bytes.length ≠ 4) (.invalidFieldLength field 4 bytes.length)
  pure (UInt32.ofNat (beValue bytes))

def parseU64 (bytes : Bytes) (field : String) : Except AssetPeerMessageError UInt64 := do
  rejectIf (bytes.length ≠ 8) (.invalidFieldLength field 8 bytes.length)
  pure (UInt64.ofNat (beValue bytes))

def parseBool (bytes : Bytes) (field : String) : Except AssetPeerMessageError Bool :=
  match bytes with
  | [value] =>
    if value = 0 then .ok false
    else if value = 1 then .ok true
    else .error (.invalidBool value)
  | _ => .error (.invalidFieldLength field 1 bytes.length)

def parseString (bytes : Bytes) : Except AssetPeerMessageError String :=
  okOr (fromUtf8 bytes) .invalidUtf8

def optionalString (fields : BTreeMap UInt64 Bytes) (field : UInt64) :
    Except AssetPeerMessageError (Option String) :=
  match fields[field]? with
  | none => pure none
  | some bytes => do
    let text ← parseString bytes
    pure (some text)

def parseChunk (fields : BTreeMap UInt64 Bytes) : Except AssetPeerMessageError ProofChunk := do
  let proofDigest ← parseBytes32 (← required fields typeProofDigest)
  let chunkIndex ← parseU32 (← required fields typeChunkIndex) "chunk_index"
  let chunkCount ← parseU32 (← required fields typeChunkCount) "chunk_count"
  let bytes ← required fields typeChunkBytes
  let last ← parseBool (← required fields typeLastChunk) "last"
  pure ⟨proofDigest, chunkIndex, chunkCount, bytes, last⟩

/-- The message of a kind, from the fields of that kind alone. -/
def decodeBody (fields : BTreeMap UInt64 Bytes) (kind : UInt64) :
    Except AssetPeerMessageError AssetPeerMessage :=
  if kind = txAssetInputProofType then do
    let pendingChannelId ← parseBytes32 (← required fields typePendingChannelId)
    let assetId ← parseBytes32 (← required fields typeAssetId)
    let amount ← parseU64 (← required fields typeAssetAmount) "amount"
    let chunk ← parseChunk fields
    pure (.txAssetInputProof pendingChannelId assetId amount chunk)
  else if kind = txAssetOutputProofType then do
    let pendingChannelId ← parseBytes32 (← required fields typePendingChannelId)
    let assetId ← parseBytes32 (← required fields typeAssetId)
    let amount ← parseU64 (← required fields typeAssetAmount) "amount"
    let chunk ← parseChunk fields
    pure (.txAssetOutputProof pendingChannelId assetId amount chunk)
  else if kind = assetFundingCreatedType then do
    let pendingChannelId ← parseBytes32 (← required fields typePendingChannelId)
    let fundingBlob ← required fields typeFundingBlob
    pure (.assetFundingCreated pendingChannelId fundingBlob)
  else if kind = assetFundingAcceptedType then do
    let pendingChannelId ← parseBytes32 (← required fields typePendingChannelId)
    let accept ← parseBool (← required fields typeAccept) "accept"
    let rejectReason ← optionalString fields typeRejectReason
    pure (.assetFundingAccepted pendingChannelId accept rejectReason)
  else if kind = rfqRequestType then do
    let rfqId ← parseBytes32 (← required fields typeRfqId)
    let assetId ← parseBytes32 (← required fields typeAssetId)
    let assetAmount ← parseU64 (← required fields typeAssetAmount) "asset_amount"
    let invoiceContext ← parseBytes32 (← required fields typeInvoiceContext)
    pure (.rfqRequest rfqId assetId assetAmount invoiceContext)
  else if kind = rfqAcceptType then do
    let rfqId ← parseBytes32 (← required fields typeRfqId)
    let quoteId ← parseBytes32 (← required fields typeQuoteId)
    let btcMsat ← parseU64 (← required fields typeBtcMsat) "btc_msat"
    let expiryUnixSeconds ←
      parseU64 (← required fields typeExpiryUnixSeconds) "expiry_unix_seconds"
    let scidAlias ← parseU64 (← required fields typeScidAlias) "scid_alias"
    pure (.rfqAccept rfqId quoteId btcMsat expiryUnixSeconds scidAlias)
  else if kind = rfqRejectType then do
    let rfqId ← parseBytes32 (← required fields typeRfqId)
    let rejectReason ← parseString (← required fields typeRejectReason)
    pure (.rfqReject rfqId rejectReason)
  else if kind = assetHtlcBlobType then do
    let assetId ← parseBytes32 (← required fields typeAssetId)
    let assetAmount ← parseU64 (← required fields typeAssetAmount) "asset_amount"
    let rfqId ← parseBytes32 (← required fields typeRfqId)
    let invoiceContext ← parseBytes32 (← required fields typeInvoiceContext)
    let htlcBlob ← required fields typeHtlcBlob
    pure (.assetHtlcBlob assetId assetAmount rfqId invoiceContext htlcBlob)
  else .error (.unknownMessageType kind)

def decode (bytes : Bytes) : Except AssetPeerMessageError AssetPeerMessage := do
  let records ← (decodeStream bytes).mapError .tlv
  (rejectUnknownRequired records knownTypes).mapError .tlv
  let fields := recordMap records
  let kind ← parseU64 (← required fields typeMessageKind) "message_type"
  decodeBody fields kind

theorem required_eq_ok {fields : BTreeMap UInt64 Bytes} {field : UInt64} {bytes : Bytes} :
    required fields field = .ok bytes ↔ fields[field]? = some bytes := okOr_eq_ok

theorem parseBytes32_eq_ok {bytes : Bytes} {value : Bytes32} :
    parseBytes32 bytes = .ok value ↔ bytes = value.bytes := by
  rw [parseBytes32, okOr_eq_ok, FixedBytes.ofBytes_eq_some]

theorem parseU32_eq_ok {field : String} {bytes : Bytes} {value : UInt32} :
    parseU32 bytes field = .ok value ↔ bytes = u32Bytes value :=
  readFixed_eq_ok u32Bytes_length u32_of_bytes u32_of_u32Bytes

theorem parseU64_eq_ok {field : String} {bytes : Bytes} {value : UInt64} :
    parseU64 bytes field = .ok value ↔ bytes = u64Bytes value :=
  readFixed_eq_ok u64Bytes_length u64_of_bytes u64_of_u64Bytes

theorem parseBool_eq_ok {field : String} {bytes : Bytes} {value : Bool} :
    parseBool bytes field = .ok value ↔ bytes = boolByte value := by
  constructor
  · intro h
    unfold parseBool at h
    split at h
    · split_ifs at h with h0 h1
      · rw [← Except.ok.inj h, h0]
        rfl
      · rw [← Except.ok.inj h, h1]
        rfl
    · cases h
  · rintro rfl
    cases value <;> rfl

theorem parseString_eq_ok {bytes : Bytes} {value : String} :
    parseString bytes = .ok value ↔ bytes = utf8 value := by
  rw [parseString, okOr_eq_ok, fromUtf8_eq_some]

theorem optionalString_eq_ok {fields : BTreeMap UInt64 Bytes} {field : UInt64}
    {value : Option String} :
    optionalString fields field = .ok value ↔ fields[field]? = value.map utf8 := by
  unfold optionalString
  split
  case h_1 h => cases value <;> simp [h]
  case h_2 h => cases value <;> simp [h, parseString_eq_ok]

theorem parseChunk_eq_ok {fields : BTreeMap UInt64 Bytes} {chunk : ProofChunk} :
    parseChunk fields = .ok chunk ↔ Reads fields (chunkRecords chunk) := by
  obtain ⟨digest, index, count, bytes, last⟩ := chunk
  simp only [parseChunk, bind_eq_ok, required_eq_ok, parseBytes32_eq_ok, parseU32_eq_ok,
    parseBool_eq_ok, pure_eq_ok, Except.ok.injEq, ProofChunk.mk.injEq, Reads, chunkRecords,
    List.forall_mem_cons]
  constructor
  · rintro ⟨_, h1, _, rfl, _, h2, _, rfl, _, h3, _, rfl, _, h4, _, h5, _, rfl, rfl, rfl, rfl, rfl, rfl⟩
    exact ⟨h1, h2, h3, h4, h5, by simp⟩
  · rintro ⟨h1, h2, h3, h4, h5, -⟩
    exact ⟨_, h1, _, rfl, _, h2, _, rfl, _, h3, _, rfl, _, h4, _, h5, _, rfl, rfl, rfl, rfl, rfl, rfl⟩

@[simp] theorem parseBytes32_bytes (value : Bytes32) : parseBytes32 value.bytes = .ok value :=
  parseBytes32_eq_ok.mpr rfl

@[simp] theorem parseU64_u64Bytes (value : UInt64) (field : String) :
    parseU64 (u64Bytes value) field = .ok value :=
  parseU64_eq_ok.mpr rfl

@[simp] theorem parseBool_boolByte (value : Bool) (field : String) :
    parseBool (boolByte value) field = .ok value :=
  parseBool_eq_ok.mpr rfl

@[simp] theorem parseString_utf8 (value : String) : parseString (utf8 value) = .ok value :=
  parseString_eq_ok.mpr rfl

@[simp] theorem required_of_get {fields : BTreeMap UInt64 Bytes} {field : UInt64} {bytes : Bytes}
    (h : fields[field]? = some bytes) : required fields field = .ok bytes :=
  required_eq_ok.mpr h

/-- The fields of a message are enough to read it. -/
theorem decodeBody_of_reads {fields : BTreeMap UInt64 Bytes} {message : AssetPeerMessage}
    (h : Reads fields (bodyRecords message)) :
    decodeBody fields (messageType message) = .ok message := by
  unfold decodeBody messageType txAssetInputProofType txAssetOutputProofType
    assetFundingCreatedType assetFundingAcceptedType rfqRequestType rfqAcceptType rfqRejectType
    assetHtlcBlobType
  cases message with
  | txAssetInputProof channel asset amount chunk =>
    obtain ⟨hchunk, h⟩ := List.forall_mem_append.mp h
    simp only [List.forall_mem_cons] at h
    simp [h, parseChunk_eq_ok.mpr hchunk]
  | txAssetOutputProof channel asset amount chunk =>
    obtain ⟨hchunk, h⟩ := List.forall_mem_append.mp h
    simp only [List.forall_mem_cons] at h
    simp [h, parseChunk_eq_ok.mpr hchunk]
  | assetFundingAccepted channel accept reason =>
    simp only [Reads, bodyRecords, List.forall_mem_cons] at h
    simp [h, optionalString_eq_ok.mpr h.2.2.1]
  | _ =>
    simp only [Reads, bodyRecords, List.forall_mem_cons] at h
    simp [h]

/-- A message comes from the fields of its own kind. -/
theorem decodeBody_eq_ok {fields : BTreeMap UInt64 Bytes} {kind : UInt64}
    {message : AssetPeerMessage} : decodeBody fields kind = .ok message ↔
      kind = messageType message ∧ Reads fields (bodyRecords message) := by
  constructor
  · intro h
    unfold decodeBody at h
    split_ifs at h with h1 h2 h3 h4 h5 h6 h7 h8 <;>
      simp only [bind_eq_ok, required_eq_ok, parseBytes32_eq_ok, parseU64_eq_ok, parseBool_eq_ok,
        parseString_eq_ok, optionalString_eq_ok, parseChunk_eq_ok, pure_eq_ok, Except.ok.injEq]
        at h
    · obtain ⟨_, hchannel, _, rfl, _, hasset, _, rfl, _, hamount, _, rfl, _, hchunk, rfl⟩ := h
      refine ⟨h1, List.forall_mem_append.mpr ⟨hchunk, ?_⟩⟩
      simp only [List.forall_mem_cons]
      exact ⟨hchannel, hasset, hamount, by simp⟩
    · obtain ⟨_, hchannel, _, rfl, _, hasset, _, rfl, _, hamount, _, rfl, _, hchunk, rfl⟩ := h
      refine ⟨h2, List.forall_mem_append.mpr ⟨hchunk, ?_⟩⟩
      simp only [List.forall_mem_cons]
      exact ⟨hchannel, hasset, hamount, by simp⟩
    · obtain ⟨_, hchannel, _, rfl, _, hblob, rfl⟩ := h
      simp only [Reads, bodyRecords, List.forall_mem_cons]
      exact ⟨h3, hchannel, hblob, by simp⟩
    · obtain ⟨_, hchannel, _, rfl, _, haccept, _, rfl, _, hreason, rfl⟩ := h
      simp only [Reads, bodyRecords, List.forall_mem_cons]
      exact ⟨h4, hchannel, haccept, hreason, by simp⟩
    · obtain ⟨_, hrfq, _, rfl, _, hasset, _, rfl, _, hamount, _, rfl, _, hcontext, _, rfl, rfl⟩ := h
      simp only [Reads, bodyRecords, List.forall_mem_cons]
      exact ⟨h5, hrfq, hasset, hamount, hcontext, by simp⟩
    · obtain ⟨_, hrfq, _, rfl, _, hquote, _, rfl, _, hmsat, _, rfl, _, hexpiry, _, rfl, _, hscid, _,
        rfl, rfl⟩ := h
      simp only [Reads, bodyRecords, List.forall_mem_cons]
      exact ⟨h6, hrfq, hquote, hmsat, hexpiry, hscid, by simp⟩
    · obtain ⟨_, hrfq, _, rfl, _, hreason, _, rfl, rfl⟩ := h
      simp only [Reads, bodyRecords, List.forall_mem_cons]
      exact ⟨h7, hrfq, hreason, by simp⟩
    · obtain ⟨_, hasset, _, rfl, _, hamount, _, rfl, _, hrfq, _, rfl, _, hcontext, _, rfl, _, hblob,
        rfl⟩ := h
      simp only [Reads, bodyRecords, List.forall_mem_cons]
      exact ⟨h8, hasset, hamount, hrfq, hcontext, hblob, by simp⟩
  · rintro ⟨rfl, h⟩
    exact decodeBody_of_reads h

theorem decode_eq_ok {bytes : Bytes} {message : AssetPeerMessage} : decode bytes = .ok message ↔
    ∃ records, decodeStream bytes = .ok records ∧
      (∀ r ∈ records, r.typeId ∉ knownTypes → r.typeId % 2 ≠ 0) ∧
      Reads (recordMap records) (messageRecords message) := by
  simp only [decode, bind_eq_ok, mapError_eq_ok, rejectUnknownRequired_eq_ok, exists_const,
    required_eq_ok, parseU64_eq_ok, decodeBody_eq_ok, Reads, messageRecords, List.forall_mem_cons]
  constructor
  · rintro ⟨records, hrecords, hknown, _, hkind, _, rfl, rfl, hbody⟩
    exact ⟨records, hrecords, hknown, hkind, hbody⟩
  · rintro ⟨records, hrecords, hknown, hkind, hbody⟩
    exact ⟨records, hrecords, hknown, _, hkind, _, rfl, rfl, hbody⟩

/-- The record types of a message's kind. -/
def carriedTypes (message : AssetPeerMessage) : List UInt64 :=
  (messageRecords message).map (·.1)

/-- The byte strings of a message are vectors, of fewer than `2 ^ 64` bytes. -/
def Fits (message : AssetPeerMessage) : Prop :=
  ∀ r ∈ recordsOf (messageRecords message), r.value.length < 2 ^ 64

theorem carriedTypes_nodup (message : AssetPeerMessage) : (carriedTypes message).Nodup := by
  unfold carriedTypes messageRecords
  cases message <;>
    simp only [bodyRecords, chunkRecords, List.map_cons, List.map_nil, List.cons_append,
      List.nil_append] <;>
    decide +kernel

theorem carriedTypes_known (message : AssetPeerMessage) :
    ∀ typeId ∈ carriedTypes message, typeId ∈ knownTypes := by
  unfold carriedTypes messageRecords
  cases message <;> simp [bodyRecords, chunkRecords, knownTypes]

theorem knownTypes_odd : ∀ typeId ∈ knownTypes, typeId % 2 ≠ 0 := by
  have hodd : (knownTypes.all fun typeId => typeId % 2 ≠ 0) = true := by decide +kernel
  simpa using hodd

/-- Decoding undoes encoding. A byte string decodes to a message whose encoding is the stream
of the records of the message's kind: any others have odd types and are dropped. -/
theorem message_lossless :
    (∀ message, Fits message →
      ∃ bytes, encode message = .ok bytes ∧ decode bytes = .ok message) ∧
    ∀ bytes message records, decode bytes = .ok message → decodeStream bytes = .ok records →
      (∀ r ∈ records, r.typeId % 2 ≠ 0) ∧
      encode message = .ok
        ((records.filter (·.typeId ∈ carriedTypes message)).flatMap encodeRecord) ∧
      (encode message = .ok bytes ↔ ∀ r ∈ records, r.typeId ∈ carriedTypes message) := by
  constructor
  · intro message hfits
    have hnodup := carriedTypes_nodup message
    have hencode := encodeStream_recordsOf hnodup
    obtain ⟨records, hrecords, htypes, hreads⟩ := decodeStream_recordsOf hnodup hencode hfits
    refine ⟨_, mapError_eq_ok.mpr hencode, decode_eq_ok.mpr ⟨records, hrecords, ?_, hreads⟩⟩
    exact fun r hr hunknown => absurd (carriedTypes_known message _ (htypes r hr)) hunknown
  · intro bytes message records hdecode hrecords
    obtain ⟨records', hrecords', hknown, hreads⟩ := decode_eq_ok.mp hdecode
    rw [hrecords, Except.ok.injEq] at hrecords'
    subst hrecords'
    have hstream := decodeStream_eq_ok.mp hrecords
    have hsorted := (isStream_iff.mp hstream).2.2
    have hnodup := carriedTypes_nodup message
    have hencode : encode message = .ok
        ((records.filter (·.typeId ∈ carriedTypes message)).flatMap encodeRecord) := by
      rw [encode, encodeStream_recordsOf hnodup, sortByType_of_reads hnodup hsorted hreads]
      rfl
    refine ⟨fun r hr => ?_, hencode, ?_⟩
    · by_cases htype : r.typeId ∈ knownTypes
      · exact knownTypes_odd _ htype
      · exact hknown r hr htype
    · rw [hencode, Except.ok.injEq, flatMap_filter_eq hstream]
      simp

/-- A rejection with a record of another kind, a funding blob. -/
def rejectWithFundingBlob : Bytes :=
  [⟨typeMessageKind, u64Bytes rfqRejectType⟩, ⟨typeFundingBlob, [7]⟩, ⟨typeRejectReason, []⟩,
    ⟨typeRfqId, List.replicate 32 0⟩].flatMap encodeRecord

theorem rejectWithFundingBlob_dropped :
    decode rejectWithFundingBlob = .ok (.rfqReject (FixedBytes.zero 32) "") ∧
      encode (.rfqReject (FixedBytes.zero 32) "") ≠ .ok rejectWithFundingBlob := by
  constructor <;> decide +kernel

/-- The first of two chunks of an input proof. -/
def sampleInputProof : AssetPeerMessage :=
  .txAssetInputProof (.replicate 32 1) (.replicate 32 42) 1000
    ⟨.replicate 32 9, 0, 2, [1, 2, 3], false⟩

/-- Both directions on a rejection and on a chunk of a proof. -/
theorem message_lossless_chunk :
    ∀ message ∈ [.rfqReject (FixedBytes.zero 32) "expired", sampleInputProof],
      ∃ bytes records, encode message = .ok bytes ∧ decode bytes = .ok message ∧
        decodeStream bytes = .ok records ∧ ∀ r ∈ records, r.typeId ∈ carriedTypes message := by
  intro message hmessage
  have hfits : Fits message := by
    unfold Fits
    rcases List.mem_pair.mp hmessage with rfl | rfl <;> decide +kernel
  obtain ⟨bytes, hencode, hdecode⟩ := message_lossless.1 _ hfits
  obtain ⟨records, hrecords, -⟩ := decode_eq_ok.mp hdecode
  exact ⟨bytes, records, hencode, hdecode, hrecords,
    (message_lossless.2 _ _ _ hdecode hrecords).2.2.mp hencode⟩

end TapLdk.PeerMessage
