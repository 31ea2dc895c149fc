import Mathlib
import TapLdk.LightningLabsRfq

/-! The codec of requests, acceptances and rejections loses nothing. -/
namespace TapLdk.LightningLabsCodec
open TapLdk.LibraryExcept TapLdk.LibraryMaps TapLdk.LibraryBytes TapLdk.Mssmt TapLdk.Asset
open TapLdk.Tlv TapLdk.TlvCanonical TapLdk.TlvFields TapLdk.LightningLabsRfq

@[simp] theorem transferType_fromWire (value : LightningLabsTransferType) :
    LightningLabsTransferType.fromWire value.wireValue = .ok value := by
  cases value <;> rfl

@[simp] theorem executionPolicy_fromWire (value : LightningLabsExecutionPolicy) :
    LightningLabsExecutionPolicy.fromWire value.wireValue = .ok value := by
  cases value <;> rfl

@[simp] theorem rejectCode_fromWire (value : LightningLabsRejectCode) :
    LightningLabsRejectCode.fromWire value.wireValue = .ok value := by
  cases value <;> rfl

@[simp] theorem parseBytes32_bytes (value : Bytes32) : parseBytes32 value.bytes = .ok value := by
  simp [parseBytes32]

@[simp] theorem parseU8_single (value : UInt8) (field : String) :
    parseU8 [value] field = .ok value := by
  simp [parseU8, rejectIf]

@[simp] theorem parseU64_u64Bytes (value : UInt64) (field : String) :
    parseU64 (u64Bytes value) field = .ok value := by
  simp [parseU64, rejectIf, u64_of_u64Bytes]

@[simp] theorem parseExecutionPolicy_wireValue (value : LightningLabsExecutionPolicy) :
    parseExecutionPolicy [value.wireValue] = .ok value := by
  simp [parseExecutionPolicy]

theorem required_of_get {fields : BTreeMap UInt64 Bytes} {field : UInt64} {bytes : Bytes}
    (h : fields[field]? = some bytes) : required fields field = .ok bytes :=
  okOr_eq_ok.mpr h

theorem optional_of_get {α : Type} {parse : Bytes → LightningLabsResult α} {f : α → Bytes}
    {fields : BTreeMap UInt64 Bytes} {field : UInt64} {value : Option α}
    (h : fields[field]? = value.map f) (hparse : ∀ a ∈ value, parse (f a) = .ok a) :
    optionalField parse fields field = .ok value := by
  unfold optionalField
  cases value with
  | none => simp [h]
  | some a => simp [h, hparse a rfl]

theorem validate_eq_ok {rate : LightningLabsFixedPoint} {field : String} {u : Unit} :
    rate.validate field = .ok u ↔ rate.coefficientBe.length ≤ 16 := by
  simp [LightningLabsFixedPoint.validate]

theorem encode_rate {rate : LightningLabsFixedPoint} (h : rate.coefficientBe.length ≤ 16) :
    rate.encode = .ok rate.bytes := by
  rw [LightningLabsFixedPoint.encode, validate_eq_ok (u := ()).mpr h]
  rfl

theorem decode_bytes {rate : LightningLabsFixedPoint} (h : rate.coefficientBe.length ≤ 16) :
    LightningLabsFixedPoint.decode rate.bytes = .ok rate := by
  rw [LightningLabsFixedPoint.bytes, LightningLabsFixedPoint.decode, validate_eq_ok (u := ()).mpr h]
  rfl

theorem parseFixedPoint_bytes {rate : LightningLabsFixedPoint} {field : String}
    (h : rate.coefficientBe.length ≤ 16) : parseFixedPoint rate.bytes field = .ok rate := by
  rw [parseFixedPoint, decode_bytes h, ok_bind, validate_eq_ok (u := ()).mpr h]
  rfl

theorem validateOptionalRate_eq_ok {field : String} {rate : Option LightningLabsFixedPoint}
    {u : Unit} : validateOptionalRate field rate = .ok u ↔
      ∀ r ∈ rate, r.coefficientBe.length ≤ 16 ∧ r.isZero = false := by
  cases rate <;> simp [validateOptionalRate, validate_eq_ok]

theorem validateAssetSpecifier_eq_ok {field : String} {assetId : Option Bytes32}
    {groupKey : Option Bytes} {u : Unit} : validateAssetSpecifier field assetId groupKey = .ok u ↔
      (assetId = none ↔ groupKey ≠ none) ∧
        ∀ key ∈ groupKey, key.length = 33 ∧ (key.headD 0 = 2 ∨ key.headD 0 = 3) := by
  cases assetId <;> cases groupKey <;>
    simp [validateAssetSpecifier, or_iff_not_imp_left]

/-- What the shape check of a request establishes. -/
structure RequestShape (request : LightningLabsRfqRequest) : Prop where
  version : request.version = lightningLabsRfqWireVersion
  maxInAsset : request.maxInAsset ≠ 0
  inAsset : request.inAssetId = none ↔ request.inAssetGroupKey ≠ none
  inGroupKey : ∀ key ∈ request.inAssetGroupKey,
    key.length = 33 ∧ (key.headD 0 = 2 ∨ key.headD 0 = 3)
  outAsset : request.outAssetId = none ↔ request.outAssetGroupKey ≠ none
  outGroupKey : ∀ key ∈ request.outAssetGroupKey,
    key.length = 33 ∧ (key.headD 0 = 2 ∨ key.headD 0 = 3)
  btcSide : ¬ (request.inAssetId = some Bytes32.ZERO ↔ request.outAssetId = some Bytes32.ZERO)
  oracleMetadata : request.oracleMetadata.length ≤ lightningLabsMaxOracleMetadataLength
  inRate : ∀ r ∈ request.inAssetRateHint, r.coefficientBe.length ≤ 16 ∧ r.isZero = false
  outRate : ∀ r ∈ request.outAssetRateHint, r.coefficientBe.length ≤ 16 ∧ r.isZero = false
  rateLimit : ∀ r ∈ request.assetRateLimit, r.coefficientBe.length ≤ 16 ∧ r.isZero = false

theorem validateShape_request {request : LightningLabsRfqRequest} {u : Unit} :
    request.validateShape = .ok u ↔ RequestShape request := by
  simp only [LightningLabsRfqRequest.validateShape, check_bind_eq_ok, rejectIf_eq_ok,
    validateAssetSpecifier_eq_ok, validateOptionalRate_eq_ok, Nat.not_lt, ne_eq, not_not]
  constructor
  · rintro ⟨h1, h2, ⟨h3, h4⟩, ⟨h5, h6⟩, h7, h8, h9, h10, h11⟩
    exact ⟨h1, h2, h3, h4, h5, h6, h7, h8, h9, h10, h11⟩
  · rintro ⟨h1, h2, h3, h4, h5, h6, h7, h8, h9, h10, h11⟩
    exact ⟨h1, h2, ⟨h3, h4⟩, ⟨h5, h6⟩, h7, h8, h9, h10, h11⟩

structure AcceptShape (accept : LightningLabsRfqAccept) : Prop where
  version : accept.version = lightningLabsRfqWireVersion
  signature : accept.signature.length = 64
  inRate : accept.inAssetRate.coefficientBe.length ≤ 16
  outRate : accept.outAssetRate.coefficientBe.length ≤ 16
  inNonzero : accept.inAssetRate.isZero = false
  outNonzero : accept.outAssetRate.isZero = false

theorem validateShape_accept {accept : LightningLabsRfqAccept} {u : Unit} :
    accept.validateShape = .ok u ↔ AcceptShape accept := by
  simp only [LightningLabsRfqAccept.validateShape, check_bind_eq_ok, rejectIf_eq_ok, validate_eq_ok,
    ne_eq, not_not, Bool.not_eq_true]
  constructor
  · rintro ⟨h1, h2, h3, h4, h5, h6⟩
    exact ⟨h1, h2, h3, h4, h5, h6⟩
  · rintro ⟨h1, h2, h3, h4, h5, h6⟩
    exact ⟨h1, h2, h3, h4, h5, h6⟩

theorem mapM_encode {rate : Option LightningLabsFixedPoint}
    (h : ∀ r ∈ rate, r.coefficientBe.length ≤ 16) :
    rate.mapM LightningLabsFixedPoint.encode = .ok (rate.map (·.bytes)) := by
  cases rate with
  | none => rfl
  | some r =>
    change LightningLabsFixedPoint.encode r >>= (fun b => .ok (some b)) = _
    rw [encode_rate (h r rfl)]
    rfl

theorem encode_request {request : LightningLabsRfqRequest} {bytes : Bytes} :
    request.encode = .ok bytes ↔ RequestShape request ∧
      encodeStream (sortByType (recordsOf request.records)) = .ok bytes := by
  simp only [LightningLabsRfqRequest.encode, bind_eq_ok, validateShape_request, mapError_eq_ok,
    exists_const]
  constructor
  · rintro ⟨hshape, _, -, _, -, _, -, hstream⟩
    exact ⟨hshape, hstream⟩
  · rintro ⟨hshape, hstream⟩
    have hfits : ∀ {rate : Option LightningLabsFixedPoint},
        (∀ r ∈ rate, r.coefficientBe.length ≤ 16 ∧ r.isZero = false) →
          ∃ encoded, rate.mapM LightningLabsFixedPoint.encode = .ok encoded :=
      fun h => ⟨_, mapM_encode fun r hr => (h r hr).1⟩
    obtain ⟨inRate, hin⟩ := hfits hshape.inRate
    obtain ⟨outRate, hout⟩ := hfits hshape.outRate
    obtain ⟨limit, hlimit⟩ := hfits hshape.rateLimit
    exact ⟨hshape, inRate, hin, outRate, hout, limit, hlimit, hstream⟩

theorem requestTypes (request : LightningLabsRfqRequest) :
    (request.records.map (·.1)).Nodup ∧ ∀ t ∈ request.records.map (·.1), t ∈ knownRequestTypes := by
  simp only [LightningLabsRfqRequest.records, List.map_cons, List.map_nil]
  constructor
  · decide +kernel
  · simp [knownRequestTypes]

/-- No value of a well-formed request is long. -/
theorem request_fits {request : LightningLabsRfqRequest} (h : RequestShape request) :
    ∀ r ∈ recordsOf request.records, r.value.length < 2 ^ 64 := by
  have hkey : ∀ key : Option Bytes,
      (∀ k ∈ key, k.length = 33 ∧ (k.headD 0 = 2 ∨ k.headD 0 = 3)) → ∀ k ∈ key, k.length < 2 ^ 64 := by
    intro key hkey k hk
    rw [(hkey k hk).1]
    decide
  have hrate : ∀ rate : Option LightningLabsFixedPoint,
      (∀ r ∈ rate, r.coefficientBe.length ≤ 16 ∧ r.isZero = false) →
        ∀ r ∈ rate, r.bytes.length < 2 ^ 64 := by
    intro rate hrate r hr
    have := (hrate r hr).1
    simp only [LightningLabsFixedPoint.bytes, List.length_cons]
    omega
  have horacle := h.oracleMetadata
  unfold lightningLabsMaxOracleMetadataLength at horacle
  apply fits_of_slots
  simp only [LightningLabsRfqRequest.records, List.forall_mem_cons]
  simp [FixedBytes.length_eq]
  refine ⟨hkey _ h.inGroupKey, hkey _ h.outGroupKey, hrate _ h.inRate, hrate _ h.outRate, ?_,
    hrate _ h.rateLimit⟩
  intro _
  omega

/-- The fields of a well-formed request are enough to read it. -/
theorem decode_request_of_reads {request : LightningLabsRfqRequest} {bytes : Bytes}
    {records : List TlvRecord} (hshape : RequestShape request)
    (hrecords : decodeStream bytes = .ok records)
    (htypes : ∀ r ∈ records, r.typeId ∈ request.records.map (·.1))
    (h : Reads (recordMap records) request.records) :
    LightningLabsRfqRequest.decode bytes = .ok request := by
  have hknown : rejectUnknownRequired records knownRequestTypes = .ok () :=
    rejectUnknownRequired_eq_ok.mpr fun r hr hunknown =>
      absurd ((requestTypes request).2 _ (htypes r hr)) hunknown
  have hkey : ∀ key : Option Bytes,
      (∀ k ∈ key, k.length = 33 ∧ (k.headD 0 = 2 ∨ k.headD 0 = 3)) →
        ∀ k ∈ key, parseGroupKey k = .ok k := by
    intro key hkey k hk
    simp [parseGroupKey, rejectIf, (hkey k hk).1]
  have hrate : ∀ rate : Option LightningLabsFixedPoint,
      (∀ r ∈ rate, r.coefficientBe.length ≤ 16 ∧ r.isZero = false) →
        ∀ r ∈ rate, LightningLabsFixedPoint.decode r.bytes = .ok r :=
    fun _ hrate r hr => decode_bytes (hrate r hr).1
  simp only [LightningLabsRfqRequest.records, Reads, List.forall_mem_cons] at h
  obtain ⟨h1, h2, h3, h4, h5, h6, h7, h8, h9, h10, h11, h12, h13, h14, h15, h16, -⟩ := h
  have horacle : (recordMap records)[typeRequestOracleMetadata]?.getD [] =
      request.oracleMetadata := by
    rw [h14]
    split_ifs with hempty
    · exact hempty.symm
    · rfl
  have h6' : optionalBytes32 (recordMap records) typeRequestInAssetId = .ok request.inAssetId :=
    optional_of_get h6 fun a _ => parseBytes32_bytes a
  have h8' : optionalBytes32 (recordMap records) typeRequestOutAssetId = .ok request.outAssetId :=
    optional_of_get h8 fun a _ => parseBytes32_bytes a
  have h7' : optionalGroupKey (recordMap records) typeRequestInAssetGroupKey =
      .ok request.inAssetGroupKey :=
    optional_of_get (f := id) (by simpa using h7) (hkey _ hshape.inGroupKey)
  have h9' : optionalGroupKey (recordMap records) typeRequestOutAssetGroupKey =
      .ok request.outAssetGroupKey :=
    optional_of_get (f := id) (by simpa using h9) (hkey _ hshape.outGroupKey)
  have h10' : optionalFixedPoint (recordMap records) typeRequestInAssetRateHint =
      .ok request.inAssetRateHint := optional_of_get h10 (hrate _ hshape.inRate)
  have h11' : optionalFixedPoint (recordMap records) typeRequestOutAssetRateHint =
      .ok request.outAssetRateHint := optional_of_get h11 (hrate _ hshape.outRate)
  have h12' : optionalU64 (recordMap records) typeRequestMinInAsset "min_in_asset" =
      .ok request.minInAsset := optional_of_get h12 fun a _ => parseU64_u64Bytes a _
  have h13' : optionalU64 (recordMap records) typeRequestMinOutAsset "min_out_asset" =
      .ok request.minOutAsset := optional_of_get h13 fun a _ => parseU64_u64Bytes a _
  have h15' : optionalFixedPoint (recordMap records) typeRequestAssetRateLimit =
      .ok request.assetRateLimit := optional_of_get h15 (hrate _ hshape.rateLimit)
  have h16' : optionalExecutionPolicy (recordMap records) = .ok request.executionPolicy :=
    optional_of_get h16 fun a _ => parseExecutionPolicy_wireValue a
  have hvalid : request.validateShape = .ok () := validateShape_request.mpr hshape
  have hrecords' : (decodeStream bytes).mapError LightningLabsRfqError.tlv = .ok records :=
    mapError_eq_ok.mpr hrecords
  have hknown' : (rejectUnknownRequired records knownRequestTypes).mapError
      LightningLabsRfqError.tlv = .ok () := mapError_eq_ok.mpr hknown
  unfold LightningLabsRfqRequest.decode
  simp only [hrecords', hknown', required_of_get h1, required_of_get h2, required_of_get h3,
    required_of_get h4, required_of_get h5, parseU8_single, parseBytes32_bytes, parseU64_u64Bytes,
    transferType_fromWire, h6', h7', h8', h9', h10', h11', h12', h13', horacle, h15', h16', ok_bind,
    hvalid, pure_eq_ok]

theorem decode_encode_request {request : LightningLabsRfqRequest} {bytes : Bytes}
    (h : request.encode = .ok bytes) : LightningLabsRfqRequest.decode bytes = .ok request := by
  obtain ⟨hshape, hstream⟩ := encode_request.mp h
  obtain ⟨records, hrecords, htypes, hreads⟩ :=
    decodeStream_recordsOf (requestTypes request).1 hstream (request_fits hshape)
  exact decode_request_of_reads hshape hrecords htypes hreads

theorem encode_request_total {request : LightningLabsRfqRequest} (h : RequestShape request) :
    ∃ bytes, request.encode = .ok bytes :=
  ⟨_, encode_request.mpr ⟨h, encodeStream_recordsOf (requestTypes request).1⟩⟩

theorem shape_of_decode_request {request : LightningLabsRfqRequest} {bytes : Bytes}
    (h : LightningLabsRfqRequest.decode bytes = .ok request) : RequestShape request := by
  simp only [LightningLabsRfqRequest.decode, bind_eq_ok, pure_eq_ok, Except.ok.injEq] at h
  obtain ⟨_, -, _, -, _, -, _, -, _, -, _, -, _, -, _, -, _, -, _, -, _, -, _, -, _, -, _, -, _, -,
    _, -, _, -, _, -, _, -, _, -, _, -, _, -, _, -, _, hvalid, rfl⟩ := h
  exact validateShape_request.mp hvalid

theorem encode_accept {accept : LightningLabsRfqAccept} {bytes : Bytes} :
    accept.encode = .ok bytes ↔ AcceptShape accept ∧
      encodeStream (sortByType (recordsOf accept.records)) = .ok bytes := by
  simp only [LightningLabsRfqAccept.encode, bind_eq_ok, validateShape_accept, mapError_eq_ok,
    exists_const]
  constructor
  · rintro ⟨hshape, _, -, _, -, hstream⟩
    exact ⟨hshape, hstream⟩
  · rintro ⟨hshape, hstream⟩
    exact ⟨hshape, _, encode_rate hshape.inRate, _, encode_rate hshape.outRate, hstream⟩

theorem acceptTypes (accept : LightningLabsRfqAccept) :
    (accept.records.map (·.1)).Nodup ∧ ∀ t ∈ accept.records.map (·.1), t ∈ knownAcceptTypes := by
  simp only [LightningLabsRfqAccept.records, List.map_cons, List.map_nil]
  constructor
  · decide +kernel
  · simp [knownAcceptTypes]

theorem accept_fits {accept : LightningLabsRfqAccept} (h : AcceptShape accept) :
    ∀ r ∈ recordsOf accept.records, r.value.length < 2 ^ 64 := by
  have hin := h.inRate
  have hout := h.outRate
  apply fits_of_slots
  simp only [LightningLabsRfqAccept.records, List.forall_mem_cons]
  simp [FixedBytes.length_eq, h.signature, LightningLabsFixedPoint.bytes]
  omega

theorem decode_accept_of_reads {accept : LightningLabsRfqAccept} {bytes : Bytes}
    {records : List TlvRecord} (hshape : AcceptShape accept) (hmax : accept.maxInAsset ≠ some 0)
    (hrecords : decodeStream bytes = .ok records)
    (htypes : ∀ r ∈ records, r.typeId ∈ accept.records.map (·.1))
    (h : Reads (recordMap records) accept.records) :
    LightningLabsRfqAccept.decode bytes = .ok accept := by
  have hknown : rejectUnknownRequired records knownAcceptTypes = .ok () :=
    rejectUnknownRequired_eq_ok.mpr fun r hr hunknown =>
      absurd ((acceptTypes accept).2 _ (htypes r hr)) hunknown
  simp only [LightningLabsRfqAccept.records, Reads, List.forall_mem_cons] at h
  obtain ⟨h1, h2, h3, h4, h5, h6, h7, -⟩ := h
  have h7' : optionalU64 (recordMap records) typeAcceptMaxInAsset "max_in_asset" =
      .ok accept.maxInAsset := optional_of_get h7 fun a _ => parseU64_u64Bytes a _
  have hvalid : accept.validateShape = .ok () := validateShape_accept.mpr hshape
  have hrecords' : (decodeStream bytes).mapError LightningLabsRfqError.tlv = .ok records :=
    mapError_eq_ok.mpr hrecords
  have hknown' : (rejectUnknownRequired records knownAcceptTypes).mapError
      LightningLabsRfqError.tlv = .ok () := mapError_eq_ok.mpr hknown
  unfold LightningLabsRfqAccept.decode
  simp only [hrecords', hknown', required_of_get h1, required_of_get h2, required_of_get h3,
    required_of_get h4, required_of_get h5, required_of_get h6, parseU8_single, parseBytes32_bytes,
    parseU64_u64Bytes, parseFixedPoint_bytes hshape.inRate, parseFixedPoint_bytes hshape.outRate,
    h7', if_neg hmax, ok_bind, hvalid, pure_eq_ok]

theorem decode_encode_accept {accept : LightningLabsRfqAccept} {bytes : Bytes}
    (hmax : accept.maxInAsset ≠ some 0) (h : accept.encode = .ok bytes) :
    LightningLabsRfqAccept.decode bytes = .ok accept := by
  obtain ⟨hshape, hstream⟩ := encode_accept.mp h
  obtain ⟨records, hrecords, htypes, hreads⟩ :=
    decodeStream_recordsOf (acceptTypes accept).1 hstream (accept_fits hshape)
  exact decode_accept_of_reads hshape hmax hrecords htypes hreads

theorem encode_accept_total {accept : LightningLabsRfqAccept} (h : AcceptShape accept) :
    ∃ bytes, accept.encode = .ok bytes :=
  ⟨_, encode_accept.mpr ⟨h, encodeStream_recordsOf (acceptTypes accept).1⟩⟩

theorem shape_of_decode_accept {accept : LightningLabsRfqAccept} {bytes : Bytes}
    (h : LightningLabsRfqAccept.decode bytes = .ok accept) :
    AcceptShape accept ∧ accept.maxInAsset ≠ some 0 := by
  simp only [LightningLabsRfqAccept.decode, bind_eq_ok, pure_eq_ok, Except.ok.injEq] at h
  obtain ⟨_, -, _, -, maxInAsset, -, _, -, _, -, _, -, _, -, _, -, _, -, _, -, _, -, _, -, _, -, _, -,
    _, hvalid, rfl⟩ := h
  refine ⟨validateShape_accept.mp hvalid, ?_⟩
  by_cases hzero : maxInAsset = some 0
  · simp [hzero]
  · simp [hzero]

theorem encode_reject {reject : LightningLabsRfqReject} {bytes : Bytes} :
    reject.encode = .ok bytes ↔ reject.version = lightningLabsRfqWireVersion ∧
      encodeStream reject.records = .ok bytes := by
  simp [LightningLabsRfqReject.encode, LightningLabsRfqReject.validateShape]

theorem rejectRecords_sorted (reject : LightningLabsRfqReject) :
    reject.records.Pairwise fun r r' => r.typeId < r'.typeId :=
  ensureSortedUnique_none.mp (rfl : ensureSortedUnique none reject.records = .ok ())

theorem decode_encode_reject {reject : LightningLabsRfqReject} {bytes : Bytes}
    (hmessage : (utf8 reject.message).length + 1 < 2 ^ 64) (h : reject.encode = .ok bytes) :
    LightningLabsRfqReject.decode bytes = .ok reject := by
  obtain ⟨hversion, hstream⟩ := encode_reject.mp h
  have hfits : ∀ r ∈ reject.records, r.value.length < 2 ^ 64 := by
    simp only [LightningLabsRfqReject.records, List.forall_mem_cons]
    simp [FixedBytes.length_eq] at hmessage ⊢
    exact hmessage
  have hrecords : (decodeStream bytes).mapError LightningLabsRfqError.tlv = .ok reject.records :=
    mapError_eq_ok.mpr (decodeStream_encodeStream hstream hfits)
  have hknown : (rejectUnknownRequired reject.records knownRejectTypes).mapError
      LightningLabsRfqError.tlv = .ok () := by
    rw [mapError_eq_ok, rejectUnknownRequired_eq_ok]
    simp [LightningLabsRfqReject.records, knownRejectTypes]
  have hget : ∀ r ∈ reject.records,
      required (recordMap reject.records) r.typeId = .ok r.value := fun r hr =>
    required_of_get ((get_recordMap (nodup_of_sorted (rejectRecords_sorted reject))).mpr hr)
  have h1 := hget ⟨typeVersion, [reject.version]⟩ (by simp [LightningLabsRfqReject.records])
  have h2 := hget ⟨typeId, reject.id.bytes⟩ (by simp [LightningLabsRfqReject.records])
  have h3 := hget ⟨typeRejectError, reject.code.wireValue :: utf8 reject.message⟩
    (by simp [LightningLabsRfqReject.records])
  have hvalid : reject.validateShape = .ok () := rejectIf_false (not_not.mpr hversion)
  unfold LightningLabsRfqReject.decode
  simp only [hrecords, hknown, ok_bind, h1, h2, h3, LightningLabsRfqReject.splitFirst, fromUtf8_utf8,
    okOr, parseU8_single, parseBytes32_bytes, rejectCode_fromWire, hvalid, pure_eq_ok]

theorem encode_reject_total {reject : LightningLabsRfqReject}
    (h : reject.version = lightningLabsRfqWireVersion) : ∃ bytes, reject.encode = .ok bytes :=
  ⟨_, encode_reject.mpr ⟨h, encodeStream_eq_ok.mpr ⟨rejectRecords_sorted reject, rfl⟩⟩⟩

/-- A decoded rejection has the known version, and its message was part of a record. -/
theorem shape_of_decode_reject {reject : LightningLabsRfqReject} {bytes : Bytes}
    (h : LightningLabsRfqReject.decode bytes = .ok reject) :
    reject.version = lightningLabsRfqWireVersion ∧ (utf8 reject.message).length + 1 < 2 ^ 64 := by
  simp only [LightningLabsRfqReject.decode, bind_eq_ok, mapError_eq_ok, required, okOr_eq_ok,
    pure_eq_ok, Except.ok.injEq, Prod.exists] at h
  obtain ⟨records, hrecords, _, -, value, hvalue, code, message, hsplit, text, htext, _, -, _, -, _,
    -, _, -, _, -, _, hvalid, rfl⟩ := h
  have hstream := isStream_iff.mp (decodeStream_eq_ok.mp hrecords)
  rw [get_recordMap (nodup_of_sorted hstream.2.2)] at hvalue
  have hlength := hstream.2.1 _ hvalue
  refine ⟨not_not.mp (rejectIf_eq_ok.mp hvalid), ?_⟩
  cases value with
  | nil => cases hsplit
  | cons first rest =>
    obtain ⟨rfl, rfl⟩ := Prod.mk.inj (Except.ok.inj hsplit)
    rw [utf8_of_fromUtf8 htext]
    exact hlength

/-- Decoding undoes encoding, and what decodes encodes to a stream of the same message. A
rejection's message is a vector, of fewer than `2 ^ 64 - 1` bytes. -/
theorem wire_lossless :
    (∀ (request : LightningLabsRfqRequest) bytes, request.encode = .ok bytes →
      LightningLabsRfqRequest.decode bytes = .ok request) ∧
    (∀ (accept : LightningLabsRfqAccept) bytes, accept.maxInAsset ≠ some 0 →
      accept.encode = .ok bytes → LightningLabsRfqAccept.decode bytes = .ok accept) ∧
    (∀ (reject : LightningLabsRfqReject) bytes, (utf8 reject.message).length + 1 < 2 ^ 64 →
      reject.encode = .ok bytes → LightningLabsRfqReject.decode bytes = .ok reject) ∧
    (∀ bytes request, LightningLabsRfqRequest.decode bytes = .ok request →
      ∃ bytes', request.encode = .ok bytes' ∧ LightningLabsRfqRequest.decode bytes' = .ok request) ∧
    (∀ bytes accept, LightningLabsRfqAccept.decode bytes = .ok accept →
      ∃ bytes', accept.encode = .ok bytes' ∧ LightningLabsRfqAccept.decode bytes' = .ok accept) ∧
    ∀ bytes reject, LightningLabsRfqReject.decode bytes = .ok reject →
      ∃ bytes', reject.encode = .ok bytes' ∧ LightningLabsRfqReject.decode bytes' = .ok reject := by
  refine ⟨fun _ _ => decode_encode_request, fun _ _ => decode_encode_accept,
    fun _ _ => decode_encode_reject, fun bytes request h => ?_, fun bytes accept h => ?_,
    fun bytes reject h => ?_⟩
  · obtain ⟨bytes', hencode⟩ := encode_request_total (shape_of_decode_request h)
    exact ⟨bytes', hencode, decode_encode_request hencode⟩
  · obtain ⟨hshape, hmax⟩ := shape_of_decode_accept h
    obtain ⟨bytes', hencode⟩ := encode_accept_total hshape
    exact ⟨bytes', hencode, decode_encode_accept hmax hencode⟩
  · obtain ⟨hversion, hmessage⟩ := shape_of_decode_reject h
    obtain ⟨bytes', hencode⟩ := encode_reject_total hversion
    exact ⟨bytes', hencode, decode_encode_reject hmessage hencode⟩

def sampleRequest : LightningLabsRfqRequest where
  version := lightningLabsRfqWireVersion
  id := Bytes32.ZERO
  transferType := .payInvoice
  expiryUnixSeconds := 100
  inAssetId := some Bytes32.ZERO
  inAssetGroupKey := none
  outAssetId := none
  outAssetGroupKey := some (2 :: List.replicate 32 7)
  maxInAsset := 5
  inAssetRateHint := none
  outAssetRateHint := some .msatPerBtc
  minInAsset := some 1
  minOutAsset := none
  oracleMetadata := []
  assetRateLimit := none
  executionPolicy := some .fillOrKill

def sampleAccept : LightningLabsRfqAccept where
  version := lightningLabsRfqWireVersion
  id := Bytes32.ZERO
  expiryUnixSeconds := 100
  signature := List.replicate 64 0
  inAssetRate := .msatPerBtc
  outAssetRate := .msatPerBtc
  maxInAsset := some 5

def sampleReject : LightningLabsRfqReject where
  version := lightningLabsRfqWireVersion
  id := Bytes32.ZERO
  code := .priceOracleUnavailable
  message := "price oracle unavailable"

theorem sampleRequest_shape : RequestShape sampleRequest := by
  apply validateShape_request (u := ()).mp
  decide +kernel

theorem sampleAccept_shape : AcceptShape sampleAccept := by
  apply validateShape_accept (u := ()).mp
  decide +kernel

theorem wire_lossless_samples :
    (∃ bytes, sampleRequest.encode = .ok bytes ∧
      LightningLabsRfqRequest.decode bytes = .ok sampleRequest) ∧
    (∃ bytes, sampleAccept.encode = .ok bytes ∧
      LightningLabsRfqAccept.decode bytes = .ok sampleAccept) ∧
    ∃ bytes, sampleReject.encode = .ok bytes ∧
      LightningLabsRfqReject.decode bytes = .ok sampleReject := by
  obtain ⟨hrequest, haccept, hreject, hrequest', haccept', hreject'⟩ := wire_lossless
  obtain ⟨bytes, hbytes⟩ := encode_request_total sampleRequest_shape
  obtain ⟨bytes', hbytes'⟩ := encode_accept_total sampleAccept_shape
  obtain ⟨bytes'', hbytes''⟩ := @encode_reject_total sampleReject rfl
  have hmax : sampleAccept.maxInAsset ≠ some 0 := by decide
  have hmessage : (utf8 sampleReject.message).length + 1 < 2 ^ 64 := by decide +kernel
  exact ⟨hrequest' bytes _ (hrequest _ _ hbytes), haccept' bytes' _ (haccept _ _ hmax hbytes'),
    hreject' bytes'' _ (hreject _ _ hmessage hbytes'')⟩

end TapLdk.LightningLabsCodec
