import Mathlib
import TapLdk.Address
import TapLdk.LibraryBech32

/-! The codec of addresses loses nothing: an address comes back from its text, and what a
payload is decoded to is encoded and decoded again. -/
namespace TapLdk.AddressCodec
open TapLdk.LibraryExcept TapLdk.LibraryMaps TapLdk.LibraryBytes TapLdk.Mssmt TapLdk.Asset
open TapLdk.Tlv TapLdk.TlvCanonical TapLdk.TlvFields TapLdk.Address

variable {ε : Type}

/-- The first record of a type is the one that a map of the records holds. -/
theorem find_eq {records : List TlvRecord} (hnodup : (records.map (·.typeId)).Nodup)
    (typeId : UInt64) : find records typeId = (recordMap records)[typeId]? := by
  refine Option.ext fun value => ?_
  rw [get_recordMap hnodup, find, Option.map_eq_some_iff]
  constructor
  · rintro ⟨record, hfind, rfl⟩
    have htype := List.find?_some hfind
    rw [decide_eq_true_eq] at htype
    exact htype ▸ List.mem_of_find?_eq_some hfind
  · intro hmem
    cases hfind : records.find? (fun record => record.typeId = typeId) with
    | none => exact absurd rfl (of_decide_eq_false
        (Bool.eq_false_iff.mpr (List.find?_eq_none.mp hfind _ hmem)))
    | some record =>
      have htype := List.find?_some hfind
      rw [decide_eq_true_eq] at htype
      have hsame := List.inj_on_of_nodup_map hnodup (List.mem_of_find?_eq_some hfind) hmem htype
      exact ⟨record, rfl, hsame ▸ rfl⟩

/-- The fields of an address; an empty tapscript sibling is no field. -/
def slots (a : TapAddress) : List Slot :=
  [(typeVersion, some [a.version]), (typeAssetId, some a.assetId.bytes),
    (typeScriptKey, some a.scriptKey.bytes), (typeInternalKey, some a.internalKey.bytes),
    (typeAmount, some (encodeBigSize a.amount)),
    (typeProofCourierAddr, some (utf8 a.proofCourierAddr)),
    (typeGroupKey, a.groupKey.map (·.bytes)),
    (typeTapscriptSibling, if a.tapscriptSibling.isEmpty then none else some a.tapscriptSibling)]

theorem records_eq (a : TapAddress) : a.records = recordsOf (slots a) := by
  unfold TapAddress.records slots
  cases a.groupKey <;> cases a.tapscriptSibling <;> rfl

theorem slots_nodup (a : TapAddress) : ((slots a).map (·.1)).Nodup := by
  simp only [slots, List.map_cons, List.map_nil]
  decide

theorem slots_known (a : TapAddress) {typeId : UInt64} (h : typeId ∈ (slots a).map (·.1)) :
    typeId ∈ knownTypes := by
  simp only [slots, List.map_cons, List.map_nil] at h
  revert h
  generalize typeId = t
  simp [knownTypes]
  tauto

/-- The variable-length fields of an address fit the length fields of its payload. -/
structure Fits (a : TapAddress) : Prop where
  tapscriptSibling : a.tapscriptSibling.length < 2 ^ 64
  proofCourierAddr : (utf8 a.proofCourierAddr).length < 2 ^ 64

/-- The keys of an address are compressed points. -/
structure KeysPrefixed (a : TapAddress) : Prop where
  groupKey : ∀ key ∈ a.groupKey, HasKeyPrefix key
  scriptKey : HasKeyPrefix a.scriptKey
  internalKey : HasKeyPrefix a.internalKey

theorem encodeBigSize_length_le (value : UInt64) : (encodeBigSize value).length ≤ 9 := by
  unfold encodeBigSize
  split_ifs <;> simp

theorem records_fit {a : TapAddress} (h : Fits a) :
    ∀ r ∈ recordsOf (slots a), r.value.length < 2 ^ 64 := by
  apply fits_of_slots
  have hfixed : ∀ (n : ℕ) (b : FixedBytes n), n < 2 ^ 64 → b.bytes.length < 2 ^ 64 :=
    fun _ b hn => b.length_eq.symm ▸ hn
  have hamount : (encodeBigSize a.amount).length < 2 ^ 64 :=
    (encodeBigSize_length_le a.amount).trans_lt (by decide)
  have hgroup : ∀ value ∈ a.groupKey.map (·.bytes), List.length value < 2 ^ 64 := by
    intro value hvalue
    obtain ⟨key, -, rfl⟩ := Option.map_eq_some_iff.mp hvalue
    exact hfixed 33 key (by decide)
  have hsibling : ∀ value ∈ if a.tapscriptSibling.isEmpty then none else some a.tapscriptSibling,
      List.length value < 2 ^ 64 := by
    intro value hvalue
    split at hvalue
    · cases hvalue
    · exact Option.some.inj hvalue ▸ h.tapscriptSibling
  have hsome : ∀ bytes : Bytes, bytes.length < 2 ^ 64 → ∀ value ∈ some bytes,
      List.length value < 2 ^ 64 := fun _ hlt _ hvalue => Option.some.inj hvalue ▸ hlt
  simp only [slots, List.forall_mem_cons]
  exact ⟨hsome _ (by simp), hsome _ (hfixed 32 _ (by decide)), hsome _ (hfixed 33 _ (by decide)),
    hsome _ (hfixed 33 _ (by decide)), hsome _ hamount, hsome _ h.proofCourierAddr, hgroup,
    hsibling, by simp⟩

@[simp] theorem parseU8_single (value : UInt8) :
    parseU8 [value] = (.ok value : Except (AddressError ε) UInt8) := by
  simp [parseU8, rejectIf]

@[simp] theorem parseBytes32_bytes (value : Bytes32) :
    parseBytes32 value.bytes = (.ok value : Except (AddressError ε) Bytes32) := by
  simp [parseBytes32]

@[simp] theorem parseString_utf8 (value : String) :
    parseString (utf8 value) = (.ok value : Except (AddressError ε) String) := by
  simp [parseString]

@[simp] theorem parseBigSizeValue_encode (value : UInt64) :
    parseBigSizeValue (encodeBigSize value) = (.ok value : Except (AddressError ε) UInt64) := by
  have hdecode := decodeBigSize_encodeBigSize value []
  rw [List.append_nil] at hdecode
  simp [parseBigSizeValue, hdecode, Except.mapError, rejectIf]

/-- A key is read from its own bytes, when it has a point prefix. -/
theorem parseCompressedKey_eq_ok {bytes : Bytes} {key : CompressedKey} :
    parseCompressedKey bytes = (.ok key : Except (AddressError ε) CompressedKey) ↔
      bytes = key.bytes ∧ HasKeyPrefix key := by
  rw [parseCompressedKey, mapError_eq_ok]
  constructor
  · intro h
    have hbytes : bytes = key.bytes := by
      simp only [compressedKeyFromStr, decodeHex_encodeHex, ok_bind, bind_eq_ok, okOr_eq_ok,
        FixedBytes.ofBytes_eq_some, pure_eq_ok, Except.ok.injEq] at h
      obtain ⟨key', hkey, _, -, rfl⟩ := h
      exact hkey
    rw [hbytes] at h
    exact ⟨hbytes, (compressedKeyFromStr_toHex.mp h).2⟩
  · rintro ⟨rfl, hkey⟩
    exact compressedKeyFromStr_toHex.mpr ⟨rfl, hkey⟩

theorem transpose_eq_ok {value : Option Bytes} {groupKey : Option CompressedKey} :
    transpose value parseCompressedKey =
        (.ok groupKey : Except (AddressError ε) (Option CompressedKey)) ↔
      value = groupKey.map (·.bytes) ∧ ∀ key ∈ groupKey, HasKeyPrefix key := by
  cases value with
  | none =>
    cases groupKey <;> simp [transpose]
  | some bytes =>
    rw [transpose]
    cases groupKey with
    | none =>
      cases (parseCompressedKey bytes : Except (AddressError ε) CompressedKey) <;> simp [Except.map]
    | some key =>
      have hmap : (parseCompressedKey bytes).map some =
          (.ok (some key) : Except (AddressError ε) (Option CompressedKey)) ↔
          parseCompressedKey bytes = (.ok key : Except (AddressError ε) CompressedKey) := by
        cases (parseCompressedKey bytes : Except (AddressError ε) CompressedKey) <;> simp [Except.map]
      rw [hmap, parseCompressedKey_eq_ok]
      simp

/-- A payload whose records read as the fields of an address is decoded to it. -/
theorem decodePayload_of_reads {a : TapAddress} {payload : Bytes} {records : List TlvRecord}
    (hkeys : KeysPrefixed a) (hrecords : decodeStream payload = .ok records)
    (hknown : ∀ r ∈ records, r.typeId ∈ (slots a).map (·.1))
    (hreads : Reads (recordMap records) (slots a)) :
    TapAddress.decodePayload a.hrp payload = (.ok a : Except (AddressError ε) TapAddress) := by
  obtain ⟨-, -, hsorted⟩ := isStream_iff.mp (decodeStream_eq_ok.mp hrecords)
  have hfind : ∀ slot ∈ slots a, find records slot.1 = slot.2 := fun slot hslot =>
    (find_eq (nodup_of_sorted hsorted) slot.1).trans (hreads slot hslot)
  simp only [slots, List.forall_mem_cons] at hfind
  obtain ⟨hversion, hasset, hscript, hinternal, hamount, hcourier, hgroup, hsibling, -⟩ := hfind
  have hrequired : rejectUnknownRequired records knownTypes = .ok () :=
    rejectUnknownRequired_eq_ok.mpr fun r hr hunknown =>
      absurd (slots_known a (hknown r hr)) hunknown
  have hscriptKey : parseCompressedKey a.scriptKey.bytes =
      (.ok a.scriptKey : Except (AddressError ε) CompressedKey) :=
    parseCompressedKey_eq_ok.mpr ⟨rfl, hkeys.scriptKey⟩
  have hinternalKey : parseCompressedKey a.internalKey.bytes =
      (.ok a.internalKey : Except (AddressError ε) CompressedKey) :=
    parseCompressedKey_eq_ok.mpr ⟨rfl, hkeys.internalKey⟩
  have hgroupKey : transpose (a.groupKey.map (·.bytes)) parseCompressedKey =
      (.ok a.groupKey : Except (AddressError ε) (Option CompressedKey)) :=
    transpose_eq_ok.mpr ⟨rfl, hkeys.groupKey⟩
  have hsiblingValue : (if a.tapscriptSibling.isEmpty then none
      else some a.tapscriptSibling).getD [] = a.tapscriptSibling := by
    cases a.tapscriptSibling <;> rfl
  simp only [TapAddress.decodePayload, hrecords, hrequired, Except.mapError, ok_bind, hversion,
    hasset, hscript, hinternal, hamount, hcourier, hgroup, hsibling, required, okOr, hscriptKey,
    hinternalKey, hgroupKey, hsiblingValue, parseU8_single, parseBytes32_bytes, parseString_utf8,
    parseBigSizeValue_encode, pure_eq_ok]

/-- An address is decoded from its payload. -/
theorem decodePayload_encodePayload {a : TapAddress} (hkeys : KeysPrefixed a) (hfits : Fits a) :
    ∃ payload, a.encodePayload = (.ok payload : Except (AddressError ε) Bytes) ∧
      TapAddress.decodePayload a.hrp payload = (.ok a : Except (AddressError ε) TapAddress) := by
  have hstream := encodeStream_recordsOf (slots_nodup a)
  obtain ⟨records, hrecords, hknown, hreads⟩ :=
    decodeStream_recordsOf (slots_nodup a) hstream (records_fit hfits)
  refine ⟨_, ?_, decodePayload_of_reads hkeys hrecords hknown hreads⟩
  rw [TapAddress.encodePayload, records_eq, hstream]
  rfl

theorem length_of_find {payload : Bytes} {records : List TlvRecord}
    (hrecords : decodeStream payload = .ok records) {typeId : UInt64} {value : Bytes}
    (h : find records typeId = some value) : value.length < 2 ^ 64 := by
  obtain ⟨-, hfits, -⟩ := isStream_iff.mp (decodeStream_eq_ok.mp hrecords)
  obtain ⟨record, hrecord, rfl⟩ := Option.map_eq_some_iff.mp h
  exact hfits record (List.mem_of_find?_eq_some hrecord)

/-- What is decoded has the given network, point prefixes and fields that fit. -/
theorem decodePayload_spec {hrp : TapHrp} {payload : Bytes} {a : TapAddress}
    (h : TapAddress.decodePayload hrp payload = (.ok a : Except (AddressError ε) TapAddress)) :
    a.hrp = hrp ∧ KeysPrefixed a ∧ Fits a := by
  simp only [TapAddress.decodePayload, bind_eq_ok, mapError_eq_ok, required, okOr_eq_ok,
    pure_eq_ok, Except.ok.injEq] at h
  obtain ⟨records, hrecords, _, -, _, -, version, -, _, -, assetId, -, groupKey, hgroup, scriptBytes,
    -, scriptKey, hscript, internalBytes, -, internalKey, hinternal, _, -, amount, -, courierBytes,
    hcourier, courier, hcourier', rfl⟩ := h
  refine ⟨rfl, ⟨(transpose_eq_ok.mp hgroup).2, (parseCompressedKey_eq_ok.mp hscript).2,
    (parseCompressedKey_eq_ok.mp hinternal).2⟩, ?_, ?_⟩
  · cases hsibling : find records typeTapscriptSibling with
    | none => simp
    | some value => exact length_of_find hrecords hsibling
  · rw [utf8_of_fromUtf8 (okOr_eq_ok.mp hcourier')]
    exact length_of_find hrecords hcourier

/-- A valid address comes back from its text, if the coder reads back the payload; what a
payload is decoded to has a payload that is decoded to the same. -/
theorem tapAddress_lossless :
    (∀ (bech32 : Bech32) (a : TapAddress),
      a.validate = (.ok () : Except (AddressError bech32.Error) Unit) → KeysPrefixed a → Fits a →
      (∀ payload, a.encodePayload = (.ok payload : Except (AddressError bech32.Error) Bytes) →
        bech32.RoundTrips a.hrp.asStr payload) →
      ∃ text, a.encode bech32 = .ok text ∧ TapAddress.decode bech32 text = .ok a) ∧
    ∀ (ε : Type) (hrp : TapHrp) (payload : Bytes) (a : TapAddress),
      TapAddress.decodePayload hrp payload = (.ok a : Except (AddressError ε) TapAddress) →
      ∃ payload', a.encodePayload = (.ok payload' : Except (AddressError ε) Bytes) ∧
        TapAddress.decodePayload hrp payload' = (.ok a : Except (AddressError ε) TapAddress) := by
  constructor
  · intro bech32 a hvalid hkeys hfits hcrate
    obtain ⟨payload, hencode, hdecode⟩ :=
      @decodePayload_encodePayload bech32.Error a hkeys hfits
    obtain ⟨hbytes, text, htext, hback⟩ := hcrate payload hencode
    refine ⟨text, ?_, ?_⟩
    · rw [TapAddress.encode, hvalid, ok_bind, hencode, ok_bind, htext]
      rfl
    · simp only [TapAddress.decode, hback, hbytes, Except.mapError, ok_bind, ne_eq, not_true,
        rejectIf_false not_false, TapHrp.fromStr_asStr, hdecode, hvalid, pure_eq_ok]
  · intro ε hrp payload a h
    obtain ⟨rfl, hkeys, hfits⟩ := decodePayload_spec h
    exact decodePayload_encodePayload hkeys hfits

/-- A coder with both variants. -/
def bech32Coder : Bech32 where
  U5 := ℕ
  Error := LibraryBech32.Bech32Error
  toBase32 := LibraryBech32.toBase32
  fromBase32 := LibraryBech32.fromBase32
  encode hrp data variant :=
    LibraryBech32.encode (if variant = .bech32 then 1 else 0x2bc830a3) hrp data
  decode text := do
    let (hrp, data, target) ← LibraryBech32.decode [1, 0x2bc830a3] text
    pure (hrp, data, if target = 1 then .bech32 else .bech32m)

theorem bech32Coder_roundTrips (hrp : TapHrp) (data : Bytes) :
    bech32Coder.RoundTrips hrp.asStr data := by
  have hhrp : LibraryBech32.validHrp hrp.asStr.toList := by
    cases hrp <;> decide
  obtain ⟨text, hencode, hdecode⟩ := @LibraryBech32.decode_encode 0x2bc830a3 [1, 0x2bc830a3]
    (by decide) (by decide) _ hhrp _ (LibraryBech32.toBase32_lt data)
  refine ⟨LibraryBech32.fromBase32_toBase32 data, text, hencode, ?_⟩
  change (LibraryBech32.decode _ text >>= _) = _
  rw [hdecode]
  rfl

def compressedKey (first : UInt8) : CompressedKey := ⟨first :: List.replicate 32 7, rfl⟩

/-- Five units of a grouped asset, with a tapscript sibling. -/
def groupedAddress : TapAddress :=
  ⟨.regtest, 0, .replicate 32 1, some (compressedKey 2), compressedKey 3,
    compressedKey 2, [1, 2], 5, "hashmail://localhost"⟩

/-- Both directions on an address with every field. -/
theorem tapAddress_lossless_grouped :
    (∃ text, groupedAddress.encode bech32Coder = .ok text ∧
      TapAddress.decode bech32Coder text = .ok groupedAddress) ∧
    ∃ payload, groupedAddress.encodePayload = (.ok payload : Except (AddressError Unit) Bytes) ∧
      TapAddress.decodePayload .regtest payload =
        (.ok groupedAddress : Except (AddressError Unit) TapAddress) := by
  have hvalid : groupedAddress.validate =
      (.ok () : Except (AddressError bech32Coder.Error) Unit) := by
    rw [TapAddress.validate, rejectIf_false, rejectIf_false, rejectIf_false, rejectIf_false]
    · rfl
    · decide +kernel
    · decide
    · decide
    · decide
  have hkeys : KeysPrefixed groupedAddress := by
    constructor
    · exact fun key hkey => Option.some.inj hkey ▸ .inl rfl
    · exact .inr rfl
    · exact .inl rfl
  have hfits : Fits groupedAddress := by
    constructor <;> decide +kernel
  have htext := tapAddress_lossless.1 bech32Coder groupedAddress hvalid hkeys hfits
    fun payload _ => bech32Coder_roundTrips .regtest payload
  obtain ⟨payload, -, hdecode⟩ := @decodePayload_encodePayload Unit _ hkeys hfits
  exact ⟨htext, tapAddress_lossless.2 Unit .regtest payload groupedAddress hdecode⟩

end TapLdk.AddressCodec
