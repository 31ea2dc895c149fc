import Mathlib
import TapLdk.LightningLabsBlob
import TapLdk.TlvCanonical

/-! What the blob decoders read off the wire: counted lists, level by level, with totals that
are exact sums over everything listed. -/
namespace TapLdk.LightningLabsBlobWire
open TapLdk.LibraryExcept TapLdk.LibraryBytes TapLdk.Mssmt TapLdk.Asset TapLdk.Tlv
open TapLdk.TlvCanonical TapLdk.LightningLabsBlob

theorem readVarint_eq_ok {cursor rest : Bytes} {value : UInt64} :
    readVarint cursor = .ok (value, rest) ↔ cursor = encodeBigSize value ++ rest := by
  rw [readVarint, mapError_eq_ok]
  constructor
  · exact decodeBigSize_eq_ok
  · rintro rfl
    exact decodeBigSize_encodeBigSize value rest

/-- A length and that many bytes. -/
def varbytes (value : Bytes) : Bytes := encodeBigSize (UInt64.ofNat value.length) ++ value

theorem readInlineVarbytes_eq_ok {cursor rest value : Bytes} {field : String} :
    readInlineVarbytes cursor field = .ok (value, rest) ↔
      value.length < 2 ^ 64 ∧ cursor = varbytes value ++ rest := by
  simp only [readInlineVarbytes, takeBytes, bind_eq_ok, readVarint_eq_ok, rejectIf_eq_ok,
    exists_const, pure_eq_ok, Except.ok.injEq, Prod.mk.injEq, Prod.exists, Nat.not_lt, varbytes,
    List.append_assoc]
  constructor
  · rintro ⟨len, tail, rfl, hlen, rfl, rfl⟩
    have htake : (tail.take len.toNat).length = len.toNat := by simp [hlen]
    have hcount : UInt64.ofNat len.toNat = len := UInt64.ofNat_toNat
    rw [htake, hcount, List.take_append_drop]
    exact ⟨len.toNat_lt, rfl⟩
  · rintro ⟨hfits, rfl⟩
    have hcount : (UInt64.ofNat value.length).toNat = value.length :=
      UInt64.toNat_ofNat_of_lt' hfits
    refine ⟨_, _, rfl, ?_, ?_, ?_⟩
    · simp [hcount]
    · simp [hcount]
    · simp [hcount]

/-- The reader of an item accepts exactly what begins with a wire form of it. -/
def Reads {α : Type} (item : Bytes → BlobResult (α × Bytes)) (wire : α → Bytes → Prop) : Prop :=
  ∀ cursor a rest, item cursor = .ok (a, rest) ↔ ∃ w, wire a w ∧ cursor = w ++ rest

section

variable {α : Type} {item : Bytes → BlobResult (α × Bytes)} {wire : α → Bytes → Prop}

theorem readItems_eq_ok (h : Reads item wire) {count : ℕ} {cursor rest : Bytes} {items : List α} :
    readItems item count cursor = .ok (items, rest) ↔
      items.length = count ∧ ∃ ws, List.Forall₂ wire items ws ∧ cursor = ws.flatten ++ rest := by
  have hitem : ∀ cursor a rest, item cursor = .ok (a, rest) ↔ ∃ w, wire a w ∧ cursor = w ++ rest := h
  induction count generalizing cursor rest items with
  | zero =>
    simp only [readItems, pure_eq_ok, Except.ok.injEq, Prod.mk.injEq, List.length_eq_zero_iff]
    constructor
    · rintro ⟨rfl, rfl⟩
      exact ⟨rfl, [], .nil, rfl⟩
    · rintro ⟨rfl, ws, hws, rfl⟩
      cases hws
      exact ⟨rfl, rfl⟩
  | succ count ih =>
    simp only [readItems, bind_eq_ok, Prod.exists, hitem, ih, pure_eq_ok, Except.ok.injEq,
      Prod.mk.injEq]
    constructor
    · rintro ⟨a, tail, ⟨w, hw, rfl⟩, items, tail', ⟨rfl, ws, hws, rfl⟩, rfl, rfl⟩
      exact ⟨rfl, w :: ws, .cons hw hws, by simp⟩
    · rintro ⟨hlength, ws, hws, rfl⟩
      cases hws with
      | nil => simp at hlength
      | @cons a w items ws hw hws =>
        exact ⟨a, ws.flatten ++ rest, ⟨w, hw, by simp⟩, items, rest,
          ⟨Nat.succ.inj hlength, ws, hws, rfl⟩, rfl, rfl⟩

/-- A counted list is its length and the wire forms of its items, and nothing else. -/
theorem parseCounted_eq_ok (h : Reads item wire) {max : UInt64} {bytes : Bytes} {field : String}
    {items : List α} : parseCounted max item bytes field = .ok items ↔
      items.length ≤ max.toNat ∧ ∃ ws, List.Forall₂ wire items ws ∧
        bytes = encodeBigSize (UInt64.ofNat items.length) ++ ws.flatten := by
  simp only [parseCounted, ensureEmpty, bind_eq_ok, Prod.exists, readVarint_eq_ok, rejectIf_eq_ok,
    exists_const, readItems_eq_ok h, pure_eq_ok, Except.ok.injEq, not_not, UInt64.not_lt]
  constructor
  · rintro ⟨count, tail, rfl, hmax, items, rest, ⟨hlength, ws, hws, rfl⟩, rfl, rfl⟩
    refine ⟨hlength ▸ UInt64.le_iff_toNat_le.mp hmax, ws, hws, ?_⟩
    rw [hlength, UInt64.ofNat_toNat, List.append_nil]
  · rintro ⟨hmax, ws, hws, rfl⟩
    have hcount : (UInt64.ofNat items.length).toNat = items.length :=
      UInt64.toNat_ofNat_of_lt' (hmax.trans_lt max.toNat_lt)
    refine ⟨_, _, rfl, ?_, items, [], ⟨hcount.symm, ws, hws, by simp⟩, rfl, rfl⟩
    rw [UInt64.le_iff_toNat_le, hcount]
    exact hmax

end

theorem checkedSum_eq_ok {amounts : List UInt64} {field : String} {total : UInt64} :
    checkedSum amounts field = .ok total ↔ total.toNat = (amounts.map (·.toNat)).sum := by
  have hfrom : ∀ start : UInt64, amounts.foldlM (fun sum amount =>
      okOr (checkedAdd sum amount) (LightningLabsBlobError.semantic field "asset amount overflow"))
        start = .ok total ↔ total.toNat = start.toNat + (amounts.map (·.toNat)).sum := by
    induction amounts with
    | nil =>
      intro start
      simp [← UInt64.toNat_inj, eq_comm]
    | cons amount amounts ih =>
      intro start
      simp only [List.foldlM_cons, bind_eq_ok, okOr_eq_ok, checkedAdd_eq_some, ih, List.map_cons,
        List.sum_cons]
      constructor
      · rintro ⟨sum, hsum, htotal⟩
        omega
      · intro htotal
        have hlt := total.toNat_lt
        have hfits : start.toNat + amount.toNat < 2 ^ 64 := by omega
        have hsum : (UInt64.ofNat (start.toNat + amount.toNat)).toNat = start.toNat + amount.toNat :=
          UInt64.toNat_ofNat_of_lt' hfits
        exact ⟨_, hsum, by omega⟩
  rw [checkedSum, hfrom 0, UInt64.toNat_zero, Nat.zero_add]

def OutputOnWire (field : String) (output : AssetOutputSummary) (w : Bytes) : Prop :=
  ∃ value, value.length < 2 ^ 64 ∧ parseAssetOutput value field = .ok output ∧ w = varbytes value

theorem readAssetOutput_reads (field : String) : Reads (readAssetOutput field) (OutputOnWire field) := by
  intro cursor output rest
  simp only [readAssetOutput, bind_eq_ok, Prod.exists, readInlineVarbytes_eq_ok, pure_eq_ok,
    Except.ok.injEq, Prod.mk.injEq, OutputOnWire]
  constructor
  · rintro ⟨value, tail, ⟨hfits, rfl⟩, output, hparse, rfl, rfl⟩
    exact ⟨_, ⟨value, hfits, hparse, rfl⟩, rfl⟩
  · rintro ⟨w, ⟨value, hfits, hparse, rfl⟩, rfl⟩
    exact ⟨value, rest, ⟨hfits, rfl⟩, output, hparse, rfl, rfl⟩

/-- The bytes list the outputs, and the total is the exact sum of their amounts. -/
structure ListsOutputs (field : String) (bytes : Bytes) (list : AssetOutputListSummary) : Prop where
  wire : ∃ ws, List.Forall₂ (OutputOnWire field) list.outputs ws ∧
    bytes = encodeBigSize (UInt64.ofNat list.outputs.length) ++ ws.flatten
  bounded : list.outputs.length ≤ maxOutputs.toNat
  total : list.totalAmount.toNat = (list.outputs.map (·.amount.toNat)).sum
  count : list.outputCount = list.outputs.length
  value : list.valueLen = bytes.length ∧ list.valueDigest = digest bytes

theorem parseAssetOutputList_eq_ok {bytes : Bytes} {field : String} {list : AssetOutputListSummary} :
    parseAssetOutputList bytes field = .ok list ↔ ListsOutputs field bytes list := by
  simp only [parseAssetOutputList, bind_eq_ok, parseCounted_eq_ok (readAssetOutput_reads field),
    checkedSum_eq_ok, List.map_map, pure_eq_ok, Except.ok.injEq]
  constructor
  · rintro ⟨outputs, ⟨hbounded, hwire⟩, total, htotal, rfl⟩
    exact ⟨hwire, hbounded, htotal, rfl, rfl, rfl⟩
  · intro h
    refine ⟨list.outputs, ⟨h.bounded, h.wire⟩, list.totalAmount, h.total, ?_⟩
    rw [← h.count, ← h.value.1, ← h.value.2]

def EntryOnWire (field : String) (entry : HtlcAssetOutputEntrySummary) (w : Bytes) : Prop :=
  ∃ value, value.length < 2 ^ 64 ∧ ListsOutputs field value entry.assets ∧
    w = encodeBigSize entry.htlcIndex ++ varbytes value

theorem readHtlcEntry_reads (field : String) : Reads (readHtlcEntry field) (EntryOnWire field) := by
  intro cursor entry rest
  simp only [readHtlcEntry, bind_eq_ok, Prod.exists, readVarint_eq_ok, readInlineVarbytes_eq_ok,
    parseAssetOutputList_eq_ok, pure_eq_ok, Except.ok.injEq, Prod.mk.injEq, EntryOnWire]
  constructor
  · rintro ⟨index, tail, rfl, value, tail', ⟨hfits, rfl⟩, assets, hassets, rfl, rfl⟩
    exact ⟨_, ⟨value, hfits, hassets, rfl⟩, by simp⟩
  · rintro ⟨w, ⟨value, hfits, hassets, rfl⟩, rfl⟩
    exact ⟨_, _, by simp, value, rest, ⟨hfits, rfl⟩, entry.assets, hassets, rfl, rfl⟩

/-- What the outputs of one entry add up to. -/
def entryAmount (entry : HtlcAssetOutputEntrySummary) : ℕ :=
  (entry.assets.outputs.map (·.amount.toNat)).sum

/-- The bytes list the entries, and the total is the exact sum of the amounts of all outputs of
all entries. -/
structure ListsEntries (field : String) (bytes : Bytes) (htlcs : HtlcAssetOutputSummary) : Prop where
  wire : ∃ ws, List.Forall₂ (EntryOnWire field) htlcs.entries ws ∧
    bytes = encodeBigSize (UInt64.ofNat htlcs.entries.length) ++ ws.flatten
  bounded : htlcs.entries.length ≤ maxHtlcs.toNat
  total : htlcs.totalAmount.toNat = (htlcs.entries.map entryAmount).sum
  count : htlcs.htlcCount = htlcs.entries.length
  value : htlcs.valueLen = bytes.length ∧ htlcs.valueDigest = digest bytes

/-- The total of an entry's list is what its outputs add up to. -/
theorem entryAmount_eq {field : String} {entries : List HtlcAssetOutputEntrySummary} {ws : List Bytes}
    (h : List.Forall₂ (EntryOnWire field) entries ws) :
    (entries.map (·.assets.totalAmount)).map (·.toNat) = entries.map entryAmount := by
  rw [List.map_map]
  refine List.map_congr_left fun entry hentry => ?_
  obtain ⟨w, -, value, -, hassets, -⟩ := forall₂_exists h hentry
  exact hassets.total

theorem parseHtlcAssetOutput_eq_ok {bytes : Bytes} {field : String} {htlcs : HtlcAssetOutputSummary} :
    parseHtlcAssetOutput bytes field = .ok htlcs ↔ ListsEntries field bytes htlcs := by
  simp only [parseHtlcAssetOutput, bind_eq_ok, parseCounted_eq_ok (readHtlcEntry_reads field),
    checkedSum_eq_ok, pure_eq_ok, Except.ok.injEq]
  constructor
  · rintro ⟨entries, ⟨hbounded, ws, hws, hbytes⟩, total, htotal, rfl⟩
    rw [entryAmount_eq hws] at htotal
    exact ⟨⟨ws, hws, hbytes⟩, hbounded, htotal, rfl, rfl, rfl⟩
  · intro h
    obtain ⟨ws, hws, hbytes⟩ := h.wire
    refine ⟨htlcs.entries, ⟨h.bounded, ws, hws, hbytes⟩, htlcs.totalAmount, ?_, ?_⟩
    · rw [entryAmount_eq hws]
      exact h.total
    · rw [← h.count, ← h.value.1, ← h.value.2]

theorem requiredRecord_eq_ok {blob : String} {records : List TlvRecord} {typeId : UInt64}
    {record : TlvRecord} (h : requiredRecord blob records typeId = .ok record) :
    record ∈ records ∧ record.typeId = typeId := by
  rw [requiredRecord, okOr_eq_ok, optionalRecord] at h
  have htype := List.find?_some h
  exact ⟨List.mem_of_find?_eq_some h, of_decide_eq_true htype⟩

/-- A record of the type, with a value that the list describes. -/
def Holds {α : Type} (describes : Bytes → α → Prop) (records : List TlvRecord) (typeId : UInt64)
    (list : α) : Prop :=
  ∃ record ∈ records, record.typeId = typeId ∧ describes record.value list

theorem decodeFundingBlob_lists {bytes : Bytes} {blob : LightningLabsFundingBlob}
    (h : decodeFundingBlob bytes = .ok blob) : ∃ records, decodeStream bytes = .ok records ∧
      Holds (ListsOutputs "funding.funded_assets") records typeOpenChannelFundedAssets
        blob.fundedAssets := by
  simp only [decodeFundingBlob, bind_eq_ok, mapError_eq_ok, parseAssetOutputList_eq_ok, pure_eq_ok,
    Except.ok.injEq] at h
  obtain ⟨records, hrecords, -, -, record, hrecord, -, -, -, -, -, -, list, hlist, rfl⟩ := h
  obtain ⟨hmem, htype⟩ := requiredRecord_eq_ok hrecord
  exact ⟨records, hrecords, record, hmem, htype, hlist⟩

/-- What an accepted commitment blob lists on both sides and in both directions. -/
structure CommitmentLists (records : List TlvRecord) (blob : LightningLabsCommitmentBlob) : Prop where
  localAssets : Holds (ListsOutputs "commitment.local_assets") records
    typeCommitmentLocalAssets blob.localAssets
  remoteAssets : Holds (ListsOutputs "commitment.remote_assets") records
    typeCommitmentRemoteAssets blob.remoteAssets
  outgoing : Holds (ListsEntries "commitment.outgoing_htlcs") records
    typeCommitmentOutgoingHtlcs blob.outgoingHtlcs
  incoming : Holds (ListsEntries "commitment.incoming_htlcs") records
    typeCommitmentIncomingHtlcs blob.incomingHtlcs

theorem decodeCommitmentBlob_lists {bytes : Bytes} {blob : LightningLabsCommitmentBlob}
    (h : decodeCommitmentBlob bytes = .ok blob) :
    ∃ records, decodeStream bytes = .ok records ∧ CommitmentLists records blob := by
  simp only [decodeCommitmentBlob, bind_eq_ok, mapError_eq_ok, parseAssetOutputList_eq_ok,
    parseHtlcAssetOutput_eq_ok, pure_eq_ok, Except.ok.injEq] at h
  obtain ⟨records, hrecords, -, -, r₀, h₀, localAssets, hlocal, r₁, h₁, remoteAssets, hremote, r₂, h₂,
    outgoing, houtgoing, r₃, h₃, incoming, hincoming, -, -, -, -, -, -, rfl⟩ := h
  obtain ⟨hmem₀, htype₀⟩ := requiredRecord_eq_ok h₀
  obtain ⟨hmem₁, htype₁⟩ := requiredRecord_eq_ok h₁
  obtain ⟨hmem₂, htype₂⟩ := requiredRecord_eq_ok h₂
  obtain ⟨hmem₃, htype₃⟩ := requiredRecord_eq_ok h₃
  exact ⟨records, hrecords, ⟨r₀, hmem₀, htype₀, hlocal⟩, ⟨r₁, hmem₁, htype₁, hremote⟩,
    ⟨r₂, hmem₂, htype₂, houtgoing⟩, ⟨r₃, hmem₃, htype₃, hincoming⟩⟩

/-- In each direction of an accepted commitment blob, the entries are those the bytes list, and
the total is the exact sum of the amounts of all their outputs. -/
theorem commitment_totals_exact {bytes : Bytes} {blob : LightningLabsCommitmentBlob}
    (h : decodeCommitmentBlob bytes = .ok blob) : ∃ records, decodeStream bytes = .ok records ∧
      Holds (ListsEntries "commitment.outgoing_htlcs") records typeCommitmentOutgoingHtlcs
        blob.outgoingHtlcs ∧
      Holds (ListsEntries "commitment.incoming_htlcs") records typeCommitmentIncomingHtlcs
        blob.incomingHtlcs := by
  obtain ⟨records, hrecords, hlists⟩ := decodeCommitmentBlob_lists h
  exact ⟨records, hrecords, hlists.outgoing, hlists.incoming⟩

/-- The wire form of an output of an asset that repeats one byte, with a proof of one byte. -/
def outputBytes (asset : UInt8) (amount : UInt64) : Bytes :=
  [⟨0, List.replicate 32 asset⟩, ⟨1, u64Bytes amount⟩, ⟨2, [1]⟩].flatMap encodeRecord

def listBytes (outputs : List Bytes) : Bytes :=
  encodeBigSize (UInt64.ofNat outputs.length) ++ outputs.flatMap varbytes

def htlcBytes (entries : List (UInt64 × Bytes)) : Bytes :=
  encodeBigSize (UInt64.ofNat entries.length) ++
    entries.flatMap fun e => encodeBigSize e.1 ++ varbytes e.2

/-- A commitment blob without auxiliary leaves. -/
def commitmentBytes (localAssets remoteAssets outgoing incoming : Bytes) : Bytes :=
  [⟨typeCommitmentLocalAssets, localAssets⟩, ⟨typeCommitmentRemoteAssets, remoteAssets⟩,
    ⟨typeCommitmentOutgoingHtlcs, outgoing⟩, ⟨typeCommitmentIncomingHtlcs, incoming⟩,
    ⟨typeCommitmentAuxLeaves, varbytes []⟩].flatMap encodeRecord

/-- Five units in an HTLC of index seven, listed twice. -/
def twiceListed : Bytes :=
  commitmentBytes (listBytes []) (listBytes [])
    (htlcBytes [(7, listBytes [outputBytes 1 5]), (7, listBytes [outputBytes 1 5])]) (htlcBytes [])

theorem twiceListed_decodes : ∃ blob, decodeCommitmentBlob twiceListed = .ok blob ∧
    blob.outgoingHtlcs.entries.map (·.htlcIndex) = [7, 7] ∧ blob.outgoingHtlcs.totalAmount = 10 := by
  have h : (decodeCommitmentBlob twiceListed).toOption.map (fun blob =>
      (blob.outgoingHtlcs.entries.map (·.htlcIndex), blob.outgoingHtlcs.totalAmount)) =
        some ([7, 7], 10) := by
    decide +kernel
  obtain ⟨blob, hblob, hvalue⟩ := Option.map_eq_some_iff.mp h
  exact ⟨blob, toOption_eq_some hblob, Prod.mk.inj hvalue⟩

theorem htlc_counted_twice : ∃ blob, decodeCommitmentBlob twiceListed = .ok blob ∧
    ¬ (blob.outgoingHtlcs.entries.map (·.htlcIndex)).Nodup ∧ blob.outgoingHtlcs.totalAmount = 10 := by
  obtain ⟨blob, hblob, hindices, htotal⟩ := twiceListed_decodes
  refine ⟨blob, hblob, ?_, htotal⟩
  rw [hindices]
  decide

theorem commitment_totals_exact_twice : ∃ (blob : LightningLabsCommitmentBlob)
    (records : List TlvRecord), decodeStream twiceListed = .ok records ∧
    Holds (ListsEntries "commitment.outgoing_htlcs") records typeCommitmentOutgoingHtlcs
      blob.outgoingHtlcs ∧
    Holds (ListsEntries "commitment.incoming_htlcs") records typeCommitmentIncomingHtlcs
      blob.incomingHtlcs := by
  obtain ⟨blob, hblob, -⟩ := twiceListed_decodes
  exact ⟨blob, commitment_totals_exact hblob⟩

end TapLdk.LightningLabsBlobWire
