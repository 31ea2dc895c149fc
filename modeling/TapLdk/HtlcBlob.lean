import Mathlib
import TapLdk.LightningLabsBlobWire
import TapLdk.PeerMessage
import TapLdk.TlvSplit

/-! HTLC blobs in the Lightning Labs format: the decoder, the contents that a blob can carry, and
that a blob is accepted exactly when it is the stream of a well-formed content, which it then
reports. -/
namespace TapLdk.HtlcBlob
open TapLdk.LibraryExcept TapLdk.LibraryMaps TapLdk.LibraryBytes TapLdk.Mssmt TapLdk.Asset
open TapLdk.Tlv TapLdk.TlvCanonical TapLdk.TlvFields TapLdk.TlvSplit TapLdk.LightningLabsBlob
open TapLdk.LightningLabsBlobWire

def typeHtlcAmounts : UInt64 := 65536
def typeHtlcRfqId : UInt64 := 65538
def typeHtlcAvailableRfqIds : UInt64 := 65540
def typeHtlcNoopAdd : UInt64 := 65544

def maxRfqIds : UInt64 := 2048

structure AssetBalanceSummary where
  assetId : Bytes32
  amount : UInt64
deriving DecidableEq

structure AssetBalanceListSummary where
  balanceCount : ℕ
  totalAmount : UInt64
  valueLen : ℕ
  valueDigest : Bytes32
  balances : List AssetBalanceSummary
deriving DecidableEq

structure TlvRecordSummary where
  typeId : UInt64
  valueLen : ℕ
  valueDigest : Bytes32
deriving DecidableEq

structure LightningLabsHtlcBlob where
  rawLen : ℕ
  rawDigest : Bytes32
  balances : AssetBalanceListSummary
  rfqId : Option Bytes32
  availableRfqIds : List Bytes32
  noopAdd : Option Bool
  optionalUnknownRecords : List TlvRecordSummary
deriving DecidableEq

def parseAssetBalance (bytes : Bytes) (field : String) : BlobResult AssetBalanceSummary := do
  let records ← (decodeStream bytes).mapError .tlv
  rejectUnsupported field records [0, 1]
  let assetId ← parseBytes32 (← requiredRecord field records 0).value field
  let amount ← parseU64Record (← requiredRecord field records 1) field
  pure ⟨assetId, amount⟩

def readAssetBalance (field : String) (cursor : Bytes) :
    BlobResult (AssetBalanceSummary × Bytes) := do
  let (balanceBytes, cursor) ← readInlineVarbytes cursor field
  let balance ← parseAssetBalance balanceBytes field
  pure (balance, cursor)

def parseAssetBalanceList (bytes : Bytes) (field : String) :
    BlobResult AssetBalanceListSummary := do
  let balances ← parseCounted maxOutputs (readAssetBalance field) bytes field
  let totalAmount ← checkedSum (balances.map (·.amount)) field
  pure
    { balanceCount := balances.length
      totalAmount
      valueLen := bytes.length
      valueDigest := digest bytes
      balances }

def emptyAssetBalanceList : AssetBalanceListSummary := ⟨0, 0, 0, digest [], []⟩

def readRfqId (field : String) (cursor : Bytes) : BlobResult (Bytes32 × Bytes) := do
  let (id, cursor) ← takeBytes cursor 32 field
  let id ← parseBytes32 id field
  pure (id, cursor)

def parseRfqIdList (bytes : Bytes) (field : String) : BlobResult (List Bytes32) :=
  parseCounted maxRfqIds (readRfqId field) bytes field

def summarize (record : TlvRecord) : TlvRecordSummary :=
  ⟨record.typeId, record.value.length, digest record.value⟩

def knownHtlcTypes : List UInt64 :=
  [typeHtlcAmounts, typeHtlcRfqId, typeHtlcAvailableRfqIds, typeHtlcNoopAdd]

/-- The loop over the records that the decoder does not know. -/
def collectUnknown : List TlvRecord → BlobResult (List TlvRecordSummary)
  | [] => pure []
  | record :: records =>
    if record.typeId ∈ knownHtlcTypes then collectUnknown records
    else do
      rejectIf (record.typeId % 2 = 0) (.unsupportedRecord "htlc" record.typeId)
      let rest ← collectUnknown records
      pure (summarize record :: rest)

def decodeAmounts : Option TlvRecord → BlobResult AssetBalanceListSummary
  | some record => parseAssetBalanceList record.value "htlc.amounts"
  | none => pure emptyAssetBalanceList

def decodeAvailableRfqIds : Option TlvRecord → BlobResult (List Bytes32)
  | some record => parseRfqIdList record.value "htlc.available_rfq_ids"
  | none => pure []

def decodeHtlcBlob (bytes : Bytes) : BlobResult LightningLabsHtlcBlob := do
  let records ← (decodeStream bytes).mapError .tlv
  rejectIf (¬ ∃ record ∈ records, record.typeId = typeHtlcAmounts ∨ record.typeId = typeHtlcRfqId ∨
    record.typeId = typeHtlcAvailableRfqIds) (.semantic "htlc" "missing asset HTLC records")
  let balances ← decodeAmounts (optionalRecord records typeHtlcAmounts)
  let rfqId ← (optionalRecord records typeHtlcRfqId).mapM fun record =>
    parseBytes32 record.value "htlc.rfq_id"
  let availableRfqIds ← decodeAvailableRfqIds (optionalRecord records typeHtlcAvailableRfqIds)
  let noopAdd ← (optionalRecord records typeHtlcNoopAdd).mapM fun record =>
    parseBoolRecord record "htlc.noop_add"
  let optionalUnknownRecords ← collectUnknown records
  pure
    { rawLen := bytes.length
      rawDigest := digest bytes
      balances
      rfqId
      availableRfqIds
      noopAdd
      optionalUnknownRecords }

def balanceRecords (balance : AssetBalanceSummary) : List TlvRecord :=
  [⟨0, balance.assetId.bytes⟩, ⟨1, u64Bytes balance.amount⟩]

theorem optionalRecord_eq_some {records : List TlvRecord} {typeId : UInt64} {r : TlvRecord}
    (hsorted : records.Pairwise fun r r' => r.typeId < r'.typeId) :
    optionalRecord records typeId = some r ↔ r ∈ records ∧ r.typeId = typeId := by
  have hfound {t : UInt64} {q : TlvRecord} (h : optionalRecord records t = some q) :
      q ∈ records ∧ q.typeId = t := by
    rw [optionalRecord] at h
    have htype := List.find?_some h
    exact ⟨List.mem_of_find?_eq_some h, of_decide_eq_true htype⟩
  constructor
  · exact hfound
  · rintro ⟨hmem, rfl⟩
    have hsome : (optionalRecord records r.typeId).isSome :=
      List.find?_isSome.mpr ⟨r, hmem, by simp⟩
    obtain ⟨r', hr'⟩ := Option.isSome_iff_exists.mp hsome
    obtain ⟨hmem', htype⟩ := hfound hr'
    rw [hr', List.inj_on_of_nodup_map (nodup_of_sorted hsorted) hmem' hmem htype]

theorem rejectUnsupported_eq_ok {blob : String} {records : List TlvRecord} {known : List UInt64}
    {u : Unit} : rejectUnsupported blob records known = .ok u ↔
      ∀ r ∈ records, r.typeId ∈ known := by
  rw [rejectUnsupported, forM_eq_ok]
  simp only [rejectIf_eq_ok, not_not]

theorem parseBytes32_eq_ok {bytes : Bytes} {field : String} {id : Bytes32} :
    parseBytes32 bytes field = .ok id ↔ bytes = id.bytes := by
  rw [parseBytes32, okOr_eq_ok, FixedBytes.ofBytes_eq_some]

theorem parseU64Record_eq_ok {record : TlvRecord} {field : String} {value : UInt64} :
    parseU64Record record field = .ok value ↔ record.value = u64Bytes value := by
  simp only [parseU64Record, check_bind_eq_ok, rejectIf_eq_ok, not_not, pure_eq_ok, Except.ok.injEq]
  constructor
  · rintro ⟨hlength, rfl⟩
    exact (u64_of_bytes hlength).symm
  · intro h
    rw [h]
    exact ⟨u64Bytes_length value, u64_of_u64Bytes value⟩

theorem requiredRecord_eq_some {blob : String} {records : List TlvRecord} {typeId : UInt64}
    {r : TlvRecord} (hsorted : records.Pairwise fun r r' => r.typeId < r'.typeId) :
    requiredRecord blob records typeId = .ok r ↔ r ∈ records ∧ r.typeId = typeId := by
  rw [requiredRecord, okOr_eq_ok, optionalRecord_eq_some hsorted]

theorem balanceRecords_sorted (balance : AssetBalanceSummary) :
    (balanceRecords balance).Pairwise fun r r' => r.typeId < r'.typeId := by
  simp [balanceRecords]

/-- A balance has one form: its asset id and its amount. -/
theorem parseAssetBalance_eq_ok {bytes : Bytes} {field : String} {balance : AssetBalanceSummary} :
    parseAssetBalance bytes field = .ok balance ↔
      bytes = (balanceRecords balance).flatMap encodeRecord := by
  simp only [parseAssetBalance, bind_eq_ok, mapError_eq_ok, decodeStream_eq_ok, isStream_iff,
    rejectUnsupported_eq_ok, exists_const, parseBytes32_eq_ok, parseU64Record_eq_ok, pure_eq_ok,
    Except.ok.injEq]
  constructor
  · rintro ⟨records, ⟨rfl, hfits, hrecords⟩, hknown, ⟨type₀, value₀⟩, h₀, id, rfl, ⟨type₁, value₁⟩,
      h₁, amount, rfl, rfl⟩
    obtain ⟨hmem₀, rfl⟩ := (requiredRecord_eq_some hrecords).mp h₀
    obtain ⟨hmem₁, rfl⟩ := (requiredRecord_eq_some hrecords).mp h₁
    have hsame : records = balanceRecords ⟨id, amount⟩ := by
      refine eq_of_mem_iff hrecords (balanceRecords_sorted _) fun r => ?_
      simp only [balanceRecords, List.mem_cons, List.not_mem_nil, or_false]
      constructor
      · intro hr
        have hunique := List.inj_on_of_nodup_map (nodup_of_sorted hrecords) hr
        rcases List.mem_pair.mp (hknown r hr) with htype | htype
        · exact .inl (hunique hmem₀ htype)
        · exact .inr (hunique hmem₁ htype)
      · rintro (rfl | rfl)
        · exact hmem₀
        · exact hmem₁
    rw [hsame]
  · rintro rfl
    have hsorted := balanceRecords_sorted balance
    refine ⟨balanceRecords balance, ⟨rfl, ?_, hsorted⟩, ?_, _,
      (requiredRecord_eq_some hsorted).mpr ⟨List.mem_cons_self, rfl⟩, _, rfl, _,
      (requiredRecord_eq_some hsorted).mpr ⟨List.mem_cons_of_mem _ List.mem_cons_self, rfl⟩, _, rfl,
      rfl⟩
    · simp [balanceRecords, FixedBytes.length_eq]
    · simp [balanceRecords]

/-- A list of balances as it is written. -/
def balancesBytes (balances : List AssetBalanceSummary) : Bytes :=
  encodeBigSize (UInt64.ofNat balances.length) ++
    balances.flatMap fun balance => varbytes ((balanceRecords balance).flatMap encodeRecord)

/-- What the decoder says of a list of balances. -/
def balancesSummary (balances : List AssetBalanceSummary) : AssetBalanceListSummary where
  balanceCount := balances.length
  totalAmount := UInt64.ofNat (balances.map (·.amount.toNat)).sum
  valueLen := (balancesBytes balances).length
  valueDigest := digest (balancesBytes balances)
  balances := balances

/-- Balances that fit into one list. -/
def BalancesFit (balances : List AssetBalanceSummary) : Prop :=
  balances.length ≤ maxOutputs.toNat ∧ (balances.map (·.amount.toNat)).sum < 2 ^ 64

def idsBytes (ids : List Bytes32) : Bytes :=
  encodeBigSize (UInt64.ofNat ids.length) ++ ids.flatMap (·.bytes)

theorem balance_length (balance : AssetBalanceSummary) :
    ((balanceRecords balance).flatMap encodeRecord).length ≤ 100 := by
  apply records_length (k := 32)
  simp [balanceRecords, FixedBytes.length_eq]

theorem readAssetBalance_reads (field : String) : Reads (readAssetBalance field)
    fun balance w => w = varbytes ((balanceRecords balance).flatMap encodeRecord) := by
  intro cursor balance rest
  simp only [readAssetBalance, bind_eq_ok, Prod.exists, readInlineVarbytes_eq_ok,
    parseAssetBalance_eq_ok, pure_eq_ok, Except.ok.injEq, Prod.mk.injEq]
  constructor
  · rintro ⟨_, tail, ⟨-, rfl⟩, balance, rfl, rfl, rfl⟩
    exact ⟨_, rfl, rfl⟩
  · rintro ⟨_, rfl, rfl⟩
    exact ⟨_, rest, ⟨(balance_length balance).trans_lt (by norm_num), rfl⟩, balance, rfl, rfl, rfl⟩

theorem forall₂_eq_map {α β : Type} {f : α → β} {xs : List α} {ys : List β} :
    List.Forall₂ (fun x y => y = f x) xs ys ↔ ys = xs.map f := by
  induction xs generalizing ys with
  | nil => simp
  | cons x xs ih =>
    simp only [List.forall₂_cons_left_iff, ih, List.map_cons]
    constructor
    · rintro ⟨_, _, rfl, rfl, rfl⟩
      rfl
    · rintro rfl
      exact ⟨_, _, rfl, rfl, rfl⟩

theorem parseAssetBalanceList_eq_ok {bytes : Bytes} {field : String}
    {list : AssetBalanceListSummary} : parseAssetBalanceList bytes field = .ok list ↔
      ∃ balances, BalancesFit balances ∧ bytes = balancesBytes balances ∧
        list = balancesSummary balances := by
  simp only [parseAssetBalanceList, bind_eq_ok, parseCounted_eq_ok (readAssetBalance_reads field),
    forall₂_eq_map, exists_eq_left, checkedSum_eq_ok, List.map_map, pure_eq_ok, Except.ok.injEq]
  constructor
  · rintro ⟨balances, ⟨hcount, rfl⟩, total, htotal, rfl⟩
    have hsum : (balances.map (·.amount.toNat)).sum = total.toNat := htotal.symm
    refine ⟨balances, ⟨hcount, hsum ▸ total.toNat_lt⟩, rfl, ?_⟩
    rw [balancesSummary, hsum, UInt64.ofNat_toNat]
    rfl
  · rintro ⟨balances, ⟨hcount, hsum⟩, rfl, rfl⟩
    refine ⟨balances, ⟨hcount, rfl⟩, _, UInt64.toNat_ofNat_of_lt' hsum, ?_⟩
    rfl

theorem readRfqId_reads (field : String) : Reads (readRfqId field) fun id w => w = id.bytes := by
  intro cursor id rest
  simp only [readRfqId, takeBytes, bind_eq_ok, Prod.exists, rejectIf_eq_ok, Nat.not_lt,
    exists_const, parseBytes32_eq_ok, pure_eq_ok, Except.ok.injEq, Prod.mk.injEq, exists_eq_left]
  constructor
  · rintro ⟨_, _, ⟨hlength, rfl, rfl⟩, id, htake, rfl, rfl⟩
    rw [← htake, List.take_append_drop]
  · rintro rfl
    have hid : id.bytes.length = 32 := id.length_eq
    refine ⟨_, _, ⟨?_, rfl, rfl⟩, id, ?_, rfl, ?_⟩
    · rw [List.length_append]
      omega
    · exact List.take_left' hid
    · exact List.drop_left' hid

theorem parseRfqIdList_eq_ok {bytes : Bytes} {field : String} {ids : List Bytes32} :
    parseRfqIdList bytes field = .ok ids ↔
      ids.length ≤ maxRfqIds.toNat ∧ bytes = idsBytes ids := by
  simp only [parseRfqIdList, parseCounted_eq_ok (readRfqId_reads field), forall₂_eq_map,
    exists_eq_left]
  rfl

theorem balancesBytes_injOn : Set.InjOn balancesBytes {balances | BalancesFit balances} := by
  intro balances h balances' h' hsame
  have hparse : parseAssetBalanceList (balancesBytes balances) "" =
      .ok (balancesSummary balances) := parseAssetBalanceList_eq_ok.mpr ⟨balances, h, rfl, rfl⟩
  rw [hsame, parseAssetBalanceList_eq_ok.mpr ⟨balances', h', rfl, rfl⟩] at hparse
  exact (congrArg (·.balances) (Except.ok.inj hparse)).symm

theorem idsBytes_injOn : Set.InjOn idsBytes {ids | ids.length ≤ maxRfqIds.toNat} := by
  intro ids h ids' h' hsame
  have hparse : parseRfqIdList (idsBytes ids) "" = .ok ids := parseRfqIdList_eq_ok.mpr ⟨h, rfl⟩
  rw [hsame, parseRfqIdList_eq_ok.mpr ⟨h', rfl⟩] at hparse
  exact (Except.ok.inj hparse).symm

/-- The byte of a flag. -/
def flagByte (value : Bool) : Bytes := [if value then 1 else 0]

theorem parseBoolRecord_eq_ok {record : TlvRecord} {field : String} {value : Bool} :
    parseBoolRecord record field = .ok value ↔ record.value = flagByte value := by
  simp only [parseBoolRecord, parseU8Record, bind_eq_ok, rejectIf_eq_ok, not_not, exists_const,
    pure_eq_ok, Except.ok.injEq]
  constructor
  · rintro ⟨byte, ⟨hlength, rfl⟩, hvalue⟩
    obtain ⟨b, hb⟩ := List.length_eq_one_iff.mp hlength
    rw [hb, List.headD_cons] at hvalue
    rw [hb]
    split_ifs at hvalue with h0 h1
    · obtain rfl := Except.ok.inj hvalue
      rw [h0]
      rfl
    · obtain rfl := Except.ok.inj hvalue
      rw [h1]
      rfl
  · intro h
    rw [h]
    cases value <;> exact ⟨_, ⟨rfl, rfl⟩, rfl⟩

theorem flagByte_injective : Function.Injective flagByte := by
  decide

theorem collectUnknown_eq_ok {records : List TlvRecord} {summaries : List TlvRecordSummary} :
    collectUnknown records = .ok summaries ↔
      (∀ r ∈ records, r.typeId ∉ knownHtlcTypes → r.typeId % 2 ≠ 0) ∧
        summaries = (records.filter (·.typeId ∉ knownHtlcTypes)).map summarize := by
  induction records generalizing summaries with
  | nil => simp [collectUnknown, eq_comm]
  | cons record records ih =>
    rw [collectUnknown, List.forall_mem_cons]
    by_cases hknown : record.typeId ∈ knownHtlcTypes
    · rw [if_pos hknown, ih, List.filter_cons_of_neg (by simpa using hknown)]
      simp [hknown]
    · rw [if_neg hknown, List.filter_cons_of_pos (by simpa using hknown)]
      simp only [bind_eq_ok, rejectIf_eq_ok, exists_const, ih, pure_eq_ok, Except.ok.injEq,
        List.map_cons, hknown, not_false_eq_true, true_imp_iff]
      constructor
      · rintro ⟨hodd, _, ⟨hrest, rfl⟩, rfl⟩
        exact ⟨⟨hodd, hrest⟩, rfl⟩
      · rintro ⟨⟨hodd, hrest⟩, rfl⟩
        exact ⟨hodd, _, ⟨hrest, rfl⟩, rfl⟩

/-- What a blob can carry: the records that the decoder knows, each if it is there, and others. -/
structure HtlcContent where
  amounts : Option (List AssetBalanceSummary)
  rfqId : Option Bytes32
  availableRfqIds : Option (List Bytes32)
  noopAdd : Option Bool
  unknown : List TlvRecord

namespace HtlcContent

def slots (content : HtlcContent) : List Slot :=
  [(typeHtlcAmounts, content.amounts.map balancesBytes),
    (typeHtlcRfqId, content.rfqId.map (·.bytes)),
    (typeHtlcAvailableRfqIds, content.availableRfqIds.map idsBytes),
    (typeHtlcNoopAdd, content.noopAdd.map flagByte)]

def records (content : HtlcContent) : List TlvRecord :=
  sortByType (recordsOf content.slots ++ content.unknown)

/-- The stream of a content. -/
def encode (content : HtlcContent) : Bytes := content.records.flatMap encodeRecord

/-- A content that a blob can carry. -/
structure WellFormed (content : HtlcContent) : Prop where
  present : content.amounts ≠ none ∨ content.rfqId ≠ none ∨ content.availableRfqIds ≠ none
  amounts : ∀ balances ∈ content.amounts, BalancesFit balances
  availableRfqIds : ∀ ids ∈ content.availableRfqIds, ids.length ≤ maxRfqIds.toNat
  unknownTypes : ∀ r ∈ content.unknown, r.typeId % 2 ≠ 0
  unknownSizes : ∀ r ∈ content.unknown, r.value.length < 2 ^ 64
  unknownSorted : content.unknown.Pairwise fun r r' => r.typeId < r'.typeId

/-- What the decoder says of a content that takes some bytes. -/
def summary (content : HtlcContent) (bytes : Bytes) : LightningLabsHtlcBlob where
  rawLen := bytes.length
  rawDigest := digest bytes
  balances := (content.amounts.map balancesSummary).getD emptyAssetBalanceList
  rfqId := content.rfqId
  availableRfqIds := content.availableRfqIds.getD []
  noopAdd := content.noopAdd
  optionalUnknownRecords := content.unknown.map summarize

theorem slots_types (content : HtlcContent) : content.slots.map (·.1) = knownHtlcTypes := rfl

theorem slots_nodup (content : HtlcContent) : (content.slots.map (·.1)).Nodup := by
  rw [slots_types]
  decide

end HtlcContent

theorem optionalRecord_value {records : List TlvRecord} (typeId : UInt64)
    (hsorted : records.Pairwise fun r r' => r.typeId < r'.typeId) :
    (optionalRecord records typeId).map (·.value) = (recordMap records)[typeId]? := by
  refine Option.ext fun value => ?_
  rw [get_recordMap (nodup_of_sorted hsorted), Option.map_eq_some_iff]
  simp only [optionalRecord_eq_some hsorted]
  constructor
  · rintro ⟨⟨_, _⟩, ⟨hmem, rfl⟩, rfl⟩
    exact hmem
  · intro hmem
    exact ⟨_, ⟨hmem, rfl⟩, rfl⟩

theorem optionMapM_eq_ok {α : Type} {parse : TlvRecord → BlobResult α} {bytes : α → Bytes}
    (h : ∀ r a, parse r = .ok a ↔ r.value = bytes a) {o : Option TlvRecord} {x : Option α} :
    o.mapM parse = .ok x ↔ o.map (·.value) = x.map bytes := by
  cases o with
  | none => cases x <;> simp [pure, Except.pure]
  | some r =>
    have hmap : (some r).mapM parse = (parse r).map some := rfl
    rw [hmap]
    cases x with
    | none => cases parse r <;> simp [Except.map]
    | some a =>
      have hr := h r a
      cases hparse : parse r <;> simp_all [Except.map]

theorem map_injOn {α β : Type} {f : α → β} {p : α → Prop} (hf : Set.InjOn f {a | p a})
    {o o' : Option α} (h : ∀ a ∈ o, p a) (h' : ∀ a ∈ o', p a) (hmap : o.map f = o'.map f) :
    o = o' := by
  cases o with
  | none => exact (Option.map_eq_none_iff.mp hmap.symm).symm
  | some a =>
    obtain ⟨a', rfl, hsame⟩ := Option.map_eq_some_iff.mp hmap.symm
    rw [hf (h' a' rfl) (h a rfl) hsame]

theorem amounts_eq_ok {o : Option TlvRecord} {list : AssetBalanceListSummary} :
    decodeAmounts o = .ok list ↔
      ∃ amounts : Option (List AssetBalanceSummary), (∀ balances ∈ amounts, BalancesFit balances) ∧
        o.map (·.value) = amounts.map balancesBytes ∧
        list = (amounts.map balancesSummary).getD emptyAssetBalanceList := by
  cases o with
  | none =>
    simp only [decodeAmounts, pure_eq_ok, Except.ok.injEq]
    constructor
    · rintro rfl
      exact ⟨none, by simp, rfl, rfl⟩
    · rintro ⟨amounts, -, hnone, rfl⟩
      obtain rfl := Option.map_eq_none_iff.mp hnone.symm
      rfl
  | some r =>
    simp only [decodeAmounts, parseAssetBalanceList_eq_ok]
    constructor
    · rintro ⟨balances, hfit, hbytes, rfl⟩
      exact ⟨some balances, by simpa using hfit, congrArg some hbytes, rfl⟩
    · rintro ⟨amounts, hfit, hsome, rfl⟩
      obtain ⟨balances, rfl, hbytes⟩ := Option.map_eq_some_iff.mp hsome.symm
      exact ⟨balances, hfit balances rfl, hbytes.symm, rfl⟩

theorem ids_eq_ok {o : Option TlvRecord} {list : List Bytes32} :
    decodeAvailableRfqIds o = .ok list ↔
      ∃ ids : Option (List Bytes32), (∀ l ∈ ids, l.length ≤ maxRfqIds.toNat) ∧
        o.map (·.value) = ids.map idsBytes ∧ list = ids.getD [] := by
  cases o with
  | none =>
    simp only [decodeAvailableRfqIds, pure_eq_ok, Except.ok.injEq]
    constructor
    · rintro rfl
      exact ⟨none, by simp, rfl, rfl⟩
    · rintro ⟨ids, -, hnone, rfl⟩
      obtain rfl := Option.map_eq_none_iff.mp hnone.symm
      rfl
  | some r =>
    simp only [decodeAvailableRfqIds, parseRfqIdList_eq_ok]
    constructor
    · rintro ⟨hcount, hbytes⟩
      exact ⟨some list, by simpa using hcount, congrArg some hbytes, rfl⟩
    · rintro ⟨ids, hcount, hsome, rfl⟩
      obtain ⟨l, rfl, hbytes⟩ := Option.map_eq_some_iff.mp hsome.symm
      exact ⟨hcount l rfl, hbytes.symm⟩

/-- The decoder on the records of a stream. -/
theorem decodeHtlcBlob_records {bytes : Bytes} {blob : LightningLabsHtlcBlob} :
    decodeHtlcBlob bytes = .ok blob ↔ ∃ records, IsStream records bytes ∧
      (∃ r ∈ records, r.typeId = typeHtlcAmounts ∨ r.typeId = typeHtlcRfqId ∨
        r.typeId = typeHtlcAvailableRfqIds) ∧
      (∀ r ∈ records, r.typeId ∉ knownHtlcTypes → r.typeId % 2 ≠ 0) ∧
      ∃ content : HtlcContent, (∀ balances ∈ content.amounts, BalancesFit balances) ∧
        (∀ ids ∈ content.availableRfqIds, ids.length ≤ maxRfqIds.toNat) ∧
        Reads (recordMap records) content.slots ∧
        content.unknown = records.filter (·.typeId ∉ knownHtlcTypes) ∧
        blob = content.summary bytes := by
  have hids (r : TlvRecord) (id : Bytes32) : parseBytes32 r.value "htlc.rfq_id" = .ok id ↔
      r.value = id.bytes := parseBytes32_eq_ok
  have hflags (r : TlvRecord) (flag : Bool) : parseBoolRecord r "htlc.noop_add" = .ok flag ↔
      r.value = flagByte flag := parseBoolRecord_eq_ok
  simp only [decodeHtlcBlob, bind_eq_ok, mapError_eq_ok, decodeStream_eq_ok, rejectIf_eq_ok,
    not_not, exists_const, amounts_eq_ok, ids_eq_ok, collectUnknown_eq_ok, pure_eq_ok, Except.ok.injEq,
    optionMapM_eq_ok hids, optionMapM_eq_ok hflags]
  refine exists_congr fun records => and_congr_right fun hstream => and_congr_right fun _ => ?_
  have hread (typeId : UInt64) := optionalRecord_value typeId ((isStream_iff.mp hstream).2.2)
  simp only [hread]
  constructor
  · rintro ⟨_, ⟨amounts, hfit, hamounts, rfl⟩, rfqId, hrfq, _, ⟨ids, hcount, hids, rfl⟩, noopAdd,
      hnoop, _, ⟨hodd, rfl⟩, rfl⟩
    refine ⟨hodd, ⟨amounts, rfqId, ids, noopAdd, _⟩, hfit, hcount, ?_, rfl, rfl⟩
    simp [TlvFields.Reads, HtlcContent.slots, hamounts, hrfq, hids, hnoop]
  · rintro ⟨hodd, ⟨amounts, rfqId, ids, noopAdd, _⟩, hfit, hcount, hreads, rfl, rfl⟩
    simp only [TlvFields.Reads, HtlcContent.slots, List.forall_mem_cons] at hreads
    obtain ⟨hamounts, hrfq, hids, hnoop, -⟩ := hreads
    exact ⟨_, ⟨amounts, hfit, hamounts, rfl⟩, rfqId, hrfq, _, ⟨ids, hcount, hids, rfl⟩, noopAdd,
      hnoop, _, ⟨hodd, rfl⟩, rfl⟩

theorem flatMap_length_le {α : Type} {f : α → Bytes} {k : ℕ} (h : ∀ a, (f a).length ≤ k)
    (xs : List α) : (xs.flatMap f).length ≤ xs.length * k := by
  induction xs with
  | nil => simp
  | cons x xs ih =>
    have hx := h x
    simp only [List.flatMap_cons, List.length_append, List.length_cons, Nat.add_mul, one_mul]
    omega

theorem balancesBytes_fits {balances : List AssetBalanceSummary} (h : BalancesFit balances) :
    (balancesBytes balances).length < 2 ^ 64 := by
  have hcount : balances.length ≤ 2048 := h.1
  have hitem (balance : AssetBalanceSummary) :
      (varbytes ((balanceRecords balance).flatMap encodeRecord)).length ≤ 109 := by
    have hlength := balance_length balance
    have hsize := encodeBigSize_length
      (UInt64.ofNat ((balanceRecords balance).flatMap encodeRecord).length)
    rw [varbytes, List.length_append]
    omega
  have hitems := flatMap_length_le hitem balances
  have hhead := encodeBigSize_length (UInt64.ofNat balances.length)
  rw [balancesBytes, List.length_append]
  omega

theorem idsBytes_fits {ids : List Bytes32} (h : ids.length ≤ maxRfqIds.toNat) :
    (idsBytes ids).length < 2 ^ 64 := by
  have hcount : ids.length ≤ 2048 := h
  have hitems := flatMap_length_le (f := fun id : Bytes32 => id.bytes) (fun id => id.length_eq.le)
    ids
  have hhead := encodeBigSize_length (UInt64.ofNat ids.length)
  rw [idsBytes, List.length_append]
  omega

namespace HtlcContent

variable {content : HtlcContent}

theorem slots_fit (h : content.WellFormed) :
    ∀ slot ∈ content.slots, ∀ value ∈ slot.2, List.length value < 2 ^ 64 := by
  simp only [slots, List.forall_mem_cons, Option.forall_mem_map, List.not_mem_nil, false_imp_iff,
    implies_true, and_true]
  refine ⟨fun balances hmem => balancesBytes_fits (h.amounts balances hmem), fun id _ => ?_,
    fun ids hmem => idsBytes_fits (h.availableRfqIds ids hmem), fun flag _ => ?_⟩
  · rw [id.length_eq]
    norm_num
  · rw [flagByte, List.length_singleton]
    norm_num

theorem records_fit (h : content.WellFormed) : ∀ r ∈ content.records, r.value.length < 2 ^ 64 := by
  intro r hr
  rcases List.mem_append.mp (mem_sortByType.mp hr) with hknown | hunknown
  · exact fits_of_slots (slots_fit h) r hknown
  · exact h.unknownSizes r hunknown

/-- The known types are even. -/
theorem unknown_other (h : ∀ r ∈ content.unknown, r.typeId % 2 ≠ 0) :
    ∀ r ∈ content.unknown, r.typeId ∉ content.slots.map (·.1) := by
  intro r hr hknown
  have heven : ∀ t ∈ knownHtlcTypes, t % 2 = 0 := by
    simp [knownHtlcTypes, typeHtlcAmounts, typeHtlcRfqId, typeHtlcAvailableRfqIds, typeHtlcNoopAdd]
  exact h r hr (heven r.typeId (content.slots_types ▸ hknown))

theorem present_iff {records : List TlvRecord}
    (hsorted : records.Pairwise fun r r' => r.typeId < r'.typeId)
    (hreads : TlvFields.Reads (recordMap records) content.slots) :
    (∃ r ∈ records, r.typeId = typeHtlcAmounts ∨ r.typeId = typeHtlcRfqId ∨
        r.typeId = typeHtlcAvailableRfqIds) ↔
      content.amounts ≠ none ∨ content.rfqId ≠ none ∨ content.availableRfqIds ≠ none := by
  have hfound {typeId : UInt64} {α : Type} {o : Option α} {f : α → Bytes}
      (hread : (recordMap records)[typeId]? = o.map f) :
      (∃ r ∈ records, r.typeId = typeId) ↔ o ≠ none := by
    rw [← optionalRecord_value typeId hsorted] at hread
    simp only [← optionalRecord_eq_some hsorted]
    rw [← Option.ne_none_iff_exists']
    refine not_congr ?_
    rw [← Option.map_eq_none_iff (f := f), ← hread, Option.map_eq_none_iff]
  simp only [TlvFields.Reads, slots, List.forall_mem_cons] at hreads
  obtain ⟨hamounts, hrfq, hids, -⟩ := hreads
  simp only [and_or_left, exists_or, hfound hamounts, hfound hrfq, hfound hids]

/-- A content is that of some records when they read as its fields and its unknown records are the
rest. -/
theorem records_iff (h : ∀ r ∈ content.unknown, r.typeId % 2 ≠ 0) {records : List TlvRecord}
    (hsorted : records.Pairwise fun r r' => r.typeId < r'.typeId) :
    content.unknown.Pairwise (fun r r' => r.typeId < r'.typeId) ∧ records = content.records ↔
      TlvFields.Reads (recordMap records) content.slots ∧
        content.unknown = records.filter (·.typeId ∉ knownHtlcTypes) := by
  constructor
  · rintro ⟨hunknown, hrecords⟩
    exact ((merged_iff content.slots_nodup hunknown (unknown_other h)).mp hrecords).2
  · rintro ⟨hreads, hrest⟩
    have hunknown : content.unknown.Pairwise fun r r' => r.typeId < r'.typeId :=
      hrest ▸ hsorted.filter _
    exact ⟨hunknown, (merged_iff content.slots_nodup hunknown (unknown_other h)).mpr
      ⟨hsorted, hreads, hrest⟩⟩

/-- The records of a well-formed content make a stream, which reads as the content. -/
theorem records_reads (h : content.WellFormed) : IsStream content.records content.encode ∧
    TlvFields.Reads (recordMap content.records) content.slots ∧
    content.unknown = content.records.filter (·.typeId ∉ knownHtlcTypes) := by
  have hsorted : content.records.Pairwise fun r r' => r.typeId < r'.typeId :=
    merged_sorted content.slots_nodup h.unknownSorted (unknown_other h.unknownTypes)
  exact ⟨isStream_iff.mpr ⟨rfl, records_fit h, hsorted⟩,
    (records_iff h.unknownTypes hsorted).mp ⟨h.unknownSorted, rfl⟩⟩

/-- Different contents have different streams. -/
theorem encode_injOn : Set.InjOn encode {content | content.WellFormed} := by
  intro c hc c' hc' hsame
  obtain ⟨hstream, hreads, hunknown⟩ := records_reads hc
  obtain ⟨hstream', hreads', hunknown'⟩ := records_reads hc'
  have hrecords : c.records = c'.records := by
    have hdecode := decodeStream_eq_ok.mpr hstream
    rw [hsame, decodeStream_eq_ok.mpr hstream'] at hdecode
    exact (Except.ok.inj hdecode).symm
  rw [hrecords] at hreads hunknown
  simp only [TlvFields.Reads, slots, List.forall_mem_cons] at hreads hreads'
  obtain ⟨hamounts, hrfq, hids, hnoop, -⟩ := hreads
  obtain ⟨hamounts', hrfq', hids', hnoop', -⟩ := hreads'
  obtain ⟨amounts, rfqId, ids, noopAdd, unknown⟩ := c
  obtain ⟨amounts', rfqId', ids', noopAdd', unknown'⟩ := c'
  have h₁ : amounts = amounts' := map_injOn balancesBytes_injOn hc.amounts hc'.amounts
    (hamounts.symm.trans hamounts')
  have h₂ : rfqId = rfqId' := Option.map_injective (fun _ _ => FixedBytes.ext)
    (hrfq.symm.trans hrfq')
  have h₃ : ids = ids' := map_injOn idsBytes_injOn hc.availableRfqIds hc'.availableRfqIds
    (hids.symm.trans hids')
  have h₄ : noopAdd = noopAdd' := Option.map_injective flagByte_injective
    (hnoop.symm.trans hnoop')
  have h₅ : unknown = unknown' := hunknown.trans hunknown'.symm
  rw [h₁, h₂, h₃, h₄, h₅]

end HtlcContent

/-- A blob is accepted exactly when it is the stream of a well-formed content, which is the only
one with that stream, and the decoder reports that content. -/
theorem htlc_blob_exact (bytes : Bytes) (blob : LightningLabsHtlcBlob) :
    decodeHtlcBlob bytes = .ok blob ↔ ∃! content : HtlcContent, content.WellFormed ∧
      bytes = content.encode ∧ blob = content.summary bytes := by
  rw [decodeHtlcBlob_records]
  constructor
  · rintro ⟨records, hstream, hpresent, hodd, content, hfit, hcount, hreads, hunknown, rfl⟩
    obtain ⟨rfl, hsizes, hsorted⟩ := isStream_iff.mp hstream
    have hother : ∀ r ∈ content.unknown, r ∈ records ∧ r.typeId % 2 ≠ 0 := by
      intro r hr
      rw [hunknown, List.mem_filter, decide_eq_true_eq] at hr
      exact ⟨hr.1, hodd r hr.1 hr.2⟩
    obtain ⟨hothers, hrecords⟩ :=
      (HtlcContent.records_iff (fun r hr => (hother r hr).2) hsorted).mpr ⟨hreads, hunknown⟩
    have hwell : content.WellFormed :=
      { present := (HtlcContent.present_iff hsorted hreads).mp hpresent
        amounts := hfit
        availableRfqIds := hcount
        unknownTypes := fun r hr => (hother r hr).2
        unknownSizes := fun r hr => hsizes r (hother r hr).1
        unknownSorted := hothers }
    have hencode : records.flatMap encodeRecord = content.encode := congrArg _ hrecords
    refine ⟨content, ⟨hwell, hencode, rfl⟩, fun other ⟨h, hother, _⟩ => ?_⟩
    exact HtlcContent.encode_injOn h hwell (hother.symm.trans hencode)
  · rintro ⟨content, ⟨h, rfl, rfl⟩, -⟩
    obtain ⟨hstream, hreads, hunknown⟩ := HtlcContent.records_reads h
    have hsorted := (isStream_iff.mp hstream).2.2
    refine ⟨content.records, hstream, (HtlcContent.present_iff hsorted hreads).mpr h.present, ?_,
      content, h.amounts, h.availableRfqIds, hreads, hunknown, rfl⟩
    intro r hr hknown
    apply h.unknownTypes r
    rw [hunknown, List.mem_filter, decide_eq_true_eq]
    exact ⟨hr, hknown⟩

end TapLdk.HtlcBlob
