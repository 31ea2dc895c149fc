import Mathlib
import TapLdk.Asset
import TapLdk.LibraryRuns

/-! The RFQ quote store: quotes bound to their terms by a hash, the aliases of the live
ones, the replay domains already used, and the life of a quote from request to use. -/
namespace TapLdk.RfqQuotes
open TapLdk.LibraryExcept TapLdk.LibraryMaps TapLdk.LibraryBytes TapLdk.LibrarySha256
open TapLdk.LibraryRuns TapLdk.Mssmt TapLdk.Asset

def rfqStoreSchemaVersion : UInt32 := 1
def regtestOpenusdMsatsPerUnit : UInt64 := 100
def rfqAliasBase : UInt64 := (1 : UInt64) <<< 62

inductive RfqQuoteStatus where
  | requested
  | accepted
  | rejected
  | expired
  | used
deriving DecidableEq

structure StoredRfqQuote where
  quoteId : String
  peer : String
  assetId : Bytes32
  assetAmount : UInt64
  btcMsat : UInt64
  expiryUnixSeconds : UInt64
  invoiceContext : Bytes32
  scidAlias : UInt64
  replayDomain : String
  status : RfqQuoteStatus
  createdAtUnixSeconds : UInt64
  acceptedAtUnixSeconds : Option UInt64
  rejectedAtUnixSeconds : Option UInt64
  rejectedReason : Option String
  expiredAtUnixSeconds : Option UInt64
  usedAtUnixSeconds : Option UInt64
deriving DecidableEq

structure RfqStoreMetadata where
  implementation : String := "tap-ldk experimental rfq store"
  schema : String := "bounded-regtest-rfq-v1"
deriving DecidableEq

structure RfqQuoteStore where
  version : UInt32
  metadata : RfqStoreMetadata
  realLocalScids : BTreeMap UInt64 Unit
  liveAliases : BTreeMap UInt64 String
  usedReplayDomains : BTreeMap String String
  quotes : BTreeMap String StoredRfqQuote

structure RfqQuoteRequest where
  peer : String
  assetId : Bytes32
  assetAmount : UInt64
  expiryUnixSeconds : UInt64
  invoiceContext : Bytes32
  replayDomain : String
  nowUnixSeconds : UInt64
deriving DecidableEq

structure RfqHtlcAuthorization where
  quoteId : String
  peer : String
  assetId : Bytes32
  assetAmount : UInt64
  btcMsat : UInt64
  invoiceContext : Bytes32
  scidAlias : UInt64
  replayDomain : String
deriving DecidableEq

inductive RfqQuoteError where
  | unsupportedVersion (version : UInt32)
  | unknownQuote (quoteId : String)
  | emptyPeer
  | emptyReplayDomain
  | emptyRejectReason
  | zeroAssetAmount
  | zeroBtcAmount
  | zeroScidAlias
  | amountOverflow
  | invalidExpiry (createdAtUnixSeconds expiryUnixSeconds : UInt64)
  | quoteExpired (quoteId : String) (nowUnixSeconds expiryUnixSeconds : UInt64)
  | quoteStillLive (quoteId : String) (nowUnixSeconds expiryUnixSeconds : UInt64)
  | quoteNotRequested (quoteId : String) (status : RfqQuoteStatus)
  | quoteNotAccepted (quoteId : String) (status : RfqQuoteStatus)
  | quoteTerminal (quoteId : String) (status : RfqQuoteStatus)
  | replayDomainAlreadyUsed (replayDomain : String)
  | aliasCollidesWithRealScid (scid : UInt64)
  | aliasCollidesWithLiveQuote (scid : UInt64)
  | aliasExhausted
  | storageInvariant (message : String)
deriving DecidableEq

/-- What a method leaves behind: its result and the store, changed on some errors too. -/
abbrev RfqResult (α : Type) := Except RfqQuoteError α × RfqQuoteStore

/-- What the hash of a quote id covers. -/
def quoteBindingPreimage (peer : String) (assetId : Bytes32) (assetAmount btcMsat : UInt64)
    (expiryUnixSeconds : UInt64) (invoiceContext : Bytes32) (scidAlias : UInt64)
    (replayDomain : String) : Bytes :=
  utf8 "tap-ldk:rfq-quote-binding:v1" ++ (beBytes 8 (utf8 peer).length ++ utf8 peer) ++
    assetId.bytes ++ u64Bytes assetAmount ++ u64Bytes btcMsat ++ u64Bytes expiryUnixSeconds ++
    invoiceContext.bytes ++ u64Bytes scidAlias ++
    (beBytes 8 (utf8 replayDomain).length ++ utf8 replayDomain)

def deriveQuoteId (peer : String) (assetId : Bytes32) (assetAmount btcMsat : UInt64)
    (expiryUnixSeconds : UInt64) (invoiceContext : Bytes32) (scidAlias : UInt64)
    (replayDomain : String) : String :=
  toHex (sha256 (quoteBindingPreimage peer assetId assetAmount btcMsat expiryUnixSeconds
    invoiceContext scidAlias replayDomain))

def deriveQuoteSeed (peer : String) (assetId : Bytes32) (assetAmount btcMsat : UInt64)
    (expiryUnixSeconds : UInt64) (invoiceContext : Bytes32) (replayDomain : String) : Bytes32 :=
  sha256 (utf8 "tap-ldk:rfq-quote-seed:v1" ++ (beBytes 8 (utf8 peer).length ++ utf8 peer) ++
    assetId.bytes ++ u64Bytes assetAmount ++ u64Bytes btcMsat ++ u64Bytes expiryUnixSeconds ++
    invoiceContext.bytes ++ (beBytes 8 (utf8 replayDomain).length ++ utf8 replayDomain))

structure FixedRateOracle where
  ticker : String
  msatsPerAssetUnit : UInt64

def FixedRateOracle.regtestOpenusd : FixedRateOracle := ⟨"OPENUSD", regtestOpenusdMsatsPerUnit⟩

def FixedRateOracle.quoteBtcMsat (oracle : FixedRateOracle) (assetAmount : UInt64) :
    Except RfqQuoteError UInt64 := do
  rejectIf (assetAmount = 0) .zeroAssetAmount
  okOr (checkedMul assetAmount oracle.msatsPerAssetUnit) .amountOverflow

/-- A quote that still holds its alias. -/
def RfqQuoteStatus.isLive : RfqQuoteStatus → Bool
  | requested | accepted => true
  | rejected | expired | used => false

namespace StoredRfqQuote

def bindingId (quote : StoredRfqQuote) : String :=
  deriveQuoteId quote.peer quote.assetId quote.assetAmount quote.btcMsat quote.expiryUnixSeconds
    quote.invoiceContext quote.scidAlias quote.replayDomain

def validateFields (quote : StoredRfqQuote) : Except RfqQuoteError Unit := do
  rejectIf (isBlank quote.peer) .emptyPeer
  rejectIf (isBlank quote.replayDomain) .emptyReplayDomain
  rejectIf (quote.assetAmount = 0) .zeroAssetAmount
  rejectIf (quote.btcMsat = 0) .zeroBtcAmount
  rejectIf (quote.expiryUnixSeconds ≤ quote.createdAtUnixSeconds)
    (.invalidExpiry quote.createdAtUnixSeconds quote.expiryUnixSeconds)
  rejectIf (quote.scidAlias = 0) .zeroScidAlias

def ensureNotExpired (quote : StoredRfqQuote) (nowUnixSeconds : UInt64) :
    Except RfqQuoteError Unit :=
  rejectIf (quote.expiryUnixSeconds < nowUnixSeconds)
    (.quoteExpired quote.quoteId nowUnixSeconds quote.expiryUnixSeconds)

end StoredRfqQuote

def RfqHtlcAuthorization.fromQuote (quote : StoredRfqQuote) : RfqHtlcAuthorization :=
  ⟨quote.quoteId, quote.peer, quote.assetId, quote.assetAmount, quote.btcMsat,
    quote.invoiceContext, quote.scidAlias, quote.replayDomain⟩

def validateRequest (request : RfqQuoteRequest) : Except RfqQuoteError Unit := do
  rejectIf (isBlank request.peer) .emptyPeer
  rejectIf (isBlank request.replayDomain) .emptyReplayDomain
  rejectIf (request.assetAmount = 0) .zeroAssetAmount

/-- The indexes that validation rebuilds from the quotes. -/
structure QuoteIndexes where
  liveAliases : BTreeMap UInt64 String
  usedReplayDomains : BTreeMap String String
  liveReplayDomains : BTreeMap String Unit

def requireSome (field : String) (value : Option UInt64) : Except RfqQuoteError Unit :=
  rejectIf value.isNone (.storageInvariant s!"{field} is required")

def requireNone (field : String) (value : Option UInt64) : Except RfqQuoteError Unit :=
  rejectIf value.isSome (.storageInvariant s!"{field} must be empty")

namespace QuoteIndexes

def insertUniqueLiveAlias (indexes : QuoteIndexes) (quote : StoredRfqQuote) :
    Except RfqQuoteError QuoteIndexes := do
  rejectIf (indexes.liveAliases[quote.scidAlias]?).isSome
    (.aliasCollidesWithLiveQuote quote.scidAlias)
  pure { indexes with
    liveAliases := indexes.liveAliases.insert quote.scidAlias quote.quoteId }

def insertUniqueLiveReplayDomain (indexes : QuoteIndexes) (quote : StoredRfqQuote) :
    Except RfqQuoteError QuoteIndexes := do
  rejectIf (indexes.liveReplayDomains[quote.replayDomain]?).isSome
    (.replayDomainAlreadyUsed quote.replayDomain)
  pure { indexes with liveReplayDomains := indexes.liveReplayDomains.insert quote.replayDomain () }

def insertUsedReplayDomain (indexes : QuoteIndexes) (quote : StoredRfqQuote) :
    Except RfqQuoteError QuoteIndexes := do
  rejectIf (indexes.usedReplayDomains[quote.replayDomain]?).isSome
    (.storageInvariant s!"replay domain {quote.replayDomain} is used by multiple quotes")
  pure { indexes with
    usedReplayDomains := indexes.usedReplayDomains.insert quote.replayDomain quote.quoteId }

/-- The timestamps that go with a status, and the indexes that list a quote in it. -/
def addQuote (indexes : QuoteIndexes) (quoteId : String) (quote : StoredRfqQuote) :
    Except RfqQuoteError QuoteIndexes :=
  match quote.status with
  | .requested => do
    requireNone "accepted_at_unix_seconds" quote.acceptedAtUnixSeconds
    requireNone "rejected_at_unix_seconds" quote.rejectedAtUnixSeconds
    requireNone "expired_at_unix_seconds" quote.expiredAtUnixSeconds
    requireNone "used_at_unix_seconds" quote.usedAtUnixSeconds
    let indexes ← indexes.insertUniqueLiveAlias quote
    indexes.insertUniqueLiveReplayDomain quote
  | .accepted => do
    requireSome "accepted_at_unix_seconds" quote.acceptedAtUnixSeconds
    requireNone "rejected_at_unix_seconds" quote.rejectedAtUnixSeconds
    requireNone "expired_at_unix_seconds" quote.expiredAtUnixSeconds
    requireNone "used_at_unix_seconds" quote.usedAtUnixSeconds
    let indexes ← indexes.insertUniqueLiveAlias quote
    indexes.insertUniqueLiveReplayDomain quote
  | .rejected => do
    requireSome "rejected_at_unix_seconds" quote.rejectedAtUnixSeconds
    rejectIf (quote.rejectedReason.all isBlank)
      (.storageInvariant s!"rejected quote {quoteId} has no reason")
    requireNone "expired_at_unix_seconds" quote.expiredAtUnixSeconds
    requireNone "used_at_unix_seconds" quote.usedAtUnixSeconds
    pure indexes
  | .expired => do
    requireSome "expired_at_unix_seconds" quote.expiredAtUnixSeconds
    requireNone "used_at_unix_seconds" quote.usedAtUnixSeconds
    pure indexes
  | .used => do
    requireSome "accepted_at_unix_seconds" quote.acceptedAtUnixSeconds
    requireSome "used_at_unix_seconds" quote.usedAtUnixSeconds
    indexes.insertUsedReplayDomain quote

end QuoteIndexes

namespace RfqQuoteStore

def default : RfqQuoteStore := ⟨rfqStoreSchemaVersion, {}, ∅, ∅, ∅, ∅⟩

def indexQuote (store : RfqQuoteStore) (indexes : QuoteIndexes)
    (entry : String × StoredRfqQuote) : Except RfqQuoteError QuoteIndexes := do
  let (quoteId, quote) := entry
  quote.validateFields
  rejectIf (quoteId ≠ quote.quoteId) (.storageInvariant
    s!"quote map key {quoteId} does not match quote_id {quote.quoteId}")
  rejectIf (quote.bindingId ≠ quoteId) (.storageInvariant
    s!"quote {quoteId} binding hash does not match stored fields")
  rejectIf (store.realLocalScids[quote.scidAlias]?).isSome
    (.aliasCollidesWithRealScid quote.scidAlias)
  indexes.addQuote quoteId quote

def validate (store : RfqQuoteStore) : Except RfqQuoteError Unit := do
  rejectIf (store.version ≠ rfqStoreSchemaVersion) (.unsupportedVersion store.version)
  let indexes ← store.quotes.toList.foldlM store.indexQuote ⟨∅, ∅, ∅⟩
  -- two maps are equal exactly when they list the same entries
  rejectIf (indexes.liveAliases.toList ≠ store.liveAliases.toList)
    (.storageInvariant "live alias index does not match quote statuses")
  rejectIf (indexes.usedReplayDomains.toList ≠ store.usedReplayDomains.toList)
    (.storageInvariant "used replay-domain index does not match used quotes")

/-- A change is written first and validated afterwards; it stays when validation fails. -/
def mutate {α : Type} (store : RfqQuoteStore) :
    Except RfqQuoteError (α × RfqQuoteStore) → RfqResult α
  | .error e => (.error e, store)
  | .ok (a, next) => (next.validate.map fun _ => a, next)

def inspectQuote (store : RfqQuoteStore) (quoteId : String) :
    Except RfqQuoteError StoredRfqQuote :=
  okOr store.quotes[quoteId]? (.unknownQuote quoteId)

def liveReplayDomainExists (store : RfqQuoteStore) (replayDomain : String) : Bool :=
  store.quotes.toList.any fun e => e.2.status.isLive && e.2.replayDomain == replayDomain

/-- The first free alias from a candidate on, in so many tries. -/
def firstFreeAlias (store : RfqQuoteStore) : ℕ → UInt64 → Except RfqQuoteError UInt64
  | 0, _ => .error .aliasExhausted
  | tries + 1, candidate =>
    if (store.realLocalScids[candidate]?).isNone ∧ (store.liveAliases[candidate]?).isNone then
      .ok candidate
    else do
      let candidate ← okOr (checkedAdd candidate 1) .aliasExhausted
      store.firstFreeAlias tries candidate

def allocateScidAlias (store : RfqQuoteStore) (request : RfqQuoteRequest) (btcMsat : UInt64) :
    Except RfqQuoteError UInt64 :=
  let seed := deriveQuoteSeed request.peer request.assetId request.assetAmount btcMsat
    request.expiryUnixSeconds request.invoiceContext request.replayDomain
  let first := rfqAliasBase ||| (UInt64.ofNat (beValue (seed.bytes.take 8)) >>> 1)
  store.firstFreeAlias 10000 first

/-- The quote that answers a request, before it is stored. -/
def prepareQuote (store : RfqQuoteStore) (request : RfqQuoteRequest) :
    Except RfqQuoteError StoredRfqQuote := do
  validateRequest request
  rejectIf (request.expiryUnixSeconds ≤ request.nowUnixSeconds)
    (.quoteExpired "new" request.nowUnixSeconds request.expiryUnixSeconds)
  rejectIf ((store.usedReplayDomains[request.replayDomain]?).isSome ∨
    store.liveReplayDomainExists request.replayDomain)
    (.replayDomainAlreadyUsed request.replayDomain)
  let btcMsat ← FixedRateOracle.regtestOpenusd.quoteBtcMsat request.assetAmount
  let scidAlias ← store.allocateScidAlias request btcMsat
  pure
    { quoteId := deriveQuoteId request.peer request.assetId request.assetAmount btcMsat
        request.expiryUnixSeconds request.invoiceContext scidAlias request.replayDomain
      peer := request.peer
      assetId := request.assetId
      assetAmount := request.assetAmount
      btcMsat
      expiryUnixSeconds := request.expiryUnixSeconds
      invoiceContext := request.invoiceContext
      scidAlias
      replayDomain := request.replayDomain
      status := .requested
      createdAtUnixSeconds := request.nowUnixSeconds
      acceptedAtUnixSeconds := none
      rejectedAtUnixSeconds := none
      rejectedReason := none
      expiredAtUnixSeconds := none
      usedAtUnixSeconds := none }

def insertQuote (store : RfqQuoteStore) (quote : StoredRfqQuote) : RfqQuoteStore :=
  { store with
    liveAliases := store.liveAliases.insert quote.scidAlias quote.quoteId
    quotes := store.quotes.insert quote.quoteId quote }

def requestQuote (store : RfqQuoteStore) (request : RfqQuoteRequest) : RfqResult StoredRfqQuote :=
  store.mutate (do
    let quote ← store.prepareQuote request
    pure (quote, store.insertQuote quote))

/-- A quote written back under its key. -/
def putQuote (store : RfqQuoteStore) (quoteId : String) (quote : StoredRfqQuote) : RfqQuoteStore :=
  { store with quotes := store.quotes.insert quoteId quote }

/-- A quote written back in a terminal status, without its alias. -/
def closeQuote (store : RfqQuoteStore) (quoteId : String) (quote : StoredRfqQuote) :
    RfqQuoteStore :=
  { store.putQuote quoteId quote with liveAliases := store.liveAliases.erase quote.scidAlias }

/-- A quote written back as used, which takes its replay domain. -/
def useQuote (store : RfqQuoteStore) (quoteId : String) (quote : StoredRfqQuote) : RfqQuoteStore :=
  { store.closeQuote quoteId quote with
    usedReplayDomains := store.usedReplayDomains.insert quote.replayDomain quote.quoteId }

def acceptQuote (store : RfqQuoteStore) (quoteId : String) (nowUnixSeconds : UInt64) :
    RfqResult StoredRfqQuote :=
  store.mutate (do
    let quote ← okOr store.quotes[quoteId]? (.unknownQuote quoteId)
    quote.ensureNotExpired nowUnixSeconds
    rejectIf (quote.status ≠ .requested) (.quoteNotRequested quoteId quote.status)
    rejectIf (store.usedReplayDomains[quote.replayDomain]?).isSome
      (.replayDomainAlreadyUsed quote.replayDomain)
    let quote := { quote with status := .accepted, acceptedAtUnixSeconds := some nowUnixSeconds }
    pure (quote, store.putQuote quoteId quote))

def rejectQuote (store : RfqQuoteStore) (quoteId : String) (nowUnixSeconds : UInt64)
    (reason : String) : RfqResult StoredRfqQuote :=
  store.mutate (do
    rejectIf (isBlank reason) .emptyRejectReason
    let quote ← okOr store.quotes[quoteId]? (.unknownQuote quoteId)
    rejectIf (¬ quote.status.isLive) (.quoteTerminal quoteId quote.status)
    let quote := { quote with
      status := .rejected
      rejectedAtUnixSeconds := some nowUnixSeconds
      rejectedReason := some (trim reason) }
    pure (quote, store.closeQuote quoteId quote))

def expireQuote (store : RfqQuoteStore) (quoteId : String) (nowUnixSeconds : UInt64) :
    RfqResult StoredRfqQuote :=
  store.mutate (do
    let quote ← okOr store.quotes[quoteId]? (.unknownQuote quoteId)
    rejectIf (¬ quote.status.isLive) (.quoteTerminal quoteId quote.status)
    rejectIf (nowUnixSeconds ≤ quote.expiryUnixSeconds)
      (.quoteStillLive quoteId nowUnixSeconds quote.expiryUnixSeconds)
    let quote := { quote with status := .expired, expiredAtUnixSeconds := some nowUnixSeconds }
    pure (quote, store.closeQuote quoteId quote))

def authorizeAssetHtlc (store : RfqQuoteStore) (quoteId : String) (nowUnixSeconds : UInt64) :
    RfqResult RfqHtlcAuthorization :=
  store.mutate (do
    let quote ← okOr store.quotes[quoteId]? (.unknownQuote quoteId)
    quote.ensureNotExpired nowUnixSeconds
    rejectIf (quote.status ≠ .accepted) (.quoteNotAccepted quoteId quote.status)
    rejectIf (store.usedReplayDomains[quote.replayDomain]?).isSome
      (.replayDomainAlreadyUsed quote.replayDomain)
    let quote := { quote with status := .used, usedAtUnixSeconds := some nowUnixSeconds }
    pure (.fromQuote quote, store.useQuote quoteId quote))

def registerRealLocalScid (store : RfqQuoteStore) (scid : UInt64) : RfqResult Unit :=
  store.mutate (do
    rejectIf (store.liveAliases[scid]?).isSome (.aliasCollidesWithLiveQuote scid)
    pure ((), { store with realLocalScids := store.realLocalScids.insert scid () }))

end RfqQuoteStore

inductive RfqOperation where
  | requestQuote (request : RfqQuoteRequest)
  | acceptQuote (quoteId : String) (nowUnixSeconds : UInt64)
  | rejectQuote (quoteId : String) (nowUnixSeconds : UInt64) (reason : String)
  | expireQuote (quoteId : String) (nowUnixSeconds : UInt64)
  | authorizeAssetHtlc (quoteId : String) (nowUnixSeconds : UInt64)
  | registerRealLocalScid (scid : UInt64)
deriving DecidableEq

/-- The store an operation leaves behind, whether or not it succeeds. -/
def RfqQuoteStore.after (store : RfqQuoteStore) : RfqOperation → RfqQuoteStore
  | .requestQuote request => (store.requestQuote request).2
  | .acceptQuote quoteId now => (store.acceptQuote quoteId now).2
  | .rejectQuote quoteId now reason => (store.rejectQuote quoteId now reason).2
  | .expireQuote quoteId now => (store.expireQuote quoteId now).2
  | .authorizeAssetHtlc quoteId now => (store.authorizeAssetHtlc quoteId now).2
  | .registerRealLocalScid scid => (store.registerRealLocalScid scid).2

/-- The authorization an operation returns. -/
def RfqQuoteStore.authorized (store : RfqQuoteStore) : RfqOperation → Option RfqHtlcAuthorization
  | .authorizeAssetHtlc quoteId now => (store.authorizeAssetHtlc quoteId now).1.toOption
  | _ => none

def quoteMachine : Machine RfqQuoteStore RfqOperation := ⟨.default, RfqQuoteStore.after⟩

end TapLdk.RfqQuotes
