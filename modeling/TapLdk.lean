import TapLdk.ProofHistoryConservation
import TapLdk.WalletAnchor
import TapLdk.WalletBalance
import TapLdk.WalletTapd
import TapLdk.RfqQuoteAuthorization
import TapLdk.RfqQuoteTerminal
import TapLdk.ChannelFundingSpec
import TapLdk.AssetCloseOnce
import TapLdk.AssetCloseGenesis
import TapLdk.AssetCloseDigests
import TapLdk.AssetPayment
import TapLdk.RfqAliasRegistry
import TapLdk.ProofReassembly
import TapLdk.MssmtSoundness
import TapLdk.MssmtCompressed
import TapLdk.TlvCanonical
import TapLdk.TapVmSplits
import TapLdk.WalletCourier
import TapLdk.ProofHistoryOrder
import TapLdk.ProofHistoryMaps
import TapLdk.ProofHistoryAnchors
import TapLdk.ProofCodec
import TapLdk.TaprootBinding
import TapLdk.ChannelFundingSpellings
import TapLdk.CommitmentAccepted
import TapLdk.PeerMessage
import TapLdk.LightningLabsExchange
import TapLdk.AssetHtlcRecords
import TapLdk.AssetHtlcFinalHop
import TapLdk.TapdProofFormat
import TapLdk.OnchainEvidence
import TapLdk.TapLeafScript
import TapLdk.OnchainPipeline
import TapLdk.RfqStoreRuns
import TapLdk.ProofReassemblyRejected
import TapLdk.TapdProofRequests
import TapLdk.AssetRoots
import TapLdk.AddressCodec
import TapLdk.AssetCloseLatest
import TapLdk.AssetCloseImports
import TapLdk.WalletTransfers
import TapLdk.HexDecoders
import TapLdk.LightningLabsRates
import TapLdk.LightningLabsFunding
import TapLdk.WalletReimport
import TapLdk.AssetPaymentRuns
import TapLdk.AssetRecoveryCheckpoints
import TapLdk.AssetProofRecoveryShares
import TapLdk.AssetPaymentAtomic
import TapLdk.LivePeerCompletion
import TapLdk.HtlcBlob
import TapLdk.AssetHtlcTlv
import TapLdk.AssetPaymentFailure
import TapLdk.NodeLifecycle
import TapLdk.AssetPaymentRetries
