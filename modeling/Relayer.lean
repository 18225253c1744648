import Relayer.Api.RelayerRuns
import Relayer.Api.RelayerUpdate
import Relayer.Core.Address
import Relayer.Core.Checks
import Relayer.Core.Json
import Relayer.Core.Ledger
import Relayer.Core.Numbers
import Relayer.Core.Program
import Relayer.Core.Protocol
import Relayer.Core.Strkey
import Relayer.Evm.BalanceGate
import Relayer.Evm.Calls
import Relayer.Evm.Lifecycle
import Relayer.Evm.NonceCounter
import Relayer.Evm.NonceGaps
import Relayer.Evm.NonceHealth
import Relayer.Evm.NonceRecovery
import Relayer.Evm.NoopStability
import Relayer.Evm.PriceCalculator
import Relayer.Evm.Pricing
import Relayer.Evm.Replacement
import Relayer.Evm.ReplacementPrice
import Relayer.Evm.Status
import Relayer.Jobs.RelayerHealthCheck
import Relayer.Jobs.TransactionCleanup
import Relayer.Models.Policies
import Relayer.Models.Relayer
import Relayer.Models.Transaction
import Relayer.Net.UrlMask
import Relayer.Net.UrlSecurity
import Relayer.Plugins.CircuitBreaker
import Relayer.Plugins.SharedSocket
import Relayer.Queues.DueSweep
import Relayer.Queues.SqsRetries
import Relayer.Repositories.InMemoryUpdates
import Relayer.Repositories.IndexReconciliation
import Relayer.Repositories.Relayers
import Relayer.Repositories.TransactionCounter
import Relayer.Services.Retry
import Relayer.Services.RetryRuns
import Relayer.Services.RpcHealthStore
import Relayer.Solana.FeePayer
import Relayer.Solana.FeePayment
import Relayer.Solana.Lifecycle
import Relayer.Solana.LifecycleRuns
import Relayer.Solana.Message
import Relayer.Solana.Programs
import Relayer.Solana.TokenTransfers
import Relayer.Solana.Validation
import Relayer.Stellar.EnvelopeEdits
import Relayer.Stellar.FeeBump
import Relayer.Stellar.Fees
import Relayer.Stellar.GasAbstraction
import Relayer.Stellar.InFlightRuns
import Relayer.Stellar.Lifecycle
import Relayer.Stellar.LifecycleRuns
import Relayer.Stellar.Operations
import Relayer.Stellar.Preparation
import Relayer.Stellar.Reset
import Relayer.Stellar.RetryRuns
import Relayer.Stellar.SponsoredBuild
import Relayer.Stellar.TransactionData
import Relayer.Stellar.Unprepared
import Relayer.Stellar.UnsignedXdr
import Relayer.Stellar.Validation
import Relayer.Stellar.Xdr
