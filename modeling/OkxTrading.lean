import OkxTrading.Effect.Program
import OkxTrading.Okx.Decimal
import OkxTrading.Okx.Types
import OkxTrading.Okx.TradingInstrument
import OkxTrading.Strategy.OrderId
import OkxTrading.Okx.Client
import OkxTrading.Strategy.Signal
import OkxTrading.Strategy.State
import OkxTrading.Strategy.Pricing
import OkxTrading.Strategy.Evidence
import OkxTrading.Strategy.Orders
import OkxTrading.Strategy.Reconstruct
import OkxTrading.Strategy.EntrySubmission
import OkxTrading.Strategy.Operations
import OkxTrading.Strategy.Step
import OkxTrading.Strategy.Steps.Rules
import OkxTrading.Strategy.Steps.TakeProfit
import OkxTrading.Strategy.Steps.Entry
import OkxTrading.Strategy.Steps.StopLoss
import OkxTrading.Strategy.Steps.Ticks
import OkxTrading.Strategy.Steps.Operations
import OkxTrading.Strategy.Scripted
import OkxTrading.Properties.Protection
import OkxTrading.Properties.CostBasis
import OkxTrading.Properties.EntryTracking
import OkxTrading.Properties.FillAccounting
import OkxTrading.Properties.OrderIdentity
import OkxTrading.Properties.OrderAdmission
import OkxTrading.Pacing.SlidingWindow
import OkxTrading.Okx.RateLimit
import OkxTrading.Properties.RateLimit
import OkxTrading.Paging.Cursor
import OkxTrading.Okx.Pagination
import OkxTrading.Properties.PaginatedReads
import OkxTrading.Collections.SortedMap
import OkxTrading.Effect.Trace
import OkxTrading.Market.BooksMessage
import OkxTrading.Market.Features
import OkxTrading.Market.Level2
import OkxTrading.Market.ReplayBook
import OkxTrading.Properties.ReplayTrust
import OkxTrading.Market.Reconstruction
import OkxTrading.Properties.Level2State
import OkxTrading.Properties.Level2Continuity
import OkxTrading.Properties.BookRefinement
import OkxTrading.Properties.CandleDelivery
import OkxTrading.Properties.Level2Range
import OkxTrading.Properties.DispatchGating
import OkxTrading.Properties.StreamHealth
import OkxTrading.Properties.DeadManSwitch
import OkxTrading.Properties.MetadataLatch
import OkxTrading.Properties.ContradictionMemory
import OkxTrading.Properties.CapabilityGenerations
import OkxTrading.Properties.AmbiguousSubmissions
import OkxTrading.Properties.Quantization
import OkxTrading.Market.LiveCandles
import OkxTrading.Properties.CandleRefresh
import OkxTrading.Properties.FillEvidence
import OkxTrading.Properties.MissingPrice
import OkxTrading.Properties.RollingWindow
import OkxTrading.Properties.FeatureSoundness
import OkxTrading.Websocket.PrivateEvents
import OkxTrading.Properties.PrivateAtomicity
import OkxTrading.Websocket.SubscriptionRequest
import OkxTrading.Websocket.Subscription
import OkxTrading.Properties.SubscriptionHandshake
import OkxTrading.Websocket.Trading
import OkxTrading.Websocket.TradingSession
import OkxTrading.Properties.AckCorrelation
import OkxTrading.Collections.OldestEviction
import OkxTrading.Properties.PrivateCache
import OkxTrading.Websocket.StreamTasks
import OkxTrading.Websocket.PublicEvents
import OkxTrading.Websocket.RuntimeStreams
import OkxTrading.Properties.StreamLifecycle
import OkxTrading.Properties.MarketCache
import OkxTrading.Properties.EventDelivery
import OkxTrading.Properties.TaskHealth
import OkxTrading.Effect.Guarded
import OkxTrading.Okx.TradingClient
import OkxTrading.Properties.CommandProtocol
import OkxTrading.Properties.TradingSubmissions
import OkxTrading.Properties.TradingEvidence
import OkxTrading.Properties.TradingNotices
import OkxTrading.Properties.TradingIds
import OkxTrading.Properties.TradingLatch
import OkxTrading.Properties.TradingProgress
