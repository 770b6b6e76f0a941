import Quant.Pylib.Dict
import Quant.Pylib.Text
import Quant.Pylib.Decimal
import Quant.Pylib.Runs
import Quant.Pylib.Lists
import Quant.Pylib.Greedy
import Quant.Pylib.Ndarray
import Quant.Execution.Models
import Quant.Execution.Gateway
import Quant.Execution.TaxLot
import Quant.Execution.Risk
import Quant.Execution.Venues
import Quant.Execution.Sor
import Quant.Execution.SliceVenue
import Quant.Execution.KillSwitch
import Quant.Execution.PanicTasks
import Quant.Execution.RiskOrchestrator
import Quant.Execution.RouteTrace
import Quant.Execution.Lockout
import Quant.Execution.Heartbeat
import Quant.Execution.Financing
import Quant.Mcp.Client
import Quant.Services.LedgerService
import Quant.Services.AutonomousTrader
import Quant.Analytics.Simulation
import Quant.Analytics.Replay
import Quant.Analytics.Chromosomes
import Quant.Lemmas.Gateway
import Quant.Lemmas.KillSwitch
import Quant.Lemmas.Risk
import Quant.Lemmas.RiskOrchestrator
import Quant.Lemmas.Leverage
import Quant.Lemmas.Raised
import Quant.Lemmas.Rehydration
import Quant.Lemmas.Sor
import Quant.Lemmas.Waterfill
import Quant.Lemmas.Sweep
import Quant.Lemmas.TaxLot
import Quant.Lemmas.Inventory
import Quant.Lemmas.Ledger
import Quant.Lemmas.LotRows
import Quant.Theorems.TaxLot
import Quant.Theorems.PaperAccounting
import Quant.Theorems.PaperRegistries
import Quant.Theorems.LeavesAccounting
import Quant.Theorems.SliceMass
import Quant.Theorems.SliceFills
import Quant.Theorems.RouteFills
import Quant.Theorems.PanicEvents
import Quant.Theorems.OrderLifecycle
import Quant.Theorems.DedupWindow
import Quant.Theorems.Leverage
import Quant.Theorems.Reservation
import Quant.Theorems.PanicFlatten
import Quant.Theorems.BrokerMirror
import Quant.Theorems.Correlation
import Quant.Theorems.SequentialCalls
import Quant.Theorems.Lockout
import Quant.Theorems.SelfFinancing
import Quant.Theorems.Inventory
import Quant.Theorems.Heartbeat
import Quant.Theorems.Waterfill
import Quant.Theorems.JournalBalance
import Quant.Theorems.JournalCash
import Quant.Theorems.LedgerSync
import Quant.Theorems.MarginDebt
import Quant.Theorems.BarAccounting
import Quant.Theorems.ReplayCausality
import Quant.Theorems.ChromosomeCodec
import Quant.Theorems.Shortfall
import Quant.Theorems.ParetoFronts
import Quant.Theorems.RestingFills
import Quant.Theorems.AuditLog
import Quant.Theorems.ParentTracking
import Quant.Theorems.SessionLifecycle
import Quant.Theorems.OrderMultiplication
import Quant.Theorems.OrderNotional
import Quant.Theorems.LotOrder
import Quant.Theorems.NewsDedup
import Quant.Theorems.Purging
import Quant.Theorems.Paths
import Quant.Theorems.LabelCausality
import Quant.Theorems.LabelSigns
import Quant.Theorems.ResidualGate
import Quant.Theorems.SuccessRatio
import Quant.Theorems.Cohorts
import Quant.Theorems.AlignedReturns
import Quant.Theorems.HistoricalBars
import Quant.Theorems.Hysteresis
import Quant.Theorems.Lineage
import Quant.Theorems.StrategySignals
import Quant.Theorems.SurvivorSelection
import Quant.Theorems.GenotypeValidity
import Quant.Theorems.FinancingAccrual
import Quant.Theorems.VenueConstraints
import Quant.Theorems.QuarantineWindows
import Quant.Theorems.Schedules
import Quant.Theorems.GateDecision
import Quant.Theorems.OpenOrders
import Quant.Theorems.ChromosomeStorage
import Quant.Infrastructure.AlignedReturns
import Quant.Theorems.ChartParser
import Quant.Theorems.FractionalDifferencing
import Quant.Theorems.GenotypeRanks
import Quant.Theorems.Tearsheet
import Quant.Theorems.BatchAlignment
import Quant.Theorems.Reevaluation
import Quant.Theorems.RegretGradient
import Quant.Theorems.SolverCertificate
import Quant.Theorems.SpectralAscent
import Quant.Theorems.BudgetProjection
import Quant.Analytics.PriceReaction
import Quant.Theorems.PriceReaction
import Quant.Analytics.HyperbolicPropagator
import Quant.Theorems.ExecutionSchedule
import Quant.Analytics.MarketImpact
import Quant.Pylib.Calculus
import Quant.Theorems.ImpactGradient
import Quant.Theorems.ImpactConvexity
import Quant.Data.InstitutionalProviders
import Quant.Theorems.InstitutionalBars
import Quant.Pylib.Cursor
import Quant.Theorems.Pagination
import Quant.Theorems.NewsPolling
import Quant.Theorems.Ensemble
import Quant.Theorems.GatewayRegistry
import Quant.Theorems.ParentOrders
