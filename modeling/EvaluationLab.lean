import EvaluationLab.Effect.Program
import EvaluationLab.Effect.Procedure
import EvaluationLab.Python.Text
import EvaluationLab.Python.JsonEncoder
import EvaluationLab.Python.JsonDecoder
import EvaluationLab.Effect.Outcome
import EvaluationLab.QA0.PublicSafe
import EvaluationLab.QA0.PublicSeed
import EvaluationLab.BM1.Case
import EvaluationLab.BM0.Lineage
import EvaluationLab.BM1.Manifest
import EvaluationLab.BM1.ManifestFacts
import EvaluationLab.BM1.Authorization
import EvaluationLab.BM1.Response
import EvaluationLab.BM1.Receipt
import EvaluationLab.BM1.Runner
import EvaluationLab.BM1.Environment
import EvaluationLab.BM1.ReceiptFacts
import EvaluationLab.BM1.Quiet
import EvaluationLab.BM1.Transaction
import EvaluationLab.BM1.RunNext
import EvaluationLab.BM1.Run
import EvaluationLab.BM1.Verdict
import EvaluationLab.BM1.Discipline
import EvaluationLab.BM1.TerminalSemantics
import EvaluationLab.Python.Sha256
import EvaluationLab.BM1.Frozen
import EvaluationLab.BM1.Surroundings
import EvaluationLab.BM1.EvidenceFacts
import EvaluationLab.BM1.Spend
import EvaluationLab.BM1.Accounting
import EvaluationLab.BM0.Fields
import EvaluationLab.BM0.Trial
import EvaluationLab.BM0.Manifest
import EvaluationLab.BM0.Validation
import EvaluationLab.BM0.ManifestFacts
import EvaluationLab.BM0.Retry
import EvaluationLab.BM0.Observation
import EvaluationLab.BM0.Grid
import EvaluationLab.BM0.ScoredIdentity
import EvaluationLab.BM0.Estimate
import EvaluationLab.BM0.Metrics
import EvaluationLab.BM0.Paired
import EvaluationLab.BM0.Completeness
import EvaluationLab.Structure.Grouping
import EvaluationLab.BM0.Agreement
import EvaluationLab.BM0.Disclosure
import EvaluationLab.BM0.Adjudication
import EvaluationLab.BM0.AdjudicationFinality
import EvaluationLab.BlindEval.Metadata
import EvaluationLab.BlindEval.Receipt
import EvaluationLab.BlindEval.Response
import EvaluationLab.BlindEval.Run
import EvaluationLab.BlindEval.Conclusion
import EvaluationLab.BlindEval.Accounting
import EvaluationLab.BlindEval.Confinement
import EvaluationLab.Python.JsonRoundTrip
import EvaluationLab.CSLive.Digest
import EvaluationLab.Python.Equality
import EvaluationLab.Structure.HashChain
import EvaluationLab.CSLive.Source
import EvaluationLab.CSLive.EpochStore
import EvaluationLab.CSLive.Ingestion
import EvaluationLab.CSLive.Retriever
import EvaluationLab.CSLive.Searching
import EvaluationLab.CSLive.Evidence
import EvaluationLab.CSLive.Feed
import EvaluationLab.CSLive.Drift
import EvaluationLab.Lab.Suite
import EvaluationLab.Lab.Experiment
import EvaluationLab.Lab.Regression
import EvaluationLab.Python.JsonLoads
import EvaluationLab.QA3.EvidenceRef
import EvaluationLab.QA3.Adapter
import EvaluationLab.QA3.Reconciliation
import EvaluationLab.QA3.Receipts
import EvaluationLab.QA3.Dashboard
import EvaluationLab.QA3.Binding
import EvaluationLab.QA3.Acceptance
import EvaluationLab.QA3.Projection
import EvaluationLab.Python.Number
import EvaluationLab.SearchCup.Schema
import EvaluationLab.Python.Pattern
import EvaluationLab.SearchCup.Content
import EvaluationLab.Python.JsonDepth
import EvaluationLab.Python.Loaded
import EvaluationLab.SearchCup.Documents
import EvaluationLab.Python.Normalization
import EvaluationLab.Python.SortedSet
import EvaluationLab.Python.Sum
import EvaluationLab.Python.WholeRuntime
import EvaluationLab.SearchCup.Literal
import EvaluationLab.SearchCup.Judgment
import EvaluationLab.SearchCup.JudgmentFacts
import EvaluationLab.SearchCup.Ledger
import EvaluationLab.SearchCup.LedgerFacts
import EvaluationLab.SearchCup.PoolLeak
import EvaluationLab.SearchCup.Receipt
import EvaluationLab.SearchCup.ReceiptFacts
import EvaluationLab.SearchCup.Rejection
import EvaluationLab.Structure.Walk
import EvaluationLab.BM0.CorpusLineage
import EvaluationLab.Statistics.ScoreInterval
import EvaluationLab.BM0.Wilson
import EvaluationLab.SearchCup.ReceiptArithmetic
import EvaluationLab.SearchCup.JsonSchema
import EvaluationLab.Structure.KeyedJoin
import EvaluationLab.Structure.Sorting
import EvaluationLab.BM0.PairedFacts
import EvaluationLab.BM0.OrderIndependence
import EvaluationLab.Statistics.Mean
import EvaluationLab.BM0.FamilyMean
import EvaluationLab.SearchCup.Comparison
import EvaluationLab.SearchCup.Submission
import EvaluationLab.SearchCup.FreezeThaw
import EvaluationLab.SearchCup.Competition
import EvaluationLab.SearchCup.RegistryMonotone
import EvaluationLab.Structure.Ranking
import EvaluationLab.Python.UrlSplit
import EvaluationLab.SearchCup.FrozenRetriever
import EvaluationLab.BM1.DecisionScorer
import EvaluationLab.Python.Ordering
import EvaluationLab.A2.EventMetrics
import EvaluationLab.A2.EventOracle
import EvaluationLab.Structure.Delimiter
import EvaluationLab.BlindEval.Envelope
import EvaluationLab.Lab.Report
import EvaluationLab.SearchCup.RecordSoundness
import EvaluationLab.SearchCup.SearchProxy
import EvaluationLab.SearchCup.SearchBudget
import EvaluationLab.Effect.Raising
import EvaluationLab.BlindEval.OutputCommit
import EvaluationLab.BlindEval.OutputPair
import EvaluationLab.Effect.Concurrent
import EvaluationLab.BM1.Fleet
import EvaluationLab.BM1.KeptEvidence
import EvaluationLab.BM1.Replay
import EvaluationLab.BM1.ScoredExchange
import EvaluationLab.Python.HookedJson
