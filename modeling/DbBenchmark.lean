import DbBenchmark.CppString
import DbBenchmark.KeyedTable
import DbBenchmark.Throwing
import DbBenchmark.Plans
import DbBenchmark.Order
import DbBenchmark.CassandraClient
import DbBenchmark.CassandraTables
import DbBenchmark.DenormalisedTables
import DbBenchmark.DeletedOrders
import DbBenchmark.PartialFailure
import DbBenchmark.CassandraReads
import DbBenchmark.MongoClient
import DbBenchmark.PostgresClient
import DbBenchmark.BatchInserts
import DbBenchmark.RetriedBatches
import DbBenchmark.ReturnedFields
import DbBenchmark.Simulation
import DbBenchmark.PrimaryKeyStore
import DbBenchmark.RangeScan
import DbBenchmark.OrderStatistics
import DbBenchmark.LatencyRecorder
import DbBenchmark.TimerHistory
import DbBenchmark.MetricsCollector
import DbBenchmark.MergedStatistics
import DbBenchmark.Grouping
import DbBenchmark.ThreadPool
import DbBenchmark.Interleaving
import DbBenchmark.Experiment2
import DbBenchmark.ThreadConnections
import DbBenchmark.WorkPartition
import DbBenchmark.InsertionOrders
import DbBenchmark.Rfc4180
import DbBenchmark.CsvWriter
import DbBenchmark.CsvRoundTrip
import DbBenchmark.CoherentStatistics
import DbBenchmark.DBInterface
import DbBenchmark.ConfigLoader
import DbBenchmark.LoadedConfigs
import DbBenchmark.Ownership
import DbBenchmark.ObjectLedger
import DbBenchmark.CassandraLifecycle
import DbBenchmark.DriverObjects
import DbBenchmark.ClientLifecycles
import DbBenchmark.ExperimentBase
import DbBenchmark.Faults
import DbBenchmark.ClientInterfaces
import DbBenchmark.ConcurrentLoad
import DbBenchmark.ConcurrentTables
import DbBenchmark.IndexedReads
import DbBenchmark.Divisions
import DbBenchmark.IndexCleanup
import DbBenchmark.SampledReads
import DbBenchmark.LoadedLookups
import DbBenchmark.Experiment7
import DbBenchmark.WriteReadSymmetry
import DbBenchmark.Workloads
import DbBenchmark.SharedWorkload
import DbBenchmark.AveragedRuns
import DbBenchmark.InterruptedSessions
import DbBenchmark.MixedRadix
import DbBenchmark.NearestRounding
import DbBenchmark.Printing
import DbBenchmark.FixedPoint
import DbBenchmark.DecimalNumbers
import DbBenchmark.Calendar
import DbBenchmark.Timestamps
import DbBenchmark.StampedOrders
import DbBenchmark.PostgresReads
import DbBenchmark.RunTimestamps
import DbBenchmark.Uuid
import DbBenchmark.DataGenerator
import DbBenchmark.GeneratedOrders
import DbBenchmark.BenchmarkRun
import DbBenchmark.ColdReads
import DbBenchmark.CompactionResults
import DbBenchmark.ReportedResults
import DbBenchmark.WindowCounts
import DbBenchmark.SummaryPrinter
import DbBenchmark.FinalSummary
import DbBenchmark.PrintedResults
