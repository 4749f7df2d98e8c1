import TypedRecords.Json.Printer
import TypedRecords.Proofs.Freshness
import TypedRecords.Proofs.SchemaGrowth
import TypedRecords.Proofs.StoreViews
import TypedRecords.Service
import TypedRecords.Proofs.WellFormed
import TypedRecords.Proofs.StoreWrites
import TypedRecords.Proofs.Change
import TypedRecords.Proofs.Decoding
import TypedRecords.Proofs.Writing
import TypedRecords.Proofs.Operations
import TypedRecords.Proofs.Request
import TypedRecords.Proofs.History
import TypedRecords.Proofs.Consistency
import TypedRecords.Proofs.Reuse
import TypedRecords.Proofs.Writable
import TypedRecords.Proofs.FailedRequests
import TypedRecords.Proofs.Calendar
import TypedRecords.Proofs.DateText
import TypedRecords.Proofs.Timestamp
import TypedRecords.Proofs.Codec
import TypedRecords.Proofs.Effect
import TypedRecords.Proofs.Selection
import TypedRecords.Proofs.Reading
import TypedRecords.Proofs.Persistence
import TypedRecords.Proofs.ReadBack
import TypedRecords.Proofs.ClassNames
import TypedRecords.Proofs.CreationOrder
import TypedRecords.Proofs.Paging
import TypedRecords.Proofs.Readability
import TypedRecords.Proofs.UnknownFields
import TypedRecords.Proofs.ClassListing
import TypedRecords.Proofs.FieldNames
import TypedRecords.Proofs.BulkInsert
import TypedRecords.Proofs.Acceptance
import TypedRecords.Proofs.Evolution
import TypedRecords.Proofs.Interleaving
import TypedRecords.Proofs.StaleMerges
import TypedRecords.Proofs.RacingUpdates
import TypedRecords.Proofs.SchemaHistory
import TypedRecords.Proofs.Agreement
import TypedRecords.Proofs.ClassActions
import TypedRecords.Proofs.Isolation
import TypedRecords.Proofs.FailureStages
import TypedRecords.Proofs.PageCap
import TypedRecords.Proofs.ShownValues
import TypedRecords.Proofs.StoredValues
import TypedRecords.Proofs.ShownSelection
import TypedRecords.Proofs.SettingsLayers
import TypedRecords.Proofs.LoaderHistory
import TypedRecords.Proofs.LetterCase
import TypedRecords.Proofs.NestedSettings
import TypedRecords.Proofs.EnvironmentOrder
import TypedRecords.Proofs.QueryOrder
import TypedRecords.Proofs.UpdateAcceptance
import TypedRecords.Proofs.UpdateFootprint
import TypedRecords.Proofs.Atomicity
import TypedRecords.Proofs.MergeOrder
import TypedRecords.Proofs.Seeding
import TypedRecords.Proofs.Founding
import TypedRecords.Proofs.Referrers
import TypedRecords.Proofs.Purge
import TypedRecords.Proofs.NestedPointers
import TypedRecords.Proofs.ValueEquality
import TypedRecords.Proofs.ValueOrder
import TypedRecords.Proofs.Interchange
import TypedRecords.Proofs.ArrayEquality
import TypedRecords.Proofs.Partition
import TypedRecords.Proofs.FilterOrder
import TypedRecords.Proofs.UnknownOperators
import TypedRecords.Proofs.FilterParameter
import TypedRecords.Proofs.PageWindow
import TypedRecords.Proofs.TimestampOrder
import TypedRecords.Proofs.IdLookup
import TypedRecords.Proofs.RecordOrigins
import TypedRecords.Proofs.Cursors
import TypedRecords.Proofs.MergedEntries
import TypedRecords.Proofs.ReadValues
import TypedRecords.Proofs.LayerPrecedence
import TypedRecords.Proofs.RequiredParameters
import TypedRecords.Proofs.SettingPaths
import TypedRecords.Proofs.IdSearch
