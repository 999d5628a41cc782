import CodeIndex.Main
import CodeIndex.Session.Readers
import CodeIndex.Engine.Tables
import CodeIndex.Proofs.CountedHandles
import CodeIndex.Proofs.NativeObjects
import CodeIndex.Proofs.ReadBack
import CodeIndex.Proofs.EngineAgreement
import CodeIndex.Proofs.Cursors
import CodeIndex.Proofs.VisitorCalls
import CodeIndex.Proofs.UnitOutcomes
import CodeIndex.Proofs.Iterators
import CodeIndex.Proofs.Strands
import CodeIndex.Proofs.SharedWalks
import CodeIndex.Proofs.ZeroOctets
import CodeIndex.Proofs.Gathering
import CodeIndex.Proofs.OneAtATime
import CodeIndex.Proofs.PathOctets
import CodeIndex.Proofs.Rows
import CodeIndex.Proofs.Listings
import CodeIndex.Proofs.Freshness
import CodeIndex.Proofs.OutputNames
import CodeIndex.Proofs.LineRanges
import CodeIndex.Proofs.RecordSymbols
import CodeIndex.Proofs.StoreShape
import CodeIndex.Proofs.RecordOutcomes
import CodeIndex.Proofs.Shielding
import CodeIndex.Proofs.Loading
import CodeIndex.Proofs.Discovering
import CodeIndex.Proofs.TimeOrder
import CodeIndex.Proofs.OccurrenceFilters
import CodeIndex.Proofs.CommandLines
import CodeIndex.Proofs.StringTexts
import CodeIndex.Proofs.DerivedNames
import CodeIndex.Proofs.FlagTexts
