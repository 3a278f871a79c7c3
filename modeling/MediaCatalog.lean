import MediaCatalog.Batch.CatalogBatch
import MediaCatalog.Batch.Error
import MediaCatalog.Batch.Inserter
import MediaCatalog.Batch.Set
import MediaCatalog.Cache.Key
import MediaCatalog.Cache.Table
import MediaCatalog.Catalog.Basic
import MediaCatalog.Catalog.Delete
import MediaCatalog.Catalog.Find
import MediaCatalog.Catalog.Hit
import MediaCatalog.Catalog.Insert
import MediaCatalog.Catalog.Row
import MediaCatalog.Catalog.Table
import MediaCatalog.Catalog.TagListing
import MediaCatalog.Chunks
import MediaCatalog.Config
import MediaCatalog.Digest.Sha256
import MediaCatalog.Document.Basic
import MediaCatalog.Engine.Basic
import MediaCatalog.Engine.Call
import MediaCatalog.Engine.Collect
import MediaCatalog.Engine.Derived
import MediaCatalog.Engine.Error
import MediaCatalog.Engine.Session
import MediaCatalog.Engine.Transaction
import MediaCatalog.Engine.Write
import MediaCatalog.Filter.Build
import MediaCatalog.Filter.Clause
import MediaCatalog.Interruption
import MediaCatalog.Json.Printer
import MediaCatalog.Json.Reader
import MediaCatalog.Json.Token
import MediaCatalog.KnownSystem
import MediaCatalog.MediaType
import MediaCatalog.Proofs.Batch.CatalogBatch
import MediaCatalog.Proofs.Batch.Dependencies
import MediaCatalog.Proofs.Batch.Flush
import MediaCatalog.Proofs.Batch.Insertion
import MediaCatalog.Proofs.Batch.ParentsFirst
import MediaCatalog.Proofs.Batch.Progress
import MediaCatalog.Proofs.Batch.Rows
import MediaCatalog.Proofs.Batch.Simulation
import MediaCatalog.Proofs.Batch.Values
import MediaCatalog.Proofs.Cache.Key
import MediaCatalog.Proofs.Catalog.Coherence
import MediaCatalog.Proofs.Catalog.Find
import MediaCatalog.Proofs.Catalog.IdRange
import MediaCatalog.Proofs.Catalog.Insert
import MediaCatalog.Proofs.Catalog.Integrity
import MediaCatalog.Proofs.Catalog.Interleaving
import MediaCatalog.Proofs.Catalog.MediumTags
import MediaCatalog.Proofs.Catalog.Order
import MediaCatalog.Proofs.Catalog.Reuse
import MediaCatalog.Proofs.Catalog.Skipping
import MediaCatalog.Proofs.Catalog.TagListing
import MediaCatalog.Proofs.Catalog.Truncate
import MediaCatalog.Proofs.Chunks
import MediaCatalog.Proofs.Engine.Batch
import MediaCatalog.Proofs.Engine.BatchSkipping
import MediaCatalog.Proofs.Engine.CachedTags
import MediaCatalog.Proofs.Engine.Coherence
import MediaCatalog.Proofs.Engine.FailedInsert
import MediaCatalog.Proofs.Engine.Fallback
import MediaCatalog.Proofs.Engine.FindOrInsert
import MediaCatalog.Proofs.Engine.Gate
import MediaCatalog.Proofs.Engine.Going
import MediaCatalog.Proofs.Engine.HitLookup
import MediaCatalog.Proofs.Engine.IdRange
import MediaCatalog.Proofs.Engine.IdReuse
import MediaCatalog.Proofs.Engine.Interrupted
import MediaCatalog.Proofs.Engine.Invalidation
import MediaCatalog.Proofs.Engine.Isolation
import MediaCatalog.Proofs.Engine.LetterBuckets
import MediaCatalog.Proofs.Engine.Pages
import MediaCatalog.Proofs.Engine.QueryStats
import MediaCatalog.Proofs.Engine.Reachable
import MediaCatalog.Proofs.Engine.Resolution
import MediaCatalog.Proofs.Engine.SlugInvalidation
import MediaCatalog.Proofs.Engine.Sound
import MediaCatalog.Proofs.Engine.Statistics
import MediaCatalog.Proofs.Engine.TagCache
import MediaCatalog.Proofs.Engine.TagListing
import MediaCatalog.Proofs.Engine.Transaction
import MediaCatalog.Proofs.Engine.Turn
import MediaCatalog.Proofs.Engine.Upkeep
import MediaCatalog.Proofs.Engine.UsedTags
import MediaCatalog.Proofs.Filter.Form
import MediaCatalog.Proofs.Filter.Headings
import MediaCatalog.Proofs.Filter.Meaning
import MediaCatalog.Proofs.Filter.Normalized
import MediaCatalog.Proofs.Filter.Request
import MediaCatalog.Proofs.Filter.Variants
import MediaCatalog.Proofs.Json.Printer
import MediaCatalog.Proofs.Relational.Agreement
import MediaCatalog.Proofs.Relational.Flush
import MediaCatalog.Proofs.Relational.Layout
import MediaCatalog.Proofs.Relational.ParentsFirst
import MediaCatalog.Proofs.Relational.Table
import MediaCatalog.Proofs.Running
import MediaCatalog.Proofs.Slug
import MediaCatalog.Proofs.Slug.Brackets
import MediaCatalog.Proofs.Slug.Episode
import MediaCatalog.Proofs.Slug.FixedPoint
import MediaCatalog.Proofs.Slug.Marker
import MediaCatalog.Proofs.Slug.Subtitle
import MediaCatalog.Proofs.Slug.Words
import MediaCatalog.Proofs.Sorting
import MediaCatalog.Proofs.Store.Description
import MediaCatalog.Proofs.Store.Effect
import MediaCatalog.Proofs.Store.NameSearch
import MediaCatalog.Proofs.Store.Pages
import MediaCatalog.Proofs.Store.PathLookup
import MediaCatalog.Proofs.Store.RandomPick
import MediaCatalog.Proofs.Store.SearchPage
import MediaCatalog.Proofs.Store.SlugLookup
import MediaCatalog.Proofs.Store.StalePick
import MediaCatalog.Proofs.Store.TagCache
import MediaCatalog.Proofs.Store.TagRebuild
import MediaCatalog.Proofs.Store.TitleSearch
import MediaCatalog.Proofs.Store.Truncation
import MediaCatalog.Proofs.Store.Undisturbed
import MediaCatalog.Proofs.TagFilter
import MediaCatalog.Proofs.Text.Cut
import MediaCatalog.Proofs.Text.Like
import MediaCatalog.Proofs.Text.Lowercase
import MediaCatalog.Proofs.Text.Settled
import MediaCatalog.Query
import MediaCatalog.Random
import MediaCatalog.Relational.Cell
import MediaCatalog.Relational.Connection
import MediaCatalog.Relational.Schema
import MediaCatalog.Relational.Table
import MediaCatalog.Slug
import MediaCatalog.Statement
import MediaCatalog.Store.Basic
import MediaCatalog.Store.Cache
import MediaCatalog.Store.Insert
import MediaCatalog.Store.Search
import MediaCatalog.TagFilter
import MediaCatalog.Text.Alphabetic
import MediaCatalog.Text.Cased
import MediaCatalog.Text.Character
import MediaCatalog.Text.Like
import MediaCatalog.Text.LowerTable
import MediaCatalog.Text.Lowercase
import MediaCatalog.Text.Numeric
import MediaCatalog.Text.Split
import MediaCatalog.Toml.Number
import MediaCatalog.Toml.Quoted
import MediaCatalog.Toml.Reader
import MediaCatalog.Toml.Table
