import TaxonomyQuery.Catalog.History
import TaxonomyQuery.Filter.Meaning
import TaxonomyQuery.Filter.Walk
import TaxonomyQuery.Json.Token
import TaxonomyQuery.Main
import TaxonomyQuery.Proofs.FilterTree
import TaxonomyQuery.Proofs.Assembly
import TaxonomyQuery.Proofs.FirstFault
import TaxonomyQuery.Proofs.CompiledMeaning
import TaxonomyQuery.Proofs.CatalogInvariant
import TaxonomyQuery.Proofs.Selection
import TaxonomyQuery.Proofs.BucketCounts
import TaxonomyQuery.Proofs.AssignedTerms
import TaxonomyQuery.Proofs.Growth
import TaxonomyQuery.Proofs.ClauseTree
import TaxonomyQuery.Proofs.WrittenClauses
import TaxonomyQuery.Proofs.Evaluation
import TaxonomyQuery.Proofs.JsonValue
import TaxonomyQuery.Proofs.PlainDocument
import TaxonomyQuery.Proofs.UniformDecoding
import TaxonomyQuery.Proofs.UniformRecords
import TaxonomyQuery.Proofs.RestoringDecoders
import TaxonomyQuery.Proofs.FilterFormat
import TaxonomyQuery.Proofs.ClauseFormat
import TaxonomyQuery.Proofs.Spelling
import TaxonomyQuery.Proofs.SpelledText
import TaxonomyQuery.Proofs.PrintedNumbers
import TaxonomyQuery.Proofs.PrintedText
import TaxonomyQuery.Proofs.Words
import TaxonomyQuery.Proofs.Spacing
import TaxonomyQuery.Proofs.AcceptedTexts
import TaxonomyQuery.Proofs.DecodedNesting
import TaxonomyQuery.Proofs.PrintedFilters
import TaxonomyQuery.Proofs.ResolveCommand
import TaxonomyQuery.Proofs.PrintedGroups
import TaxonomyQuery.Proofs.NestedFilters
import TaxonomyQuery.Proofs.PrintedLayout
import TaxonomyQuery.Proofs.SettableVariables
import TaxonomyQuery.Proofs.CommandOutcome
import TaxonomyQuery.Proofs.ProgramOutcome
import TaxonomyQuery.Proofs.LocalChanges
import TaxonomyQuery.Proofs.FacetSums
import TaxonomyQuery.Proofs.TermIdentity
import TaxonomyQuery.Proofs.FoundPieces
import TaxonomyQuery.Proofs.BucketAccount
import TaxonomyQuery.Proofs.LookupInfluence
import TaxonomyQuery.Proofs.DepthLimit
import TaxonomyQuery.Proofs.Assignment
import TaxonomyQuery.Proofs.LoadedSnapshots
import TaxonomyQuery.Proofs.FilterGrammar
import TaxonomyQuery.Proofs.PairedClauses
import TaxonomyQuery.Proofs.Numerals
import TaxonomyQuery.Proofs.TermSpelling
import TaxonomyQuery.Proofs.GivenLimits
import TaxonomyQuery.Proofs.LimitInForce
import TaxonomyQuery.Proofs.TrialOrder
import TaxonomyQuery.Proofs.Traversals
