import Changelog.Main
import Changelog.Resource.Memory
import Changelog.Proofs.Source.Document
import Changelog.Proofs.Build.Document
import Changelog.Proofs.Build.Preexpansion
import Changelog.Proofs.Build.HiddenBinding
import Changelog.Proofs.Loading.Nesting
import Changelog.Proofs.Loading.Preconditions
import Changelog.Proofs.Loading.Schema
import Changelog.Proofs.Loading.Provenance
import Changelog.Proofs.Loading.ForeignElement
import Changelog.Proofs.Loading.UnknownAttribute
import Changelog.Proofs.Loading.EntryPoints
import Changelog.Proofs.Loading.DirectoryOrder
import Changelog.Proofs.Loading.Bindings
import Changelog.Proofs.Loading.Growth
import Changelog.Proofs.Loading.EquivalentOptions
import Changelog.Proofs.Loading.Extraction
import Changelog.Proofs.Property.Written
import Changelog.Proofs.Report.Json
import Changelog.Proofs.CommandLine.Run
import Changelog.Proofs.Source.Balance
import Changelog.Proofs.Property.Continuation
import Changelog.Proofs.Property.Tokens
import Changelog.Proofs.Loading.Leniency
import Changelog.Proofs.Loading.Rollback
import Changelog.Proofs.Source.Misfit
import Changelog.Proofs.Source.Concatenation
import Changelog.Proofs.Property.DatabaseList
import Changelog.Proofs.Resource.Access
import Changelog.Proofs.Loading.RelativeInclusion
import Changelog.Proofs.Build.Constraints
import Changelog.Proofs.Report.Outline
import Changelog.Proofs.CommandLine.CommaLists
