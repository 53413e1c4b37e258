import ServiceContract.Main
import ServiceContract.Proofs.Service.PathParameter
import ServiceContract.Proofs.Validation.Failure
import ServiceContract.Proofs.Draft.Conformance
import ServiceContract.Proofs.Service.Consistent
import ServiceContract.Proofs.Service.QueryParameter
import ServiceContract.Proofs.Service.Reproduction
import ServiceContract.Proofs.Service.Response
import ServiceContract.Proofs.Draft.Extension
import ServiceContract.Proofs.Service.Extension
import ServiceContract.Proofs.Validation.Extension
import ServiceContract.Proofs.Json.Members
import ServiceContract.Proofs.Shuffle
import ServiceContract.Proofs.Json.Reordering
import ServiceContract.Proofs.Draft.Likeness
import ServiceContract.Proofs.Draft.Distinct
import ServiceContract.Proofs.Draft.Reordering
import ServiceContract.Proofs.Rule.Likeness
import ServiceContract.Proofs.Rule.Offender
import ServiceContract.Proofs.Rule.SuccessType
import ServiceContract.Proofs.Service.Likeness
import ServiceContract.Proofs.Validation.Reordering
import ServiceContract.Proofs.Validation.Configuration
import ServiceContract.Proofs.Service.Key
import ServiceContract.Proofs.Service.Declaration
import ServiceContract.Proofs.Number.Spelling
import ServiceContract.Proofs.Service.ResponseCode
import ServiceContract.Proofs.Validation.Requests
import ServiceContract.Proofs.CommandLine.Document
import ServiceContract.Proofs.Web
import ServiceContract.Proofs.Service.BareMap
import ServiceContract.Proofs.ConfigurationFile
import ServiceContract.Proofs.CommandLine.Validate
import ServiceContract.Proofs.Datatype.Grammar
import ServiceContract.Proofs.Validation.Respelling
import ServiceContract.Proofs.Draft.Pruning
import ServiceContract.Proofs.Service.DefaultPath
import ServiceContract.Proofs.Draft.Default
import ServiceContract.Proofs.Rule.UnitDefault
import ServiceContract.Proofs.Service.Namespace
import ServiceContract.Proofs.Placeholder
import ServiceContract.Proofs.Words
