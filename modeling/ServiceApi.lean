import ServiceApi.Config.Override.Read
import ServiceApi.Environment.Context
import ServiceApi.Environment.Logging
import ServiceApi.Environment.Tuning
import ServiceApi.Generation
import ServiceApi.Model.File
import ServiceApi.Proofs.Catalog.Properties
import ServiceApi.Proofs.Catalog.Registered
import ServiceApi.Proofs.Catalog.Views
import ServiceApi.Proofs.Config.Scopes
import ServiceApi.Proofs.Document.BodyNames
import ServiceApi.Proofs.Document.Cache
import ServiceApi.Proofs.Document.CacheCalls
import ServiceApi.Proofs.Document.Meaning
import ServiceApi.Proofs.Document.Operations
import ServiceApi.Proofs.Document.ParameterNames
import ServiceApi.Proofs.Document.ParameterValues
import ServiceApi.Proofs.Document.Paths
import ServiceApi.Proofs.Generation.Failures
import ServiceApi.Proofs.Generation.FileNames
import ServiceApi.Proofs.Generation.Isolation
import ServiceApi.Proofs.Load.DefaultPaths
import ServiceApi.Proofs.Load.Exposed
import ServiceApi.Proofs.Load.Inherited
import ServiceApi.Proofs.Load.Refusal
import ServiceApi.Proofs.Load.Reload
import ServiceApi.Proofs.Load.Tiers
import ServiceApi.Proofs.Model.KeyOrder
import ServiceApi.Proofs.Repository.History
import ServiceApi.Proofs.Repository.Repeated
import ServiceApi.Proofs.Repository.Termination
import ServiceApi.Proofs.Serialization.Order
import ServiceApi.Proofs.Serialization.Precedence
import ServiceApi.Proofs.TypeExpr.Substitution
import ServiceApi.Proofs.Validated.Order
