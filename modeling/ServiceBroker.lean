import ServiceBroker.Broker
import ServiceBroker.Catalog.Entry
import ServiceBroker.Catalog.Text
import ServiceBroker.Credential.Generator
import ServiceBroker.Credential.Keeper
import ServiceBroker.Credential.Provider
import ServiceBroker.Dict
import ServiceBroker.Entries
import ServiceBroker.Extension.Args
import ServiceBroker.Extension.Chain
import ServiceBroker.Extension.Key
import ServiceBroker.Extension.Registry
import ServiceBroker.Instant.Basic
import ServiceBroker.Instant.Parser
import ServiceBroker.Json.Codec
import ServiceBroker.Json.Escape
import ServiceBroker.Json.Fault
import ServiceBroker.Json.Numeral
import ServiceBroker.Json.Printer
import ServiceBroker.Json.Reader
import ServiceBroker.Json.Record
import ServiceBroker.Json.Skip
import ServiceBroker.Json.Value
import ServiceBroker.Json.View
import ServiceBroker.Lifecycle
import ServiceBroker.Number.Binary64
import ServiceBroker.Number.Shortest
import ServiceBroker.Operation.Repository
import ServiceBroker.Operation.State
import ServiceBroker.Proofs.Completion
import ServiceBroker.Proofs.FanOut
import ServiceBroker.Proofs.Independence
import ServiceBroker.Proofs.Keeper
import ServiceBroker.Proofs.Naming
import ServiceBroker.Proofs.Provisioning
import ServiceBroker.Proofs.Secrets
import ServiceBroker.Provisioning
import ServiceBroker.Rehearsal.Audit
import ServiceBroker.Rehearsal.Extension
import ServiceBroker.Rehearsal.Masking
import ServiceBroker.Rehearsal.Record
import ServiceBroker.Rehearsal.Script
import ServiceBroker.Table
import ServiceBroker.Target
import ServiceBroker.Text.Blank
import ServiceBroker.Text.Printable
import ServiceBroker.Text.Quoted
import ServiceBroker.Text.Ranges
import ServiceBroker.Text.Upper
import ServiceBroker.Transform
import ServiceBroker.Work.Program
import ServiceBroker.Work.Request
import ServiceBroker.Work.Schedule
import ServiceBroker.Work.Session
import ServiceBroker.Proofs.AllowList
import ServiceBroker.Proofs.Prepared
import ServiceBroker.Proofs.References
import ServiceBroker.Proofs.Addresses
import ServiceBroker.Proofs.Registration
import ServiceBroker.Proofs.Deployed
import ServiceBroker.Proofs.Alike
import ServiceBroker.Proofs.CredentialChains
import ServiceBroker.Proofs.Gating
import ServiceBroker.Proofs.Provided
import ServiceBroker.Proofs.Stability
import ServiceBroker.Proofs.Repositories
import ServiceBroker.Proofs.CatalogText
import ServiceBroker.Proofs.Binding
import ServiceBroker.Proofs.Overlay
import ServiceBroker.Proofs.SecretMemory
import ServiceBroker.Proofs.SharedKeys
import ServiceBroker.Proofs.TypedArguments
import ServiceBroker.Proofs.Lookup
import ServiceBroker.Proofs.Wiring
import ServiceBroker.Proofs.NameLength
import ServiceBroker.Proofs.Instances
import ServiceBroker.Proofs.ChainEnd
import ServiceBroker.Proofs.Loops
import ServiceBroker.Proofs.RegistryIndex
import ServiceBroker.Proofs.Targeting
import ServiceBroker.Proofs.Spelling
import ServiceBroker.Proofs.ItemLists
