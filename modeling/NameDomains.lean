import NameDomains.Log.Output
import NameDomains.Resolver.Cell
import NameDomains.Settings.Decode
import NameDomains.Proofs.Descriptor.Grammar
import NameDomains.Proofs.Descriptor.Heading
import NameDomains.Proofs.Descriptor.Renaming
import NameDomains.Proofs.Descriptor.Stopping
import NameDomains.Proofs.Descriptor.Rebuilding
import NameDomains.Proofs.Descriptor.Parts
import NameDomains.Proofs.Text.Offset
import NameDomains.Proofs.Descriptor.Offsets
import NameDomains.Proofs.ClassName
import NameDomains.Proofs.ClassTable.Bijection
import NameDomains.Proofs.ClassTable.Conflict
import NameDomains.Proofs.ClassTable.Listing
import NameDomains.Proofs.ClassTable.RoundTrip
import NameDomains.Proofs.ClassTable.Renaming
import NameDomains.Proofs.ClassTable.Respelling
import NameDomains.Proofs.ClassTable.AnswerStyle
import NameDomains.Proofs.Member.HostTable
import NameDomains.Proofs.Member.Landing
import NameDomains.Proofs.Member.Table
import NameDomains.Proofs.Member.Content
import NameDomains.Proofs.Member.Replacement
import NameDomains.Proofs.Member.Overloads
import NameDomains.Proofs.Member.Respelling
import NameDomains.Proofs.Resolver.Build
import NameDomains.Proofs.Resolver.ClassAnswers
import NameDomains.Proofs.Resolver.DescriptorText
import NameDomains.Proofs.Resolver.Join
import NameDomains.Proofs.Resolver.Respelling
import NameDomains.Proofs.Resolver.Events
import NameDomains.Proofs.Resolver.BuildOrder
import NameDomains.Proofs.Resolver.Misses
import NameDomains.Proofs.Resolver.Unknown
import NameDomains.Proofs.Resolver.Cell
import NameDomains.Proofs.Toml.Keys
import NameDomains.Proofs.Text.Redaction
import NameDomains.Proofs.Text.Passages
import NameDomains.Proofs.Settings.HiddenTexts
import NameDomains.Proofs.Settings.Rules
import NameDomains.Proofs.Settings.Acceptance
import NameDomains.Proofs.Log.Order
import NameDomains.Proofs.Log.Filter
import NameDomains.Proofs.Log.Merge
import NameDomains.Proofs.Log.Deciding
import NameDomains.Proofs.FileTree
import NameDomains.Proofs.Log.Output
import NameDomains.Proofs.Log.Session
import NameDomains.Proofs.Json.Number
import NameDomains.Proofs.Json.Text
import NameDomains.Proofs.Json.Spelling
import NameDomains.Proofs.Json.Form
import NameDomains.Proofs.Json.Offence
import NameDomains.Proofs.Json.Coverage
import NameDomains.Snapshot.Encode
import NameDomains.Proofs.Json.Print
import NameDomains.Proofs.Snapshot.Encodings
import NameDomains.Proofs.Snapshot.Rejection
