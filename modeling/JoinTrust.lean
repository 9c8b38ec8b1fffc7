import JoinTrust.Artifact
import JoinTrust.Assoc
import JoinTrust.Audit
import JoinTrust.Bootstrap
import JoinTrust.Bytes
import JoinTrust.ClientSecret
import JoinTrust.ClusterStore
import JoinTrust.Command
import JoinTrust.Digest.Hmac
import JoinTrust.Digest.Sha2
import JoinTrust.Digest.Sha256
import JoinTrust.Digest.Sha512
import JoinTrust.Excerpt
import JoinTrust.Exchange
import JoinTrust.Failure
import JoinTrust.Fetch
import JoinTrust.FileTree
import JoinTrust.Http
import JoinTrust.Integrity
import JoinTrust.Json
import JoinTrust.Json.Reader
import JoinTrust.Main
import JoinTrust.Nonce
import JoinTrust.Program
import JoinTrust.Real64
import JoinTrust.Resolver
import JoinTrust.Run
import JoinTrust.Scope
import JoinTrust.Script
import JoinTrust.Sentence
import JoinTrust.Server
import JoinTrust.Settings
import JoinTrust.Text.Base64
import JoinTrust.Text.Blank
import JoinTrust.Text.Case
import JoinTrust.Text.Hex
import JoinTrust.Text.LowerTable
import JoinTrust.Text.Split
import JoinTrust.Text.Units
import JoinTrust.Text.Utf8
import JoinTrust.Tls
import JoinTrust.Transcript
import JoinTrust.Url.Basic
import JoinTrust.Url.Host
import JoinTrust.Url.Host.Domain
import JoinTrust.Url.Host.Ipv4
import JoinTrust.Url.Host.Ipv6
import JoinTrust.Url.Host.Punycode
import JoinTrust.Url.Parser
import JoinTrust.Url.Path
import JoinTrust.Url.Percent
import JoinTrust.Workflow
import JoinTrust.Yaml
import JoinTrust.Yaml.Node
import JoinTrust.Yaml.Number
import JoinTrust.Yaml.Pattern
import JoinTrust.Yaml.Properties
import JoinTrust.Yaml.Scalar
import JoinTrust.Yaml.Tag
import JoinTrust.Yaml.Text.Block
import JoinTrust.Yaml.Text.Inline
import JoinTrust.Yaml.Token
import JoinTrust.Yaml.Token.Extent
import JoinTrust.Yaml.Token.Scan
import JoinTrust.Yaml.Tree
import JoinTrust.Yaml.Tree.Build
import JoinTrust.Yaml.Value
import JoinTrust.Proofs.Utf8Form
import JoinTrust.Proofs.UnitForm
import JoinTrust.Proofs.ExcerptBounds
import JoinTrust.Proofs.Associations
import JoinTrust.Proofs.LowerCase
import JoinTrust.Proofs.Conversation
import JoinTrust.Proofs.Evidence
import JoinTrust.Proofs.BootstrapCourse
import JoinTrust.Proofs.BootstrapEvidence
import JoinTrust.Proofs.FetchCourse
import JoinTrust.Proofs.BundleUse
import JoinTrust.Proofs.Authenticity
import JoinTrust.Proofs.GenuineServer
import JoinTrust.Proofs.Credentials
import JoinTrust.Proofs.Calm
import JoinTrust.Proofs.Verdict
import JoinTrust.Proofs.Blindness
import JoinTrust.Proofs.Indifference
import JoinTrust.Proofs.AuditSink
import JoinTrust.Proofs.SinkFaults
import JoinTrust.Proofs.FetchVerdict
import JoinTrust.Proofs.SealedReferences
import JoinTrust.Proofs.Mirror
import JoinTrust.Proofs.TokenSecrecy
import JoinTrust.Proofs.ClientLives
import JoinTrust.Proofs.TypedFailures
import JoinTrust.Proofs.AuditTrail
import JoinTrust.Proofs.RunReport
import JoinTrust.Proofs.FileContents
import JoinTrust.Proofs.Delivery
import JoinTrust.Proofs.KeptFiles
import JoinTrust.Proofs.LeftBehind
import JoinTrust.Proofs.BundleChecksum
import JoinTrust.Proofs.PinnedRoots
import JoinTrust.Proofs.InstalledBundle
import JoinTrust.Proofs.SharedBootstrap
import JoinTrust.Proofs.Printable
import JoinTrust.Proofs.LogLines
import JoinTrust.Proofs.ExchangeOutcome
import JoinTrust.Proofs.Framing
import JoinTrust.Proofs.Url.Cuts
import JoinTrust.Proofs.Url.PercentForm
import JoinTrust.Proofs.Url.PathForm
import JoinTrust.Proofs.Url.AddressForm
import JoinTrust.Proofs.Url.PunycodeForm
import JoinTrust.Proofs.Url.DomainForm
import JoinTrust.Proofs.Url.HostForm
import JoinTrust.Proofs.Url.UrlForm
import JoinTrust.Proofs.ResourceUrls
import JoinTrust.Proofs.CaEndpoints
import JoinTrust.Proofs.HashComparison
import JoinTrust.Proofs.HeaderNames
import JoinTrust.Proofs.Rounding
import JoinTrust.Proofs.ShortestDigits
import JoinTrust.Proofs.DecimalForm
import JoinTrust.Proofs.NumberText
import JoinTrust.Proofs.JsonText
import JoinTrust.Proofs.AuditLines
import JoinTrust.Proofs.NonceDraws
import JoinTrust.Proofs.SettingsSources
import JoinTrust.Proofs.SecretAddresses
import JoinTrust.Proofs.ClientSecretUpdate
import JoinTrust.Proofs.Base64Form
import JoinTrust.Proofs.TrustAnchor
import JoinTrust.Proofs.ScopeWords
import JoinTrust.Proofs.DeclaredInputs
