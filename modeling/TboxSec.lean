import TboxSec.Canonical.Injective
import TboxSec.CertStore.Atomicity
import TboxSec.CertStore.Bench
import TboxSec.CertStore.Cleanup
import TboxSec.CertStore.Durability
import TboxSec.CertStore.FailedCommit
import TboxSec.CertStore.Files
import TboxSec.CertStore.Reading
import TboxSec.CertStore.Stability
import TboxSec.CertStore.Steps
import TboxSec.CertStore.Store
import TboxSec.Certificates.Chain
import TboxSec.Certificates.Install
import TboxSec.Certificates.LeafDigest
import TboxSec.Certificates.Readable
import TboxSec.Config.Secrets
import TboxSec.Hsm.Bench
import TboxSec.Hsm.Curve
import TboxSec.Hsm.KeyEngine
import TboxSec.Hsm.KeyFile
import TboxSec.Hsm.Records
import TboxSec.Hsm.SoftFile
import TboxSec.Hsm.Specs
import TboxSec.Hsm.Usable
import TboxSec.Ipc.Client
import TboxSec.Ipc.Codec
import TboxSec.Ipc.Confinement
import TboxSec.Ipc.RoundTrip
import TboxSec.Ipc.Transparency
import TboxSec.Journal.Invariants
import TboxSec.Journal.Policies
import TboxSec.Keyprov.Admission
import TboxSec.Keyprov.Bench
import TboxSec.Keyprov.Binding
import TboxSec.Keyprov.CommitMarker
import TboxSec.Keyprov.Convergence
import TboxSec.Keyprov.DocumentRoundTrip
import TboxSec.Keyprov.EnvelopeBuilder
import TboxSec.Keyprov.Evidence
import TboxSec.Keyprov.FailClosed
import TboxSec.Keyprov.HkdfInfo
import TboxSec.Keyprov.KekSurvives
import TboxSec.Keyprov.Kl1Admission
import TboxSec.Keyprov.Kl1Gates
import TboxSec.Keyprov.Ledger
import TboxSec.Keyprov.ProviderRuns
import TboxSec.Keyprov.Readiness
import TboxSec.Keyprov.Replay
import TboxSec.Keyprov.RequestDigest
import TboxSec.Keyprov.SlotTampering
import TboxSec.Keyprov.Startup
import TboxSec.Keyprov.Tampering
import TboxSec.Keyprov.WrapUnwrap
import TboxSec.Lib.Crash
import TboxSec.Lib.FileSystem
import TboxSec.Lib.Json
import TboxSec.Lib.Machine
import TboxSec.Lib.OrdMap
import TboxSec.Lib.Simulation
import TboxSec.Lib.SystemCalls
import TboxSec.Sec.Challenge
import TboxSec.Sec.CsrDer
import TboxSec.Sec.Dispatcher
import TboxSec.Sec.Installed
import TboxSec.Sec.Provision
import TboxSec.Sec.Quiesce
import TboxSec.Sec.SeedKey
import TboxSec.Time.Events
import TboxSec.Time.Fake
import TboxSec.Time.HonestUtc
import TboxSec.Time.Lease
import TboxSec.Time.LeaseSound
import TboxSec.Time.Monitor
import TboxSec.Time.Overflow
import TboxSec.Time.Shutdown
import TboxSec.Time.Trust
import TboxSec.Tls.PeerCredential
import TboxSec.Tls.Provider
import TboxSec.Tls.Revocation
import TboxSec.Tls.Runs
import TboxSec.Tls.Service
import TboxSec.Tls.SigningAuthority
import TboxSec.Tls.Steps
import TboxSec.Tls.Validity
import TboxSec.Tls.Versions
