import CredentialWatch.Main
import CredentialWatch.Session.Configuring
import CredentialWatch.Watch.Usage
import CredentialWatch.Event.Delivery
import CredentialWatch.Proofs.Utf8
import CredentialWatch.Proofs.KeystoreScan
import CredentialWatch.Proofs.KeystoreFile
import CredentialWatch.Proofs.RegistryBalance
import CredentialWatch.Proofs.WatchRuns
import CredentialWatch.Proofs.DeliveryRuns
import CredentialWatch.Proofs.ExchangeRuns
import CredentialWatch.Proofs.Debounce
import CredentialWatch.Command.Chronicle
import CredentialWatch.Proofs.Loading
import CredentialWatch.Proofs.AtomicLoads
import CredentialWatch.Proofs.Ownership
import CredentialWatch.Proofs.Publishers
import CredentialWatch.Proofs.Reloads
import CredentialWatch.Proofs.KeystoreRewriting
import CredentialWatch.Proofs.Disclosure
import CredentialWatch.Proofs.Agreement
import CredentialWatch.Proofs.Convergence
import CredentialWatch.Proofs.KeystoreTampering
import CredentialWatch.Proofs.FileUris
import CredentialWatch.Proofs.WatchedChanges
import CredentialWatch.Proofs.LoadFailures
import CredentialWatch.Proofs.ArchiveHoldings
import CredentialWatch.Proofs.PasswordSources
import CredentialWatch.Proofs.ForeignEvents
import CredentialWatch.Proofs.HandleStates
import CredentialWatch.Proofs.SingleThread
import CredentialWatch.Proofs.Interleavings
import CredentialWatch.Proofs.Broadcasts
import CredentialWatch.Proofs.KeystoreAliases
import CredentialWatch.Proofs.KeystoreBounds
import CredentialWatch.Proofs.CapturedSubscriptions
