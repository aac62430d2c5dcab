import OcppClient.Types
import OcppClient.Engine
import OcppClient.Dispatcher
import OcppClient.Api
import OcppClient.Proofs.Frame
import OcppClient.Proofs.Slots
import OcppClient.Proofs.Ledger
import OcppClient.Proofs.Push
import OcppClient.Proofs.Ingress
import OcppClient.Proofs.Clock
import OcppClient.Proofs.Retention
import OcppClient.Proofs.Serial
import OcppClient.Proofs.Retries
import OcppClient.Reentrant
import OcppClient.Proofs.Reentrancy
