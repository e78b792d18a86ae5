import Postern.CommandLine.Run
import Postern.Main
import Postern.Policy.Document
import Postern.Proofs.Address
import Postern.Proofs.Client.Arrival
import Postern.Proofs.Client.Verbatim
import Postern.Proofs.CommandLine.Run
import Postern.Proofs.CommandLine.Shown
import Postern.Proofs.Gateway.Addressable
import Postern.Proofs.Gateway.Attempts
import Postern.Proofs.Gateway.Behind
import Postern.Proofs.Gateway.Disabled
import Postern.Proofs.Gateway.Faults
import Postern.Proofs.Gateway.Grammar
import Postern.Proofs.Gateway.Isolation
import Postern.Proofs.Gateway.KeyLifecycle
import Postern.Proofs.Gateway.Listing
import Postern.Proofs.Gateway.Loaded
import Postern.Proofs.Gateway.NoTrace
import Postern.Proofs.Gateway.Refusals
import Postern.Proofs.Gateway.SecretHistory
import Postern.Proofs.Gateway.Serial
import Postern.Proofs.Gateway.Underway
import Postern.Proofs.Http.Literal
import Postern.Proofs.Json.Written
import Postern.Proofs.Pattern.Anchored
import Postern.Proofs.Policy.Composed
import Postern.Proofs.Policy.Plain
import Postern.Proofs.Service.Built
import Postern.Proofs.Service.Bypass
import Postern.Proofs.Service.Drawn
import Postern.Proofs.Service.Exposure
import Postern.Proofs.Service.Gate
import Postern.Proofs.Service.Methods
import Postern.Proofs.Service.Recognised
import Postern.Proofs.Settings
import Postern.Proofs.Store.Ahead
import Postern.Proofs.Store.Alike
import Postern.Proofs.Store.Coherent
import Postern.Proofs.Text.Form
import Postern.Proofs.Token.Issued
import Postern.Proofs.Token.Lifetime
import Postern.Proofs.Turns
import Postern.Service.Server
import Postern.Store.Memory
