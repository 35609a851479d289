import NodeTrial.Executor.Script
import NodeTrial.Main
import NodeTrial.Node
import NodeTrial.Proofs.Ledger.Conservation
import NodeTrial.Proofs.Ledger.Argument
import NodeTrial.Proofs.Ledger.Contract
import NodeTrial.Proofs.Load.Agreement
import NodeTrial.Proofs.Load.Dispatch
import NodeTrial.Proofs.Load.Setup
import NodeTrial.Proofs.Operation.Endpoint
import NodeTrial.Proofs.Operation.RoundTrip
import NodeTrial.Proofs.Tester.Booking
import NodeTrial.Proofs.Tester.Failures
import NodeTrial.Proofs.Tester.Indifference
import NodeTrial.Proofs.Tester.Numbering
import NodeTrial.Proofs.Tester.Trace
import NodeTrial.Proofs.Tester.Verification
import NodeTrial.Proofs.TransactionFile
import NodeTrial.Proofs.Load.Coverage
import NodeTrial.Proofs.Ledger.Choice
import NodeTrial.Proofs.Tester.Polling
import NodeTrial.Proofs.Tester.Setbacks
import NodeTrial.Proofs.Ledger.Grammar
import NodeTrial.Proofs.WriteServer.MediaType
import NodeTrial.Proofs.WriteServer.Dispatch
import NodeTrial.Proofs.TransactionFile.Lines
import NodeTrial.Proofs.Operation.Repetition
import NodeTrial.Proofs.Json.Local
import NodeTrial.Proofs.Json.LocalWords
import NodeTrial.Proofs.Json.LocalValues
import NodeTrial.Proofs.Json.ObjectText
import NodeTrial.Proofs.Json.Rearranged
import NodeTrial.Proofs.FieldOrder
import NodeTrial.Proofs.Json.LocalSkip
import NodeTrial.Proofs.Json.Place
import NodeTrial.Proofs.Envelope.Place
import NodeTrial.Proofs.Json.Literal
import NodeTrial.Proofs.Tester.Balances
import NodeTrial.Proofs.Url.Domain
import NodeTrial.Proofs.Url.Address
import NodeTrial.Proofs.Url.Host
import NodeTrial.Proofs.Url.Authority
import NodeTrial.Proofs.Url.Web
import NodeTrial.Proofs.Tester.Pointing
import NodeTrial.Proofs.Executor
