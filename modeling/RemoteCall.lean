import RemoteCall.Bytes.Range
import RemoteCall.Demo.Samples
import RemoteCall.Endpoint
import RemoteCall.Main
import RemoteCall.Proofs.Client.Conclusion
import RemoteCall.Proofs.Client.Lost
import RemoteCall.Proofs.Client.Table
import RemoteCall.Proofs.Client.Writing
import RemoteCall.Proofs.Conversation.Agreement
import RemoteCall.Proofs.Conversation.Asking
import RemoteCall.Proofs.Conversation.ClientSide
import RemoteCall.Proofs.Conversation.Failures
import RemoteCall.Proofs.Conversation.Hearing
import RemoteCall.Proofs.Conversation.ServerSide
import RemoteCall.Proofs.Conversation.Severed
import RemoteCall.Proofs.Conversation.Steady
import RemoteCall.Proofs.Conversation.Underway
import RemoteCall.Proofs.Envelope.Damage
import RemoteCall.Proofs.Envelope.Format
import RemoteCall.Proofs.Envelope.RoundTrip
import RemoteCall.Proofs.Frame.Boundaries
import RemoteCall.Proofs.Frame.Chunks
import RemoteCall.Proofs.Frame.Stream
import RemoteCall.Proofs.Run
import RemoteCall.Proofs.Server.Books
import RemoteCall.Proofs.Server.Phases
import RemoteCall.Proofs.Server.Responses
import RemoteCall.Proofs.Server.Return
import RemoteCall.Proofs.Server.Unanswered
import RemoteCall.Proofs.Service.FirstWins
import RemoteCall.Proofs.Service.Registered
import RemoteCall.Proofs.Service.Resolution
import RemoteCall.Script.Server
import RemoteCall.Script.Session
import RemoteCall.Proofs.Demo.Stubs
import RemoteCall.Proofs.Service.NormalForm
import RemoteCall.Proofs.Server.Building
import RemoteCall.Proofs.Server.Patience
import RemoteCall.Proofs.Frame.Deadline
import RemoteCall.Proofs.Server.Waiting
