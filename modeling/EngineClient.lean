import EngineClient.Main
import EngineClient.Pooling.DispatchSession
import EngineClient.Proofs.Http.Segmentation
import EngineClient.Proofs.Http.Reuse
import EngineClient.Proofs.Http.Truncation
import EngineClient.Proofs.Pooling.Channels
import EngineClient.Proofs.Pooling.OwnReply
import EngineClient.Proofs.Pooling.Accounts
import EngineClient.Proofs.Pooling.Capacity
import EngineClient.Proofs.Pooling.Shelf
import EngineClient.Proofs.Pooling.Ledger
import EngineClient.Proofs.Pooling.DispatchHistory
import EngineClient.Proofs.Pooling.Ownership
import EngineClient.Proofs.Http.Faults
import EngineClient.Proofs.Pooling.Recency
import EngineClient.Proofs.Pooling.Retirement
import EngineClient.Proofs.Pooling.Closing
import EngineClient.Proofs.Http.RequestWire
import EngineClient.Proofs.Http.ResponseWire
import EngineClient.Proofs.Helper.RoundTrip
import EngineClient.Proofs.Http.SentChunks
import EngineClient.Proofs.Settings.Layers
import EngineClient.Proofs.Client.CallWire
import EngineClient.Proofs.Helper.Verdicts
import EngineClient.Proofs.Http.HeadSections
import EngineClient.Proofs.Http.LengthFields
import EngineClient.Proofs.Http.HeadLimit
import EngineClient.Proofs.Http.Interruptions
import EngineClient.Proofs.Pooling.Borrowing
import EngineClient.Proofs.Http.PartialWrites
import EngineClient.Proofs.Pooling.Sending
import EngineClient.Proofs.Pooling.InterimResponses
import EngineClient.Proofs.Http.RequestTarget
import EngineClient.Proofs.Client.RegistryHelpers
import EngineClient.Proofs.Command.CredentialCommands
import EngineClient.Proofs.Command.FailureReports
import EngineClient.Proofs.Client.Outcomes
import EngineClient.Proofs.Socket.EncodedPaths
import EngineClient.Proofs.Settings.SocketAddresses
import EngineClient.Proofs.Settings.VersionText
import EngineClient.Proofs.Settings.Deadlines
