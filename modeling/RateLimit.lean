import RateLimit.Bucket.Answer
import RateLimit.CommandLine.Run
import RateLimit.Config.Text
import RateLimit.Main
import RateLimit.Network.PreparedServer
import RateLimit.Proofs.Bucket.Answer
import RateLimit.Proofs.Bucket.Burst
import RateLimit.Proofs.Bucket.Changing
import RateLimit.Proofs.Bucket.Expiry
import RateLimit.Proofs.Bucket.Grants
import RateLimit.Proofs.Bucket.Representation
import RateLimit.Proofs.Bucket.Reset
import RateLimit.Proofs.Bucket.Unreadable
import RateLimit.Proofs.Command.Framing
import RateLimit.Proofs.CommandLine.PoolSizes
import RateLimit.Proofs.Connection.Fatality
import RateLimit.Proofs.Connection.Leftovers
import RateLimit.Proofs.Reply.Nesting
import RateLimit.Proofs.Reply.NormalForm
import RateLimit.Proofs.Reply.Recognition
import RateLimit.Proofs.Reply.Slices
import RateLimit.Proofs.Reply.Stream
import RateLimit.Proofs.Scenario.Limiter
import RateLimit.Proofs.Scenario.Receiving
import RateLimit.Proofs.Script.Parameters
import RateLimit.Proofs.Store.Answering
import RateLimit.Proofs.Store.Closing
import RateLimit.Proofs.Store.Construction
import RateLimit.Proofs.Store.OwnAnswers
import RateLimit.Proofs.Store.Recovery
import RateLimit.Proofs.Store.Secrecy
import RateLimit.Scenario.Connection
import RateLimit.Scenario.Pool
import RateLimit.Scenario.Store
