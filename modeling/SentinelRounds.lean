import SentinelRounds.Frame.Stream
import SentinelRounds.Main
import SentinelRounds.Net.Pair
import SentinelRounds.Proofs.Config.Defaults
import SentinelRounds.Proofs.Frame.Acceptance
import SentinelRounds.Proofs.Frame.Backward
import SentinelRounds.Proofs.Frame.Resuming
import SentinelRounds.Proofs.Net.Alternation
import SentinelRounds.Proofs.Net.Completion
import SentinelRounds.Proofs.Net.Delivery
import SentinelRounds.Proofs.Net.Echo
import SentinelRounds.Proofs.Net.Machine
import SentinelRounds.Proofs.Net.Reading
import SentinelRounds.Proofs.Net.Refusal
import SentinelRounds.Proofs.Net.Response
import SentinelRounds.Proofs.Net.States
import SentinelRounds.Proofs.Net.Stopping
import SentinelRounds.Proofs.Round.Admission
import SentinelRounds.Proofs.Round.Bounds
import SentinelRounds.Proofs.Round.Counters
import SentinelRounds.Proofs.Round.Cutting
import SentinelRounds.Proofs.Round.Fitting
import SentinelRounds.Proofs.Round.Format
import SentinelRounds.Proofs.Round.Isolation
import SentinelRounds.Proofs.Round.Rejection
import SentinelRounds.Proofs.Round.Renewal
import SentinelRounds.Proofs.Round.Responding
import SentinelRounds.Proofs.Round.Segments
import SentinelRounds.Proofs.Round.Turns
import SentinelRounds.Proofs.Round.Verbatim
import SentinelRounds.Proofs.Round.Waking
import SentinelRounds.Round.Peer
