import SentinelRounds.Net.Hooks
import SentinelRounds.Net.Link
import SentinelRounds.Round.Send

/-! A call on a link, cut where it lets go of the round or waits for the socket: between two steps
other calls on the same link may take theirs. -/

namespace SentinelRounds

/-- What a step asks of the socket. -/
inductive Demand
  | nothing
  /-- Bytes that have arrived, at most so many. -/
  | bytes (limit : Nat)
  | write (bytes : Bytes)
  /-- That no more will be sent. -/
  | finish
  deriving DecidableEq, Repr

/-- What the socket answers. -/
inductive Reply
  /-- Nothing is there yet. -/
  | pending
  | bytes (bytes : Bytes)
  /-- The stream has ended. -/
  | ended
  | done
  | failed
  deriving DecidableEq, Repr

/-- Where a call stands. -/
inductive Call
  /-- About to see which phase a direction is in. -/
  | choose (transit : Transit)
  /-- About to note the phase in the state of the link. -/
  | enter (transit : Transit) (phase : Phase)
  /-- About to see whether another chunk is due. -/
  | next
  /-- About to look for a frame in what has arrived. -/
  | search (phase : Phase) (arrived : Bytes)
  /-- Waiting for bytes, of which so many fit. -/
  | await (phase : Phase) (spare : Nat)
  /-- About to hand a frame to the round. -/
  | absorb (phase : Phase) (inbound : Round.Inbound)
  /-- About to make the next frame. -/
  | compose (phase : Phase)
  /-- About to write a frame to the socket. -/
  | write (phase : Phase) (bytes : Bytes)
  /-- About to run the hooks of a completed phase. -/
  | conclude (transit : Transit) (phase : Phase)
  /-- About to set the signal of a completed phase. -/
  | signal (transit : Transit) (phase : Phase)
  /-- About to halt the round after a fault. -/
  | halt (fault : LinkFault)
  /-- About to note the fault in the state of the link. -/
  | close (fault : LinkFault)
  /-- About to set every signal, so that nobody waits for the failed link. -/
  | release (fault : LinkFault)
  | succeeded
  | failed (fault : LinkFault)
  deriving DecidableEq, Repr

/-- The signal of a completed phase. -/
def Signal.ofPhase : Transit → Phase → Signal
  | .receive, .header => .headerReceived
  | .send, .header => .headerSent
  | .receive, .message => .messageReceived
  | .send, .message => .messageSent

namespace Call

variable {δ ι : Type}

/-- What the step ahead asks of the socket. -/
def demand : Call → Demand
  -- Only two kinds of steps touch the socket.
  | .await _ spare => .bytes spare
  | .write _ bytes => .write bytes
  | _ => .nothing

/-- Whether no step is left. -/
def isOver : Call → Bool
  | .succeeded | .failed _ => true
  | _ => false

/-- Where a call goes once the link is in a phase. -/
def start : Transit → Phase → Call
  -- A header is exactly one frame, while a message may be complete before its first.
  | .receive, .header => .search .header []
  | .receive, .message => .next
  | .send, phase => .compose phase

/-- Looks for a frame in what has arrived and was kept; failing that, more has to arrive. -/
def look (phase : Phase) (arrived : Bytes) (link : Link ι) : Call × Link ι :=
  -- What has just arrived is staged and read in one step, so nobody sees it staged.
  let (found, context) := (link.round.context.stage phase arrived).read phase arrived.length
  -- A frame that cannot be read has left the lane, so the fault comes up only once.
  match found with
  | .error fault => (.halt (.round fault), link.onContext fun _ => context)
  | .ok (some kind) =>
    let (frame, context) := context.takeFrame phase
    (.absorb phase ⟨frame.getD [], kind⟩, link.onContext fun _ => context)
  | .ok none =>
    -- With a full lane no terminator can come any more, and no byte would fit.
    let spare := context.intake.spare phase
    (if spare = 0 then .halt (.overflow phase) else .await phase spare,
      link.onContext fun _ => context)

/-- Goes on with what the socket has delivered, if it has delivered anything. -/
def arrive (phase : Phase) (reply : Reply) (link : Link ι) : Option (Call × Link ι) :=
  -- No bytes at all are how an ended stream reads.
  match reply with
  | .bytes [] | .ended => some (.halt .closed, link)
  | .bytes bytes =>
    -- The bytes are counted before they are searched, so those of a broken frame count too.
    let stats := { link.stats with bytesReceived := link.stats.bytesReceived + bytes.length }
    some (.search phase bytes, { link with stats })
  | .failed => some (.halt .io, link)
  | .pending | .done => none

/-- Goes on once the socket has taken or refused a frame. -/
def settle (phase : Phase) (bytes : Bytes) (reply : Reply) (link : Link ι) :
    Option (Call × Link ι) :=
  match reply with
  | .done =>
    -- A header is counted among the sent ones only when its hooks run.
    let stats := { link.stats with bytesSent := link.stats.bytesSent + bytes.length }
    match phase with
    | .header => some (.conclude .send .header, { link with stats })
    | .message => some (.compose .message, { link with stats := stats.sent .message })
  | .failed => some (.halt .io, link)
  | .pending | .bytes _ | .ended => none

/-- Runs the hooks of a completed phase. -/
def report [Reversible ι] (hooks : Hooks ι) (transit : Transit) (phase : Phase) (link : Link ι)
    (site : Site δ) : Call × Link ι × Site δ :=
  let (round, site) := hooks.run (.completed transit phase) link.role link.round site
  (.signal transit phase, { link with round }, site)

/-- Goes on after a fault of the round: the link learns of it only if the round has returned. -/
def fail (fault : RoundFault) : Call :=
  if fault.isFatal then .failed (.round fault) else .halt (.round fault)

/-- Hands a frame to the round; the hooks of a header run before anyone else sees the round. -/
def take [Transferable ι] [Reversible ι] [Depot δ ι] (hooks : Hooks ι) (phase : Phase)
    (inbound : Round.Inbound) (link : Link ι) (site : Site δ) : Call × Link ι × Site δ :=
  let (result, round, depot) :=
    link.round.dispatch site.depot link.role .receive phase (some inbound)
  let link := { link with round }
  let site := { site with depot }
  -- A round that has answered a fault in its response goes on without one here.
  match result with
  | .error fault => (fail fault, link, site)
  | .ok _ =>
    let link := { link with stats := link.stats.received phase }
    match phase with
    | .header => report hooks .receive .header link site
    | .message => (.next, link, site)

/-- Makes the next frame of a phase, unless its message is complete. -/
def prepare [Transferable ι] [Depot δ ι] (phase : Phase) (link : Link ι) (site : Site δ) :
    Call × Link ι × Site δ :=
  -- A message whose last chunk is out is complete, and so is one that has been halted.
  if phase = .message ∧ link.isDue .send = false then (.conclude .send .message, link, site)
  else
    let (result, round, depot) := link.round.dispatch site.depot link.role .send phase none
    let link := { link with round }
    let site := { site with depot }
    match result with
    | .error fault => (fail fault, link, site)
    | .ok _ =>
      -- The output is empty between two frames, so it is this frame alone.
      let (bytes, link) := link.takeOutput
      (.write phase bytes, link, site)

/--
One step of a call, given what the socket answers to its demand; nothing if it has to wait, or is
done.
-/
def step [Transferable ι] [Reversible ι] [Depot δ ι] (hooks : Hooks ι) (reply : Reply)
    (call : Call) (link : Link ι) (site : Site δ) : Option (Call × Link ι × Site δ) :=
  -- Each case holds the round for no longer than itself.
  let alone (moved : Call × Link ι) : Call × Link ι × Site δ := (moved.1, moved.2, site)
  match call with
  | .choose transit => some (.enter transit (link.duePhase transit), link, site)
  | .enter transit phase =>
    some (start transit phase, { link with state := .ofPhase phase }, site)
  | .next =>
    some (if link.isDue .receive then .search .message [] else .conclude .receive .message,
      link, site)
  | .search phase arrived => some (alone (look phase arrived link))
  | .await phase _ => (arrive phase reply link).map alone
  | .absorb phase inbound => some (take hooks phase inbound link site)
  | .compose phase => some (prepare phase link site)
  | .write phase bytes => (settle phase bytes reply link).map alone
  -- Other frames are counted where they are written or taken.
  | .conclude .send .header =>
    some (report hooks .send .header { link with stats := link.stats.sent .header } site)
  | .conclude transit phase => some (report hooks transit phase link site)
  | .signal transit phase =>
    some (.succeeded,
      link.onContext fun context => context.raise (.ofPhase transit phase), site)
  | .halt fault => some (.close fault, link.onContext Context.halt, site)
  | .close fault => some (.release fault, { link with state := .closing }, site)
  | .release fault => some (.failed fault, link.onContext Context.release, site)
  | .succeeded | .failed _ => none

end Call

/-- Where the shutting down of a link stands. -/
inductive Shutdown
  | announce
  /-- About to end the sending half of the socket. -/
  | finish
  | close
  /-- About to set every signal. -/
  | release
  | done
  deriving DecidableEq, Repr

namespace Shutdown

variable {ι : Type}

/-- What the step ahead asks of the socket. -/
def demand : Shutdown → Demand
  | .finish => .finish
  | _ => .nothing

/-- One step of shutting a link down; a socket that refuses to end changes nothing. -/
def step (shutdown : Shutdown) (link : Link ι) : Shutdown × Link ι :=
  match shutdown with
  | .announce => (.finish, { link with state := .closing })
  | .finish => (.close, link)
  | .close => (.release, { link with state := .closed })
  | .release => (.done, link.onContext Context.release)
  | .done => (.done, link)

/-- The link after all steps. -/
def complete (link : Link ι) : Link ι :=
  { link with state := .closed }.onContext Context.release

end Shutdown

end SentinelRounds
