import TopicStream.Command.Terminal
import TopicStream.Http.Wire
import Std.Async.DNS
import Std.Async.Signal
import Std.Async.TCP
import Std.Async.Timer
import Std.Sync.Channel

/-!
# The program

Prints what a command line asks for. To listen, the engine and the command run as they do over a
scripted transport that holds every request; the answers come from the network. Each request has a
number, by which what the network tells is attributed to it.
-/

namespace TopicStream.Command

open Std.Async

/-- What the network and the user tell the program. -/
inductive Tidings where
  /-- The user has interrupted the program. -/
  | interrupt
  /-- A request has been answered. -/
  | answered (request : Nat) (answer : Engine.Answer)
  /-- An item of the body of a stream has arrived. -/
  | arrived (request : Nat) (item : Except ClientError Bytes)
  /-- The body of a stream has ended. -/
  | ended (request : Nat)
  deriving Inhabited

/-! ### The network -/

/-- The address of a socket. -/
def socketAddress (ip : Std.Net.IPAddr) (port : Nat) : Std.Net.SocketAddress :=
  match ip with
  | .v4 addr => .v4 ⟨addr, port.toUInt16⟩
  | .v6 addr => .v6 ⟨addr, port.toUInt16⟩

/-- Connects to the first address that takes the connection. -/
def connectFirst (port : Nat) : List Std.Net.IPAddr → Async TCP.Socket.Client
  | [] => throw (.userError "no address takes the connection")
  | ip :: ips => do
    try
      let socket ← TCP.Socket.Client.mk
      socket.connect (socketAddress ip port)
      return socket
    catch _ => connectFirst port ips

/-- Sends a message on a new connection. -/
def sendMessage (m : Http.Message) : Async TCP.Socket.Client := do
  match Http.Address.parse? m.url with
  | none => throw (.userError "the address is not one of a plain connection")
  | some address =>
    let ips ← DNS.getAddrInfo address.host (Nat.repr address.port)
    let socket ← connectFirst address.port ips.toList
    socket.send ⟨(m.encode address).toArray⟩
    return socket

/-- How many bytes are taken from a connection at a time. -/
def portion : UInt64 := 16384

/-- Reads on from a connection; nothing if it has ended. -/
def readSome (socket : TCP.Socket.Client) (r : Http.Reader) : Async (Option Http.Reader) := do
  let bytes? ← try socket.recv? portion catch _ => pure none
  return bytes?.map fun bytes => r.push bytes.toList

/-- Reads until the head is complete, or the connection has ended. -/
partial def readHead (socket : TCP.Socket.Client) (r : Http.Reader) : Async Http.Reader := do
  if r.head?.isSome || r.isOver then return r
  match ← readSome socket r with
  | some r => readHead socket r
  | none => return r

/-- Reads until the reply is complete, or the connection has ended. -/
partial def readAll (socket : TCP.Socket.Client) (r : Http.Reader) : Async Http.Reader := do
  if r.isOver then return r
  match ← readSome socket r with
  | some r => readAll socket r
  | none => return r

/-- Passes on the body of a stream as it arrives. -/
partial def passBody (socket : TCP.Socket.Client) (r : Http.Reader) (failure : ClientError)
    (request : Nat) (tell : Tidings → Async Unit) : Async Unit := do
  let (bytes, r) := r.takeBody
  if !bytes.isEmpty then tell (.arrived request (.ok bytes))
  let tellEnd : Async Unit :=
    tell (if r.isCut then .arrived request (.error failure) else .ended request)
  if r.isOver then tellEnd
  else
    match ← readSome socket r with
    | some r => passBody socket r failure request tell
    | none => tellEnd

/-- The seconds since the beginning of 1970. -/
def unixSeconds : Async Int := do
  return (← Std.Time.Timestamp.now).toSecondsSinceUnixEpoch.val

/-- Asks for a stream and passes on what becomes of it. -/
def openStream (plan : Plan) (headers : List (String × String)) (request : Nat)
    (tell : Tidings → Async Unit) : Async Unit := do
  let transport := plan.transport
  let m := transport.streamMessage Http.realtimePath headers
  let refuse (peer : Http.Peer) : Async Unit :=
    match transport.openStream Http.realtimePath headers peer with
    | .error error => tell (.answered request (.failure error))
    | .ok _ => tell (.answered request (.failure (Http.Transport.noAnswer m.url)))
  try
    if !m.isSendable then refuse .silent
    else
      let socket ← sendMessage m
      let r ← readHead socket .start
      match r.head? with
      | some head =>
        if Http.isSuccess head.status then
          tell (.answered request .success)
          passBody socket r (Http.Transport.noAnswer m.url) request tell
        else refuse (← readAll socket r).peer
      | none => refuse .silent
  catch _ => refuse .silent

/-- Announces topics and passes on the answer, which is waited for as long as a request may take. -/
def announce (plan : Plan) (clientId : String) (topics : List String) (request : Nat)
    (tell : Tidings → Async Unit) : Async Unit := do
  let transport := plan.transport
  let now ← unixSeconds
  let r := Engine.announcementRequest clientId topics
  let m := plan.announcementMessage now clientId topics
  let exchange : Async Http.Peer := do
    if !m.isSendable then return .silent
    let socket ← sendMessage m
    return (← readAll socket .start).peer
  let giveUp : Async Http.Peer := do
    sleep (.ofNat plan.config.requestTimeoutMs)
    return .silent
  let peer ← try Async.race exchange giveUp catch _ => pure .silent
  match transport.send plan.credential now Http.realtimePath r peer with
  | .ok _ => tell (.answered request .success)
  | .error error => tell (.answered request (.failure error))

/-! ### Listening -/

/-- A program that listens. -/
structure Program where
  /-- What it listens to. -/
  plan : Plan
  /-- The command with its engine. -/
  terminal : Terminal
  /-- When it began, in milliseconds. -/
  began : Nat
  /-- What it is told. -/
  mailbox : Std.Channel Tidings
  /-- How many requests it has made. -/
  requests : Nat
  /-- The tasks that wait for the answers to requests. -/
  asked : List (Nat × Engine.Task)
  /-- The serial numbers of the streams that requests have opened. -/
  opened : List (Nat × Nat)
  /-- Whether it looks for interruptions. -/
  heeds : Bool

namespace Program

/-- Tells a program something. -/
def tell (p : Program) (t : Tidings) : Async Unit := do
  discard (p.mailbox.send t)

/-- Makes a request for a task. -/
def ask (p : Program) (task : Engine.Task)
    (act : Nat → (Tidings → Async Unit) → Async Unit) : Async Program := do
  background (act p.requests p.tell)
  return { p with requests := p.requests + 1, asked := (p.requests, task) :: p.asked }

/-- Makes the request of an effect. -/
def serve (p : Program) : Engine.Event → Async Program
  | .requested worker headers => p.ask (.worker worker) (openStream p.plan headers)
  | .announced task clientId topics => p.ask task (announce p.plan clientId topics)
  | _ => return p

/-- Prints a line. -/
def printLine : Line → Async Unit
  | .out text => do
    let out ← IO.getStdout
    out.putStrLn text
    out.flush
  | .err text => IO.eprintln text

/-- Looks for an interruption once all subscriptions hold. -/
def heed (p : Program) : Async Program := do
  match p.heeds, p.terminal.command.phase with
  | false, .listening =>
    let waiter ← Signal.Waiter.mk .sigint false
    let signal ← waiter.wait
    background (do
      discard (await signal)
      p.tell .interrupt)
    return { p with heeds := true }
  | _, _ => return p

/-- Carries out what engine and command have done: prints lines and makes requests. -/
def carryOut (p : Program) : Async Program := do
  p.terminal.printed.reverse.forM printLine
  let mut program := { p with terminal := { p.terminal with printed := [], seen := [] } }
  for event in p.terminal.seen.reverse do
    program ← program.serve event
  program.heed

/-- Lets an action happen. -/
def perform (p : Program) (action : Engine.Action) : Program :=
  { p with terminal := p.terminal.alter (·.perform action) }

/-- Takes what it is told. An answer may open a stream, which is then known by its request. -/
def take (p : Program) : Tidings → Program
  | .interrupt =>
    { p with terminal := p.terminal.carryOut p.terminal.command.onInterrupt }
  | .answered request answer =>
    match p.asked.lookup request with
    | none => p
    | some task =>
      let serial := p.terminal.world.engine.streams
      let p := { p with asked := p.asked.filter (·.1 != request) }.perform (.answer task answer)
      if serial < p.terminal.world.engine.streams then
        { p with opened := (request, serial) :: p.opened }
      else p
  | .arrived request item =>
    match p.opened.lookup request with
    | some serial => p.perform (.arrive serial item)
    | none => p
  | .ended request =>
    match p.opened.lookup request with
    | some serial => p.perform (.finish serial)
    | none => p

/-- Moves the clock to the present. -/
def catchUp (p : Program) (now : Nat) : Program :=
  let patience := now - p.terminal.world.engine.now + 2
  { p with terminal := p.terminal.runUntil now patience }

/-- Waits until something is told, or a task has to go on. -/
def next (p : Program) (now : Nat) : Async (Option Tidings) := do
  let told := Selectable.case p.mailbox.recvSelector fun t => return some t
  match p.terminal.world.engine.deadlines.min? with
  | none => Selectable.one #[told]
  | some deadline =>
    let timer ← Selector.sleep (.ofNat (deadline - now))
    Selectable.one #[told, .case timer fun _ => return none]

/-- The milliseconds since the beginning. -/
def elapsed (p : Program) : Async Nat := do
  return (← IO.monoMsNow) - p.began

/-- Goes on until the command has ended, and returns its status. -/
partial def run (p : Program) : Async Nat := do
  let now ← p.elapsed
  let credential := p.plan.credential.validToken? (← unixSeconds)
  let p ← ((p.perform (.setCredential credential)).catchUp now).carryOut
  match p.terminal.status? with
  | some status => return status
  | none =>
    match ← p.next now with
    | some t => run (p.take t)
    | none => run p

/-- Listens as a plan says. -/
def listen (plan : Plan) : Async Nat := do
  let held : Simulation.Rule := ⟨.hold, none, none⟩
  let credential := plan.credential.validToken? (← unixSeconds)
  run ⟨plan, .start plan credential held held, ← IO.monoMsNow, ← Std.Channel.new, 0, [], [], false⟩

end Program

end TopicStream.Command

open TopicStream.Command in
/-- Does what the arguments ask for. -/
def main (arguments : List String) : IO UInt32 := do
  match Job.ofArguments arguments with
  | .print lines status =>
    (lines.forM Program.printLine).block
    return status.toUInt32
  | .listen plan => return (← (Program.listen plan).block).toUInt32
