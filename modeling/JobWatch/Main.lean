import JobWatch.Http.Receiver
import JobWatch.Program
import Std.Async.DNS
import Std.Async.Signal
import Std.Async.TCP
import Std.Async.Timer
import Std.Sync.Channel
import Std.Time.DateTime.Timestamp

/-!
The program at its terminal: files, connections, the clock and signals. What is done with them is
decided by `Program`.
-/

namespace JobWatch.Terminal

open Std.Async

/-! ### Output -/

/-- Where the entries of the journal go, and from which level on. -/
structure Log where
  level : Journal.Level
  stream : IO.FS.Stream

/-- Writes the entries that are new. -/
def Log.write (l : Log) (m : Monitor) : IO Monitor := do
  for e in Journal.upTo l.level m.journal do
    let now ← Std.Time.Timestamp.now
    let time : Timestamp := ⟨now.toSecondsSinceUnixEpoch.val, 0⟩
    l.stream.putStr (time.text ++ " " ++ e.line ++ "\n")
  l.stream.flush
  return { m with journal := [] }

/-- The log that a command line asks for. -/
def openLog (c : CommandLine) : IO Log := do
  let stderr ← IO.getStderr
  match c.logFile with
  | none => return ⟨if c.debug then .debug else .warn, stderr⟩
  | some path =>
    try
      let handle ← IO.FS.Handle.mk path .append
      return ⟨if c.debug then .debug else .info, IO.FS.Stream.ofHandle handle⟩
    catch e =>
      stderr.putStr
        ("Warning: Could not open log file at " ++ Text.quotedPath path ++ ": " ++ toString e ++
          "\n")
      return ⟨.warn, stderr⟩

/-- Prints what was written; an output that fails is closed. -/
def print (o : Output) : IO Output := do
  let stdout ← IO.getStdout
  try
    stdout.putStr o.written
    stdout.flush
    return { o with written := "" }
  catch _ => return { o.close with written := "" }

/-! ### Connections -/

def networkError (message : String) : AdminError := ⟨.network, message⟩

/-- Connects to the server of a URL, within a time limit. -/
def connect (u : Url) (seconds : Nat) : Async (Except AdminError TCP.Socket.Client) := do
  if u.secure then return .error (networkError "secure connections are not supported")
  let port := u.port.getD (Url.usualPort u.secure)
  let host := String.ofList (u.host.filter fun c => c ≠ '[' ∧ c ≠ ']')
  let open? : Async (Except AdminError TCP.Socket.Client) := do
    try
      let addresses ← DNS.getAddrInfo host (toString port)
      match addresses[0]? with
      | none => return .error (networkError "the host has no address")
      | some address =>
        let socket ← TCP.Socket.Client.mk
        socket.connect (match address with
          | .v4 a => .v4 ⟨a, port.toUInt16⟩
          | .v6 a => .v6 ⟨a, port.toUInt16⟩)
        return .ok socket
    catch e => return .error (networkError (toString e))
  let giveUp : Async (Except AdminError TCP.Socket.Client) := do
    sleep (.ofNat (seconds * 1000))
    return .error ⟨.timeout, "the connection took too long"⟩
  have : Inhabited (Except AdminError TCP.Socket.Client) := ⟨.error Client.connectionRefused⟩
  Async.race open? giveUp

/-- Receives an answer until it is complete or the connection ends; tells whether it ended well.
After every part the receiver is used. -/
partial def receive (socket : TCP.Socket.Client) (r : Http.Receiver)
    (use : Http.Receiver → Async Http.Receiver) : Async (Http.Receiver × Bool) := do
  let part : Option (Option ByteArray) ← try some <$> socket.recv? 65536 catch _ => pure none
  match part with
  | none => return (r, false)
  | some none => return (r, true)
  | some (some bytes) =>
    let r ← use (r.feed bytes.toList)
    if r.isFinished || r.phase = .malformed then return (r, true) else receive socket r use

/-- Asks for a URL and receives the answer. -/
def exchange (u : Url) (seconds : Nat) (use : Http.Receiver → Async Http.Receiver) :
    Async (Except AdminError (Http.Receiver × Bool)) := do
  match ← connect u seconds with
  | .error e => return .error e
  | .ok socket =>
    try
      socket.send (Http.requestText u).toUTF8
      let received ← receive socket {} use
      try socket.shutdown catch _ => pure ()
      return .ok received
    catch e => return .error (networkError (toString e))

/-- The whole answer of an exchange. -/
def answerOf : Except AdminError (Http.Receiver × Bool) → Client.Answer
  | .error e => .error e
  | .ok (r, clean) =>
    match r.response? with
    | some answer => .ok (if clean then answer else { answer with ending := .broken })
    | none => .error (networkError "the connection was closed before an answer came")

def isSuccess (r : Http.Receiver) : Bool := (Http.Response.mk r.status [] .complete).isSuccess

/-- Receives the metrics feed; posts what arrives. -/
def receiveFeed (u : Url) (seconds : Nat) (post : Feed.Arrival → Async Unit) : Async Unit := do
  let result ← exchange u seconds fun r => do
    if r.hasHead && isSuccess r then
      let (r, bytes) := r.takeBody
      if !bytes.isEmpty then post (.chunk bytes)
      return r
    else return r
  match answerOf result with
  | .error e => post (.broken e)
  | .ok answer =>
    if !answer.isSuccess then post (.broken (.ofResponse answer.received))
    else if answer.ending = .broken then post (.broken Client.bodyCutShort)
    else post .close

/-! ### The watch -/

abbrev Events := Std.Channel Program.Event

def next (events : Events) : Async Program.Event := do
  let e ← events.recv
  Async.ofTask e

/-- Moves the running indicator on, seven times a second. -/
partial def spin (events : Events) (ended : IO.Ref Bool) : Async Unit := do
  sleep 142
  if ← ended.get then return
  discard <| events.send (.signal .spinner)
  spin events ended

def awaitInterrupt (events : Events) (waiter : Signal.Waiter) : Async Unit := do
  let signal ← waiter.wait
  discard <| Async.ofAsyncTask signal
  discard <| events.send (.signal .interrupt)

partial def followRecords (log : Log) (events : Events) (maxLine : Nat) :
    Watch × Feed.Stream → IO (Watch × Feed.Stream)
  | (w, st) => do
    let monitor ← log.write w.monitor
    let out ← print (w.route.output.getD {})
    let w : Watch := ⟨monitor, .records out⟩
    match st with
    | .ended _ => return (w, st)
    | .reading _ =>
      let e ← (next events).block
      followRecords log events maxLine (Program.recordsStep maxLine (w, st) e)

def printed (log : Log) (d : Session) : IO Session := do
  let monitor ← log.write d.watch.monitor
  let out ← print d.screen.live.out
  return { d with
    watch := { d.watch with monitor }
    screen := { d.screen with live := { d.screen.live with out } } }

partial def followDisplay (log : Log) (events : Events) (maxLine : Nat) :
    Session × Feed.Stream → IO (Session × Feed.Stream)
  | (d, st) => do
    let d ← printed log d
    if d.isOver then return (d, st)
    let e ← (next events).block
    followDisplay log events maxLine (Program.displayStep maxLine (d, st) e)

/-- Follows the feed until the watch is over. -/
def follow (c : CommandLine) (log : Log) (endpoint : Endpoint) (m : Monitor) (out : Output) :
    IO (Monitor × Program.Ending) := do
  let request := endpoint.metricsUrl (.batchJob c.jobId)
  let m := Program.noteRequest m "metrics" request
  let events : Events ← Std.Channel.new
  let ended ← IO.mkRef false
  let waiter ← Signal.Waiter.mk .sigint true
  let feed := receiveFeed request endpoint.connectTimeoutSecs fun a =>
    discard <| events.send (.arrival a)
  (background feed : Async Unit).block
  (background (awaitInterrupt events waiter) : Async Unit).block
  let start : Feed.Stream := .reading {}
  let fine : Program.Ending := .ok ()
  let (m, ending) ←
    if c.json then
      let run ← followRecords log events endpoint.maxLineBytes (⟨m, .records out⟩, start)
      let (w, ending) := Program.finishRecords run
      pure (w.monitor, ending.getD fine)
    else
      (background (spin events ended) : Async Unit).block
      let terminal ← (← IO.getStdout).isTty
      let d := Session.start m (Program.screen c terminal out)
      let (d, _) ← followDisplay log events endpoint.maxLineBytes (d, start)
      let (d, ending) := Program.finishDisplay d
      let d ← printed log d
      pure (d.watch.monitor, ending.getD fine)
  ended.set true
  waiter.stop
  return (m, ending)

/-- What is found at the path of the configuration. -/
def readConfiguration (path : String) : IO Configuration.FileContent := do
  try
    let bytes ← IO.FS.readBinFile path
    return .bytes bytes.toList
  catch
    | .noFileOrDirectory .. => return .missing
    | e => return .unreadable (toString e)

/-- Runs the program for a command line. -/
def run (c : CommandLine) (log : Log) : IO (Monitor × Program.Ending) := do
  let m : Monitor := { target := c.target, jobId := c.jobId }
  let home ← IO.getEnv "HOME"
  let content ← match c.config <|> home.map Configuration.usualPath with
    | some path => readConfiguration path
    | none => pure .missing
  match Program.endpointOf c home fun _ => content with
  | (entries, .error e) => return ({ m with journal := entries }, .error e)
  | (entries, .ok endpoint) =>
    let request := endpoint.describeUrl c.jobId
    let m ← log.write (Program.noteRequest { m with journal := entries } "describe-job" request)
    let answer ← (exchange request endpoint.connectTimeoutSecs pure).block
    match Resolution.ofDescription m (Client.describe (answerOf answer)) with
    | (m, .error e) => return (m, .error (.monitor e))
    | (m, .ok resolution) =>
      match resolution.announce c.json {} with
      | (_, some e) => return (m, .error (.announcement e))
      | (out, none) =>
        let out ← print out
        follow c log endpoint m out

end JobWatch.Terminal

open JobWatch in
def main (args : List String) : IO UInt32 := do
  let configVariable ← IO.getEnv "BATCHWATCH_CONFIG"
  match CommandLine.parse configVariable args with
  | .error stop =>
    let stream ← if stop.exitCode = 0 then IO.getStdout else IO.getStderr
    stream.putStr (stop.text configVariable)
    return stop.exitCode.toUInt32
  | .ok c =>
    let log ← Terminal.openLog c
    let (m, ending) ← Terminal.run c log
    discard <| log.write (Program.conclude c m ending)
    if let .error e := ending then
      (← IO.getStderr).putStr ("batchwatch: " ++ e.text ++ "\n")
    return (Program.exitCode ending).toUInt32
