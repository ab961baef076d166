import JobWatch.Admin.Client
import JobWatch.CommandLine
import JobWatch.Configuration.Load
import JobWatch.Resolution
import JobWatch.Session

/-!
A whole run of the program.

The target is resolved to an endpoint, the service is asked whether the job is active, and the
metrics feed is followed, either into records or by the live display, until something stops the
watch. What goes wrong on the way ends the run with a complaint. The run is taken down in every
case.
-/

namespace JobWatch.Program

/-- What ends a run badly. -/
inductive Complaint where
  | configuration (e : Configuration.LoadError)
  | target (name : String) (e : TargetError)
  | announcement (e : OutputError)
  | monitor (e : MonitorError)
  | session (e : SessionError)
  deriving Repr, DecidableEq

def Complaint.text : Complaint → String
  | configuration e => "Unable to load configuration: " ++ e.text
  | target name e => "Unable to initialize admin client for " ++ name ++ ": " ++ e.text
  | announcement e => "Unable to write to stdout: " ++ e.message
  | monitor e => e.text
  | session e => e.text

/-- How a run ended. -/
abbrev Ending := Except Complaint Unit

def exitCode : Ending → Nat
  | .ok () => 0
  | .error _ => 1

/-! ### The steps of a run -/

/-- The endpoint of a command line, and what was noted while its configuration was loaded. -/
def endpointOf (c : CommandLine) (home : Option String)
    (files : String → Configuration.FileContent) :
    List Journal.Entry × Except Complaint Endpoint :=
  match Configuration.load c.config home files with
  | .error e => ([], .error (.configuration e))
  | .ok (config, entries) => (entries, (config.resolve c.target).mapError (.target c.target))

/-- The endings of a run are noted: a good one with the state of the job, a bad one with its
complaint if the journal goes into a file. -/
def conclude (c : CommandLine) (m : Monitor) : Ending → Monitor
  | .ok () => m.note .info .application m.closingEntry
  | .error e => if c.logFile.isSome then m.note .error .application e.text else m

/-- Notes a request. -/
def noteRequest (m : Monitor) (call : String) (u : Url) : Monitor :=
  m.note .debug .client (call ++ " GET " ++ u.text)

/-- The screen of a run, on an output that may be a terminal. -/
def screen (c : CommandLine) (terminal : Bool) (out : Output) : Screen :=
  { display := { jobId := c.jobId }, live := { out }, theme := ⟨!c.noColor && terminal⟩ }

/-! ### Following the feed -/

/-- What happens while the feed is followed. -/
inductive Event where
  | arrival (a : Feed.Arrival)
  | signal (g : Signal)
  deriving Inhabited

/-- Who takes the reports of the metrics feed. -/
def sink : Feed.Sink Watch := ⟨Watch.deliver, Watch.isCancelled⟩

/-- The feed is followed into records. Of the signals only the interrupt matters; it stops the
watch. -/
def recordsStep (maxLine : Nat) : Watch × Feed.Stream → Event → Watch × Feed.Stream
  | (w, st), .arrival a => Feed.step sink maxLine w st a
  | (w, st), .signal .interrupt => Feed.interrupt sink maxLine (·.cancel .interrupted) w st
  | (w, st), .signal _ => (w, st)

/-- The watch at the end of its feed. -/
def finishRecords : Watch × Feed.Stream → Watch × Option Ending
  | (w, .reading _) => (w, none)
  | (w, .ended r) =>
    let (w, ending) := w.finish r
    ({ w with monitor := w.monitor.shutdown }, some (ending.mapError .monitor))

/-- The display takes what is there, and hears of the end of the feed if it has ended by now. -/
def catchUp (d : Session) (st : Feed.Stream) : Session × Feed.Stream :=
  match st with
  | .reading b => (d.settle, .reading b)
  | .ended r => ((if d.ending.isSome then d else d.finishFeed r).settle, .ended r)

/-- The feed is followed by the display, until that is over. -/
def displayStep (maxLine : Nat) : Session × Feed.Stream → Event → Session × Feed.Stream
  | (d, st), e =>
    if d.isOver then (d, st)
    else
      match e with
      | .arrival a =>
        let (watch, st) := Feed.step sink maxLine d.watch st a
        catchUp { d with watch } st
      | .signal g => catchUp (d.post g) st

/-- The session once it is over. -/
def finishDisplay (d : Session) : Session × Option Ending :=
  if d.isOver then
    let d := d.close.join
    (d, d.verdict.map (·.mapError .session))
  else (d, none)

/-! ### A run whose surroundings are known -/

/-- What a run finds around it. -/
structure Surroundings where
  home : Option String := none
  files : String → Configuration.FileContent
  get : Url → Client.Answer
  /-- Whether the user interrupts a feed from which nothing more comes. -/
  interrupted : Bool := false
  terminal : Bool := false
  out : Output := {}

/-- What a run leaves behind. -/
structure Account where
  requests : List Url := []
  out : Output := {}
  journal : List Journal.Entry := []
  latest : Option Snapshot := none
  reason : Option StopReason := none
  /-- How the run ended; nothing if it waits for more. -/
  ending : Option Ending := none
  deriving Inhabited

/-- The account of a run that has ended, or waits. -/
def account (c : CommandLine) (requests : List Url) (m : Monitor) (out : Output)
    (ending : Option Ending) : Account :=
  let m := ending.elim m (conclude c m)
  { requests, out, journal := m.journal, latest := m.latest, reason := m.reason, ending }

/-- What happens while the feed is followed: the answer arrives, and perhaps an interrupt. -/
def Surroundings.events (s : Surroundings) (answer : Client.Answer) : List Event :=
  (Client.body answer).map .arrival ++ (if s.interrupted then [.signal .interrupt] else [])

def followRecords (maxLine : Nat) (answer : Client.Answer) (events : List Event) (w : Watch) :
    Watch × Option Ending :=
  finishRecords (events.foldl (recordsStep maxLine) (w, Client.opened sink w answer))

def followDisplay (maxLine : Nat) (answer : Client.Answer) (events : List Event)
    (d : Session) : Session × Option Ending :=
  if d.isOver then finishDisplay d
  else
    let begun := catchUp d (Client.opened sink d.watch answer)
    finishDisplay (events.foldl (displayStep maxLine) begun).1

/-- A run of the program, from its command line to its end. -/
def run (c : CommandLine) (s : Surroundings) : Account :=
  let m : Monitor := { target := c.target, jobId := c.jobId }
  match endpointOf c s.home s.files with
  | (entries, .error e) => account c [] { m with journal := entries } s.out (some (.error e))
  | (entries, .ok endpoint) =>
    let m := { m with journal := entries }
    let request := endpoint.describeUrl c.jobId
    let answer := s.get request
    let requests := if answer.isOk then [request] else []
    let m := noteRequest m "describe-job" request
    match Resolution.ofDescription m (Client.describe answer) with
    | (m, .error e) => account c requests m s.out (some (.error (.monitor e)))
    | (m, .ok resolution) =>
      match resolution.announce c.json s.out with
      | (out, some e) => account c requests m out (some (.error (.announcement e)))
      | (out, none) =>
        let request := endpoint.metricsUrl (.batchJob c.jobId)
        let answer := s.get request
        let requests := if answer.isOk then requests ++ [request] else requests
        let m := noteRequest m "metrics" request
        let maxLine := endpoint.maxLineBytes
        if c.json then
          let (w, ending) := followRecords maxLine answer (s.events answer) ⟨m, .records out⟩
          account c requests w.monitor (w.route.output.getD out) ending
        else
          let d := Session.start m (screen c s.terminal out)
          let (d, ending) := followDisplay maxLine answer (s.events answer) d
          account c requests d.watch.monitor d.screen.live.out ending

end JobWatch.Program
