import JobWatch.Display.Frame
import JobWatch.Display.LiveFrame
import JobWatch.Watch

/-!
A session of the live display: a watch whose reports go to a display, the display, and its frame on
the terminal.

The feed and the display take turns in any order. The feed delivers reports, which wait in the queue
of the display, and ends at some time; the display takes signals from the queue, one at a time, and
hears of the end of the feed. Every signal is followed by a redraw, if the display is marked for
one, and a reason to stop by a cancel of the watch. A session that is over is closed: the watch is
taken down and the cursor shown again, whatever ended it.
-/

namespace JobWatch

/-- The display and its place on the terminal. -/
structure Screen where
  display : Display
  live : LiveFrame := {}
  theme : Theme
  deriving Inhabited

namespace Screen

/-- Draws the current view if the display is marked for it. The mark is taken before drawing. -/
def redraw (s : Screen) : Screen × Option OutputError :=
  let (display, dirty) := s.display.consumeDirty
  if dirty then
    let (live, e) := s.live.draw (display.view.frame s.theme)
    ({ s with display, live }, e)
  else ({ s with display }, none)

/-- Gives the display a signal. -/
def update (s : Screen) (g : Signal) : Screen × Option StopReason :=
  let (display, stop) := s.display.update g
  ({ s with display }, stop)

end Screen

/-- What ends a session badly. -/
inductive SessionError where
  | draw (e : OutputError)
  | feed (e : MonitorError)
  /-- The cursor could not be shown again. -/
  | restore (e : OutputError)
  deriving Repr, DecidableEq

def SessionError.text : SessionError → String
  | draw e => e.message
  | feed e => e.text
  | restore e => "Unable to restore the terminal: " ++ e.message

structure Session where
  watch : Watch
  screen : Screen
  /-- How the feed ended, once it has. -/
  ending : Option (Except MonitorError Unit) := none
  /-- Whether the display knows that the feed has ended. -/
  heard : Bool := false
  /-- How the session ended, once it has. -/
  verdict : Option (Except SessionError Unit) := none
  deriving Inhabited

namespace Session

def isOver (s : Session) : Bool := s.verdict.isSome

/-! ### The feed's turns -/

/-- The feed delivers a report. -/
def deliver (s : Session) (r : Report) : Session := { s with watch := s.watch.deliver r }

/-- The feed ends. -/
def finishFeed (s : Session) (e : Except AdminError Unit) : Session :=
  let (watch, ending) := s.watch.finish e
  { s with watch, ending := some ending }

/-- Others than the feed put signals into the queue as well. -/
def post (s : Session) (g : Signal) : Session :=
  match s.watch.route with
  | .display queue true =>
    { s with watch := { s.watch with route := .display (queue ++ [g]) true } }
  | _ => s

/-! ### The display's turns -/

def redraw (s : Session) : Session :=
  let (screen, e) := s.screen.redraw
  { s with screen, verdict := e.map fun e => .error (.draw e) }

/-- Takes one signal. A frame that cannot be drawn ends the session before the reason to stop is
heeded. -/
def take (s : Session) (g : Signal) : Session :=
  let (screen, stop) := s.screen.update g
  let s := { s with screen }.redraw
  if s.isOver then s
  else
    let (monitor, stop) := s.watch.monitor.obey stop.toList
    { s with watch := { s.watch with monitor }, verdict := stop.map fun _ => .ok () }

/-- Takes the first signal of the queue. -/
def takeNext (s : Session) : Session :=
  match s.watch.route with
  | .display (g :: queue) isOpen =>
    { s with watch := { s.watch with route := .display queue isOpen } }.take g
  | _ => s

/-- Takes a number of signals, or fewer if the session is over before. -/
def takeSome : Nat → Session → Session
  | 0, s => s
  | n + 1, s => if s.isOver then s else takeSome n s.takeNext

/-- Takes what is in the queue. -/
def takeQueued (s : Session) : Session := s.takeSome s.watch.route.queue.length

/-- The display hears how the feed has ended; a failure ends the session. -/
def hear (s : Session) : Session :=
  match s.ending with
  | none => s
  | some (.ok ()) => { s with heard := true }
  | some (.error e) => { s with heard := true, verdict := some (.error (.feed e)) }

/-- Takes everything that has come: the queue, and then the end of the feed. -/
def settle (s : Session) : Session :=
  let s := s.takeQueued
  if s.isOver ∨ s.ending.isNone then s
  else
    let s := s.hear
    if s.isOver then s else s.take .feedClosed

/-! ### Beginning and end -/

/-- A session begins with a first frame. -/
def start (m : Monitor) (screen : Screen) : Session :=
  redraw { watch := ⟨m, .display [] true⟩, screen }

/-- Takes the watch down and shows the cursor. A failure of the session counts before one of that.
-/
def close (s : Session) : Session :=
  let (live, e) := s.screen.live.finish
  let restored := match e with
    | some e => .error (.restore e)
    | none => .ok ()
  { s with
    watch := { s.watch with monitor := s.watch.monitor.shutdown }
    screen := { s.screen with live }
    verdict := some (s.verdict.getD (.ok ()) *> restored) }

/-- Waits for the feed, which ends on its own or because the watch was taken down. A failure of
which the display has not heard is noted. -/
def join (s : Session) : Session :=
  let s := if s.ending.isSome then s else s.finishFeed (.error .operationCancelled)
  match s.heard, s.ending with
  | false, some (.error e) =>
    let monitor := s.watch.monitor.note .warn .application
      ("Metrics feed failed during shutdown: " ++ e.text)
    { s with watch := { s.watch with monitor } }
  | _, _ => s

/-- A whole feed: from the watch at its beginning to the watch and the news at its end. -/
abbrev Feed := Watch → Watch × Except MonitorError Unit

def runFeed (s : Session) (feed : Feed) : Session :=
  let (watch, ending) := feed s.watch
  { s with watch, ending := some ending }

/-- A whole session, with signals that are there before the feed starts. A feed that starts when the
session is over finds the watch taken down. -/
def run (m : Monitor) (screen : Screen) (early : List Signal) (feed : Feed) : Session :=
  let s := (early.foldl post (start m screen)).takeQueued
  if s.isOver then (s.close.runFeed feed).join
  else ((s.runFeed feed).settle.close).join

end Session

end JobWatch
