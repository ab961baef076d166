/-!
The journal of a run: what happened, at which level and in which part of the program.
-/

namespace JobWatch.Journal

inductive Level where
  | error
  | warn
  | info
  | debug
  deriving Repr, DecidableEq

namespace Level

/-- Larger for what matters less. -/
def rank : Level → Nat
  | error => 0
  | warn => 1
  | info => 2
  | debug => 3

def text : Level → String
  | error => "ERROR"
  | warn => "WARN"
  | info => "INFO"
  | debug => "DEBUG"

end Level

/-- The parts of the program that make entries. -/
inductive Source where
  | cancellation
  | client
  | emitter
  | resolver
  | subscriber
  | application
  | configuration
  | effects
  deriving Repr, DecidableEq

def Source.text : Source → String
  | cancellation => "batchwatch_engine::cancel"
  | client => "batchwatch_engine::client"
  | emitter => "batchwatch_engine::emitter"
  | resolver => "batchwatch_engine::resolver"
  | subscriber => "batchwatch_engine::subscriber"
  | application => "batchwatch::platform::app"
  | configuration => "batchwatch::platform::config"
  | effects => "batchwatch::platform::effects"

structure Entry where
  level : Level
  source : Source
  message : String
  deriving Repr, DecidableEq

/-- The line of an entry, without time and thread. -/
def Entry.line (e : Entry) : String :=
  "[" ++ e.level.text ++ "] " ++ e.source.text ++ ": " ++ e.message

/-- The entries a reader sees who asks for a level and everything that matters more. -/
def upTo (level : Level) (es : List Entry) : List Entry :=
  es.filter (·.level.rank ≤ level.rank)

end JobWatch.Journal
