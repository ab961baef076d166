import JobWatch.Configuration.Reader
import JobWatch.Journal

/-!
Loading the configuration from its file: the one that is asked for, or the usual one in the home
directory. Only the usual one may be missing.
-/

namespace JobWatch.Configuration

/-- What is found at a path. -/
inductive FileContent where
  | missing
  | unreadable (reason : String)
  | bytes (bs : List UInt8)
  deriving Repr, DecidableEq

/-- Why a file gives no text. -/
inductive ReadFailure where
  | missing
  | unreadable (reason : String)
  | notText
  deriving Repr, DecidableEq

def ReadFailure.text : ReadFailure → String
  | missing => "No such file or directory (os error 2)"
  | unreadable reason => reason
  | notText => "stream did not contain valid UTF-8"

inductive LoadError where
  | read (path : String) (cause : ReadFailure)
  | parse (path : String)
  deriving Repr, DecidableEq

def LoadError.text : LoadError → String
  | read path cause => "failed to read config file " ++ Text.quotedPath path ++ ": " ++ cause.text
  | parse path => "failed to parse config file " ++ Text.quotedPath path ++ ": malformed text"

/-- The usual place, in a home directory. -/
def usualPath (home : String) : String := home ++ "/.batchwatch/config.ron"

def entryOf (message : String) : Journal.Entry := ⟨.debug, .configuration, message⟩

/-- Loads a file that has been looked up; tells what goes into the journal. -/
def ofFile (path : String) (required : Bool) (content : FileContent) :
    Except LoadError (Configuration × Journal.Entry) :=
  match content with
  | .missing =>
    if required then .error (.read path .missing)
    else
      .ok ({}, entryOf ("No config file at " ++ Text.quotedPath path ++
        "; only URL targets will work"))
  | .unreadable reason => .error (.read path (.unreadable reason))
  | .bytes bs =>
    match Utf8.decode? bs with
    | none => .error (.read path .notText)
    | some cs =>
      match ofChars? cs with
      | none => .error (.parse path)
      | some c => .ok (c, entryOf ("Loaded config from " ++ Text.quotedPath path))

/-- Loads the configuration. Without a home directory there is no usual place. -/
def load (explicit home : Option String) (files : String → FileContent) :
    Except LoadError (Configuration × List Journal.Entry) :=
  match explicit, home with
  | some path, _ => (ofFile path true (files path)).map fun (c, e) => (c, [e])
  | none, some home =>
    let path := usualPath home
    (ofFile path false (files path)).map fun (c, e) => (c, [e])
  | none, none => .ok ({}, [])

end JobWatch.Configuration
