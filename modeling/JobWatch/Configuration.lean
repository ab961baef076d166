import JobWatch.Endpoint
import JobWatch.Keyed
import JobWatch.Text.Blank
import JobWatch.Text.Quoted

/-!
The configuration: names for endpoints.

A target is a web address, or an alias that may be followed by a slash and anything else. An alias
stands for the address of its entry, which may set the time limit for connecting as well.
-/

namespace JobWatch

structure AliasEntry where
  url : String
  connectTimeoutSecs : Option Nat := none
  deriving Repr, DecidableEq, Inhabited

structure Configuration where
  aliases : Keyed AliasEntry := .empty
  deriving Repr, DecidableEq, Inhabited

/-- Why a target cannot be used. -/
inductive TargetError where
  | unknownAlias (name : String)
  | endpoint (target : String) (cause : AdminError)
  deriving Repr, DecidableEq

def TargetError.text : TargetError → String
  | unknownAlias name => "no alias named " ++ Text.quoted name ++ " is configured"
  | endpoint target cause => "invalid endpoint for " ++ target ++ ": " ++ cause.text

namespace Configuration

/-- The name in front of the first slash, without the blanks around it. -/
def aliasOf (target : String) : String :=
  String.ofList (Text.trim (target.toList.takeWhile (· ≠ '/')))

def isWebAddress (target : String) : Bool :=
  "http://".toList.isPrefixOf target.toList || "https://".toList.isPrefixOf target.toList

/-- The endpoint that a target stands for, hosts read with the given reader. -/
def resolveWith (readHost : Url.HostReader) (c : Configuration) (target : String) :
    Except TargetError Endpoint :=
  if isWebAddress target then (Endpoint.ofTextWith readHost target).mapError (.endpoint target)
  else
    match c.aliases.get? (aliasOf target) with
    | none => .error (.unknownAlias (aliasOf target))
    | some entry => do
      let e ← (Endpoint.ofTextWith readHost entry.url).mapError (.endpoint target)
      return { e with connectTimeoutSecs := entry.connectTimeoutSecs.getD e.connectTimeoutSecs }

def resolve (c : Configuration) (target : String) : Except TargetError Endpoint :=
  c.resolveWith Url.normalHost target

end Configuration

end JobWatch
