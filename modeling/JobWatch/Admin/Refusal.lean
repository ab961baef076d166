import JobWatch.Admin.Error
import JobWatch.Http.Response
import JobWatch.Json.Skip

/-!
Refusals of the admin service: an answer that is no success.

Its body may tell a code and a message, as the members `Code` and `Message` of an object or as the
items of an array. The code is required; the message may be left out. Other members are passed over.
A body of another form says nothing, and only the status counts.
-/

namespace JobWatch

structure Refusal where
  code : String
  message : String
  deriving Repr, DecidableEq

namespace Refusal

open Json

/-- The members seen so far. -/
structure Draft where
  code : Option String := none
  message : Option String := none

/-- A string, after blanks. -/
def readText (bs : List UInt8) : Option (String × List UInt8) :=
  match skipBlanks bs with
  | quote :: rest => (readString rest).toOption
  | _ => none

/-- The value of a member; one of the two known members may occur once. -/
def readMember (d : Draft) (name : String) (bs : List UInt8) : Option (Draft × List UInt8) :=
  if name = "Code" then
    if d.code.isSome then none
    else (readText bs).map fun (s, rest) => ({ d with code := some s }, rest)
  else if name = "Message" then
    if d.message.isSome then none
    else (readText bs).map fun (s, rest) => ({ d with message := some s }, rest)
  else (skip bs).map fun rest => (d, rest)

/-- The members of an object, from the first name on. `fuel` bounds their number. -/
def readMembers : Nat → Draft → List UInt8 → Option (Draft × List UInt8)
  | 0, _, _ => none
  | fuel + 1, d, bs => do
    let (name, rest) ← readText bs
    match skipBlanks rest with
    | colon :: rest =>
      let (d, rest) ← readMember d name rest
      match skipBlanks rest with
      | closeBrace :: rest => some (d, rest)
      | comma :: rest => readMembers fuel d rest
      | _ => none
    | _ => none

/-- The items of an array: a code, or a code and a message. -/
def readItems (bs : List UInt8) : Option (Draft × List UInt8) := do
  let (code, rest) ← readText bs
  match skipBlanks rest with
  | closeBracket :: rest => some ({ code }, rest)
  | comma :: rest =>
    let (message, rest) ← readText rest
    match skipBlanks rest with
    | closeBracket :: rest => some ({ code, message }, rest)
    | _ => none
  | _ => none

/-- Reads the body of a refusal. -/
def ofBytes? (bs : List UInt8) : Option Refusal := do
  let (d, rest) ← match skipBlanks bs with
    | openBrace :: rest => readMembers (rest.length + 1) {} rest
    | openBracket :: rest => readItems rest
    | _ => none
  let code ← d.code
  if (skipBlanks rest).isEmpty then some ⟨code, d.message.getD ""⟩ else none

end Refusal

/-- The error of an answer that is no success. A body that breaks off counts as empty. -/
def AdminError.ofResponse (r : Http.Response) : AdminError :=
  match Refusal.ofBytes? (if r.ending = .broken then [] else r.body) with
  | some e =>
    if e.code = AdminError.noSuchJobCode then ⟨.noSuchJob, e.message⟩
    else ⟨.api r.status e.code, e.message⟩
  | none => ⟨.httpStatus r.status, Http.statusText r.status⟩

end JobWatch
