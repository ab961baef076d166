import JobWatch.Http.Response
import JobWatch.Text.Utf8
import JobWatch.Url

/-!
An answer as it comes over the connection, read byte by byte.

A status line and fields stand in front, each on a line, and an empty line ends them. The fields
tell how long the body is: so many bytes, chunks with their sizes, or everything until the
connection is closed. An interim answer is passed over.
-/

namespace JobWatch.Http

/-- What the next byte belongs to. -/
inductive Phase where
  | statusLine
  | fields
  /-- A body of which so many bytes are to come. -/
  | sized (left : Nat)
  | untilClose
  | chunkSize
  | chunk (left : Nat)
  | chunkEnd
  /-- The fields behind the last chunk. -/
  | trailer
  | finished
  | malformed
  deriving Repr, DecidableEq

structure Receiver where
  phase : Phase := .statusLine
  /-- The line so far, last byte first. -/
  line : List UInt8 := []
  status : Nat := 0
  length : Option Nat := none
  chunked : Bool := false
  /-- The bytes of the body that were not taken, last byte first. -/
  body : List UInt8 := []
  deriving Repr, DecidableEq, Inhabited

namespace Receiver

/-- The characters of a line, without blanks around it. -/
def lineText (r : Receiver) : List Char :=
  let isBlank (c : Char) : Bool := c = ' ' || c = '\t' || c = '\r'
  ((Utf8.decodeLossy r.line.reverse).dropWhile isBlank).reverse.dropWhile isBlank |>.reverse

/-- The number that the digits of a text make, if there are any and nothing else. -/
def number? (radix : Nat) (cs : List Char) : Option Nat :=
  if cs.isEmpty then none else Url.numberIn? radix cs

def readStatus (r : Receiver) : Receiver :=
  let rest := (r.lineText.dropWhile (· ≠ ' ')).dropWhile (· = ' ')
  match number? 10 (rest.takeWhile (· ≠ ' ')) with
  | some n =>
    if "HTTP/".toList.isPrefixOf r.lineText ∧ n < 1000 then { r with phase := .fields, status := n }
    else { r with phase := .malformed }
  | none => { r with phase := .malformed }

/-- The body begins, unless there is none. -/
def beginBody (r : Receiver) : Receiver :=
  if 100 ≤ r.status ∧ r.status < 200 then {}
  else if !(Response.mk r.status [] .complete).hasBody then { r with phase := .finished }
  else if r.chunked then { r with phase := .chunkSize }
  else
    match r.length with
    | some 0 => { r with phase := .finished }
    | some n => { r with phase := .sized n }
    | none => { r with phase := .untilClose }

def readField (r : Receiver) : Receiver :=
  let text := r.lineText
  if text.isEmpty then r.beginBody
  else
    let name := (text.takeWhile (· ≠ ':')).map Char.toLower
    let value := ((text.drop (name.length + 1)).dropWhile (· = ' ')).map Char.toLower
    if name = "content-length".toList then
      match number? 10 value with
      | some n => { r with length := some n }
      | none => { r with phase := .malformed }
    else if name = "transfer-encoding".toList then
      { r with chunked := "chunked".toList.isSuffixOf value }
    else r

def readChunkSize (r : Receiver) : Receiver :=
  let digits := r.lineText.takeWhile fun c => c ≠ ';' ∧ c ≠ ' '
  match number? 16 digits with
  | some 0 => { r with phase := .trailer }
  | some n => { r with phase := .chunk n }
  | none => { r with phase := .malformed }

/-- A whole line was read. -/
def endLine (r : Receiver) : Receiver :=
  let read := match r.phase with
    | .statusLine => r.readStatus
    | .fields => r.readField
    | .chunkSize => r.readChunkSize
    | .chunkEnd => { r with phase := if r.lineText.isEmpty then .chunkSize else .malformed }
    | .trailer => if r.lineText.isEmpty then { r with phase := .finished } else r
    | _ => r
  { read with line := [] }

/-- Takes a byte. -/
def step (r : Receiver) (b : UInt8) : Receiver :=
  match r.phase with
  | .statusLine | .fields | .chunkSize | .chunkEnd | .trailer =>
    if b = 0x0A then r.endLine else { r with line := b :: r.line }
  | .sized n => { r with body := b :: r.body, phase := if n ≤ 1 then .finished else .sized (n - 1) }
  | .chunk n => { r with body := b :: r.body, phase := if n ≤ 1 then .chunkEnd else .chunk (n - 1) }
  | .untilClose => { r with body := b :: r.body }
  | .finished | .malformed => r

def feed (r : Receiver) (bs : List UInt8) : Receiver := bs.foldl step r

/-- Takes out what has come of the body. -/
def takeBody (r : Receiver) : Receiver × List UInt8 := ({ r with body := [] }, r.body.reverse)

/-- Whether status and fields are complete. -/
def hasHead (r : Receiver) : Bool :=
  match r.phase with
  | .statusLine | .fields | .malformed => false
  | _ => true

def isFinished (r : Receiver) : Bool := r.phase = .finished

/-- How the body ends if the connection is closed now. -/
def ending (r : Receiver) : Ending :=
  match r.phase with
  | .finished | .untilClose => .complete
  | _ => .broken

/-- The answer when the connection is closed; nothing if it did not get as far as a body. -/
def response? (r : Receiver) : Option Response :=
  if r.hasHead then some ⟨r.status, r.body.reverse, r.ending⟩ else none

end Receiver

/-- The text of a request that asks for a URL and closes the connection afterwards. -/
def requestText (u : Url) : String :=
  let port := match u.port with
    | some n => ":" ++ toString n
    | none => ""
  "GET " ++ String.ofList u.target ++ " HTTP/1.1\r\n" ++
    "Host: " ++ String.ofList u.host ++ port ++ "\r\n" ++
    "Accept: */*\r\nConnection: close\r\n\r\n"

end JobWatch.Http
