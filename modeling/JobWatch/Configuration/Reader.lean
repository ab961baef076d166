import JobWatch.Configuration
import JobWatch.Configuration.Value

/-!
Reading a configuration from its text.

A structure is a list of named fields in parentheses, with its own name in front if one likes.
Fields that are not known are passed over; a known one may occur once. Of several entries under one
alias the last counts. The text may begin with attributes that switch on extensions: then options
may be written without `Some`, or structures have to be named.
-/

namespace JobWatch.Configuration

/-- What the extensions of a text change. -/
structure Extensions where
  implicitSome : Bool := false
  explicitNames : Bool := false
  deriving Repr, DecidableEq

/-- Switches on an extension; two of the four change nothing here. -/
def Extensions.enable? (x : Extensions) (n : String) : Option Extensions :=
  if n = "implicit_some" then some { x with implicitSome := true }
  else if n = "explicit_struct_names" then some { x with explicitNames := true }
  else if n = "unwrap_newtypes" ∨ n = "unwrap_variant_newtypes" then some x
  else none

/-- The names of extensions, separated by commas. `fuel` bounds their number. -/
def readNames : Nat → Extensions → Reader Extensions
  | 0, _, _ => none
  | fuel + 1, x, cs => do
    let (n, cs) ← name cs
    let x ← x.enable? n
    let (more, cs) ← comma cs
    let another := cs.head?.any isNameChar
    if another then (if more then readNames fuel x cs else none) else some (x, cs)

/-- Takes marks in order, with blanks behind each. -/
def takeMarks : List String → List Char → Option (List Char)
  | [], cs => some cs
  | w :: ws, cs =>
    if w.toList.isPrefixOf cs then (skip (cs.drop w.length)).bind (takeMarks ws) else none

/-- The attributes in front of a text. `fuel` bounds their number. -/
def readAttributes : Nat → Extensions → Reader Extensions
  | 0, _, _ => none
  | fuel + 1, x, cs =>
    if cs.head? = some '#' then do
      let cs ← takeMarks ["#", "!", "[", "enable", "("] cs
      let (x, cs) ← readNames (cs.length + 1) x cs
      let cs ← takeMarks [")", "]"] (← skip cs)
      readAttributes fuel x cs
    else some (x, cs)

/-- The name of a structure, if it is written; gives what is behind it. -/
def structureName (x : Extensions) (n : String) (cs : List Char) : Option (List Char) :=
  if cs.head?.any isNameChar then do
    let (found, rest) ← name cs
    if found = n then skip rest else none
  else if x.explicitNames then none
  else skip cs

/-- Fields in parentheses. A field is read by its name and changes what is being filled; `fuel`
bounds their number. -/
def readFields {σ : Type} (field : String → σ → Reader σ) : Nat → σ → Reader σ
  | 0, _, _ => none
  | fuel + 1, s, cs => do
    let cs ← skip cs
    match take? ')' cs with
    | some rest => some (s, rest)
    | none =>
      let (n, rest) ← name cs
      let rest ← take? ':' (← skip rest)
      let (s, rest) ← field n s (← skip rest)
      let (more, rest) ← comma rest
      if more then readFields field fuel s rest else (take? ')' rest).map (s, ·)

/-- A structure: its name, perhaps, and its fields. -/
def readStructure {σ : Type} (x : Extensions) (n : String) (field : String → σ → Reader σ)
    (start : σ) : Reader σ := fun cs => do
  let cs ← take? '(' (← structureName x n cs)
  readFields field (cs.length + 1) start cs

/-- A value that may be absent. With the extension, a value that is there needs neither its word
nor its parentheses. -/
def readOption {α : Type} (x : Extensions) (value : Reader α) : Reader (Option α) := fun cs =>
  let bare : Reader (Option α) := fun cs =>
    if x.implicitSome then (value cs).map fun (v, rest) => (some v, rest) else none
  match word? "None" cs, word? "Some" cs with
  | some rest, _ => some (none, rest)
  | none, some rest => do
    let rest ← skip rest
    match take? '(' rest with
    | some rest =>
      let (v, rest) ← value (← skip rest)
      let (_, rest) ← comma rest
      (take? ')' rest).map (some v, ·)
    | none => bare rest
  | none, none => bare cs

/-- The fields of an entry that were read. -/
structure EntryDraft where
  url : Option String := none
  timeout : Option (Option Nat) := none

/-- The depth left for values that are passed over in a field of an entry. -/
def entryBudget : Nat := depthBudget - 6

def entryField (x : Extensions) (n : String) (d : EntryDraft) : Reader EntryDraft := fun cs =>
  if n = "url" then
    if d.url.isSome then none
    else (string cs).map fun (s, rest) => ({ d with url := some s }, rest)
  else if n = "connect_timeout_secs" then
    if d.timeout.isSome then none
    else
      (readOption x natural cs).map fun (t, rest) => ({ d with timeout := some t }, rest)
  else (skipValue entryBudget cs).map (d, ·)

def readEntry (x : Extensions) : Reader AliasEntry := fun cs => do
  let (d, rest) ← readStructure x "AliasEntry" (entryField x) {} cs
  let url ← d.url
  some (⟨url, d.timeout.getD none⟩, rest)

/-- The entries of the table, up to its closing brace. `fuel` bounds their number. -/
def readEntries (x : Extensions) : Nat → Keyed AliasEntry → Reader (Keyed AliasEntry)
  | 0, _, _ => none
  | fuel + 1, table, cs => do
    let cs ← skip cs
    match take? '\x7d' cs with
    | some rest => some (table, rest)
    | none =>
      let (k, rest) ← string cs
      let rest ← take? ':' (← skip rest)
      let (entry, rest) ← readEntry x (← skip rest)
      let (more, rest) ← comma rest
      let table := table.insert k entry
      if more then readEntries x fuel table rest else (take? '\x7d' rest).map (table, ·)

/-- The depth left for values that are passed over in a field of the configuration. -/
def topBudget : Nat := depthBudget - 2

def topField (x : Extensions) (n : String) (d : Option (Keyed AliasEntry)) :
    Reader (Option (Keyed AliasEntry)) := fun cs =>
  if n = "aliases" then
    if d.isSome then none
    else do
      let cs ← take? '\x7b' cs
      let (table, rest) ← readEntries x (cs.length + 1) .empty cs
      some (some table, rest)
  else (skipValue topBudget cs).map (d, ·)

/-- Reads a whole text; blanks and comments may follow the configuration. -/
def ofChars? (cs : List Char) : Option Configuration := do
  let cs ← skip cs
  let (x, cs) ← readAttributes (cs.length + 1) {} cs
  let (aliases, rest) ← readStructure x "WatchConfig" (topField x) none cs
  if (← skip rest).isEmpty then some ⟨aliases.getD .empty⟩ else none

def ofText? (s : String) : Option Configuration := ofChars? s.toList

end JobWatch.Configuration
