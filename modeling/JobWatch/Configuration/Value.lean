import JobWatch.Configuration.Token

/-!
Passing over a value in a configuration that nobody reads: numbers, characters, strings, lists,
maps, options, and structures with or without a name.

Values may nest as deep as a budget allows. A list, map or structure takes one unit of it, and each
of its items another.
-/

namespace JobWatch.Configuration

/-- The budget of a whole configuration. -/
def depthBudget : Nat := 128

def isFloatChar (c : Char) : Bool := c.isDigit || ['e', 'E', '.', '+', '-', '_'].contains c

/-- A decimal with at least one digit, and possibly an exponent. -/
def isFloatText (cs : List Char) : Bool :=
  let cs := (sign cs).2
  let whole := cs.takeWhile Char.isDigit
  let rest := cs.drop whole.length
  let (places, rest) := match rest with
    | '.' :: rest => let ds := rest.takeWhile Char.isDigit; (ds, rest.drop ds.length)
    | rest => ([], rest)
  let exponentFits := match rest with
    | [] => true
    | c :: rest =>
      let ds := (sign rest).2
      (c == 'e' || c == 'E') && !ds.isEmpty && ds.all Char.isDigit
  (!whole.isEmpty || !places.isEmpty) && exponentFits

/-- An underscore stands behind a digit or an exponent mark. -/
def underscoresFit : Bool → List Char → Bool
  | _, [] => true
  | allowed, c :: cs =>
    if c = '_' then allowed && underscoresFit allowed cs
    else if c = '.' then underscoresFit false cs
    else if c = '+' ∨ c = '-' then underscoresFit allowed cs
    else underscoresFit true cs

def skipFloat (cs : List Char) : Option (List Char) :=
  let text := cs.takeWhile isFloatChar
  let rest := cs.drop text.length
  if underscoresFit false text ∧ isFloatText (text.filter (· ≠ '_')) then
    some (((word? "f32" rest) <|> (word? "f64" rest)).getD rest)
  else none

/-- A number of any kind. It is no integer if more of it can belong to a float, and an integer that
does not fit is read as a float. -/
def skipNumber (cs : List Char) : Option (List Char) :=
  let unsigned := (sign cs).2
  let floatLength := (unsigned.takeWhile isFloatChar).length
  let integerLength := (unsigned.takeWhile isIntegerChar).length
  if floatLength > integerLength then skipFloat cs
  else ((integer IntegerKind.all cs).map (·.2)) <|> skipFloat cs

/-- A character in single quotes. -/
def skipCharacter : List Char → Option (List Char)
  | '\\' :: cs => do
    let (_, cs) ← escape cs
    take? '\'' cs
  | _ :: cs => take? '\'' cs
  | [] => none

/-- The words that are values by themselves. -/
def plainWords : List String :=
  ["true", "false", "None"] ++
    ["", "+", "-"].flatMap fun sign =>
      ["inf", "inff32", "inff64", "NaN", "NaNf32", "NaNf64"].map (sign ++ ·)

/-- How a structure goes on behind its opening parenthesis: whether its items have names. -/
def hasNames (cs : List Char) : Bool :=
  match skip cs with
  | none => false
  | some cs =>
    match name cs with
    | none => false
    | some (_, rest) => ((skip rest).bind (take? ':')).isSome

/-- Items separated by commas, up to a closing character; a comma may stand behind the last one.
`fuel` bounds their number. -/
def skipItems (item : List Char → Option (List Char)) (closing : Char) :
    Nat → List Char → Option (List Char)
  | 0, _ => none
  | fuel + 1, cs => do
    let cs ← skip cs
    match take? closing cs with
    | some rest => some rest
    | none =>
      let (more, rest) ← comma (← item cs)
      if more then skipItems item closing fuel rest else take? closing rest

/-- A value behind a key and a colon. -/
def skipEntry (value : List Char → Option (List Char)) (cs : List Char) : Option (List Char) := do
  let cs ← take? ':' (← skip (← value cs))
  value (← skip cs)

/-- A structure without a name, a list or a map, from its opening character on. -/
def skipGroup (value : List Char → Option (List Char)) (cs : List Char) : Option (List Char) :=
  match cs with
  | '(' :: rest =>
    skipItems (if hasNames rest then skipEntry value else value) ')' (rest.length + 1) rest
  | '[' :: rest => skipItems value ']' (rest.length + 1) rest
  | '\x7b' :: rest => skipItems (skipEntry value) '\x7d' (rest.length + 1) rest
  | _ => none

/-- What is behind an option that holds a value, from its opening parenthesis on. -/
def skipSome (value : List Char → Option (List Char)) (cs : List Char) : Option (List Char) := do
  let cs ← take? '(' (← skip cs)
  let (_, cs) ← comma (← value (← skip cs))
  take? ')' cs

/-- What is behind a value of any kind. -/
def skipValue : Nat → List Char → Option (List Char)
  | budget, cs =>
    match plainWords.findSome? (word? · cs) with
    | some rest => some rest
    | none =>
      match word? "Some" cs with
      | some rest =>
        match budget with
        | 0 => none
        | budget + 1 => skipSome (skipValue budget) rest
      | none =>
        let behindName := match name cs with
          | some (_, rest) => skip rest
          | none => none
        let group (cs : List Char) : Option (List Char) :=
          match budget with
          | budget + 2 => skipGroup (skipValue budget) cs
          | _ => none
        match behindName with
        | some rest => if rest.head? = some '(' then group rest else some rest
        | none =>
          match cs with
          | '(' :: ')' :: rest => some rest
          | '(' :: _ | '[' :: _ | '\x7b' :: _ => group cs
          | '"' :: _ | 'r' :: _ => (string cs).map (·.2)
          | '\'' :: rest => skipCharacter rest
          | 'b' :: '\'' :: rest => skipCharacter rest
          | 'b' :: rest => (string rest).map (·.2)
          | _ => skipNumber cs

end JobWatch.Configuration
