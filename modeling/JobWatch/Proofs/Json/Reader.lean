import JobWatch.Json.Reader
import Mathlib.Tactic.Lemma
import Mathlib.Tactic.Tauto

/-!
The readers, one step at a time: what is done with each byte of a string, with what follows the
digits of a number, and with the first byte of a value.
-/

namespace JobWatch.Json

/-! ### Strings -/

/-- The byte that a letter stands for after a backslash. -/
def shortEscape? (x : UInt8) : Option UInt8 :=
  if x = quote ∨ x = backslash ∨ x = 0x2F then some x
  else if x = 0x62 then some 0x08
  else if x = 0x66 then some 0x0C
  else if x = 0x6E then some 0x0A
  else if x = 0x72 then some 0x0D
  else if x = 0x74 then some 0x09
  else none

lemma readEscape_short {x : UInt8} (hx : x ≠ letterU) (bs : List UInt8) :
    readEscape (x :: bs) =
      match shortEscape? x with
      | some c => .ok ([c], bs)
      | none => .error .malformed := by
  unfold readEscape shortEscape?
  split
  · next h => simp at h
  · next h => simp_all
  · next h =>
    simp only [List.cons.injEq] at h
    obtain ⟨rfl, rfl⟩ := h
    repeat' split
    all_goals simp_all

/-- The escape of a number below the surrogates. -/
lemma readEscape_unicode {bs rest : List UInt8} {n : Nat} (h : readHex bs = .ok (n, rest))
    (hn : n < 0xD800) :
    readEscape (letterU :: bs) = .ok (String.utf8EncodeChar (Char.ofNat n), rest) := by
  have hdef : readEscape (letterU :: bs) = readHex bs >>= fun p =>
      if 0xDC00 ≤ p.1 ∧ p.1 ≤ 0xDFFF then .error .malformed
      else if 0xD800 ≤ p.1 ∧ p.1 ≤ 0xDBFF then
        readLowSurrogate p.2 >>= fun q =>
          .ok (String.utf8EncodeChar
            (Char.ofNat (0x10000 + (p.1 - 0xD800) * 0x400 + (q.1 - 0xDC00))), q.2)
      else .ok (String.utf8EncodeChar (Char.ofNat p.1), p.2) := rfl
  rw [hdef, h]
  simp only [bind, Except.bind]
  rw [if_neg (by omega), if_neg (by omega)]

lemma readStringBytes_nil : readStringBytes [] = .error .truncated := by
  rw [readStringBytes]

lemma readStringBytes_quote (bs : List UInt8) : readStringBytes (quote :: bs) = .ok ([], bs) := by
  rw [readStringBytes, if_pos rfl]

lemma readStringBytes_escape {bs out rest : List UInt8} (h : readEscape bs = .ok (out, rest)) :
    readStringBytes (backslash :: bs) =
      readStringBytes rest >>= fun p => .ok (out ++ p.1, p.2) := by
  rw [readStringBytes, if_neg (by decide), if_pos rfl]
  split <;> simp_all

lemma readStringBytes_escape_error {bs : List UInt8} {f : Fault} (h : readEscape bs = .error f) :
    readStringBytes (backslash :: bs) = .error f := by
  rw [readStringBytes, if_neg (by decide), if_pos rfl]
  split <;> simp_all

lemma readStringBytes_control {x : UInt8} (hx : x < 0x20) (bs : List UInt8) :
    readStringBytes (x :: bs) = .error .malformed := by
  have hq : x ≠ quote := by rintro rfl; exact absurd hx (by decide)
  have hs : x ≠ backslash := by rintro rfl; exact absurd hx (by decide)
  rw [readStringBytes, if_neg hq, if_neg hs, if_pos hx]

/-- A byte that stands for itself. -/
def IsPlain (x : UInt8) : Prop := x ≠ quote ∧ x ≠ backslash ∧ ¬ x < 0x20

lemma readStringBytes_plain {x : UInt8} (hx : IsPlain x) (bs : List UInt8) :
    readStringBytes (x :: bs) = readStringBytes bs >>= fun p => .ok (x :: p.1, p.2) := by
  rw [readStringBytes, if_neg hx.1, if_neg hx.2.1, if_neg hx.2.2]

/-- Every byte of a string closes it, begins an escape, is refused, or stands for itself. -/
lemma stringByte_cases (x : UInt8) : x = quote ∨ x = backslash ∨ x < 0x20 ∨ IsPlain x := by
  unfold IsPlain
  tauto

/-! ### Numbers -/

/-- What is read of a number behind its point. -/
def readFraction (negative : Bool) (s dropped : Nat) (bs : List UInt8) :
    Except Fault (Tree × List UInt8) :=
  let fs := bs.takeWhile isDigit
  let rest := bs.dropWhile isDigit
  if fs.isEmpty then .error (faultAt rest)
  else finishFloat negative (takeDigits s fs).1 ((dropped : Int) - (takeDigits s fs).2) rest

/-- The number of an integer literal, or a float if 64 bits do not hold it. -/
def integerTree (negative : Bool) (s dropped : Nat) (bs : List UInt8) :
    Except Fault (Tree × List UInt8) :=
  if dropped > 0 then floatTree negative s dropped bs
  else if !negative then .ok (.int s, bs)
  else if 0 < s ∧ s ≤ 0x8000000000000000 then .ok (.int (-(s : Int)), bs)
  else floatTree true s 0 bs

/-- What is read of a number behind the digits of its integer part. -/
def readMagnitudeRest (negative : Bool) (s dropped : Nat) (bs : List UInt8) :
    Except Fault (Tree × List UInt8) :=
  match bs with
  | point :: rest => readFraction negative s dropped rest
  | letterE :: _ | capitalE :: _ => finishFloat negative s dropped bs
  | _ => integerTree negative s dropped bs

lemma readMagnitude_eq (negative : Bool) (bs : List UInt8) :
    readMagnitude negative bs =
      let ds := bs.takeWhile isDigit
      if ds.isEmpty then .error (faultAt (bs.dropWhile isDigit))
      else if ds.head? = some 0x30 ∧ ds.length > 1 then .error .malformed
      else readMagnitudeRest negative (takeDigits 0 ds).1 (ds.length - (takeDigits 0 ds).2)
        (bs.dropWhile isDigit) := rfl

lemma readMagnitudeRest_other {x : UInt8} (hp : x ≠ point) (he : x ≠ letterE) (hc : x ≠ capitalE)
    (negative : Bool) (s dropped : Nat) (bs : List UInt8) :
    readMagnitudeRest negative s dropped (x :: bs) = integerTree negative s dropped (x :: bs) := by
  rw [readMagnitudeRest]
  all_goals simpa

lemma readNumber_minus (bs : List UInt8) : readNumber (minus :: bs) = readMagnitude true bs := rfl

lemma readNumber_unsigned {x : UInt8} (hm : x ≠ minus) (bs : List UInt8) :
    readNumber (x :: bs) = readMagnitude false (x :: bs) := by
  rw [readNumber]
  simpa using hm

/-! ### Values -/

/-- A token as a reading. -/
def Reading.ofToken : Except Fault (Tree × List UInt8) → Reading Tree
  | .ok (t, rest) => (t, .ok rest)
  | .error f => .stop f

/-- The readings of an array or an object by their first byte; none is as deep as it could be. -/
def readNested (depth : Nat) (b : UInt8) (rest : List UInt8) : Reading Tree :=
  match depth with
  | 0 => .stop .malformed
  | depth + 1 =>
    if b = openBracket then readArray (read depth) rest else readObject (read depth) rest

lemma read_eq (depth : Nat) (bs : List UInt8) :
    read depth bs =
      match skipBlanks bs with
      | [] => .stop .truncated
      | b :: rest =>
        if b = openBracket ∨ b = openBrace then readNested depth b rest
        else .ofToken (readScalar (b :: rest)) := by
  unfold read
  rcases skipBlanks bs with _ | ⟨b, rest⟩
  · rfl
  · dsimp only
    split
    · cases depth <;> rfl
    · rcases readScalar (b :: rest) with f | ⟨t, rest⟩ <;> rfl

/-- A document decodes if it is read to its end, decodes, and only blanks follow. -/
lemma decodeDocument_eq_ok {α : Type} {decode : Tree → Except Fault α} {bs : List UInt8} {x : α} :
    decodeDocument decode bs = .ok x ↔
      ∃ t rest, read maxDepth bs = (t, .ok rest) ∧ decode t = .ok x ∧ skipBlanks rest = [] := by
  unfold decodeDocument
  rcases read maxDepth bs with ⟨t, out⟩
  dsimp only
  constructor
  · intro h
    rcases hx : decode t with f | y
    · simp [hx, bind, Except.bind] at h
    · rcases out with f | rest
      · simp [hx, bind, Except.bind] at h
      · rcases hs : skipBlanks rest with _ | ⟨b, more⟩
        · simp only [hx, hs, bind, Except.bind, List.isEmpty_nil, if_true] at h
          exact ⟨t, rest, rfl, by rw [hx, h], hs⟩
        · simp [hx, hs, bind, Except.bind] at h
  · rintro ⟨t', rest, ht, hx, hs⟩
    simp only [Prod.mk.injEq] at ht
    obtain ⟨rfl, rfl⟩ := ht
    simp [hx, hs, bind, Except.bind]

end JobWatch.Json
