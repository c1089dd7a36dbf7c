import LabelRaster.Decimal.Leading
import LabelRaster.Json.Fault

/-!
# Reading JSON

A `Reader` takes a value off the front of a text. Readers say what they want, so
that a value of another kind is reported where it stands; what is not wanted at
all is passed over by `skip`, at any depth of nesting and without being decoded.

Numbers are read in 64 bits. An integer that fits is exact; every other number is
its leading digits, as far as they fit, as a float, scaled by a power of ten.
-/

namespace LabelRaster.Json

/-- Takes a value off the front of a text. -/
abbrev Reader := StateT (List Char) (Except Fault)

/-- Fails with a mismatch. -/
def mismatch (m : Mismatch) : Reader α := throw (.mismatch m)

/-- The blanks between the parts of a JSON text. -/
def isBlank (c : Char) : Bool := c == ' ' || c == '\n' || c == '\t' || c == '\r'

/-- The next character after blanks, which are dropped; the character itself stays. -/
def peek : Reader Char := do
  let rest := (← get).dropWhile isBlank
  set rest
  match rest with
  | [] => throw .cut
  | c :: _ => return c

/-- Drops one character. -/
def drop : Reader Unit := modify List.tail

/-- Takes the rest of a word whose first character has been taken. -/
def word : List Char → Reader Unit
  | [] => return
  | c :: cs => do
    match ← get with
    | [] => throw .cut
    | d :: rest =>
      set rest
      if d = c then word cs else throw .malformed

/-! ## Strings -/

/-- Where in a string its reader stands. -/
inductive Place where
  | plain
  /-- After a backslash. -/
  | escape
  /-- In a character given by its number: the digits that are left, the number so far and the
  first half of a pair. -/
  | number (left value : Nat) (high : Option Nat)
  /-- After the first half of a pair. -/
  | half (high : Nat)
  /-- After the first half of a pair and a backslash. -/
  | halfEscape (high : Nat)

/-- The value of a hexadecimal digit. -/
def hexValue? (c : Char) : Option Nat :=
  if c.isDigit then some (c.toNat - '0'.toNat)
  else if 'a' ≤ c ∧ c ≤ 'f' then some (c.toNat - 'a'.toNat + 10)
  else if 'A' ≤ c ∧ c ≤ 'F' then some (c.toNat - 'A'.toNat + 10)
  else none

/-- The character of a one-letter escape. -/
def escaped? : Char → Option Char
  | '"' => some '"'
  | '\\' => some '\\'
  | '/' => some '/'
  | 'b' => some '\x08'
  | 'f' => some '\x0c'
  | 'n' => some '\n'
  | 'r' => some '\r'
  | 't' => some '\t'
  | _ => none

/-- What a finished number in a string stands for: a character, or the first half of a pair. -/
def ofNumber (high : Option Nat) (n : Nat) : Except Fault (Char ⊕ Nat) :=
  match high with
  | none =>
    if 0xd800 ≤ n ∧ n ≤ 0xdbff then .ok (.inr n)
    else if 0xdc00 ≤ n ∧ n ≤ 0xdfff then .error .malformed
    else .ok (.inl (Char.ofNat n))
  | some h =>
    if 0xdc00 ≤ n ∧ n ≤ 0xdfff then
      .ok (.inl (Char.ofNat (0x10000 + (h - 0xd800) * 0x400 + (n - 0xdc00))))
    else .error .malformed

/-- The number of bytes of some characters. -/
def byteCount (cs : List Char) : Nat := (cs.map Char.utf8Size).foldr (· + ·) 0

/-- The rest of a string after its opening quote: its characters, after those `read` so far, last
first, and what follows its closing quote. If `decode` is not set, the numbers of characters are
taken as they come. -/
def stringFrom (decode : Bool) (place : Place) (read : List Char) :
    List Char → Except Fault (List Char × List Char)
  | [] => .error .cut
  | c :: rest =>
    match place with
    | .plain =>
      if c = '"' then .ok (read.reverse, rest)
      else if c = '\\' then stringFrom decode .escape read rest
      else if c.toNat < 0x20 then .error .malformed
      else stringFrom decode .plain (c :: read) rest
    | .escape =>
      if c = 'u' then stringFrom decode (.number 4 0 none) read rest
      else match escaped? c with
        | some e => stringFrom decode .plain (e :: read) rest
        | none => .error .malformed
    | .number left value high =>
      match hexValue? c with
      | none => .error (if byteCount ((c :: rest).take left) < left then .cut else .malformed)
      | some d =>
        let n := 16 * value + d
        if 1 < left then stringFrom decode (.number (left - 1) n high) read rest
        else if !decode then stringFrom decode .plain read rest
        else match ofNumber high n with
          | .ok (.inl e) => stringFrom decode .plain (e :: read) rest
          | .ok (.inr h) => stringFrom decode (.half h) read rest
          | .error f => .error f
    | .half h =>
      if c = '\\' then stringFrom decode (.halfEscape h) read rest else .error .malformed
    | .halfEscape h =>
      if c = 'u' then stringFrom decode (.number 4 0 (some h)) read rest else .error .malformed

/-- A string whose opening quote is next. -/
def string : Reader String := do
  drop
  let (cs, rest) ← liftM (stringFrom true .plain [] (← get))
  set rest
  return String.ofList cs

/-- Passes over a string whose opening quote is next. -/
def skipString : Reader Unit := do
  drop
  let (_, rest) ← liftM (stringFrom false .plain [] (← get))
  set rest

/-! ## Numbers -/

/-- A number: an integer as long as it fits into 64 bits. -/
inductive Number where
  | integer (n : Int)
  | float (x : Float)

/-- What a number is where something else was wanted. -/
def Number.found : Number → Found
  | integer n => .integer n
  | float x => .float x

/-- A number as a float. -/
def Number.toFloat : Number → Float
  | integer n => Float.ofInt n
  | float x => x

/-- The largest significand. -/
def maxSignificand : Nat := 18446744073709551615

/-- Appends digits to a significand while it fits; the number of digits that are left. -/
def extend (significand : Nat) : List Char → Nat × Nat
  | [] => (significand, 0)
  | c :: cs =>
    let n := 10 * significand + Decimal.digitValue c
    if maxSignificand < n then (significand, cs.length + 1) else extend n cs

/-- The float nearest to a power of ten. -/
def powerOfTen (n : Nat) : Float := Float.ofScientific 1 false n

/-- The largest exponent of a power of ten that is a float. -/
def maxPower : Nat := 308

/-- A float divided by a power of ten, in at most `steps` divisions by the largest one before the
last. -/
def shrink (steps : Nat) (x : Float) (exponent : Nat) : Float :=
  match steps with
  | 0 => x
  | steps + 1 =>
    if exponent ≤ maxPower then x / powerOfTen exponent
    else shrink steps (x / powerOfTen maxPower) (exponent - maxPower)

/-- The float of a significand and a power of ten; a number beyond all floats is no JSON. -/
def scaled (negative : Bool) (significand : Nat) (exponent : Int) : Except Fault Float :=
  let x := Float.ofNat significand
  let sign (y : Float) : Float := if negative then -y else y
  if exponent < 0 then .ok (sign (shrink 3 x (-exponent).toNat))
  else if significand = 0 then .ok (sign x)
  else if maxPower < exponent.toNat then .error .malformed
  else
    let y := x * powerOfTen exponent.toNat
    if y.isInf then .error .malformed else .ok (sign y)

/-- The digits that are next. -/
def digits : Reader (List Char) := do
  let cs ← get
  set (cs.dropWhile Char.isDigit)
  return cs.takeWhile Char.isDigit

/-- Digits of which there must be one. -/
def someDigits : Reader (List Char) := do
  match ← get with
  | [] => throw .cut
  | c :: _ => if c.isDigit then digits else throw .malformed

/-- The largest exponent that can be written. -/
def maxExponent : Nat := 2147483647

/-- An exponent, after its letter, and the float that it completes. -/
def exponentPart (negative : Bool) (significand : Nat) (exponent : Int) : Reader Float := do
  let positive ← match ← get with
    | '-' :: _ => do drop; pure false
    | '+' :: _ => do drop; pure true
    | _ => pure true
  let ds ← someDigits
  let e : Int := Decimal.cappedValue (maxExponent + 1) ds
  if (maxExponent : Int) < e then
    if significand ≠ 0 ∧ positive then throw .malformed
    else return if negative then -0.0 else 0.0
  else liftM (scaled negative significand (if positive then exponent + e else exponent - e))

/-- What follows the digits before the point, if anything does, and the number that it completes;
`dropped` digits did not fit. -/
def fractionPart (negative : Bool) (significand dropped : Nat) : Reader Number := do
  match ← get with
  | '.' :: _ =>
    drop
    let ds ← someDigits
    let (significand', left) := extend significand ds
    let exponent : Int := (dropped : Int) - (ds.length - left : Nat)
    match ← get with
    | 'e' :: _ | 'E' :: _ => do
      drop
      .float <$> exponentPart negative significand' exponent
    | _ => .float <$> liftM (scaled negative significand' exponent)
  | 'e' :: _ | 'E' :: _ => do
    drop
    .float <$> exponentPart negative significand dropped
  | _ =>
    if 0 < dropped then .float <$> liftM (scaled negative significand dropped)
    else if !negative then return .integer significand
    else if significand = 0 ∨ Nat.pow 2 63 < significand then return .float (-(Float.ofNat significand))
    else return .integer (-significand)

/-- A number, of which a sign or digit is next. -/
def number : Reader Number := do
  let negative ← match ← get with
    | '-' :: _ => do drop; pure true
    | _ => pure false
  let ds ← someDigits
  match ds with
  | '0' :: _ :: _ => throw .malformed
  | _ =>
    let (significand, dropped) := extend 0 ds
    fractionPart negative significand dropped

/-- Passes over digits of which there must be one. -/
def skipDigits : Reader Unit := do
  match ← digits with
  | [] => throw .malformed
  | _ :: _ => return

/-- Passes over a number, of which a sign or digit is next. -/
def skipNumber : Reader Unit := do
  match ← get with
  | '-' :: _ => drop
  | _ => pure ()
  match ← digits with
  | [] => throw .malformed
  | '0' :: _ :: _ => throw .malformed
  | _ => pure ()
  match ← get with
  | '.' :: _ => do drop; skipDigits
  | _ => pure ()
  match ← get with
  | 'e' :: _ | 'E' :: _ =>
    drop
    match ← get with
    | '+' :: _ | '-' :: _ => drop
    | _ => pure ()
    skipDigits
  | _ => pure ()

/-! ## Values of a wanted kind -/

/-- Reports the next value, which is not what was wanted. -/
def unexpected (wanted : String) : Reader α := do
  match ← peek with
  | 'n' => do drop; word ['u', 'l', 'l']; mismatch (.kind .null wanted)
  | 't' => do drop; word ['r', 'u', 'e']; mismatch (.kind (.bool true) wanted)
  | 'f' => do drop; word ['a', 'l', 's', 'e']; mismatch (.kind (.bool false) wanted)
  | '"' => do mismatch (.kind (.string (← string)) wanted)
  | '[' => mismatch (.kind .array wanted)
  | '\x7b' => mismatch (.kind .object wanted)
  | c =>
    if c = '-' ∨ c.isDigit then do mismatch (.kind (← number).found wanted)
    else throw .malformed

/-- A number. -/
def anyNumber (wanted : String) : Reader Number := do
  let c ← peek
  if c = '-' ∨ c.isDigit then number else unexpected wanted

/-- A natural number up to `greatest`. -/
def natural (greatest : Nat) (wanted : String) : Reader Nat := do
  match ← anyNumber wanted with
  | .integer n =>
    if 0 ≤ n ∧ n ≤ greatest then return n.toNat else mismatch (.range n wanted)
  | .float x => mismatch (.kind (.float x) wanted)

/-- A number, as a float. -/
def float (wanted : String) : Reader Float := do return (← anyNumber wanted).toFloat

/-- A truth value. -/
def bool (wanted : String) : Reader Bool := do
  match ← peek with
  | 't' => do drop; word ['r', 'u', 'e']; return true
  | 'f' => do drop; word ['a', 'l', 's', 'e']; return false
  | _ => unexpected wanted

/-- A null. -/
def null (wanted : String) : Reader Unit := do
  match ← peek with
  | 'n' => do drop; word ['u', 'l', 'l']
  | _ => unexpected wanted

/-- A null or what `read` reads. -/
def nullable (read : Reader α) : Reader (Option α) := do
  match ← peek with
  | 'n' => do drop; word ['u', 'l', 'l']; return none
  | _ => some <$> read

/-! ## Arrays and objects -/

/-- Whether an array goes on; `first` tells that no item has been read. -/
def moreItems (first : Bool) : Reader Bool := do
  match ← peek with
  | ']' => return false
  | c =>
    if first then return true
    else if c = ',' then
      drop
      if (← peek) = ']' then throw .malformed else return true
    else throw .malformed

/-- The end of an array. -/
def endArray : Reader Unit := do
  if (← peek) = ']' then drop else throw .malformed

/-- The name of the next member of an object, if there is one. -/
def memberName? (first : Bool) : Reader (Option String) := do
  match ← peek with
  | '\x7d' => do drop; return none
  | c =>
    if first then
      if c = '"' then some <$> string else throw .malformed
    else if c = ',' then
      drop
      if (← peek) = '"' then some <$> string else throw .malformed
    else throw .malformed

/-- The colon after a name. -/
def colon : Reader Unit := do
  if (← peek) = ':' then drop else throw .malformed

/-- The members of an object after its opening brace, at most `fuel` of them: `member` takes each
one, given its name and what the ones before it have made. -/
def members (member : α → String → Reader α) : Nat → Bool → α → Reader α
  | 0, _, _ => throw .malformed
  | fuel + 1, first, a => do
    match ← memberName? first with
    | none => return a
    | some name => members member fuel false (← member a name)

/-- What the members of an object make in turn, after its opening brace. A text has fewer members
than characters. -/
def object (member : α → String → Reader α) (a : α) : Reader α := do
  members member ((← get).length + 1) true a

/-! ## Values that are not wanted -/

/-- An array or object that has been opened. -/
inductive Frame where
  | array
  | object
deriving DecidableEq

/-- The character that closes an array or object. -/
def Frame.closing : Frame → Char
  | array => ']'
  | object => '\x7d'

/-- What comes next in a value that is passed over. -/
inductive Next where
  | value
  /-- The first item or the end of what was opened last. -/
  | first
  /-- A comma or the end of what was opened last. -/
  | comma

/-- Passes over a value that opens nothing and starts with `c`. -/
def skipScalar (c : Char) : Reader Unit :=
  match c with
  | 'n' => do drop; word ['u', 'l', 'l']
  | 't' => do drop; word ['r', 'u', 'e']
  | 'f' => do drop; word ['a', 'l', 's', 'e']
  | '"' => skipString
  | c => if c = '-' ∨ c.isDigit then skipNumber else throw .malformed

/-- Passes over the name of a member, if items have one. -/
def skipName : Frame → Reader Unit
  | .array => return
  | .object => do
    if (← peek) = '"' then skipString else throw .malformed
    colon

/-- Passes over what is left of a value, in at most `fuel` steps; `frames` have been opened, the
last one first. -/
def skipFrom : Nat → List Frame → Next → Reader Unit
  | 0, _, _ => throw .malformed
  | _ + 1, [], .comma => return
  | fuel + 1, frames, .value => do
    match ← peek with
    | '[' => do drop; skipFrom fuel (.array :: frames) .first
    | '\x7b' => do drop; skipFrom fuel (.object :: frames) .first
    | c => do skipScalar c; skipFrom fuel frames .comma
  | fuel + 1, frame :: frames, .first => do
    if (← peek) = frame.closing then
      drop
      skipFrom fuel frames .comma
    else
      skipName frame
      skipFrom fuel (frame :: frames) .value
  | fuel + 1, frame :: frames, .comma => do
    let c ← peek
    if c = frame.closing then
      drop
      skipFrom fuel frames .comma
    else if c = ',' then
      drop
      skipName frame
      skipFrom fuel (frame :: frames) .value
    else throw .malformed
  | _ + 1, [], .first => throw .malformed

/-- Passes over a value. Every second step takes a character at least. -/
def skip : Reader Unit := do skipFrom (2 * (← get).length + 2) [] .value

/-- Reads a text that holds one value and nothing else but blanks. -/
def parse (read : Reader α) (s : String) : Except Fault α := do
  let (a, rest) ← read.run s.toList
  if rest.all isBlank then return a else throw .malformed

end LabelRaster.Json
