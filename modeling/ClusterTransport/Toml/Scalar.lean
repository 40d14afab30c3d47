import ClusterTransport.Decimal.Reader
import ClusterTransport.Json.Basic

/-!
# TOML scalars

Strings, numbers, truth values and dates of a TOML document. Dates become texts in one normal form.
-/

namespace ClusterTransport.Toml

open Text

/-- Whether a character may stand in a string or a comment on one line. -/
def isVisible (c : Char) : Bool :=
  c == '\t' || (decide (0x20 ≤ c.toNat) && c.toNat != 0x7F)

def dropLineEnd : List Char → Option (List Char)
  | '\n' :: s => some s
  | '\r' :: '\n' :: s => some s
  | _ => none

def readHex (n : Nat) (s : List Char) : Option (Nat × List Char) :=
  let digits := s.take n
  if digits.length = n then
    (digits.foldlM (fun v c => (Numeral.hexDigit? c).map fun d => v * 16 + d) 0).map fun v =>
      (v, s.drop n)
  else none

/-- The character of a code point, unless it is a surrogate or out of range. -/
def charOf? (n : Nat) : Option Char :=
  if n.isValidChar then some (Char.ofNat n) else none

def readEscape : List Char → Option (Char × List Char)
  | 'b' :: s => some ('\x08', s)
  | 't' :: s => some ('\t', s)
  | 'n' :: s => some ('\n', s)
  | 'f' :: s => some ('\x0C', s)
  | 'r' :: s => some ('\r', s)
  | 'e' :: s => some ('\x1B', s)
  | '"' :: s => some ('"', s)
  | '\\' :: s => some ('\\', s)
  | 'x' :: s => (readHex 2 s).bind fun r => (charOf? r.1).map fun c => (c, r.2)
  | 'u' :: s => (readHex 4 s).bind fun r => (charOf? r.1).map fun c => (c, r.2)
  | 'U' :: s => (readHex 8 s).bind fun r => (charOf? r.1).map fun c => (c, r.2)
  | _ => none

def readBasic : Nat → List Char → List Char → Option (String × List Char)
  | 0, _, _ => none
  | _ + 1, _, [] => none
  | _ + 1, done, '"' :: s => some (String.ofList done.reverse, s)
  | fuel + 1, done, '\\' :: s =>
    match readEscape s with
    | some (c, rest) => readBasic fuel (c :: done) rest
    | none => none
  | fuel + 1, done, c :: s => if isVisible c then readBasic fuel (c :: done) s else none

def readLiteral : List Char → List Char → Option (String × List Char)
  | _, [] => none
  | done, '\'' :: s => some (String.ofList done.reverse, s)
  | done, c :: s => if isVisible c then readLiteral (c :: done) s else none

/-- The number of `quote` characters in front, up to five. -/
def quotesInFront (quote : Char) (s : List Char) : Nat :=
  ((s.take 5).takeWhile (· == quote)).length

def dropBlankLines : List Char → List Char
  | ' ' :: s => dropBlankLines s
  | '\t' :: s => dropBlankLines s
  | '\n' :: s => dropBlankLines s
  | '\r' :: '\n' :: s => dropBlankLines s
  | s => s

def endsLine (s : List Char) : Bool :=
  (dropLineEnd (s.dropWhile fun c => c == ' ' || c == '\t')).isSome

/-- Reads the rest of a string of several lines, whose line ends stay as they are written;
`escapes` tells a basic one. -/
def readLong (escapes : Bool) (quote : Char) : Nat → List Char → List Char →
    Option (String × List Char)
  | 0, _, _ => none
  | _ + 1, _, [] => none
  | fuel + 1, done, c :: s =>
    if c = quote then
      let n := quotesInFront quote (c :: s)
      if 3 ≤ n then
        some (String.ofList (List.replicate (n - 3) quote ++ done).reverse, (c :: s).drop n)
      else readLong escapes quote fuel (quote :: done) s
    else if c = '\\' && escapes then
      if endsLine s then readLong escapes quote fuel done (dropBlankLines s)
      else
        match readEscape s with
        | some (d, rest) => readLong escapes quote fuel (d :: done) rest
        | none => none
    else if isVisible c || (dropLineEnd (c :: s)).isSome then
      readLong escapes quote fuel (c :: done) s
    else none

def readString (s : List Char) : Option (String × List Char) :=
  match s with
  | '"' :: '"' :: '"' :: rest =>
    let rest := (dropLineEnd rest).getD rest
    readLong true '"' (rest.length + 1) [] rest
  | '\'' :: '\'' :: '\'' :: rest =>
    let rest := (dropLineEnd rest).getD rest
    readLong false '\'' (rest.length + 1) [] rest
  | '"' :: rest => readBasic (rest.length + 1) [] rest
  | '\'' :: rest => readLiteral [] rest
  | _ => none

/-- Digits of a base with underscores between them, without the underscores. -/
def plainDigits (isDigit : Char → Bool) : List Char → Option (List Char)
  | [] => none
  | [c] => if isDigit c then some [c] else none
  | c :: '_' :: s => if isDigit c then (plainDigits isDigit s).map fun r => c :: r else none
  | c :: s => if isDigit c then (plainDigits isDigit s).map fun r => c :: r else none

def isDecimal (c : Char) : Bool :=
  (Numeral.digit? c).isSome

def isDigitOf (base : Nat) (c : Char) : Bool :=
  (Numeral.hexDigit? c).any fun d => decide (d < base)

/-- An integer of 64 bits in a base, after its mark. -/
def readInBase (base : Nat) (s : List Char) : Option Json :=
  (plainDigits (isDigitOf base) s).bind fun digits =>
    let n := digits.foldl (fun v c => v * base + (Numeral.hexDigit? c).getD 0) 0
    if n < 0x8000000000000000 then some (.int n) else none

/-- Digits without leading zeros. -/
def readWhole (s : List Char) : Option (List Char) :=
  match s with
  | '0' :: _ :: _ => none
  | s => plainDigits isDecimal s

/-- A decimal number without a sign: an integer or a floating-point number, which must be finite. -/
def readDecimal (negative : Bool) (s : List Char) : Option Json :=
  let inWhole := fun (c : Char) => isDecimal c || c == '_'
  let whole := s.takeWhile inWhole
  let rest := s.dropWhile inWhole
  let power := fun (s : List Char) =>
    match s with
    | '+' :: t => plainDigits isDecimal t
    | '-' :: t => (plainDigits isDecimal t).map fun r => '-' :: r
    | t => plainDigits isDecimal t
  let text :=
    (readWhole whole).bind fun w =>
      match rest with
      | '.' :: t =>
        (plainDigits isDecimal (t.takeWhile inWhole)).bind fun f =>
          match t.dropWhile inWhole with
          | [] => some (w ++ '.' :: f)
          | 'e' :: p => (power p).map fun r => w ++ '.' :: f ++ 'e' :: r
          | 'E' :: p => (power p).map fun r => w ++ '.' :: f ++ 'e' :: r
          | _ => none
      | 'e' :: p => (power p).map fun r => w ++ 'e' :: r
      | 'E' :: p => (power p).map fun r => w ++ 'e' :: r
      | _ => none
  match rest with
  | [] =>
    (readWhole whole).bind fun w =>
      match Numeral.readInt 0x7FFFFFFFFFFFFFFF (if negative then '-' :: w else w) with
      | .ok n => some (.int n)
      | .error _ => none
  | _ =>
    (text.bind Decimal.read?).bind fun x =>
      if x.isInf then none else some (.float (if negative then -x else x))

def readNumber (s : List Char) : Option Json :=
  match s with
  | '0' :: 'x' :: t => readInBase 16 t
  | '0' :: 'o' :: t => readInBase 8 t
  | '0' :: 'b' :: t => readInBase 2 t
  | ['i', 'n', 'f'] => some (.float (1.0 / 0.0))
  | ['+', 'i', 'n', 'f'] => some (.float (1.0 / 0.0))
  | ['-', 'i', 'n', 'f'] => some (.float (-1.0 / 0.0))
  | ['n', 'a', 'n'] => some (.float (0.0 / 0.0))
  | ['+', 'n', 'a', 'n'] => some (.float (0.0 / 0.0))
  | ['-', 'n', 'a', 'n'] => some (.float (0.0 / 0.0))
  | '+' :: t => readDecimal false t
  | '-' :: t => readDecimal true t
  | t => readDecimal false t

/-- The value of two digits between bounds. -/
def readPair (low high : Nat) (a b : Char) : Option Nat := do
  let x ← Numeral.digit? a
  let y ← Numeral.digit? b
  if low ≤ x * 10 + y ∧ x * 10 + y ≤ high then some (x * 10 + y) else none

def daysIn (year month : Nat) : Nat :=
  if month = 2 then
    if year % 4 = 0 ∧ (year % 100 ≠ 0 ∨ year % 400 = 0) then 29 else 28
  else if month ∈ [4, 6, 9, 11] then 30
  else 31

def readDate (s : List Char) : Option (List Char × List Char) :=
  match s with
  | a :: b :: c :: d :: '-' :: e :: f :: '-' :: g :: h :: rest => do
    let century ← readPair 0 99 a b
    let year ← readPair 0 99 c d
    let month ← readPair 1 12 e f
    let _ ← readPair 1 (daysIn (century * 100 + year) month) g h
    some ([a, b, c, d, '-', e, f, '-', g, h], rest)
  | _ => none

/-- A fraction of a second from the front: at most nine digits, and no trailing zeros but for one
that stands alone. -/
def readFraction (s : List Char) : Option (List Char × List Char) :=
  match s with
  | '.' :: t =>
    let fraction := t.takeWhile isDecimal
    if fraction.isEmpty then none
    else
      let kept := ((fraction.take 9).reverse.dropWhile (· == '0')).reverse
      some ('.' :: (if kept.isEmpty then ['0'] else kept), t.dropWhile isDecimal)
  | _ => some ([], s)

/-- A time of day from the front; it may have seconds, and these a fraction. -/
def readTime (s : List Char) : Option (List Char × List Char) :=
  match s with
  | a :: b :: ':' :: c :: d :: rest => do
    let _ ← readPair 0 23 a b
    let _ ← readPair 0 59 c d
    match rest with
    | ':' :: e :: f :: rest =>
      let _ ← readPair 0 60 e f
      let (fraction, rest) ← readFraction rest
      some ([a, b, ':', c, d, ':', e, f] ++ fraction, rest)
    | _ => some ([a, b, ':', c, d], rest)
  | _ => none

/-- An offset from universal time; that of nothing is positive. -/
def readOffset (s : List Char) : Option (List Char) :=
  match s with
  | [] => some []
  | ['Z'] => some ['Z']
  | ['z'] => some ['Z']
  | [sign, a, b, ':', c, d] =>
    if sign == '+' || sign == '-' then do
      let hours ← readPair 0 23 a b
      let minutes ← readPair 0 59 c d
      some [if hours = 0 ∧ minutes = 0 then '+' else sign, a, b, ':', c, d]
    else none
  | _ => none

/-- A date, a time of day, or both, in normal form. -/
def readDateTime (s : List Char) : Option String :=
  match readDate s with
  | some (date, []) => some (String.ofList date)
  | some (date, c :: rest) =>
    if c == 'T' || c == 't' || c == ' ' then do
      let (time, rest) ← readTime rest
      let offset ← readOffset rest
      some (String.ofList (date ++ 'T' :: time ++ offset))
    else none
  | none =>
    match readTime s with
    | some (time, []) => some (String.ofList time)
    | _ => none

def readPlain (s : List Char) : Option Json :=
  match s with
  | ['t', 'r', 'u', 'e'] => some (.bool true)
  | ['f', 'a', 'l', 's', 'e'] => some (.bool false)
  | s =>
    match readNumber s with
    | some v => some v
    | none => (readDateTime s).map .string

def inPlain (c : Char) : Bool :=
  c.isAlphanum || c == '_' || c == '+' || c == '-' || c == '.' || c == ':'

/-- Splits a scalar that is no string from what follows; a blank may stand between a date and a
time of day. -/
def splitPlain (s : List Char) : List Char × List Char :=
  let first := s.takeWhile inPlain
  let rest := s.dropWhile inPlain
  match readDate first, rest with
  | some (_, []), ' ' :: d :: rest' =>
    if isDecimal d then
      (first ++ ' ' :: (d :: rest').takeWhile inPlain, (d :: rest').dropWhile inPlain)
    else (first, rest)
  | _, _ => (first, rest)

end ClusterTransport.Toml
