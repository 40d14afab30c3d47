import ClusterTransport.Text.Numeral

/-!
# Reading decimals

Decimal texts as numbers of double width, rounded to the nearest: an optional sign, digits with an
optional point among them, an optional exponent; or a name for infinity or for no number.
-/

namespace ClusterTransport.Decimal

open Text

/-- The number nearest to `digits * 10 ^ e`, where `digits` has at most `length` digits. -/
def nearest (digits length : Nat) (e : Int) : Float :=
  if digits = 0 then 0.0
  else if 400 < e then 1.0 / 0.0
  else if e + Int.ofNat length < -400 then 0.0
  else if e < 0 then Float.ofScientific digits true e.natAbs
  else Float.ofScientific digits false e.natAbs

/-- Whether a text is a word in any case of its letters. -/
def isWord (word : String) (s : List Char) : Bool :=
  s.map Char.toLower = word.toList

def digitsValue (s : List Char) : Nat :=
  s.foldl (fun v c => v * 10 + (Numeral.digit? c).getD 0) 0

def readPower (s : List Char) : Option Int :=
  let digits :=
    match s with
    | '+' :: rest => rest
    | '-' :: rest => rest
    | rest => rest
  if digits.isEmpty || digits.any fun c => (Numeral.digit? c).isNone then none
  else if s.head? = some '-' then some (-Int.ofNat (digitsValue digits))
  else some (Int.ofNat (digitsValue digits))

def readUnsigned (s : List Char) : Option Float :=
  let isDigit := fun (c : Char) => (Numeral.digit? c).isSome
  let whole := s.takeWhile isDigit
  let rest := s.dropWhile isDigit
  let (fraction, rest) :=
    match rest with
    | '.' :: rest => (rest.takeWhile isDigit, rest.dropWhile isDigit)
    | rest => ([], rest)
  let digits := whole ++ fraction
  let power :=
    match rest with
    | [] => some 0
    | 'e' :: rest => readPower rest
    | 'E' :: rest => readPower rest
    | _ => none
  if digits.isEmpty then none
  else power.map fun p => nearest (digitsValue digits) digits.length (p - Int.ofNat fraction.length)

def read? (s : List Char) : Option Float :=
  let body :=
    match s with
    | '+' :: rest => rest
    | '-' :: rest => rest
    | rest => rest
  let magnitude :=
    if isWord "inf" body || isWord "infinity" body then some (1.0 / 0.0)
    else if isWord "nan" body then some (0.0 / 0.0)
    else readUnsigned body
  magnitude.map fun x => if s.head? = some '-' then -x else x

end ClusterTransport.Decimal
