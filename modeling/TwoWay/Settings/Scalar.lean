import TwoWay.Settings.Flaw
import TwoWay.Settings.Node
import TwoWay.Text.Lowercase

/-!
# Scalars

A word of a document stands for a value of its own: nothing, a truth value, a number, a
moment, or else the word as a text. There are two editions of the rules; the first one knows
more words for truth values, numbers to the base of sixty, and octal numbers by a zero before
them. A tag before a scalar names its type instead.
-/

namespace TwoWay.Settings

inductive Edition where
  | first
  | second
  deriving DecidableEq, Repr

namespace Scalar

def isHexadecimal (c : Char) : Bool := c.isDigit || ('a' ≤ c.toLower && c.toLower ≤ 'f')

def isOctal (c : Char) : Bool := '0' ≤ c && c ≤ '7'

def isBinary (c : Char) : Bool := c = '0' || c = '1'

/-- At least one character, each of a class or an underscore. -/
def consistsOf (isDigit : Char → Bool) (cs : List Char) : Bool :=
  !cs.isEmpty && cs.all fun c => isDigit c || c = '_'

def isNull (word : String) : Bool := ["", "~", "null", "Null", "NULL"].contains word

/-- The truth value that a word stands for. -/
def flag? (edition : Edition) (word : String) : Option Bool :=
  let more := edition = .first
  if ["true", "True", "TRUE"].contains word then some true
  else if ["false", "False", "FALSE"].contains word then some false
  else if more && ["y", "Y", "yes", "Yes", "YES", "on", "On", "ON"].contains word then some true
  else if more && ["n", "N", "no", "No", "NO", "off", "Off", "OFF"].contains word then some false
  else none

/-- Parts behind colons, each a number below sixty of at most two digits. -/
def isSixtieths (cs : List Char) : Bool :=
  let parts := (String.ofList cs).splitOn ":"
  !parts.isEmpty && parts.all fun p =>
    match p.toList with
    | [c] => c.isDigit
    | [c, d] => '0' ≤ c && c ≤ '5' && d.isDigit
    | _ => false

/-- Whether a word without sign and with parts behind colons is a number. -/
def isSixtyBased (cs : List Char) : Bool :=
  let whole := cs.takeWhile (· != ':')
  whole.head?.any (fun c => '1' ≤ c && c ≤ '9') && consistsOf Char.isDigit whole &&
    match cs.dropWhile (· != ':') with
    | _ :: parts => isSixtieths parts
    | [] => false

/-- Whether a word is written like an integer. -/
def isInteger (edition : Edition) (word : List Char) : Bool :=
  let body := (splitSign word).2
  !(word.head? = some '_') && match body with
  | '0' :: 'b' :: rest => consistsOf isBinary rest
  | '0' :: 'x' :: rest => consistsOf isHexadecimal rest
  | '0' :: 'o' :: rest => edition = .second && consistsOf isOctal rest
  | '0' :: rest =>
    if edition = .second then consistsOf Char.isDigit ('0' :: rest)
    else rest.isEmpty || consistsOf isOctal rest
  | body =>
    consistsOf Char.isDigit body && (edition = .second || body.head?.any Char.isDigit ||
      body.all fun c => isOctal c || c = '_') ||
    (edition = .first && isSixtyBased body)

/-- An exponent: its mark, a sign and digits. -/
def isExponent (needsSign : Bool) (cs : List Char) : Bool :=
  match cs with
  | c :: rest =>
    (c = 'e' || c = 'E') &&
      let signed := rest.head?.any fun c => c = '+' || c = '-'
      let digits := rest.drop (if signed then 1 else 0)
      (signed || !needsSign) && !digits.isEmpty && digits.all Char.isDigit
  | [] => false

def isDigitOrGap (c : Char) : Bool := c.isDigit || c = '_'

/-- Whether a word is written like a number with a fraction or an exponent. -/
def isDecimal (edition : Edition) (word : List Char) : Bool :=
  let (_, body) := splitSign word
  let signed := body.length < word.length
  let rest := body.dropWhile isDigitOrGap
  let whole := body.take (body.length - rest.length)
  match body with
  | '.' :: more =>
    let name := String.ofList more
    if ["inf", "Inf", "INF"].contains name then true
    else if ["nan", "NaN", "NAN"].contains name then !signed
    else
      let rest := more.dropWhile isDigitOrGap
      (edition = .second || !signed) && rest.length < more.length &&
        (rest.isEmpty || isExponent true rest)
  | c :: _ =>
    c.isDigit && match rest with
    | '.' :: more =>
      let rest := more.dropWhile isDigitOrGap
      rest.isEmpty || isExponent false rest
    | ':' :: _ =>
      let parts := rest.drop 1
      let (sixtieths, fraction) := (parts.takeWhile (· != '.'), parts.dropWhile (· != '.'))
      edition = .first && consistsOf Char.isDigit whole && isSixtieths sixtieths &&
        !fraction.isEmpty && (fraction.drop 1).all isDigitOrGap
    | rest => isExponent false rest
  | [] => false

/-- The value of digits in another base. -/
def valueIn (base : Nat) (cs : List Char) : Nat :=
  cs.foldl (fun n c =>
    base * n + (if c.isDigit then c.toNat - 0x30 else c.toLower.toNat - 0x61 + 10)) 0

/-- A number by its parts behind colons. -/
def sixtyBased (cs : List Char) : Option Nat := do
  let parts ← ((String.ofList cs).splitOn ":").mapM fun p =>
    if !p.isEmpty && p.toList.all Char.isDigit then some (digitsValue p.toList) else none
  return parts.foldl (fun n d => 60 * n + d) 0

/-- The integer that a text stands for. -/
def integer (edition : Edition) (text : String) : Except DocumentFault Int := do
  let cs := text.toList.filter (· != '_')
  let (negative, body) := splitSign cs
  let signed (n : Nat) : Int := if negative then -(n : Int) else n
  let based (base : Nat) (isDigit : Char → Bool) (cs : List Char) : Except DocumentFault Int :=
    if cs.isEmpty || !cs.all isDigit then .error .unreadable else .ok (signed (valueIn base cs))
  match body with
  | [] => if cs.isEmpty then throw (.fault (.indexOutOfRange "string ")) else decimal negative body
  | ['0'] => return 0
  | '0' :: 'b' :: rest => based 2 isBinary rest
  | '0' :: 'x' :: rest => based 16 isHexadecimal rest
  | '0' :: 'o' :: rest => based 8 isOctal rest
  | c :: _ =>
    if edition = .first && c = '0' then based 8 isOctal body
    else if edition = .first && body.contains ':' then
      match sixtyBased body with
      | some n => return signed n
      | none => throw .unreadable
    else decimal negative body
where
  decimal (negative : Bool) (cs : List Char) : Except DocumentFault Int := do
    let s := String.ofList cs
    let i ← (readInteger s (Text.quoted s)).mapError .fault
    return if negative then -i else i

def negated : Double → Double
  | .finite s m e => .finite (!s) m e
  | .infinite s => .infinite (!s)
  | d => d

/-- The double that a text stands for. -/
def number (edition : Edition) (text : String) : Except DocumentFault Double := do
  let cs := (text.toList.filter (· != '_')).map Char.toLower
  let (negative, body) := splitSign cs
  let signed (d : Double) : Double := if negative then negated d else d
  match String.ofList body with
  | "" => throw (.fault (.indexOutOfRange "string "))
  | ".inf" => return signed (.infinite false)
  | ".nan" => return .nan .new
  | s =>
    if edition = .first && body.contains ':' then
      let whole := body.takeWhile (· != '.')
      let fraction := body.dropWhile (· != '.')
      match sixtyBased whole with
      | some n => match decimal? false ((toString n).toList ++ fraction) with
        | some d => return signed d
        | none => throw .unreadable
      | none => throw .unreadable
    else match Double.ofText? s with
      | some d => return signed d
      | none => throw (.fault (.unreadableNumber (Text.quoted s)))

/-- A number of one or two digits, and what follows it. -/
def readShort? (cs : List Char) : Option (Nat × List Char) :=
  let digits := (cs.take 2).takeWhile Char.isDigit
  if digits.isEmpty then none else some (digitsValue digits, cs.drop digits.length)

/-- Whether the distance of a point in time from the common time may end its word. -/
def isOffset (cs : List Char) : Bool :=
  match cs.dropWhile fun c => c = ' ' || c = '\t' with
  | [] => cs.isEmpty
  | ['Z'] => true
  | c :: rest =>
    (c = '+' || c = '-') && match readShort? rest with
    | some (_, []) => true
    | some (_, [':', a, b]) => a.isDigit && b.isDigit
    | _ => false

/-- A word that is written like a moment: the moment, or what is wrong with it. -/
def moment? (cs : List Char) : Option (Except MomentFault Moment) := do
  let text := String.ofList cs
  let checked (m : Moment) (fault : Option MomentFault) : Except MomentFault Moment :=
    match fault with
    | some f => .error f
    | none => .ok m
  let (year, rest) ← readDigits? 4 cs
  let (month, rest) ← readShort? (← readMark? '-' rest)
  let (day, rest) ← readShort? (← readMark? '-' rest)
  let date := dayFault? year month day
  match rest with
  | [] => if cs.length = 10 then return checked (.day text) date else none
  | c :: more =>
    let rest ← if c = 'T' || c = 't' then some more
      else if c = ' ' || c = '\t' then some (rest.dropWhile fun c => c = ' ' || c = '\t')
      else none
    let (hour, rest) ← readShort? rest
    let (minute, rest) ← readDigits? 2 (← readMark? ':' rest)
    let (second, rest) ← readDigits? 2 (← readMark? ':' rest)
    let rest := match rest with
      | '.' :: rest => rest.dropWhile Char.isDigit
      | rest => rest
    if isOffset rest then
      return checked (.point text) (date.orElse fun _ => timeFault? hour minute second)
    else none

/-- The truth value that a text names in any case. -/
def namedFlag? (text : String) : Option Bool :=
  let small := Text.lower text
  if ["yes", "y", "true", "on"].contains small then some true
  else if ["no", "n", "false", "off"].contains small then some false
  else none

end Scalar

/-- The value that a word stands for. -/
def Node.ofWord (edition : Edition) (word : String) : Except DocumentFault Node :=
  let cs := word.toList
  if Scalar.isNull word then .ok .null
  else match Scalar.flag? edition word with
    | some b => .ok (.bool b)
    | none =>
      if Scalar.isDecimal edition cs then (Scalar.number edition word).map .float
      else if Scalar.isInteger edition cs then (Scalar.integer edition word).map .int
      else match Scalar.moment? cs with
        | some (.ok m) => .ok (.moment m)
        | some (.error f) => .error (.moment f)
        | none => if word = "<<" || word = "=" then .error .unreadable else .ok (.text word)

/-- The tags that name types of scalars. -/
def Node.isTag (tag : String) : Bool :=
  ["str", "null", "int", "float", "bool", "timestamp"].contains tag

/-- The value of a text that is tagged with the name of a type. -/
def Node.ofTagged (edition : Edition) (tag text : String) : Except DocumentFault Node :=
  match tag with
  | "str" => .ok (.text text)
  | "null" => .ok .null
  | "int" => (Scalar.integer edition text).map .int
  | "float" => (Scalar.number edition text).map .float
  | "bool" =>
    match Scalar.namedFlag? text with
    | some b => .ok (.bool b)
    | none => .error (.fault (.noEntry (Text.quoted (Text.lower text))))
  | "timestamp" =>
    match Scalar.moment? text.toList with
    | some (.ok m) => .ok (.moment m)
    | some (.error f) => .error (.moment f)
    | none => .error (.fault (.noAttribute "NoneType" "groupdict"))
  | _ => .error .unreadable

end TwoWay.Settings
