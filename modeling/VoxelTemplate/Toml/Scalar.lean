import VoxelTemplate.Text.Numeral
import VoxelTemplate.Toml.Value
/-! The scalars of TOML: strings in four forms, numbers, dates and times. Each reader takes what it
reads from the start of the text and gives the rest. -/
namespace VoxelTemplate.Toml

/-- What a reader gives: a value and the text after it. -/
abbrev Read (α : Type) := Option (α × Text)

def isSpace (c : Char) : Bool := c = ' ' || c = '\t'

/-- Characters allowed in strings and comments: all but control characters, tabs allowed. -/
def isPrintable (c : Char) : Bool := c = '\t' || (' ' ≤ c && c ≠ '\x7f')

/-- The text after one line break, if it starts with one. -/
def lineBreak? : Text → Option Text
  | '\n' :: text => some text
  | '\r' :: '\n' :: text => some text
  | _ => none

/-- The text after spaces, tabs and line breaks. -/
def skipBlankLines : Text → Text
  | '\r' :: '\n' :: text => skipBlankLines text
  | c :: text => if isSpace c || c = '\n' then skipBlankLines text else c :: text
  | [] => []

theorem length_skipBlankLines_le (text : Text) : (skipBlankLines text).length ≤ text.length := by
  fun_induction skipBlankLines text <;> simp_all <;> omega

def isHexDigit (c : Char) : Bool := c.isDigit || ('a' ≤ c.toLower && c.toLower ≤ 'f')

def valueOf (base : Nat) (digits : Text) : Nat :=
  digits.foldl (fun n c =>
    n * base + (if c.isDigit then c.toNat - '0'.toNat else c.toLower.toNat - 'a'.toNat + 10)) 0

/-- The character with the code that the first `count` characters give in hexadecimal. -/
def codePoint? (count : Nat) (text : Text) : Option Char :=
  let digits := text.take count
  if digits.length = count && digits.all isHexDigit then
    if h : (valueOf 16 digits).isValidChar then some (Char.ofNatAux (valueOf 16 digits) h) else none
  else none

/-- The character that an escape stands for, and the characters it takes after the backslash. -/
def escape? : Text → Option (Char × Nat)
  | 'b' :: _ => some ('\x08', 1)
  | 't' :: _ => some ('\t', 1)
  | 'n' :: _ => some ('\n', 1)
  | 'f' :: _ => some ('\x0c', 1)
  | 'r' :: _ => some ('\r', 1)
  | '"' :: _ => some ('"', 1)
  | '\\' :: _ => some ('\\', 1)
  | 'u' :: text => (codePoint? 4 text).map fun c => (c, 5)
  | 'U' :: text => (codePoint? 8 text).map fun c => (c, 9)
  | _ => none

def consRead (c : Char) (read : Read Text) : Read Text :=
  read.map fun (text, rest) => (c :: text, rest)

/-- The rest of a string in double quotes. -/
def readBasic : Text → Read Text
  | [] => none
  | c :: text =>
    if c = '"' then some ([], text)
    else if c = '\\' then match escape? text with
      | some (meant, count) => consRead meant (readBasic (text.drop count))
      | none => none
    else if isPrintable c then consRead c (readBasic text)
    else none
termination_by text => text.length
decreasing_by all_goals simp only [List.length_cons, List.length_drop]; omega

/-- The rest of a string in single quotes. -/
def readLiteral : Text → Read Text
  | [] => none
  | c :: text =>
    if c = '\'' then some ([], text)
    else if isPrintable c then consRead c (readLiteral text)
    else none

/-- The quotes of `run` that still belong to a long string, if the run closes it: up to two before
the closing three. -/
def closing? (quote : Char) (text : Text) : Read Text :=
  let run := (text.takeWhile (· = quote)).length
  if run < 3 then none
  else
    let inner := min (run - 3) 2
    some (List.replicate inner quote, text.drop (inner + 3))

/-- The rest of a string in three double quotes. A backslash at the end of a line takes the break
and all blanks after it away. -/
def readLongBasic : Text → Read Text
  | [] => none
  | c :: text =>
    if c = '"' then match closing? '"' (c :: text) with
      | some found => some found
      | none => consRead c (readLongBasic text)
    else if c = '\\' then
      match _h : lineBreak? (text.dropWhile isSpace) with
      | some rest => readLongBasic (skipBlankLines rest)
      | none => match escape? text with
        | some (meant, count) => consRead meant (readLongBasic (text.drop count))
        | none => none
    else if c = '\n' then consRead '\n' (readLongBasic text)
    else if c = '\r' then match text with
      | '\n' :: text => consRead '\n' (readLongBasic text)
      | _ => none
    else if isPrintable c then consRead c (readLongBasic text)
    else none
termination_by text => text.length
decreasing_by
  all_goals simp only [List.length_cons, List.length_drop]
  any_goals omega
  have hlong := length_skipBlankLines_le rest
  have hdrop : (text.dropWhile isSpace).length ≤ text.length := (List.dropWhile_sublist _).length_le
  have : rest.length < (text.dropWhile isSpace).length := by
    revert _h
    generalize text.dropWhile isSpace = shown
    intro h
    unfold lineBreak? at h
    split at h
    · cases h; simp only [List.length_cons]; omega
    · cases h; simp only [List.length_cons]; omega
    · cases h
  omega

/-- The rest of a string in three single quotes. -/
def readLongLiteral : Text → Read Text
  | [] => none
  | '\r' :: '\n' :: text => consRead '\n' (readLongLiteral text)
  | c :: text =>
    if c = '\'' then match closing? '\'' (c :: text) with
      | some found => some found
      | none => consRead c (readLongLiteral text)
    else if c = '\n' || isPrintable c then consRead c (readLongLiteral text)
    else none

def dropBreak (text : Text) : Text := (lineBreak? text).getD text

/-- A string in one of the four forms. -/
def readString : Text → Read Text
  | '"' :: '"' :: '"' :: text => readLongBasic (dropBreak text)
  | '\'' :: '\'' :: '\'' :: text => readLongLiteral (dropBreak text)
  | '"' :: text => readBasic text
  | '\'' :: text => readLiteral text
  | _ => none

/-- Digits that follow a digit, single underscores between them left out. -/
def moreDigits (isDigit : Char → Bool) : Text → Text × Text
  | [] => ([], [])
  | '_' :: c :: text =>
    if isDigit c then
      let (digits, rest) := moreDigits isDigit text
      (c :: digits, rest)
    else ([], '_' :: c :: text)
  | c :: text =>
    if isDigit c then
      let (digits, rest) := moreDigits isDigit text
      (c :: digits, rest)
    else ([], c :: text)

def readDigits (isDigit : Char → Bool) : Text → Read Text
  | [] => none
  | c :: text =>
    if isDigit c then
      let (digits, rest) := moreDigits isDigit text
      some (c :: digits, rest)
    else none

def readSign : Text → Option Char × Text
  | '+' :: text => (some '+', text)
  | '-' :: text => (some '-', text)
  | text => (none, text)

/-- Decimal digits: a zero alone, or digits that do not start with one. -/
def readDecimal : Text → Read Text
  | '0' :: text => some (['0'], text)
  | text => readDigits Char.isDigit text

def integer? (n : Int) : Option Value :=
  if -9223372036854775808 ≤ n ∧ n ≤ 9223372036854775807 then some (.integer n) else none

/-- An integer in base 16, 8 or 2. -/
def readInBase (base : Nat) (isDigit : Char → Bool) (text : Text) : Read Value :=
  (readDigits isDigit text).bind fun (digits, rest) =>
    (integer? (valueOf base digits)).map fun value => (value, rest)

def signed (sign : Option Char) (n : Nat) : Int := if sign = some '-' then -n else n

/-- An integer: decimal with an optional sign, or in another base without one. -/
def readInteger : Text → Read Value
  | '0' :: 'x' :: text => readInBase 16 isHexDigit text
  | '0' :: 'o' :: text => readInBase 8 (fun c => '0' ≤ c && c ≤ '7') text
  | '0' :: 'b' :: text => readInBase 2 (fun c => c = '0' || c = '1') text
  | text =>
    let (sign, text) := readSign text
    (readDecimal text).bind fun (digits, rest) =>
      (integer? (signed sign (valueOf 10 digits))).map fun value => (value, rest)

/-- Whether `mantissa` times ten to the `exponent` rounds beyond the greatest binary number of
64 bits with a fraction. -/
def overflows (mantissa : Nat) (exponent : Int) : Bool :=
  let limit := Nat.pow 2 1024 - Nat.pow 2 970
  let size : Int := (Nat.toDigits 10 mantissa).length + exponent
  if mantissa = 0 then false
  else if 400 < size then true
  else if size < 300 then false
  else if 0 ≤ exponent then limit ≤ mantissa * Nat.pow 10 exponent.toNat
  else limit * Nat.pow 10 (-exponent).toNat ≤ mantissa

def readFraction : Text → Read Text
  | '.' :: text => readDigits Char.isDigit text
  | text => some ([], text)

def readExponent : Text → Read (Option Int)
  | [] => some (none, [])
  | c :: text =>
    if c = 'e' || c = 'E' then
      let (sign, text) := readSign text
      (readDigits Char.isDigit text).map fun (digits, rest) =>
        (some (signed sign (valueOf 10 digits)), rest)
    else some (none, c :: text)

/-- A number with a fraction or an exponent, or one of the words for no number and for no end.
Only a positive number that is too great is refused. -/
def readFloat (text : Text) : Read Value :=
  let (sign, body) := readSign text
  match body with
  | 'i' :: 'n' :: 'f' :: rest => some (.float "inf".toList, rest)
  | 'n' :: 'a' :: 'n' :: rest => some (.float "nan".toList, rest)
  | _ =>
    (readDecimal body).bind fun (whole, rest) =>
      (readFraction rest).bind fun (digits, rest) =>
        (readExponent rest).bind fun (power, rest) =>
          if digits.isEmpty && power.isNone then none
          else if sign != some '-' &&
              overflows (valueOf 10 (whole ++ digits)) (power.getD 0 - digits.length) then none
          else some (.float (text.take (text.length - rest.length)), rest)

def readTwo (low high : Nat) : Text → Read Text
  | a :: b :: text =>
    if a.isDigit && b.isDigit then
      let n := valueOf 10 [a, b]
      if low ≤ n && n ≤ high then some ([a, b], text) else none
    else none
  | _ => none

def daysIn (year month : Nat) : Nat :=
  if month = 2 then
    if year % 4 = 0 && (year % 100 ≠ 0 || year % 400 = 0) then 29 else 28
  else if month = 4 || month = 6 || month = 9 || month = 11 then 30
  else 31

def readDate : Text → Option (Text × Text)
  | a :: b :: c :: d :: '-' :: text =>
    if [a, b, c, d].all Char.isDigit then do
      let (month, text) ← readTwo 1 12 text
      let text ← Text.after? ['-'] text
      let (day, text) ← readTwo 1 31 text
      if valueOf 10 day ≤ daysIn (valueOf 10 [a, b, c, d]) (valueOf 10 month) then
        some ([a, b, c, d] ++ '-' :: month ++ '-' :: day, text)
      else none
    else none
  | _ => none

/-- A time `hour:minute:second` with an optional fraction, of which nine digits count. -/
def readTime (text : Text) : Option (Text × Text) := do
  let (hour, text) ← readTwo 0 23 text
  let text ← Text.after? [':'] text
  let (minute, text) ← readTwo 0 59 text
  let text ← Text.after? [':'] text
  let (second, text) ← readTwo 0 60 text
  let plain := hour ++ ':' :: minute ++ ':' :: second
  match text with
  | '.' :: rest =>
    let digits := rest.takeWhile Char.isDigit
    if digits.isEmpty then none
    else
      let kept := ((digits.take 9).reverse.dropWhile (· = '0')).reverse
      some (if kept.isEmpty then plain else plain ++ '.' :: kept, rest.dropWhile Char.isDigit)
  | _ => some (plain, text)

/-- The distance of a local time from universal time, or nothing. -/
def readZone : Text → Option (Text × Text)
  | c :: text =>
    if c = 'Z' || c = 'z' then some (['Z'], text)
    else if c = '+' || c = '-' then do
      let (hour, text) ← readTwo 0 23 text
      let text ← Text.after? [':'] text
      let (minute, text) ← readTwo 0 59 text
      let zero := hour = ['0', '0'] ∧ minute = ['0', '0']
      some ((if zero then '+' else c) :: hour ++ ':' :: minute, text)
    else some ([], c :: text)
  | [] => some ([], [])

def startsDate : Text → Bool
  | a :: b :: c :: d :: '-' :: _ => [a, b, c, d].all Char.isDigit
  | _ => false

def startsTime : Text → Bool
  | a :: b :: ':' :: _ => a.isDigit && b.isDigit
  | _ => false

/-- A date, a time, or both with an optional distance from universal time. -/
def readMoment (text : Text) : Option (Value × Text) :=
  if startsDate text then do
    let (date, text) ← readDate text
    let parted := match text with
      | c :: text => if (c = 'T' || c = 't' || c = ' ') && startsTime text then some text else none
      | [] => none
    match parted with
    | none => some (.moment date, text)
    | some text => do
      let (time, text) ← readTime text
      let (zone, text) ← readZone text
      some (.moment (date ++ 'T' :: time ++ zone), text)
  else (readTime text).map fun (time, text) => (.moment time, text)

def readNumber (text : Text) : Read Value :=
  if startsDate text || startsTime text then readMoment text
  else
    match readFloat text with
    | some found => some found
    | none => readInteger text

/-- A value that holds no other values. -/
def readScalar : Text → Read Value
  | 't' :: 'r' :: 'u' :: 'e' :: text => some (.boolean true, text)
  | 'f' :: 'a' :: 'l' :: 's' :: 'e' :: text => some (.boolean false, text)
  | c :: text =>
    if c = '"' || c = '\'' then
      (readString (c :: text)).map fun (content, rest) => (.string content, rest)
    else readNumber (c :: text)
  | [] => none

end VoxelTemplate.Toml
