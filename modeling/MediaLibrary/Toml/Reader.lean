/-
Reading TOML.

Each function takes what it reads from the front of a list of characters and answers with
the rest.  Values can hold values; the depth of that is bounded by fuel, of which every
character brings one unit, so it never runs out before the text does.
-/
import MediaLibrary.Binary64.Reading
import MediaLibrary.Text.Hexadecimal
import MediaLibrary.Toml.Document

namespace MediaLibrary.Toml

/-! ### Blanks -/

/-- A blank inside a line. -/
def isSpace (c : Char) : Bool := c = ' ' || c = '\t'

/-- A character that may stand in a comment or in a literal text. -/
def isPlain (c : Char) : Bool :=
  c = '\t' || (0x20 ≤ c.toNat && c.toNat ≠ 0x7f)

/-- What follows blanks on the same line. -/
def skipSpaces (cs : List Char) : List Char := cs.dropWhile isSpace

/-- What follows the end of a line, if the line ends here. -/
def lineEnd? : List Char → Option (List Char)
  | '\n' :: rest => some rest
  | '\r' :: '\n' :: rest => some rest
  | _ => none

/-- What follows a comment, if there is one. -/
def skipComment : List Char → List Char
  | '#' :: rest => rest.dropWhile isPlain
  | cs => cs

/-- What follows blanks, comments and ends of lines. -/
def skipLines : (fuel : Nat) → List Char → List Char
  | 0, cs => cs
  | fuel + 1, cs =>
    let rest := skipComment (skipSpaces cs)
    match lineEnd? rest with
    | some rest => skipLines fuel rest
    | none => rest

/-- What follows blanks and ends of lines. -/
def skipBlankLines : List Char → List Char
  | ' ' :: rest | '\t' :: rest | '\n' :: rest | '\r' :: '\n' :: rest => skipBlankLines rest
  | cs => cs

/-- What follows the rest of a line that holds nothing more than a comment. -/
def endStatement? (cs : List Char) : Option (List Char) :=
  match skipComment (skipSpaces cs) with
  | [] => some []
  | rest => lineEnd? rest

/-! ### Texts -/

/-- A character written by its number in so many hexadecimal digits. -/
def numbered? (digits : Nat) (cs : List Char) : Option (Char × List Char) := do
  let written := cs.take digits
  if written.length < digits then none
  let n ← Text.hexValue? written
  if n.isValidChar then some (Char.ofNat n, cs.drop digits) else none

/-- A character behind a backslash. -/
def escaped? : List Char → Option (Char × List Char)
  | 'b' :: rest => some ('\x08', rest)
  | 'e' :: rest => some ('\x1b', rest)
  | 't' :: rest => some ('\t', rest)
  | 'n' :: rest => some ('\n', rest)
  | 'f' :: rest => some ('\x0c', rest)
  | 'r' :: rest => some ('\r', rest)
  | '"' :: rest => some ('"', rest)
  | '\\' :: rest => some ('\\', rest)
  | 'x' :: rest => numbered? 2 rest
  | 'u' :: rest => numbered? 4 rest
  | 'U' :: rest => numbered? 8 rest
  | _ => none

/-- The rest of a text in double quotes. -/
def basicText? : (fuel : Nat) → (read : List Char) → List Char → Option (String × List Char)
  | 0, _, _ => none
  | _, _, [] => none
  | fuel + 1, read, c :: rest =>
    if c = '"' then some (String.ofList read.reverse, rest)
    else if c = '\\' then do
      let (c, rest) ← escaped? rest
      basicText? fuel (c :: read) rest
    else if isPlain c then basicText? fuel (c :: read) rest
    else none

/-- The rest of a text in single quotes. -/
def literalText? (cs : List Char) : Option (String × List Char) :=
  match cs.dropWhile fun c => isPlain c && c ≠ '\'' with
  | '\'' :: rest => some (String.ofList (cs.takeWhile fun c => isPlain c && c ≠ '\''), rest)
  | _ => none

/-- The end of a text in three quotes, which may have up to two quotes of its own at its
end. -/
def closing? (quote : Char) (read : List Char) (cs : List Char) : Option (String × List Char) :=
  let quotes := (cs.takeWhile (· = quote)).length
  if quotes < 3 then none
  else
    let own := min (quotes - 3) 2
    some (String.ofList (List.replicate own quote ++ read).reverse, cs.drop (own + 3))

/-- What follows a line that is joined with the next one. -/
def joined? (cs : List Char) : Option (List Char) :=
  (lineEnd? (skipSpaces cs)).map skipBlankLines

/-- A character in front of others that stands for itself in a text of several lines: one
that may stand in a comment, or one of those that end a line. -/
def isPlainOrLineEnd (c : Char) (rest : List Char) : Bool :=
  isPlain c || c = '\n' || (c = '\r' && rest.head? = some '\n')

/-- The rest of a text in three quotes.  In double quotes a backslash escapes. -/
def longText? (quote : Char) : (fuel : Nat) → (read : List Char) → List Char → Option (String × List Char)
  | 0, _, _ => none
  | _, _, [] => none
  | fuel + 1, read, c :: rest =>
    if c = quote then
      match closing? quote read (c :: rest) with
      | some result => some result
      | none => longText? quote fuel (c :: read) rest
    else if c = '\\' && quote = '"' then
      match joined? rest with
      | some rest => longText? quote fuel read rest
      | none => do
        let (c, rest) ← escaped? rest
        longText? quote fuel (c :: read) rest
    else if isPlainOrLineEnd c rest then longText? quote fuel (c :: read) rest
    else none

/-- What follows the end of a line at the beginning of a text in three quotes. -/
def skipFirstLine (cs : List Char) : List Char := (lineEnd? cs).getD cs

/-- A text in quotes of one of the four kinds. -/
def text? : List Char → Option (Option (String × List Char))
  | '"' :: '"' :: '"' :: rest => some (longText? '"' rest.length.succ [] (skipFirstLine rest))
  | '\'' :: '\'' :: '\'' :: rest => some (longText? '\'' rest.length.succ [] (skipFirstLine rest))
  | '"' :: rest => some (basicText? rest.length.succ [] rest)
  | '\'' :: rest => some (literalText? rest)
  | _ => none

/-! ### Names -/

/-- One part of a name. -/
def namePart? : List Char → Option (String × List Char)
  | '"' :: rest => basicText? rest.length.succ [] rest
  | '\'' :: rest => literalText? rest
  | cs =>
    match cs.takeWhile isBare with
    | [] => none
    | name => some (String.ofList name, cs.dropWhile isBare)

/-- The parts of a name with dots between them, and what follows the blanks behind it. -/
def nameParts? : (fuel : Nat) → List Char → Option (List String × List Char)
  | 0, _ => none
  | fuel + 1, cs => do
    let (part, rest) ← namePart? (skipSpaces cs)
    match skipSpaces rest with
    | '.' :: rest => do
      let (parts, rest) ← nameParts? fuel rest
      return (part :: parts, rest)
    | rest => return ([part], rest)

/-- The number of parts that a name may have, and of arrays and tables that may stand in
one another. -/
def maxDepth : Nat := 80

/-- A name, whose parts have dots between them. -/
def name? (cs : List Char) : Option (List String × List Char) :=
  (nameParts? cs.length.succ cs).filter fun (parts, _) => parts.length ≤ maxDepth

/-! ### Numbers and words -/

/-- Digits with single underscores between them, without the underscores. -/
def digits? (isDigit : Char → Bool) : List Char → Option (List Char)
  | [] => none
  | [c] => if isDigit c then some [c] else none
  | c :: '_' :: rest => if isDigit c then (digits? isDigit rest).map (c :: ·) else none
  | c :: rest => if isDigit c then (digits? isDigit rest).map (c :: ·) else none

/-- Digits of a number in decimal, which begins with a zero only if it is zero. -/
def wholeDigits? (cs : List Char) : Option (List Char) := do
  let digits ← digits? Char.isDigit cs
  if 1 < digits.length && digits.head? = some '0' then none
  return digits

/-- A whole number written in a base. -/
def inBase? (base : Nat) (cs : List Char) : Option Toml := do
  let value (c : Char) : Option Nat := (Text.hexDigit? c).filter (· < base)
  let digits ← digits? (fun c => (value c).isSome) cs
  let n ← digits.foldlM (fun n c => (value c).map (base * n + ·)) 0
  return .int (← Text.int64OfInt? n)

/-- A sign and the rest. -/
def splitSign : List Char → List Char × List Char
  | '-' :: rest => (['-'], rest)
  | '+' :: rest => ([], rest)
  | cs => ([], cs)

/-- The power of ten behind a float. -/
def exponentDigits? (cs : List Char) : Option (List Char) := do
  let (sign, digits) := splitSign cs
  return sign ++ (← digits? Char.isDigit digits)

/-- The mark before an exponent. -/
def isExponentMark (c : Char) : Bool := c = 'e' || c = 'E'

/-- A float without its sign, as text with nothing but digits, mark and sign. -/
def floatDigits? (cs : List Char) : Option (List Char) := do
  let mantissa := cs.takeWhile (!isExponentMark ·)
  let exponent ← match cs.dropWhile (!isExponentMark ·) with
    | [] => some []
    | _ :: digits => (exponentDigits? digits).map ('e' :: ·)
  let whole ← wholeDigits? (mantissa.takeWhile (· ≠ '.'))
  let places ← match mantissa.dropWhile (· ≠ '.') with
    | [] => some []
    | _ :: digits => (digits? Char.isDigit digits).map ('.' :: ·)
  return whole ++ places ++ exponent

/-- A number in decimal.  One beyond the floats is refused. -/
def decimal? (cs : List Char) : Option Toml :=
  let (sign, rest) := splitSign cs
  if rest.any fun c => c = '.' || isExponentMark c then do
    let x ← Binary64.ofText? (String.ofList (sign ++ (← floatDigits? rest)))
    if x.isInfinite then none else some (.float x)
  else do
    return .int (← Text.signed64? (String.ofList (sign ++ (← wholeDigits? rest))))

/-- The value that a word without quotes writes. -/
def word? (word : List Char) : Option Toml :=
  match word with
  | '0' :: 'x' :: digits => inBase? 16 digits
  | '0' :: 'o' :: digits => inBase? 8 digits
  | '0' :: 'b' :: digits => inBase? 2 digits
  | _ =>
    match String.ofList word with
    | "true" => some (.bool true)
    | "false" => some (.bool false)
    | "inf" | "+inf" => some (.float (Binary64.infinity false))
    | "-inf" => some (.float (Binary64.infinity true))
    | "nan" | "+nan" => some (.float (Binary64.nan false))
    | "-nan" => some (.float (Binary64.nan true))
    | _ => decimal? word <|> (Moment.ofChars? word).map .moment

/-- A character of a word without quotes. -/
def isWordPart (c : Char) : Bool := isBare c || c = '+' || c = '.' || c = ':'

/-- A word without quotes.  A date and a time with one blank between them are one word. -/
def splitWord (cs : List Char) : List Char × List Char :=
  let word := cs.takeWhile isWordPart
  match cs.dropWhile isWordPart with
  | ' ' :: c :: rest =>
    if (Day.ofChars? word).isSome && c.isDigit then
      (word ++ ' ' :: (c :: rest).takeWhile isWordPart, (c :: rest).dropWhile isWordPart)
    else (word, ' ' :: c :: rest)
  | rest => (word, rest)

/-! ### Values -/

mutual

/-- A value.  `depth` is the number of arrays and tables that may still be opened. -/
def value? : (fuel depth : Nat) → List Char → Option (Toml × List Char)
  | 0, _, _ => none
  | fuel + 1, depth, cs =>
    match text? cs with
    | some result => result.map fun (s, rest) => (.str s, rest)
    | none =>
      match depth, cs with
      | 0, '[' :: _ | 0, '\x7b' :: _ => none
      | depth + 1, '[' :: rest => items? fuel depth [] rest
      | depth + 1, '\x7b' :: rest => entries? fuel depth [] rest
      | _, _ => do
        let (word, rest) := splitWord cs
        return (← word? word, rest)

/-- The rest of an array. -/
def items? : (fuel depth : Nat) → (read : List Toml) → List Char → Option (Toml × List Char)
  | 0, _, _, _ => none
  | fuel + 1, depth, read, cs =>
    match skipLines cs.length.succ cs with
    | ']' :: rest => some (.arr read.reverse, rest)
    | cs => do
      let (item, rest) ← value? fuel depth cs
      match skipLines rest.length.succ rest with
      | ',' :: rest => items? fuel depth (item :: read) rest
      | ']' :: rest => some (.arr (item :: read).reverse, rest)
      | _ => none

/-- The rest of a table in braces.  Lines may end anywhere in it but inside a name. -/
def entries? : (fuel depth : Nat) → (read : Entries) → List Char → Option (Toml × List Char)
  | 0, _, _, _ => none
  | fuel + 1, depth, read, cs =>
    match skipLines cs.length.succ cs with
    | '\x7d' :: rest => some (.table (entriesToToml read), rest)
    | cs => do
      let (path, rest) ← name? cs
      match skipLines rest.length.succ rest with
      | '=' :: rest => do
        let (v, rest) ← value? fuel depth (skipLines rest.length.succ rest)
        let read ← assign path v read
        match skipLines rest.length.succ rest with
        | ',' :: rest => entries? fuel depth read rest
        | '\x7d' :: rest => some (.table (entriesToToml read), rest)
        | _ => none
      | _ => none

end

/-! ### Documents -/

/-- A statement, and what follows its line. -/
def statement? (cs : List Char) : Option (Statement × List Char) :=
  match cs with
  | '[' :: '[' :: rest => do
    let (path, rest) ← name? rest
    match rest with
    | ']' :: ']' :: rest => return (.element path, ← endStatement? rest)
    | _ => none
  | '[' :: rest => do
    let (path, rest) ← name? rest
    match rest with
    | ']' :: rest => return (.table path, ← endStatement? rest)
    | _ => none
  | _ => do
    let (path, rest) ← name? cs
    match rest with
    | '=' :: rest => do
      let (v, rest) ← value? rest.length.succ maxDepth (skipSpaces rest)
      return (.entry path v, ← endStatement? rest)
    | _ => none

/-- The statements of a document. -/
def statements? : (fuel : Nat) → List Char → Option (List Statement)
  | 0, _ => none
  | fuel + 1, cs =>
    match skipLines cs.length.succ cs with
    | [] => some []
    | cs => do
      let (statement, rest) ← statement? cs
      return statement :: (← statements? fuel rest)

/-- What follows the mark of the byte order, if there is one in front. -/
def dropMark : List Char → List Char
  | '\ufeff' :: rest => rest
  | cs => cs

/-- The table that a text writes. -/
def read? (s : String) : Option Toml := do
  let cs := dropMark s.toList
  ofStatements? (← statements? cs.length.succ cs)

end MediaLibrary.Toml
