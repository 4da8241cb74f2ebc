import IndustrySet.Declaration.Ron.Basic

set_option autoImplicit false

/-! # Tokens of declaration files

The text of a declaration file is scanned in one pass, character by character. Between tokens there
may be spaces, tabs, line ends and comments; comments in `/*` and `*/` may be nested. Where the text
is not in the notation there is a token of its own, `Token.broken`. -/

namespace IndustrySet

/-- A kind of brackets. -/
inductive Bracket
  | paren
  | square
  | curly
  deriving DecidableEq, Repr

/-- A token of a declaration file. A bracket may touch the token before it: then nothing, not even a
blank, stands between them. -/
inductive Token
  | opening (b : Bracket) (touching : Bool)
  | closing (b : Bracket) (touching : Bool)
  | comma
  | colon
  /-- The first of two marks before an attribute. -/
  | hash
  /-- The second of two marks before an attribute. -/
  | bang
  | word (w : Word)
  | text (s : String)
  | char (c : Char)
  | int (sign : Option Sign) (magnitude : Nat)
  | real
  /-- What begins here is no token, and what comes after it means nothing. -/
  | broken
  deriving DecidableEq, Repr

namespace Token

/-! ## Numbers -/

/-- The value of a hexadecimal digit. -/
def digitValue? (c : Char) : Option Nat :=
  if '0' ≤ c ∧ c ≤ '9' then some (c.toNat - '0'.toNat)
  else if 'a' ≤ c ∧ c ≤ 'f' then some (c.toNat - 'a'.toNat + 10)
  else if 'A' ≤ c ∧ c ≤ 'F' then some (c.toNat - 'A'.toNat + 10)
  else none

/-- The number that digits of a base denote, with `n` for the digits before them. Underscores count
for nothing. -/
def digitsValue? (base : Nat) : Nat → List Char → Option Nat
  | n, [] => some n
  | n, '_' :: rest => digitsValue? base n rest
  | n, c :: rest =>
    match digitValue? c with
    | some d => if d < base then digitsValue? base (base * n + d) rest else none
    | none => none

/-- The number that digits of a base denote. There must be one, and no underscore stands first. -/
def magnitude? (base : Nat) : List Char → Option Nat
  | [] => none
  | '_' :: _ => none
  | digits => digitsValue? base 0 digits

/-- The magnitude of an integer, whose base may be written before it. -/
def unsigned? : List Char → Option Nat
  | '0' :: 'x' :: digits => magnitude? 16 digits
  | '0' :: 'b' :: digits => magnitude? 2 digits
  | '0' :: 'o' :: digits => magnitude? 8 digits
  | digits => magnitude? 10 digits

/-- Is there an integer of this sign and magnitude? With a sign it has 63 bits besides, without one
64. -/
def fitsInteger (sign : Option Sign) (magnitude : Nat) : Bool :=
  match sign with
  | none => magnitude < 0x10000000000000000
  | some .plus => magnitude < 0x8000000000000000
  | some .minus => magnitude ≤ 0x8000000000000000

/-- Does this begin the exponent of a number? -/
def isExponentMark (c : Char) : Bool :=
  c = 'e' || c = 'E'

/-- Are these digits, at least one, with at most one point among them? -/
def isMantissa (chars : List Char) : Bool :=
  chars.any Char.isDigit && chars.all (fun c => c.isDigit || c = '.') && chars.count '.' ≤ 1

/-- Are these digits, at least one, after a sign or not? -/
def isExponent : List Char → Bool
  | '+' :: digits | '-' :: digits | digits => !digits.isEmpty && digits.all Char.isDigit

/-- Do the characters form a number that need not be an integer, apart from its sign? -/
def isReal (chars : List Char) : Bool :=
  isMantissa (chars.takeWhile (!isExponentMark ·)) &&
    match chars.dropWhile (!isExponentMark ·) with
    | [] => true
    | _ :: exponent => isExponent exponent

/-- The token of a number whose sign is taken off. Without a sign, the names of numbers that are
not finite are words. An integer that does not fit is a number of the other kind, if it is written
like one. -/
def numberAfter (sign : Option Sign) (chars : List Char) : Token :=
  match (unsigned? chars).filter (fitsInteger sign) with
  | some n => .int sign n
  | none =>
    if isReal chars || (sign.isSome && (chars = "inf".toList || chars = "NaN".toList)) then .real
    else .broken

/-- The token of a number. -/
def number : List Char → Token
  | '+' :: chars => numberAfter (some .plus) chars
  | '-' :: chars => numberAfter (some .minus) chars
  | chars => numberAfter none chars

/-! ## Characters -/

/-- Can a name begin with the character? -/
def startsWord (c : Char) : Bool :=
  ('a' ≤ c && c ≤ 'z') || ('A' ≤ c && c ≤ 'Z') || c = '_'

/-- Can the character stand in a name? -/
def inWord (c : Char) : Bool :=
  startsWord c || c.isDigit

/-- Can the character stand in a name that is marked as one, or in a number? -/
def inMarkedWord (c : Char) : Bool :=
  inWord c || c = '.' || c = '+' || c = '-'

/-- Can a number begin with the character? -/
def startsNumber (c : Char) : Bool :=
  c.isDigit || c = '+' || c = '-' || c = '.'

/-- The character that stands for itself, or another one, after a backslash. -/
def escape? : Char → Option Char
  | '\'' => some '\''
  | '"' => some '"'
  | '\\' => some '\\'
  | 'n' => some '\n'
  | 'r' => some '\r'
  | 't' => some '\t'
  | '0' => some (Char.ofNat 0)
  | _ => none

/-- The character with a code point, if there is one. -/
def charOfCode? (n : Nat) : Option Char :=
  if n.isValidChar then some (Char.ofNat n) else none

/-! ## Scanning -/

/-- What was read of a quoted text, and what a backslash has begun in it. -/
inductive Escape
  | none
  | backslash
  /-- Two hexadecimal digits are to come, or one after a first one. -/
  | code (first : Option Nat)
  /-- A brace is to come. -/
  | brace
  /-- So many hexadecimal digits with this value have come, up to six, and then a brace. -/
  | point (digits value : Nat)

/-- Where in a comment in `/*` and `*/` the scanner is: at the first half of one of these, or not.
-/
inductive CommentMark
  | none
  | slash
  | star
  deriving DecidableEq

/-- What the scanner is in the middle of. Characters read so far stand last first. -/
inductive Scanning
  /-- Between tokens, of which the last ends just here or not. -/
  | between (touching : Bool)
  | word (read : List Char)
  | markedWord (read : List Char)
  | number (read : List Char)
  /-- A text or character up to the closing quote. -/
  | quoted (quote : Char) (read : List Char) (escape : Escape)
  /-- After `r` and so many `#`, before the quote. -/
  | rawOpening (hashes : Nat)
  /-- A text up to a quote and so many `#`. If a quote has come, so many of them have come after it.
  -/
  | raw (hashes : Nat) (read : List Char) (closing : Option Nat)
  /-- After a slash. -/
  | slash
  | lineComment
  | blockComment (depth : Nat) (mark : CommentMark)

/-- The scanner: what it is in the middle of, and the tokens before, last first. -/
structure Scanner where
  scanning : Scanning
  tokens : List Token

namespace Scanner

/-- A token ends here. -/
def emit (scanner : Scanner) (token : Token) : Scanner :=
  ⟨.between true, token :: scanner.tokens⟩

/-- Goes on in the middle of something. -/
def enter (scanner : Scanner) (scanning : Scanning) : Scanner :=
  { scanner with scanning }

/-- The next character, after a token of which it is no part; `touching` says whether that token
ends just before it. -/
def begin (scanner : Scanner) (touching : Bool) (c : Char) : Scanner :=
  match c with
  | ' ' | '\t' | '\n' | '\r' => scanner.enter (.between false)
  | '(' => scanner.emit (.opening .paren touching)
  | ')' => scanner.emit (.closing .paren touching)
  | '[' => scanner.emit (.opening .square touching)
  | ']' => scanner.emit (.closing .square touching)
  | '\x7b' => scanner.emit (.opening .curly touching)
  | '\x7d' => scanner.emit (.closing .curly touching)
  | ',' => scanner.emit .comma
  | ':' => scanner.emit .colon
  | '#' => scanner.emit .hash
  | '!' => scanner.emit .bang
  | '/' => scanner.enter .slash
  | '"' => scanner.enter (.quoted '"' [] .none)
  | '\'' => scanner.enter (.quoted '\'' [] .none)
  | _ =>
    if startsWord c then scanner.enter (.word [c])
    else if startsNumber c then scanner.enter (.number [c])
    else scanner.emit .broken

/-- The end of a quoted text or character. -/
def endQuoted (scanner : Scanner) (quote : Char) (read : List Char) : Scanner :=
  if quote = '"' then scanner.emit (.text (String.ofList read.reverse))
  else
    match read with
    | [c] => scanner.emit (.char c)
    | _ => scanner.emit .broken

/-- The next character of a quoted text. -/
def stepQuoted (scanner : Scanner) (quote : Char) (read : List Char) (escape : Escape) (c : Char) :
    Scanner :=
  let goOn (read : List Char) (escape : Escape) := scanner.enter (.quoted quote read escape)
  match escape with
  | .none =>
    if c = quote then scanner.endQuoted quote read
    else if c = '\\' then goOn read .backslash
    else goOn (c :: read) .none
  | .backslash =>
    if c = 'x' then goOn read (.code none)
    else if c = 'u' then goOn read .brace
    else
      match escape? c with
      | some e => goOn (e :: read) .none
      | none => scanner.emit .broken
  | .code first =>
    match digitValue? c, first with
    | some d, none => goOn read (.code (some d))
    | some d, some e => goOn (Char.ofNat (16 * e + d) :: read) .none
    | none, _ => scanner.emit .broken
  | .brace => if c = '\x7b' then goOn read (.point 0 0) else scanner.emit .broken
  | .point digits value =>
    if c = '\x7d' then
      match charOfCode? value with
      | some e => if digits = 0 then scanner.emit .broken else goOn (e :: read) .none
      | none => scanner.emit .broken
    else
      match digitValue? c with
      | some d =>
        if digits < 6 then goOn read (.point (digits + 1) (16 * value + d))
        else scanner.emit .broken
      | none => scanner.emit .broken

/-- The next character of a text that ends in a quote and so many `#`. -/
def stepRaw (scanner : Scanner) (hashes : Nat) (read : List Char) (closing : Option Nat)
    (c : Char) : Scanner :=
  let text (read : List Char) := scanner.emit (.text (String.ofList read.reverse))
  match closing with
  | none =>
    if c = '"' then
      if hashes = 0 then text read else scanner.enter (.raw hashes read (some 0))
    else scanner.enter (.raw hashes (c :: read) none)
  | some n =>
    let kept := List.replicate n '#' ++ '"' :: read
    if c = '#' then
      if n + 1 = hashes then text read else scanner.enter (.raw hashes read (some (n + 1)))
    else if c = '"' then scanner.enter (.raw hashes kept (some 0))
    else scanner.enter (.raw hashes (c :: kept) none)

/-- The next character of a comment in `/*` and `*/`. -/
def stepComment (scanner : Scanner) (depth : Nat) (mark : CommentMark) (c : Char) : Scanner :=
  if mark = .slash ∧ c = '*' then scanner.enter (.blockComment (depth + 1) .none)
  else if mark = .star ∧ c = '/' then
    scanner.enter (if depth ≤ 1 then .between false else .blockComment (depth - 1) .none)
  else
    scanner.enter (.blockComment depth
      (if c = '/' then .slash else if c = '*' then .star else .none))

/-- The token of a number whose characters are given last first. -/
def endNumber (scanner : Scanner) (read : List Char) : Scanner :=
  scanner.emit (number read.reverse)

/-- The token of a word whose characters are given last first. -/
def endWord (scanner : Scanner) (marked : Bool) (read : List Char) : Scanner :=
  scanner.emit (.word ⟨String.ofList read.reverse, marked⟩)

/-- The next character. A word that only a mark would allow to go on is none without it. -/
def step (scanner : Scanner) (c : Char) : Scanner :=
  match scanner.scanning with
  | .between touching => scanner.begin touching c
  | .word read =>
    if read = ['r'] ∧ c = '"' then scanner.enter (.raw 0 [] none)
    else if read = ['r'] ∧ c = '#' then scanner.enter (.rawOpening 1)
    else if inWord c then scanner.enter (.word (c :: read))
    else if inMarkedWord c then scanner.emit .broken
    else (scanner.endWord false read).begin true c
  | .markedWord read =>
    if inMarkedWord c then scanner.enter (.markedWord (c :: read))
    else (scanner.endWord true read).begin true c
  | .number read =>
    if inMarkedWord c then scanner.enter (.number (c :: read))
    else (scanner.endNumber read).begin true c
  | .quoted quote read escape => scanner.stepQuoted quote read escape c
  | .rawOpening hashes =>
    if c = '"' then scanner.enter (.raw hashes [] none)
    else if c = '#' then scanner.enter (.rawOpening (hashes + 1))
    else if hashes = 1 ∧ inMarkedWord c then scanner.enter (.markedWord [c])
    else scanner.emit .broken
  | .raw hashes read mark => scanner.stepRaw hashes read mark c
  | .slash =>
    if c = '/' then scanner.enter .lineComment
    else if c = '*' then scanner.enter (.blockComment 1 .none)
    else scanner.emit .broken
  | .lineComment => if c = '\n' then scanner.enter (.between false) else scanner
  | .blockComment depth mark => scanner.stepComment depth mark c

/-- The end of the text, where nothing may be half done. An `r` could be the beginning of a text or
of a marked word, and is no word there. -/
def finish (scanner : Scanner) : Scanner :=
  match scanner.scanning with
  | .between _ | .lineComment => scanner
  | .word ['r'] => scanner.emit .broken
  | .word read => scanner.endWord false read
  | .markedWord read => scanner.endWord true read
  | .number read => scanner.endNumber read
  | _ => scanner.emit .broken

end Scanner

/-- The tokens of a text. -/
def scan (text : String) : List Token :=
  (text.toList.foldl Scanner.step ⟨.between false, []⟩).finish.tokens.reverse

end Token

end IndustrySet
