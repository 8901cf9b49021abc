import Mishap.Text.Radix
import Mishap.Yaml.Gap

/-!
Scalars in quotes. Inside of single quotes a quote is written twice and nothing is escaped; inside of double quotes a
backslash escapes, also a line break.
-/

namespace Mishap.Yaml

/-- The character that a backslash and one more character stand for. -/
def escaped? : Char → Option Char
  | '0' => some '\x00'
  | 'a' => some '\x07'
  | 'b' => some '\x08'
  | 't' => some '\t'
  | '\t' => some '\t'
  | 'n' => some '\n'
  | 'v' => some '\x0b'
  | 'f' => some '\x0c'
  | 'r' => some '\r'
  | 'e' => some '\x1b'
  | ' ' => some ' '
  | '"' => some '"'
  | '/' => some '/'
  | '\\' => some '\\'
  | 'N' => some '\u0085'
  | '_' => some '\u00a0'
  | 'L' => some '\u2028'
  | 'P' => some '\u2029'
  | _ => none

/-- How many hexadecimal digits of a code point follow a backslash and this character. -/
def codeLength? : Char → Option Nat
  | 'x' => some 2
  | 'u' => some 4
  | 'U' => some 8
  | _ => none

def charOfCode? (digits : List Char) : Option Char :=
  ((Text.number? 16 digits).filter (·.isValidChar)).map .ofNat

inductive Quote
  | single
  | double
  deriving DecidableEq, Repr

def Quote.char : Quote → Char
  | single => '\x27'
  | double => '"'

/-- The part of an escape that has been read: nothing, the first of two single quotes, the backslash, or the first
digits of a code point. -/
inductive Escape
  | nothing
  | quote
  | backslash
  | code (digits : List Char) (missing : Nat)
  deriving DecidableEq, Repr

/-- The characters so far, last first, the gap behind them and the escape that is being read. -/
structure Quoting where
  read : List Char
  gap : Gap
  escape : Escape
  deriving DecidableEq, Repr

namespace Quoting

def initial : Quoting := ⟨[], .empty, .nothing⟩

/-- The characters with the gap behind them. -/
def settled (q : Quoting) : List Char := q.gap.folded ++ q.read

def push (q : Quoting) (c : Char) : Quoting := ⟨c :: q.settled, .empty, .nothing⟩

def await (q : Quoting) (escape : Escape) : Quoting := ⟨q.settled, .empty, escape⟩

/-- The character behind a backslash. -/
def unescape? (q : Quoting) (c : Char) : Option Quoting :=
  if isBreak c then some ⟨q.read, .escaped, .nothing⟩
  else
    match codeLength? c with
    | some length => some (q.await (.code [] length))
    | none => (escaped? c).map q.push

/-- The last or another digit of a code point. -/
def digit? (q : Quoting) (digits : List Char) (missing : Nat) (c : Char) : Option Quoting :=
  let digits := digits ++ [c]
  if missing ≤ 1 then (charOfCode? digits).map q.push
  else if (Text.number? 16 digits).isSome then some (q.await (.code digits (missing - 1)))
  else none

end Quoting

/-- Reads the inside of a scalar and the closing quote. A mark of a document may not stand in it. -/
def quoted? (quote : Quote) (q : Quoting) : List Cell → Option Excerpt
  | [] => none
  | cell :: rest =>
    match q.escape with
    | .quote => quoted? quote (q.push cell.char) rest
    | .backslash => (q.unescape? cell.char).bind fun q => quoted? quote q rest
    | .code digits missing => (q.digit? digits missing cell.char).bind fun q => quoted? quote q rest
    | .nothing =>
      if cell.isSpace then quoted? quote { q with gap := q.gap.add cell.char } rest
      else if Cell.atDocumentMark (cell :: rest) then none
      else if quote = .double ∧ cell.char = '\\' then quoted? quote (q.await .backslash) rest
      else if cell.char ≠ quote.char then quoted? quote (q.push cell.char) rest
      else if quote = .single ∧ rest.head?.any (·.char == quote.char) then quoted? quote (q.await .quote) rest
      else some ⟨q.settled.reverse, false, rest⟩

end Mishap.Yaml
