import OclScan.Text.Extender
import OclScan.Text.Unprintable
import OclScan.Text.Hex

/-!
# Quoted text

A text between double quotes on one line: quotes, backslashes and what cannot be shown are escaped
(`Quoted.encode`), and `Quoted.decode?` undoes it.
-/

namespace OclScan.Text

namespace Quoted

/-- A character by its code point, in lower-case hexadecimal without leading zeros. -/
def encodeCode (c : Char) : List Char :=
  '\\' :: 'u' :: '\x7b' :: (Nat.toDigits 16 c.toNat ++ ['\x7d'])

/-- How one character is written. -/
def encodeChar (c : Char) : List Char :=
  match c with
  | '"' => ['\\', '"']
  | '\\' => ['\\', '\\']
  | '\t' => ['\\', 't']
  | '\r' => ['\\', 'r']
  | '\n' => ['\\', 'n']
  | '\x00' => ['\\', '0']
  | _ => if isExtender c || isUnprintable c then encodeCode c else [c]

/-- How a text is written between the quotes. -/
def encode (cs : List Char) : List Char := cs.flatMap encodeChar

/-- Reads one character, escaped or not. -/
def decodeChar? : List Char → Option (Char × List Char)
  | '\\' :: '"' :: cs => some ('"', cs)
  | '\\' :: '\\' :: cs => some ('\\', cs)
  | '\\' :: 't' :: cs => some ('\t', cs)
  | '\\' :: 'r' :: cs => some ('\r', cs)
  | '\\' :: 'n' :: cs => some ('\n', cs)
  | '\\' :: '0' :: cs => some ('\x00', cs)
  | '\\' :: 'u' :: '\x7b' :: cs =>
    match cs.dropWhile (· != '\x7d') with
    | [] => none
    | _ :: rest => (hexChar? (cs.takeWhile (· != '\x7d'))).map (·, rest)
  | '\\' :: _ => none
  | '"' :: _ => none
  | c :: cs => some (c, cs)
  | [] => none

/-- Reads the text between the quotes; `fuel` need not exceed its length. -/
def decodeFrom? : Nat → List Char → Option (List Char)
  | _, [] => some []
  | 0, _ => none
  | fuel + 1, cs => do
    let (c, rest) ← decodeChar? cs
    return c :: (← decodeFrom? fuel rest)

/-- Reads the text between the quotes. -/
def decode? (cs : List Char) : Option (List Char) := decodeFrom? cs.length cs

end Quoted

/-- A text between quotes. -/
def quote (s : String) : String := String.ofList ('"' :: (Quoted.encode s.toList ++ ['"']))

/-- The text that is written between quotes. -/
def unquote? (s : String) : Option String :=
  match s.toList with
  | '"' :: cs =>
    if cs.getLast? = some '"' then (Quoted.decode? cs.dropLast).map String.ofList else none
  | _ => none

end OclScan.Text
