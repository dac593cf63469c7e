/-
  Inlay.Text.Quoted
  ────────────────────────────────
  **QUOTED TEXT.**

  The written form of a text constant.  Single quotes enclose it, unless the
  text holds single quotes and no double quote.  The enclosing quote, the
  backslash and the three common controls are escaped by a letter, other
  unprintable characters by the shortest of `\xHH`, `\uHHHH`, `\UHHHHHHHH`.
-/
import Inlay.Text.Printable

namespace Inlay.Text

/-! ## §1. Hexadecimal digits. -/

/-- The digit of a value below sixteen, in lower case. -/
def hexDigit (n : Nat) : Char :=
  if n < 10 then Char.ofNat (48 + n) else Char.ofNat (87 + n)

/-- The last `width` hexadecimal digits of a number. -/
def hexDigits (width n : Nat) : List Char :=
  match width with
  | 0 => []
  | w + 1 => hexDigits w (n / 16) ++ [hexDigit (n % 16)]

/-- The numeric escape of a code point. -/
def codeEscape (n : Nat) : List Char :=
  if n < 0x100 then '\\' :: 'x' :: hexDigits 2 n
  else if n < 0x10000 then '\\' :: 'u' :: hexDigits 4 n
  else '\\' :: 'U' :: hexDigits 8 n

/-! ## §2. Text constants. -/

/-- One character inside the given quotes. -/
def quotedChar (quote c : Char) : List Char :=
  if c = quote || c = '\\' then ['\\', c]
  else if c = '\n' then ['\\', 'n']
  else if c = '\r' then ['\\', 'r']
  else if c = '\t' then ['\\', 't']
  else if isPrintable c then [c]
  else codeEscape c.toNat

/-- The quote that needs fewer escapes; single quotes in doubt. -/
def quoteFor (s : List Char) : Char :=
  if s.contains '\'' && !s.contains '"' then '"' else '\''

/-- The written form of a text constant. -/
def quoted (s : String) : String :=
  let q := quoteFor s.toList
  String.ofList (q :: (s.toList.flatMap (quotedChar q) ++ [q]))

/-- A text with escapes for all that is beyond ASCII. -/
def asciiOnly (s : String) : String :=
  String.ofList (s.toList.flatMap (fun c => if c.toNat < 128 then [c] else codeEscape c.toNat))

/-! ## §3. Byte constants. -/

/-- One byte inside the given quotes; bytes beyond ASCII are escaped. -/
def quotedByte (quote : Char) (b : Nat) : List Char :=
  if b < 0x7F then quotedChar quote (Char.ofNat b) else codeEscape b

/-- The written form of a byte constant. -/
def quotedBytes (bytes : List Nat) : String :=
  let q := quoteFor (bytes.map Char.ofNat)
  String.ofList ('b' :: q :: (bytes.flatMap (quotedByte q) ++ [q]))

end Inlay.Text
