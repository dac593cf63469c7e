/-
  Inlay.Text.Encoding
  ────────────────────────────────
  **BYTES AS TEXT.**

  Files hold bytes.  `Encoding.decode` reads them in one of the known ways
  and, where they cannot be read, says which bytes are at fault and why.
  In UTF-8 a fault covers the longest start of a character that is still in
  order, and at least one byte.

      Encoding.ofName? — the encoding that a name stands for, if it is known
-/
import Inlay.Text.CodePages
import Inlay.Text.Quoted

namespace Inlay.Text

/-! ## §1. Faults. -/

/-- What keeps bytes from being text. -/
inductive DecodeFault where
  /-- Some bytes cannot be read: the first one, its position, how many, and why. -/
  | bytes (encoding : String) (first start length : Nat) (reason : String)
  /-- The mark that tells the order of the bytes is missing. -/
  | unmarked (encoding : String)
  deriving Repr, DecidableEq

/-- A fault in words. -/
def DecodeFault.message : DecodeFault → String
  | bytes encoding first start length reason =>
    "'" ++ encoding ++ "' codec can't decode " ++
      (if length = 1 then
        "byte 0x" ++ String.ofList (hexDigits 2 first) ++ " in position " ++ toString start
      else
        "bytes in position " ++ toString start ++ "-" ++ toString (start + length - 1))
      ++ ": " ++ reason
  | unmarked encoding => encoding ++ " stream does not start with BOM"

/-! ## §2. UTF-8. -/

/-- Does the byte continue a character? -/
def isContinuation (b : Nat) : Bool := 0x80 ≤ b && b < 0xC0

/-- The length of the character that starts with a byte, and the bounds of its second byte. -/
def leadByte? (b : Nat) : Option (Nat × Nat × Nat) :=
  if b < 0xC2 then none
  else if b < 0xE0 then some (2, 0x80, 0xBF)
  else if b = 0xE0 then some (3, 0xA0, 0xBF)
  else if b = 0xED then some (3, 0x80, 0x9F)
  else if b < 0xF0 then some (3, 0x80, 0xBF)
  else if b = 0xF0 then some (4, 0x90, 0xBF)
  else if b < 0xF4 then some (4, 0x80, 0xBF)
  else if b = 0xF4 then some (4, 0x80, 0x8F)
  else none

/-- How many of the bytes behind the first one are in order, at most the given number. -/
def continued (count lo hi : Nat) : List Nat → Nat
  | [] => 0
  | b :: rest =>
    match count with
    | 0 => 0
    | n + 1 => if lo ≤ b && b ≤ hi then continued n 0x80 0xBF rest + 1 else 0

/-- The character whose bytes are given, the first of them without its marks. -/
def joinBits (first : Nat) (rest : List Nat) : Char :=
  Char.ofNat (rest.foldl (fun n b => n * 64 + b % 64) first)

/-- The text that some bytes spell in UTF-8; the first of them has the given position. -/
def decodeUtf8 (position : Nat) : List Nat → Except DecodeFault (List Char)
  | [] => .ok []
  | b :: rest =>
    if b < 0x80 then (decodeUtf8 (position + 1) rest).map (Char.ofNat b :: ·)
    else match leadByte? b with
      | none => .error (.bytes "utf-8" b position 1 "invalid start byte")
      | some (size, lo, hi) =>
        let good := continued (size - 1) lo hi rest
        if good = size - 1 then
          (decodeUtf8 (position + size) (rest.drop (size - 1))).map
            (joinBits (b % Nat.pow 2 (7 - size)) (rest.take (size - 1)) :: ·)
        else if rest.length = good then
          .error (.bytes "utf-8" b position (good + 1) "unexpected end of data")
        else .error (.bytes "utf-8" b position (good + 1) "invalid continuation byte")
termination_by s => s.length
decreasing_by
  · simp
  · simp only [List.length_drop, List.length_cons]; omega

/-! ## §3. UTF-16 and UTF-32. -/

/-- Which byte of a number comes first. -/
inductive ByteOrder where
  | little | big
  deriving Repr, DecidableEq

/-- The end of the names of encodings with an order of bytes. -/
def ByteOrder.label : ByteOrder → String
  | little => "le"
  | big => "be"

/-- The number that some bytes spell. -/
def ByteOrder.number (o : ByteOrder) (bytes : List Nat) : Nat :=
  let ordered := match o with
    | little => bytes.reverse
    | big => bytes
  ordered.foldl (fun n b => n * 256 + b) 0

/-- The text that some bytes spell in UTF-16; the first of them has the given position. -/
def decodeUtf16 (o : ByteOrder) (position : Nat) (s : List Nat) :
    Except DecodeFault (List Char) :=
  let fault (length : Nat) (reason : String) : Except DecodeFault (List Char) :=
    .error (.bytes ("utf-16-" ++ o.label) (s.headD 0) position length reason)
  match s with
  | [] => .ok []
  | [_] => fault 1 "truncated data"
  | a :: b :: rest =>
    let unit := o.number [a, b]
    if unit < 0xD800 || 0xE000 ≤ unit then
      (decodeUtf16 o (position + 2) rest).map (Char.ofNat unit :: ·)
    else if 0xDC00 ≤ unit then fault 2 "illegal encoding"
    else
      match rest with
      | c :: d :: rest =>
        let second := o.number [c, d]
        if 0xDC00 ≤ second && second < 0xE000 then
          (decodeUtf16 o (position + 4) rest).map
            (Char.ofNat (0x10000 + (unit - 0xD800) * 0x400 + (second - 0xDC00)) :: ·)
        else fault 2 "illegal UTF-16 surrogate"
      | rest => fault (2 + rest.length) "unexpected end of data"

/-- The text that some bytes spell in UTF-32; the first of them has the given position. -/
def decodeUtf32 (o : ByteOrder) (position : Nat) (s : List Nat) :
    Except DecodeFault (List Char) :=
  let fault (length : Nat) (reason : String) : Except DecodeFault (List Char) :=
    .error (.bytes ("utf-32-" ++ o.label) (s.headD 0) position length reason)
  match s with
  | [] => .ok []
  | a :: b :: c :: d :: rest =>
    let unit := o.number [a, b, c, d]
    if 0x110000 ≤ unit then fault 4 "code point not in range(0x110000)"
    else if 0xD800 ≤ unit && unit < 0xE000 then
      fault 4 "code point in surrogate code point range(0xd800, 0xe000)"
    else (decodeUtf32 o (position + 4) rest).map (Char.ofNat unit :: ·)
  | s => fault s.length "truncated data"

/-! ## §4. UTF-7. -/

/-- The value of a digit of base 64. -/
def base64Value? (b : Nat) : Option Nat :=
  if 0x41 ≤ b && b ≤ 0x5A then some (b - 0x41)
  else if 0x61 ≤ b && b ≤ 0x7A then some (b - 0x61 + 26)
  else if 0x30 ≤ b && b ≤ 0x39 then some (b - 0x30 + 52)
  else if b = 0x2B then some 62
  else if b = 0x2F then some 63
  else none

/-- A run of base 64 in progress: where it starts, the bits that make no character yet, how many
they are, and the first half of a pair. -/
structure Shift where
  start : Nat
  value : Nat := 0
  bits : Nat := 0
  half : Option Nat := none

/-- The run with one more digit, and the character that it completes. -/
def Shift.add (s : Shift) (digit : Nat) : Shift × List Char :=
  let value := s.value * 64 + digit
  let bits := s.bits + 6
  if bits < 16 then ({ s with value, bits }, [])
  else
    let unit := value / Nat.pow 2 (bits - 16)
    let s' : Shift :=
      { s with value := value % Nat.pow 2 (bits - 16), bits := bits - 16, half := none }
    match s.half with
    | some h =>
      if 0xDC00 ≤ unit && unit < 0xE000 then
        (s', [Char.ofNat (0x10000 + (h - 0xD800) * 0x400 + (unit - 0xDC00))])
      else if 0xD800 ≤ unit && unit < 0xDC00 then ({ s' with half := some unit }, [])
      else (s', [Char.ofNat unit])
    | none =>
      if 0xD800 ≤ unit && unit < 0xDC00 then ({ s' with half := some unit }, [])
      else (s', [Char.ofNat unit])

/-- What is wrong with a run that ends here. -/
def Shift.fault? (s : Shift) : Option String :=
  if 6 ≤ s.bits then some "partial character in shift sequence"
  else if s.value ≠ 0 then some "non-zero padding bits in shift sequence"
  else none

/-- The text that some bytes spell in UTF-7; the first of them has the given position, and `first`
is the byte that the run in progress starts with. -/
def decodeUtf7 (position first : Nat) (shift : Option Shift) :
    List Nat → Except DecodeFault (List Char)
  | [] =>
    match shift with
    | none => .ok []
    | some s =>
      if s.half.isSome || 6 ≤ s.bits || s.value ≠ 0 then
        .error (.bytes "utf7" first s.start (position - s.start) "unterminated shift sequence")
      else .ok []
  | b :: rest =>
    let plain : Except DecodeFault (List Char) :=
      if b = 0x2B then
        match rest with
        | c :: more =>
          if c = 0x2D then (decodeUtf7 (position + 2) 0 none more).map ('+' :: ·)
          else if (base64Value? c).isNone then
            .error (.bytes "utf7" b position 2 "ill-formed sequence")
          else decodeUtf7 (position + 1) b (some { start := position }) (c :: more)
        | [] => .ok []
      else if b < 0x80 then (decodeUtf7 (position + 1) 0 none rest).map (Char.ofNat b :: ·)
      else .error (.bytes "utf7" b position 1 "unexpected special character")
    match shift with
    | none => plain
    | some s =>
      match base64Value? b with
      | some digit =>
        let (s, chars) := s.add digit
        (decodeUtf7 (position + 1) first (some s) rest).map (chars ++ ·)
      | none =>
        match s.fault? with
        | some reason => .error (.bytes "utf7" first s.start (position + 1 - s.start) reason)
        | none => if b = 0x2D then decodeUtf7 (position + 1) 0 none rest else plain
termination_by s => s.length

/-! ## §5. Encodings. -/

/-- The known ways to read bytes. -/
inductive Encoding where
  | utf8
  /-- UTF-8 with or without a byte order mark in front. -/
  | utf8Marked
  /-- A known order of bytes, or one that a mark in front tells. -/
  | utf16 (order : Option ByteOrder)
  | utf32 (order : Option ByteOrder)
  | utf7
  | latin1
  | ascii
  /-- One byte for a character, which is looked up in a table. -/
  | page (table : String)
  deriving Repr, DecidableEq

/-- What a name of an encoding stands for. -/
inductive EncodingName where
  | known (e : Encoding)
  /-- It is not about text. -/
  | binary
  | unknown
  deriving Repr, DecidableEq

namespace Encoding

/-- A name of an encoding in the form in which names are compared: small letters, digits, points, and
single underscores for all else. -/
def nameForm (name : String) : String :=
  let word (c : Char) : Bool := c.isAlphanum || c = '.'
  let words := (name.toList.map (fun c => if word c then c.toLower else ' '))
  "_".intercalate (((String.ofList words).splitOn " ").filter (· ≠ ""))

/-- The encoding with a name of its own. -/
def ofLabel? (label : String) : Option Encoding :=
  match label with
  | "utf_8" => some utf8
  | "utf_8_sig" => some utf8Marked
  | "utf_16" => some (utf16 none)
  | "utf_16_le" => some (utf16 (some .little))
  | "utf_16_be" => some (utf16 (some .big))
  | "utf_32" => some (utf32 none)
  | "utf_32_le" => some (utf32 (some .little))
  | "utf_32_be" => some (utf32 (some .big))
  | "utf_7" => some utf7
  | "latin_1" | "charmap" => some latin1
  | "ascii" => some ascii
  | "locale" => some utf8
  | label => (codePages.lookup label).map page

/-- The encoding of a given name. -/
def ofName (name : String) : EncodingName :=
  let form := nameForm name
  let label := (encodingAliases.lookup form).or (encodingAliases.lookup (form.replace "." "_"))
  if name.toList.any (128 ≤ ·.toNat) then .unknown
  else if binaryEncodings.contains form then .binary
  else
    match (label.bind ofLabel?).or (ofLabel? form) with
    | some e => .known e
    | none => .unknown

/-- The bytes of the byte order mark. -/
def mark : List Nat := [0xEF, 0xBB, 0xBF]

/-- The text of ASCII bytes. -/
def decodeAscii (position : Nat) : List Nat → Except DecodeFault (List Char)
  | [] => .ok []
  | b :: rest =>
    if b < 0x80 then (decodeAscii (position + 1) rest).map (Char.ofNat b :: ·)
    else .error (.bytes "ascii" b position 1 "ordinal not in range(128)")

/-- The character of a byte in a table of 256 characters, or of the upper 128. -/
def pageChar? (table : Array Char) (b : Nat) : Option Char :=
  let c? :=
    if table.size = 256 then table[b]?
    else if b < 128 then some (Char.ofNat b)
    else table[b - 128]?
  c?.filter (·.toNat ≠ 0xFFFE)

/-- The text of bytes that are looked up in a table. -/
def decodePage (table : Array Char) (position : Nat) : List Nat → Except DecodeFault (List Char)
  | [] => .ok []
  | b :: rest =>
    match pageChar? table b with
    | some c => (decodePage table (position + 1) rest).map (c :: ·)
    | none => .error (.bytes "charmap" b position 1 "character maps to <undefined>")

/-- The text of bytes whose order a mark in front tells; without any mark the bytes must be fewer
than one unit. -/
def decodeMarked (label : String) (unit : Nat) (decoder : ByteOrder → Nat → List Nat →
    Except DecodeFault (List Char)) (bytes : List Nat) : Except DecodeFault (List Char) :=
  let mark : List Nat := 0xFE :: List.replicate (unit - 2) 0
  if (0xFF :: mark).isPrefixOf bytes then decoder .little unit (bytes.drop unit)
  else if (mark.reverse ++ [0xFF]).isPrefixOf bytes then decoder .big unit (bytes.drop unit)
  else if bytes.length < unit then decoder .little 0 bytes
  else .error (.unmarked label)

/-- The text of some bytes.  A byte order mark that is not complete counts as nothing. -/
def decode (bytes : List Nat) : Encoding → Except DecodeFault (List Char)
  | utf8 => decodeUtf8 0 bytes
  | utf8Marked =>
    if mark.isPrefixOf bytes then decodeUtf8 0 (bytes.drop 3)
    else if bytes.isPrefixOf mark then .ok []
    else decodeUtf8 0 bytes
  | utf16 (some o) => decodeUtf16 o 0 bytes
  | utf16 none => decodeMarked "UTF-16" 2 decodeUtf16 bytes
  | utf32 (some o) => decodeUtf32 o 0 bytes
  | utf32 none => decodeMarked "UTF-32" 4 decodeUtf32 bytes
  | utf7 => decodeUtf7 0 0 none bytes
  | latin1 => .ok (bytes.map Char.ofNat)
  | ascii => decodeAscii 0 bytes
  | page table => decodePage table.toList.toArray 0 bytes

end Encoding

end Inlay.Text
