/-
  Inlay.Token.Scan
  ────────────────────────────────
  **SCANNING A SOURCE.**

  `scan` reads a source from left to right into pieces: characters of text,
  escapes `<%%` that stand for `<%`, and markers.  A marker ends at the first
  `%>` after its sigil.  The one thing that can go wrong is an opener that
  nothing closes.

      tokens — the pieces with neighbouring text joined, placed by the
               characters that every piece takes up
-/
import Inlay.Token

namespace Inlay

/-! ## §1. Pieces. -/

/-- A piece of a source. -/
inductive Piece where
  /-- One character of text. -/
  | char (c : Char)
  /-- The escape `<%%`. -/
  | escape
  /-- A marker with the code between its sigil and its end. -/
  | marker (kind : TokenKind) (raw : List Char)
  deriving Repr, DecidableEq

/-- The character that stands between `<%` and the code, if any. -/
def TokenKind.sigil : TokenKind → List Char
  | marker .output => ['=']
  | marker .pipe => ['|']
  | comment => ['#']
  | _ => []

/-- The characters that a piece takes up in the source. -/
def Piece.spelling : Piece → List Char
  | char c => [c]
  | escape => ['<', '%', '%']
  | marker kind raw => '<' :: '%' :: (kind.sigil ++ raw ++ ['%', '>'])

/-! ## §2. Scanning. -/

/-- The kind of the marker whose text after `<%` is given, and its text after the sigil. -/
def markerKind : List Char → TokenKind × List Char
  | '=' :: s => (.marker .output, s)
  | '|' :: s => (.marker .pipe, s)
  | '#' :: s => (.comment, s)
  | s => (.marker .silent, s)

/-- Cut a text at its first `%>`. -/
def cutAtEnd : List Char → Option (List Char × List Char)
  | [] => none
  | '%' :: '>' :: s => some ([], s)
  | c :: s => (cutAtEnd s).map (fun p => (c :: p.1, p.2))

/-- What a scan finds: the pieces, and the kind of the opener without an end that stopped it. -/
structure Scan where
  pieces : List Piece
  dangling : Option TokenKind
  deriving Repr, DecidableEq

/-- A scan with one more piece in front. -/
def Scan.cons (p : Piece) (s : Scan) : Scan := ⟨p :: s.pieces, s.dangling⟩

theorem markerKind_length (s : List Char) : (markerKind s).2.length ≤ s.length := by
  unfold markerKind
  split <;> simp

theorem cutAtEnd_length {s raw rest : List Char} (h : cutAtEnd s = some (raw, rest)) :
    rest.length < s.length := by
  induction s generalizing raw with
  | nil => simp [cutAtEnd] at h
  | cons c s ih =>
    unfold cutAtEnd at h
    split at h
    · simp at h
    · rename_i heq
      simp only [Option.some.injEq, Prod.mk.injEq] at h
      obtain ⟨_, rfl⟩ := h
      rw [heq]
      simp only [List.length_cons]
      omega
    · rename_i heq
      simp only [List.cons.injEq] at heq
      obtain ⟨rfl, rfl⟩ := heq
      obtain ⟨p, hp, hq⟩ := Option.map_eq_some_iff.1 h
      simp only [Prod.mk.injEq] at hq
      obtain ⟨_, rfl⟩ := hq
      have := @ih p.1 (by simpa using hp)
      simp only [List.length_cons]
      omega

/-- The pieces of a source. -/
def scan : List Char → Scan
  | [] => ⟨[], none⟩
  | '<' :: '%' :: '%' :: s => (scan s).cons .escape
  | '<' :: '%' :: s =>
    match _h : cutAtEnd (markerKind s).2 with
    | none => ⟨[], some (markerKind s).1⟩
    | some (raw, rest) => (scan rest).cons (.marker (markerKind s).1 raw)
  | c :: s => (scan s).cons (.char c)
termination_by s => s.length
decreasing_by
  · simp only [List.length_cons]; omega
  · have h1 := cutAtEnd_length _h
    have h2 := markerKind_length s
    simp only [List.length_cons]; omega
  · simp

/-! ## §3. Tokens. -/

/-- The code of a marker without one space at its start and one at its end. -/
def trimSpacing (raw : List Char) : List Char :=
  let s := match raw with
    | ' ' :: s => s
    | s => s
  match s.getLast? with
  | some ' ' => s.dropLast
  | _ => s

/-- The token of the text read so far, if there is any; the text is given backwards. -/
def dataToken (start : Position) (text : List Char) : List Token :=
  if text.isEmpty then [] else [⟨.data, String.ofList text.reverse, start⟩]

/-- The tokens of some pieces.  The first position is where the text read so far begins, the
second where the first piece begins; the text read so far is kept backwards. -/
def tokensOf (start here : Position) (text : List Char) : List Piece → List Token
  | [] => dataToken start text ++ [⟨.eof, "", here⟩]
  | .char c :: ps => tokensOf start (here.next c) (c :: text) ps
  | .escape :: ps => tokensOf start (here.after ['<', '%', '%']) ('%' :: '<' :: text) ps
  | .marker kind raw :: ps =>
    let next := here.after (Piece.marker kind raw).spelling
    dataToken start text
      ++ ⟨kind, String.ofList (trimSpacing raw), here⟩ :: tokensOf next next [] ps

/-- The place behind some pieces. -/
def placeAfter (p : Position) (pieces : List Piece) : Position :=
  p.after (pieces.flatMap Piece.spelling)

/-- An opener without an end: what it looks like, and an empty token at its place. -/
structure Unterminated where
  opener : String
  token : Token
  deriving Repr, DecidableEq

/-- The tokens of a source, or its opener without an end. -/
def tokenize (source : String) : Except Unterminated (List Token) :=
  let s := scan source.toList
  match s.dangling with
  | none => .ok (tokensOf .start .start [] s.pieces)
  | some kind =>
    .error ⟨String.ofList ('<' :: '%' :: kind.sigil), ⟨kind, "", placeAfter .start s.pieces⟩⟩

/-- A source has tokens if no opener is without an end, and they are those of its pieces. -/
theorem tokenize_ok_iff {source : String} {tokens : List Token} :
    tokenize source = .ok tokens ↔ (scan source.toList).dangling = none
      ∧ tokens = tokensOf .start .start [] (scan source.toList).pieces := by
  unfold tokenize
  dsimp only
  cases (scan source.toList).dangling with
  | none => exact ⟨fun h => ⟨rfl, (Except.ok.inj h).symm⟩, fun ⟨_, h⟩ => congrArg Except.ok h.symm⟩
  | some kind => exact ⟨fun h => (by cases h), fun ⟨h, _⟩ => (by cases h)⟩

end Inlay
