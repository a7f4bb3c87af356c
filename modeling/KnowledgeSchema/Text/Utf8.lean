/-!
# Bytes as text

Bytes are read as characters from left to right, one byte at a time. What begins no character, or
is broken off before its last byte, ends as early as the bytes show it, so that a reading can go on
right after it or can say where the first flaw is.
-/

namespace KnowledgeSchema.Utf8

/-- What a run of bytes is. -/
inductive Piece where
  | char (c : Char)
  /-- As many bytes that no byte after them makes a character. -/
  | broken (length : Nat)
  /-- The first bytes of a character, with nothing after them. -/
  | cut (length : Nat)

/-- The first bytes that begin alike: how many bytes they make a character wait for, and between
which bounds the next of these is. The first byte of a range stands for a zero. -/
structure Lead where
  first : UInt8
  last : UInt8
  base : UInt8
  owed : Nat
  low : UInt8
  high : UInt8

/-- The bounds rule out longer forms than needed, surrogates, and numbers above every character. -/
def leads : List Lead :=
  [⟨0xc2, 0xdf, 0xc0, 1, 0x80, 0xbf⟩,
    ⟨0xe0, 0xe0, 0xe0, 2, 0xa0, 0xbf⟩,
    ⟨0xe1, 0xec, 0xe0, 2, 0x80, 0xbf⟩,
    ⟨0xed, 0xed, 0xe0, 2, 0x80, 0x9f⟩,
    ⟨0xee, 0xef, 0xe0, 2, 0x80, 0xbf⟩,
    ⟨0xf0, 0xf0, 0xf0, 3, 0x90, 0xbf⟩,
    ⟨0xf1, 0xf3, 0xf0, 3, 0x80, 0xbf⟩,
    ⟨0xf4, 0xf4, 0xf0, 3, 0x80, 0x8f⟩]

/-- A character of which some bytes were read. -/
structure Begun where
  length : Nat
  value : Nat
  owed : Nat
  low : UInt8
  high : UInt8

/-- What a byte is at the start of a character. -/
def start (b : UInt8) : Except Piece Begun :=
  if b < 0x80 then .error (.char (Char.ofNat b.toNat))
  else
    match leads.find? fun lead => lead.first ≤ b && b ≤ lead.last with
    | none => .error (.broken 1)
    | some lead =>
      .ok { length := 1, value := (b - lead.base).toNat, owed := lead.owed, low := lead.low,
            high := lead.high }

/-- What a byte is inside a character, if it can be there. -/
def Begun.next (begun : Begun) (b : UInt8) : Option (Except Piece Begun) :=
  if begun.low ≤ b && b ≤ begun.high then
    let value := begun.value * 64 + (b - 0x80).toNat
    if begun.owed = 1 then some (.error (.char (Char.ofNat value)))
    else
      some (.ok { length := begun.length + 1, value, owed := begun.owed - 1, low := 0x80,
                  high := 0xbf })
  else none

/-- The pieces that end at a byte, and the character that goes on after it. -/
def step : Option Begun → UInt8 → List Piece × Option Begun
  | none, b => settle [] (start b)
  | some begun, b =>
    match begun.next b with
    | some outcome => settle [] outcome
    | none => settle [.broken begun.length] (start b)
where
  settle (before : List Piece) : Except Piece Begun → List Piece × Option Begun
    | .error piece => (before ++ [piece], none)
    | .ok begun => (before, some begun)

/-- The pieces of bytes after a character was begun, or after none. -/
def piecesFrom : Option Begun → List UInt8 → List Piece
  | none, [] => []
  | some begun, [] => [.cut begun.length]
  | state, b :: rest =>
    match step state b with
    | (ended, state) => ended ++ piecesFrom state rest

def pieces (bytes : List UInt8) : List Piece :=
  piecesFrom none bytes

/-- Where bytes stop being text. -/
inductive Flaw where
  | broken (index length : Nat)
  | cut (index : Nat)
deriving DecidableEq

def Flaw.message : Flaw → String
  | .broken index length => s!"invalid utf-8 sequence of {length} bytes from index {index}"
  | .cut index => s!"incomplete utf-8 byte sequence from index {index}"

/-- The characters of pieces of which the first begins at an index. -/
def charsFrom (index : Nat) : List Piece → Except Flaw (List Char)
  | [] => .ok []
  | .char c :: rest => (c :: ·) <$> charsFrom (index + c.utf8Size) rest
  | .broken length :: _ => .error (.broken index length)
  | .cut _ :: _ => .error (.cut index)

def decode (bytes : List UInt8) : Except Flaw (List Char) :=
  charsFrom 0 (pieces bytes)

/-- Has a replacement character in the place of every piece that is none. -/
def decodeAll (bytes : List UInt8) : List Char :=
  (pieces bytes).map fun
    | .char c => c
    | _ => '\ufffd'

def encode (text : List Char) : List UInt8 :=
  text.flatMap String.utf8EncodeChar

end KnowledgeSchema.Utf8
