import RepoAudit.Text.CodePoint

/-! # UTF-8

Reading bytes as UTF-8.  A small machine takes the bytes one by one and cuts them into pieces: a
well-formed character, or a longest run that could still have become one and did not.  A lenient
reading shows the replacement character for every ill-formed piece, a strict reading refuses them.

* `State`, `step` – the machine;
* `pieces` – the bytes cut into characters and ill-formed runs;
* `decodeLossy`, `chars?`, `decode?` – the two readings;
* `encode` – the bytes of a text.
-/

namespace RepoAudit.Text.Utf8

/-- Where the machine stands: between characters, or inside one that still owes bytes.  The next
byte must lie between `low` and `high`; `value` is the number read so far. -/
inductive State where
  | between
  | inside (owed : Nat) (low high : UInt8) (value : Nat)
  deriving Repr, DecidableEq

/-- The first byte of a character.  The bounds of the second byte exclude over-long forms,
surrogates and numbers beyond the last code point. -/
def start (b : UInt8) : List (Option Char) × State :=
  if b < 0x80 then ([some (Char.ofNat b.toNat)], .between)
  else if 0xc2 ≤ b && b ≤ 0xdf then ([], .inside 1 0x80 0xbf (b.toNat % 32))
  else if b = 0xe0 then ([], .inside 2 0xa0 0xbf 0)
  else if b = 0xed then ([], .inside 2 0x80 0x9f 13)
  else if 0xe1 ≤ b && b ≤ 0xef then ([], .inside 2 0x80 0xbf (b.toNat % 16))
  else if b = 0xf0 then ([], .inside 3 0x90 0xbf 0)
  else if 0xf1 ≤ b && b ≤ 0xf3 then ([], .inside 3 0x80 0xbf (b.toNat % 8))
  else if b = 0xf4 then ([], .inside 3 0x80 0x8f 4)
  else ([none], .between)

/-- One byte: the pieces it completes, and the state after it. -/
def step : State → UInt8 → List (Option Char) × State
  | .between, b => start b
  | .inside owed low high value, b =>
    if low ≤ b && b ≤ high then
      let value' := value * 64 + b.toNat % 64
      if owed = 1 then ([some (Char.ofNat value')], .between)
      else ([], .inside (owed - 1) 0x80 0xbf value')
    else
      let (out, next) := start b
      (none :: out, next)

def run : State → List UInt8 → List (Option Char)
  | .between, [] => []
  | .inside .., [] => [none]
  | st, b :: rest =>
    let (out, next) := step st b
    out ++ run next rest

/-- Cuts bytes into characters and ill-formed runs; `none` stands for an ill-formed run. -/
def pieces (bytes : List UInt8) : List (Option Char) :=
  run .between bytes

def replacement : Char := Char.ofNat 0xfffd

/-- Reads bytes leniently: each ill-formed run becomes one replacement character. -/
def decodeLossy (bytes : List UInt8) : String :=
  String.ofList (spellChars ((pieces bytes).map (·.getD replacement)))

/-- Reads bytes strictly as characters: nothing when some run is ill-formed. -/
def chars? (bytes : List UInt8) : Option (List Char) :=
  (pieces bytes).mapM id

def decode? (bytes : List UInt8) : Option String :=
  (chars? bytes).map fun cs => String.ofList (spellChars cs)

/-- The bytes of a code point; half a surrogate pair has three, which no reader accepts. -/
def encodePoint (n : Nat) : List UInt8 :=
  let bytes := if n < 0x80 then [n]
    else if n < 0x800 then [0xc0 + n / 0x40, 0x80 + n % 0x40]
    else if n < 0x10000 then [0xe0 + n / 0x1000, 0x80 + n / 0x40 % 0x40, 0x80 + n % 0x40]
    else [0xf0 + n / 0x40000, 0x80 + n / 0x1000 % 0x40, 0x80 + n / 0x40 % 0x40, 0x80 + n % 0x40]
  bytes.map UInt8.ofNat

def encode (s : String) : List UInt8 :=
  (codePoints s).flatMap encodePoint

end RepoAudit.Text.Utf8
