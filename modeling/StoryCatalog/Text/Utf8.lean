import StoryCatalog.Text.Basic

/-!
# UTF-8

Encoding of texts and the three ways of reading bytes back: strictly, with every ill-formed part
replaced by U+FFFD, and with every ill-formed part left out. An ill-formed part is the longest
start of a well-formed sequence that the bytes break off, or a single byte that starts none.
-/

namespace StoryCatalog

/-- A sequence of bytes. -/
abbrev Bytes := List UInt8

namespace CodePoint

/-- The bytes of a code point. Surrogates get the three bytes that their number asks for. -/
def utf8 (c : CodePoint) : Bytes :=
  if c.val < 0x80 then [UInt8.ofNat c.val]
  else if c.val < 0x800 then
    [UInt8.ofNat (0xC0 + c.val / 0x40), UInt8.ofNat (0x80 + c.val % 0x40)]
  else if c.val < 0x10000 then
    [UInt8.ofNat (0xE0 + c.val / 0x1000), UInt8.ofNat (0x80 + c.val / 0x40 % 0x40),
      UInt8.ofNat (0x80 + c.val % 0x40)]
  else
    [UInt8.ofNat (0xF0 + c.val / 0x40000), UInt8.ofNat (0x80 + c.val / 0x1000 % 0x40),
      UInt8.ofNat (0x80 + c.val / 0x40 % 0x40), UInt8.ofNat (0x80 + c.val % 0x40)]

end CodePoint

/-- The bytes of a text, code point by code point. -/
def Text.utf8 (t : Text) : Bytes :=
  t.flatMap CodePoint.utf8

namespace Utf8

/-- Why bytes are not UTF-8. -/
inductive Fault where
  | invalidStart
  | invalidContinuation
  | unexpectedEnd
deriving DecidableEq, Repr

/-- What the front of a byte sequence holds: a code point of `length` bytes, or `length` bytes
that no well-formed sequence has. -/
inductive Front where
  | point (c : CodePoint) (length : Nat)
  | ill (fault : Fault) (length : Nat)

/-- The bytes `0x80` to `0xBF` continue a sequence. -/
def isContinuation (b : UInt8) : Bool :=
  0x80 ≤ b.toNat && b.toNat < 0xC0

/-- The six payload bits of a continuation byte. -/
def payload (b : UInt8) : Nat :=
  b.toNat % 0x40

/-- The code point with this number; the callers have checked that it is in range. -/
def pointOf (n : Nat) : CodePoint :=
  Fin.ofNat 0x110000 n

/-- The second byte of a three-byte sequence: neither an overlong form nor a surrogate. -/
def isSecondOfThree (lead second : UInt8) : Bool :=
  isContinuation second
    && (lead.toNat != 0xE0 || 0xA0 ≤ second.toNat) && (lead.toNat != 0xED || second.toNat < 0xA0)

/-- The second byte of a four-byte sequence: neither an overlong form nor past the last plane. -/
def isSecondOfFour (lead second : UInt8) : Bool :=
  isContinuation second
    && (lead.toNat != 0xF0 || 0x90 ≤ second.toNat) && (lead.toNat != 0xF4 || second.toNat < 0x90)

/-- The front of a sequence that starts with `lead`. -/
def front (lead : UInt8) (rest : Bytes) : Front :=
  let n := lead.toNat
  if n < 0x80 then .point (pointOf n) 1
  else if n < 0xC2 then .ill .invalidStart 1
  else if n < 0xE0 then
    match rest with
    | [] => .ill .unexpectedEnd 1
    | b :: _ =>
        if isContinuation b then .point (pointOf (n % 0x20 * 0x40 + payload b)) 2
        else .ill .invalidContinuation 1
  else if n < 0xF0 then
    match rest with
    | [] => .ill .unexpectedEnd 1
    | b :: more =>
        if isSecondOfThree lead b then
          match more with
          | [] => .ill .unexpectedEnd 2
          | c :: _ =>
              if isContinuation c then
                .point (pointOf ((n % 0x10 * 0x40 + payload b) * 0x40 + payload c)) 3
              else .ill .invalidContinuation 2
        else .ill .invalidContinuation 1
  else if n < 0xF5 then
    match rest with
    | [] => .ill .unexpectedEnd 1
    | b :: more =>
        if isSecondOfFour lead b then
          match more with
          | [] => .ill .unexpectedEnd 2
          | c :: more =>
              if isContinuation c then
                match more with
                | [] => .ill .unexpectedEnd 3
                | d :: _ =>
                    if isContinuation d then
                      .point (pointOf
                        (((n % 0x08 * 0x40 + payload b) * 0x40 + payload c) * 0x40 + payload d)) 4
                    else .ill .invalidContinuation 3
              else .ill .invalidContinuation 2
        else .ill .invalidContinuation 1
  else .ill .invalidStart 1

/-- Read bytes, putting `substitute` in the place of every ill-formed part. -/
def decodeWith (substitute : Text) : Bytes → Text
  | [] => []
  | lead :: rest =>
      match front lead rest with
      | .point c length => c :: decodeWith substitute (rest.drop (length - 1))
      | .ill _ length => substitute ++ decodeWith substitute (rest.drop (length - 1))
termination_by bytes => bytes.length
decreasing_by all_goals simp only [List.length_drop, List.length_cons]; omega

/-- Read bytes with U+FFFD for every ill-formed part. -/
def decodeReplacing (bytes : Bytes) : Text :=
  decodeWith [0xFFFD] bytes

/-- Read bytes, leaving out every ill-formed part. -/
def decodeIgnoring (bytes : Bytes) : Text :=
  decodeWith [] bytes

/-- The first ill-formed part of a byte sequence: the bytes from `start` up to `stop`. -/
structure IllFormed where
  fault : Fault
  start : Nat
  stop : Nat
  first : UInt8
deriving Repr

/-- Read bytes strictly. The bytes start at this offset of the whole sequence, and `before` holds
the code points read so far, the latest first. -/
def decodeFrom (offset : Nat) (before : Text) : Bytes → Except IllFormed Text
  | [] => .ok before.reverse
  | lead :: rest =>
      match front lead rest with
      | .point c length => decodeFrom (offset + length) (c :: before) (rest.drop (length - 1))
      | .ill fault length => .error ⟨fault, offset, offset + length, lead⟩
termination_by bytes => bytes.length
decreasing_by all_goals simp only [List.length_drop, List.length_cons]; omega

/-- Read bytes strictly, or say which part is ill-formed first. -/
def decode (bytes : Bytes) : Except IllFormed Text :=
  decodeFrom 0 [] bytes

/-- The fault in words. -/
def Fault.message : Fault → String
  | .invalidStart => "invalid start byte"
  | .invalidContinuation => "invalid continuation byte"
  | .unexpectedEnd => "unexpected end of data"

/-- A number below 256 in two hexadecimal digits. -/
def hexPair (b : UInt8) : String :=
  String.ofList
    [(Nat.toDigits 16 (b.toNat / 16)).headD '0', (Nat.toDigits 16 (b.toNat % 16)).headD '0']

/-- The ill-formed part in words: one byte by its value, several by their positions. -/
def IllFormed.message (e : IllFormed) : String :=
  if e.stop - e.start = 1 then
    "'utf-8' codec can't decode byte 0x" ++ hexPair e.first ++ " in position "
      ++ toString e.start ++ ": " ++ e.fault.message
  else
    "'utf-8' codec can't decode bytes in position " ++ toString e.start ++ "-"
      ++ toString (e.stop - 1) ++ ": " ++ e.fault.message

end Utf8

end StoryCatalog
