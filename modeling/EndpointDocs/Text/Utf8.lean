import EndpointDocs.Text.Quoted

/-!
Texts as bytes in UTF-8. Reading refuses overlong forms, surrogates and numbers above the last code
point, and names the first sequence that cannot be read: where it starts, how many of its bytes were
in order, and what is wrong after them.
-/
namespace EndpointDocs.Text.Utf8

inductive Defect where
  | badStart
  | badContinuation
  | truncated
  deriving DecidableEq, Repr

/-- The first sequence of a text that cannot be read. -/
structure Fault where
  defect : Defect
  /-- The index of the sequence's first byte. -/
  start : Nat
  /-- How many bytes were in order, at least one. -/
  length : Nat
  /-- The sequence's first byte. -/
  byte : UInt8
  deriving DecidableEq, Repr

def Defect.reason : Defect → String
  | .badStart => "invalid start byte"
  | .badContinuation => "invalid continuation byte"
  | .truncated => "unexpected end of data"

def Fault.message (fault : Fault) : String :=
  let place :=
    if fault.length ≤ 1 then
      "byte 0x" ++ String.ofList (hexDigits 2 fault.byte.toNat) ++ " in position " ++
        toString fault.start
    else
      "bytes in position " ++ toString fault.start ++ "-" ++
        toString (fault.start + fault.length - 1)
  "'utf-8' codec can't decode " ++ place ++ ": " ++ fault.defect.reason

def encodeChar (c : Char) : List UInt8 :=
  let n := c.toNat
  if n < 0x80 then [n.toUInt8]
  else if n < 0x800 then [(0xC0 + n / 64).toUInt8, (0x80 + n % 64).toUInt8]
  else if n < 0x10000 then
    [(0xE0 + n / 4096).toUInt8, (0x80 + n / 64 % 64).toUInt8, (0x80 + n % 64).toUInt8]
  else
    [(0xF0 + n / 262144).toUInt8, (0x80 + n / 4096 % 64).toUInt8, (0x80 + n / 64 % 64).toUInt8,
      (0x80 + n % 64).toUInt8]

def encode (text : List Char) : List UInt8 :=
  text.flatMap encodeChar

/-- The first halves of surrogate pairs in a text, which are not encoded. -/
structure EncodeFault where
  start : Nat
  /-- How many halves follow each other, at least one. -/
  length : Nat
  half : Fin 0x800
  deriving DecidableEq, Repr

def EncodeFault.message (fault : EncodeFault) : String :=
  let place :=
    if fault.length ≤ 1 then
      "character " ++ quoted [.half fault.half] ++ " in position " ++ toString fault.start
    else
      "characters in position " ++ toString fault.start ++ "-" ++
        toString (fault.start + fault.length - 1)
  "'utf-8' codec can't encode " ++ place ++ ": surrogates not allowed"

/-- The first halves from index `start` on, where those that `passes` lets through do not count. -/
def encodeFault? (passes : Fin 0x800 → Bool) (start : Nat) : Wide → Option EncodeFault
  | [] => none
  | .char _ :: rest => encodeFault? passes (start + 1) rest
  | .half index :: rest =>
    if passes index then encodeFault? passes (start + 1) rest
    else some ⟨start, 1 + (rest.takeWhile (·.char?.isNone)).length, index⟩

def encodeWide (text : Wide) : Except EncodeFault (List UInt8) :=
  match encodeFault? (fun _ => false) 0 text with
  | some fault => .error fault
  | none => .ok (encode (text.filterMap CodePoint.char?))

/-- The bytes that may follow a first byte: how many, and the bounds of the first of them. -/
def follow? (b : Nat) : Option (Nat × Nat × Nat) :=
  if 0xC2 ≤ b && b ≤ 0xDF then some (1, 0x80, 0xBF)
  else if b == 0xE0 then some (2, 0xA0, 0xBF)
  else if b == 0xED then some (2, 0x80, 0x9F)
  else if 0xE1 ≤ b && b ≤ 0xEF then some (2, 0x80, 0xBF)
  else if b == 0xF0 then some (3, 0x90, 0xBF)
  else if b == 0xF4 then some (3, 0x80, 0x8F)
  else if 0xF1 ≤ b && b ≤ 0xF3 then some (3, 0x80, 0xBF)
  else none

/-- Whether a byte continues a sequence. -/
def isTail (b : UInt8) : Bool :=
  0x80 ≤ b.toNat && b.toNat ≤ 0xBF

/-- The six low bits of a continuing byte. -/
def low (b : UInt8) : Nat :=
  b.toNat - 0x80

/-- Reads the bytes from index `start`, with the characters read so far newest first. On a fault the
characters before it come back too. -/
def decodeFrom (start : Nat) (read : List Char) : List UInt8 → Option Fault × List Char
  | [] => (none, read.reverse)
  | b :: rest =>
    if b.toNat < 0x80 then decodeFrom (start + 1) (Char.ofNat b.toNat :: read) rest
    else
      let stop (defect : Defect) (length : Nat) : Option Fault × List Char :=
        (some { defect, start, length, byte := b }, read.reverse)
      match follow? b.toNat with
      | none => stop .badStart 1
      | some (more, least, greatest) =>
        match rest with
        | [] => stop .truncated 1
        | b₁ :: rest₁ =>
          if b₁.toNat < least || greatest < b₁.toNat then stop .badContinuation 1
          else if more == 1 then
            decodeFrom (start + 2) (Char.ofNat ((b.toNat - 0xC0) * 64 + low b₁) :: read) rest₁
          else
            match rest₁ with
            | [] => stop .truncated 2
            | b₂ :: rest₂ =>
              if !isTail b₂ then stop .badContinuation 2
              else if more == 2 then
                let n := (b.toNat - 0xE0) * 4096 + low b₁ * 64 + low b₂
                decodeFrom (start + 3) (Char.ofNat n :: read) rest₂
              else
                match rest₂ with
                | [] => stop .truncated 3
                | b₃ :: rest₃ =>
                  if !isTail b₃ then stop .badContinuation 3
                  else
                    let n := (b.toNat - 0xF0) * 262144 + low b₁ * 4096 + low b₂ * 64 + low b₃
                    decodeFrom (start + 4) (Char.ofNat n :: read) rest₃

def decode (bytes : List UInt8) : Except Fault (List Char) :=
  match decodeFrom 0 [] bytes with
  | (none, text) => .ok text
  | (some fault, _) => .error fault

/-- How many bytes a reader of a stream takes up at a time. -/
def chunkSize : Nat :=
  8192

/-- The bytes in chunks of `chunkSize`, the last of which may be shorter. The chunk at hand has its
newest byte first and `room` for more. -/
def chunksFrom (room : Nat) (chunk : List UInt8) : List UInt8 → List (List UInt8)
  | [] => if chunk.isEmpty then [] else [chunk.reverse]
  | b :: rest =>
    if room ≤ 1 then (b :: chunk).reverse :: chunksFrom chunkSize [] rest
    else chunksFrom (room - 1) (b :: chunk) rest

def chunks (bytes : List UInt8) : List (List UInt8) :=
  chunksFrom chunkSize [] bytes

/-- Reads chunks one after another, where `read` is the text of those before and `pending` has the
bytes of a sequence that the last of them cut off. Bytes are counted from the pending ones on. A
chunk with a fault in it gives none of its text. -/
def decodeChunks (read : List Char) (pending : List UInt8) :
    List (List UInt8) → List Char × Option Fault
  | [] => (read, (decodeFrom 0 [] pending).1)
  | chunk :: rest =>
    match decodeFrom 0 [] (pending ++ chunk) with
    | (none, text) => decodeChunks (read ++ text) [] rest
    | (some fault, text) =>
      -- a sequence that the chunk cuts off may go on in the next one
      if fault.defect = .truncated then
        decodeChunks (read ++ text) ((pending ++ chunk).drop fault.start) rest
      else (read, some fault)

/-- The text that a reader hands on who takes up the bytes in chunks, and the fault that ends its
reading. -/
def decodeStream (bytes : List UInt8) : List Char × Option Fault :=
  decodeChunks [] [] (chunks bytes)

end EndpointDocs.Text.Utf8
