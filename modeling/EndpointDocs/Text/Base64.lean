/-!
Bytes written with 64 characters, each of which stands for six bits. Characters that belong to no
such writing are passed over.
-/
namespace EndpointDocs.Text.Base64

def sixBits? (c : Char) : Option Nat :=
  let n := c.toNat
  if 'A' ≤ c && c ≤ 'Z' then some (n - 65)
  else if 'a' ≤ c && c ≤ 'z' then some (n - 71)
  else if '0' ≤ c && c ≤ '9' then some (n + 4)
  else if c == '+' then some 62
  else if c == '/' then some 63
  else none

/-- The bytes of a group of up to four characters, of which the last bits are left over. -/
def groupBytes : List Nat → List UInt8
  | [a, b] => [(a * 4 + b / 16).toUInt8]
  | [a, b, c] => [(a * 4 + b / 16).toUInt8, (b * 16 + c / 4).toUInt8]
  | [a, b, c, d] => [(a * 4 + b / 16).toUInt8, (b * 16 + c / 4).toUInt8, (c * 64 + d).toUInt8]
  | _ => []

/-- The bytes of a text, of whose current group `group` is read and `pads` marks of padding were
seen since then; `bytes` are those before it, in reverse. The text ends where its padding is
complete; a group that is not complete is an error. -/
def decodeFrom (group : List Nat) (pads : Nat) (bytes : List UInt8) :
    List Char → Option (List UInt8)
  | [] => if group.isEmpty then some bytes.reverse else none
  | c :: rest =>
    if c == '=' then
      if 2 ≤ group.length then
        if 4 ≤ group.length + pads + 1 then some (bytes.reverse ++ groupBytes group)
        else decodeFrom group (pads + 1) bytes rest
      else decodeFrom group pads bytes rest
    else
      match sixBits? c with
      | none => decodeFrom group pads bytes rest
      | some bits =>
        if group.length = 3 then
          decodeFrom [] 0 ((groupBytes (group ++ [bits])).reverse ++ bytes) rest
        else decodeFrom (group ++ [bits]) 0 bytes rest

def decode? (text : List Char) : Option (List UInt8) :=
  decodeFrom [] 0 [] text

end EndpointDocs.Text.Base64
