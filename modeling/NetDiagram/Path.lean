/-!
# Paths and identities

A component is declared under four names: its environment, its datacenter, its area and its own
name. Its identity is a token made from the four names, which can stand unquoted in every document:
letters and digits of ASCII and the ideographs from U+4E00 to U+9FA5 stay, any other character
becomes its code point in hexadecimal between underscores, and two underscores join the names.
-/

namespace NetDiagram

structure Path where
  environment : String
  datacenter : String
  area : String
  device : String
deriving DecidableEq, Repr

structure Identity where
  text : String
deriving DecidableEq, Repr

namespace Identity

def isPlain (c : Char) : Bool :=
  c.isAlphanum || (decide (0x4E00 ≤ c.toNat) && decide (c.toNat ≤ 0x9FA5))

def encodeChar (c : Char) : List Char :=
  if isPlain c then [c] else '_' :: (Nat.toDigits 16 c.toNat ++ ['_'])

def encode (name : List Char) : List Char := name.flatMap encodeChar

@[simp] theorem encode_nil : encode [] = [] := rfl

@[simp] theorem encode_cons (c : Char) (cs : List Char) :
    encode (c :: cs) = encodeChar c ++ encode cs := rfl

def separator : List Char := ['_', '_']

def segment (name : String) : String := .ofList (encode name.toList)

end Identity

namespace Path

def names (p : Path) : List String := [p.environment, p.datacenter, p.area, p.device]

def identity (p : Path) : Identity :=
  ⟨.ofList (Identity.separator.intercalate (p.names.map fun name => Identity.encode name.toList))⟩

def fullName (p : Path) : String := "/".intercalate p.names

end Path

end NetDiagram
