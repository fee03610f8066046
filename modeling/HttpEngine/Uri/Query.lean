import HttpEngine.Uri.Percent

/-!
# Form encoding

Query strings and urlencoded bodies list names and values.  They are read as the
parsing of `application/x-www-form-urlencoded` is documented: entries stand
between ampersands, the first equals sign ends the name, a plus sign is a space
and the rest is percent-encoded, where a percent sign without two digits after
it stands for itself and bytes that are no text become replacement characters.
Empty entries count for nothing.
-/

namespace HttpEngine.Query

def ampersand : UInt8 := 38
def equalsSign : UInt8 := 61
def plusSign : UInt8 := 43
def space : UInt8 := 32

def decodePart (part : Bytes) : String :=
  Utf8.toStringLossy
    (Percent.decode
      (part.map fun byte => if byte = plusSign then space else byte))

def decodeEntry (entry : Bytes) : String × String :=
  match Sequence.cutAt? equalsSign entry with
  | some (name, value) => (decodePart name, decodePart value)
  | none => (decodePart entry, "")

def decode (bytes : Bytes) : List (String × String) :=
  ((bytes.splitOn ampersand).filter (!·.isEmpty)).map decodeEntry

end HttpEngine.Query
