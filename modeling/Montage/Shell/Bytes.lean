import Montage.Disk.Path
import Montage.Text.Utf8

/-!
Texts as the shell sees them: each character stands for one byte. A character of a usual text that
takes several bytes is several characters here.
-/

namespace Montage.Shell

/-- The characters that are the given bytes. -/
def charsFrom (bytes : Text.Bytes) : List Char :=
  bytes.map fun b => Char.ofNat b.toNat

def byteText (bytes : Text.Bytes) : String :=
  String.ofList (charsFrom bytes)

/-- The bytes that the characters stand for. -/
def bytesOf (cs : List Char) : Text.Bytes :=
  cs.map fun c => UInt8.ofNat c.toNat

def pack (text : String) : Text.Bytes :=
  bytesOf text.toList

/-- A usual text, byte by byte. -/
def inBytes (text : String) : String :=
  byteText (Text.encode text)

/-- A name of a file, which the disk knows as a usual text. -/
def nameOf (text : String) : String :=
  Text.decodeLenient (pack text)

def pathOf (text : String) : Path :=
  ⟨nameOf text⟩

/-- The names from the root to a place, as one path. -/
def placeText (place : List String) : String :=
  inBytes ("/" ++ "/".intercalate place)

end Montage.Shell
