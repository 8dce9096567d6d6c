import ShellMetrics.Encoding.Utf16
import ShellMetrics.Encoding.Utf8
import ShellMetrics.Fault

/-!
# Encodings

The encodings a script can be read in, by their names, and the text of octets in each of them.
What cannot be decoded becomes the replacement character.  Of the encodings that are spelled out
here only UTF-16 without a fixed order of octets can fail, for want of a byte order mark.  What any
other name stands for is left to the machine that a run is on.
-/

namespace ShellMetrics

inductive Encoding where
  | utf8
  | utf8Marked
  | ascii
  | latin1
  | windows1252
  | utf16
  | utf16Fixed (order : Utf16.ByteOrder)
  deriving DecidableEq

namespace Encoding

/-- The characters of the octets from 128 to 159 in the Windows code page. -/
def windowsExtras : List Nat := [
  0x20ac, 0xfffd, 0x201a, 0x192, 0x201e, 0x2026, 0x2020, 0x2021, 0x2c6, 0x2030, 0x160, 0x2039,
  0x152, 0xfffd, 0x17d, 0xfffd, 0xfffd, 0x2018, 0x2019, 0x201c, 0x201d, 0x2022, 0x2013, 0x2014,
  0x2dc, 0x2122, 0x161, 0x203a, 0x153, 0xfffd, 0x17e, 0x178]

def windowsChar (octet : Nat) : Char :=
  if 128 ≤ octet && octet < 160 then Char.ofNat (windowsExtras.getD (octet - 128) 0xfffd)
  else Char.ofNat octet

def utf8Mark : List UInt8 := [0xef, 0xbb, 0xbf]

/-- UTF-8 without a leading byte order mark, also one that is cut off by the end. -/
def decodeMarked (octets : List UInt8) : Text :=
  if utf8Mark.isPrefixOf octets then Utf8.decode (octets.drop 3)
  else if octets.isPrefixOf utf8Mark then []
  else Utf8.decode octets

/-- UTF-16 in the order that the byte order mark tells.  A single octet is one error. -/
def decodeUtf16 : List UInt8 → Except Fault Text
  | 0xff :: 0xfe :: rest => .ok (Utf16.decode .little rest)
  | 0xfe :: 0xff :: rest => .ok (Utf16.decode .big rest)
  | _ :: _ :: _ => .error .missingByteOrderMark
  | octets => .ok (Utf16.decode .little octets)

def decode (encoding : Encoding) (octets : List UInt8) : Except Fault Text :=
  match encoding with
  | utf8 => .ok (Utf8.decode octets)
  | utf8Marked => .ok (decodeMarked octets)
  | ascii => .ok (octets.map fun o ↦ if o < 128 then Char.ofNat o.toNat else '\ufffd')
  | latin1 => .ok (octets.map fun o ↦ Char.ofNat o.toNat)
  | windows1252 => .ok (octets.map fun o ↦ windowsChar o.toNat)
  | utf16 => decodeUtf16 octets
  | utf16Fixed order => .ok (Utf16.decode order octets)

/-! ## Names -/

/-- A name in lower case, with one low line for each run of other characters than letters, digits
and dots, and none at the ends.  The flag says that such a run has just been passed. -/
def plainName : Bool → Text → Text
  | _, [] => []
  | gap, c :: rest =>
    if c.isAlphanum || c = '.' then
      if gap then '_' :: c.toLower :: plainName false rest else c.toLower :: plainName false rest
    else plainName true rest

def normalize (name : Text) : Text :=
  plainName false (name.dropWhile fun c ↦ !(c.isAlphanum || c = '.'))

def all : List Encoding :=
  [utf8, utf8Marked, ascii, latin1, windows1252, utf16, utf16Fixed .little, utf16Fixed .big]

def mainName : Encoding → Text
  | utf8 => "utf_8"
  | utf8Marked => "utf_8_sig"
  | ascii => "ascii"
  | latin1 => "latin_1"
  | windows1252 => "cp1252"
  | utf16 => "utf_16"
  | utf16Fixed .little => "utf_16_le"
  | utf16Fixed .big => "utf_16_be"

def otherNames : Encoding → List Text
  | utf8 => ["u8", "utf", "utf8", "utf8_ucs2", "utf8_ucs4", "cp65001"]
  | utf8Marked => []
  | ascii => [
    "646", "ansi_x3.4_1968", "ansi_x3_4_1968", "ansi_x3.4_1986", "cp367", "csascii", "ibm367",
    "iso646_us", "iso_646.irv_1991", "iso_ir_6", "us", "us_ascii"]
  | latin1 => [
    "8859", "cp819", "csisolatin1", "ibm819", "iso8859", "iso8859_1", "iso_8859_1",
    "iso_8859_1_1987", "iso_ir_100", "l1", "latin", "latin1"]
  | windows1252 => ["1252", "windows_1252"]
  | utf16 => ["u16", "utf16"]
  | utf16Fixed .little => ["unicodelittleunmarked", "utf_16le"]
  | utf16Fixed .big => ["unicodebigunmarked", "utf_16be"]

/-- The names of transformations that are no encodings of text. -/
def otherTransforms : List Text := [
  "base64_codec", "base64", "base_64", "bz2_codec", "bz2", "hex_codec", "hex", "quopri_codec",
  "quopri", "quoted_printable", "quotedprintable", "rot_13", "rot13", "uu_codec", "uu",
  "zlib_codec", "zip", "zlib"]

/-- A plain name names the encoding.  In the other names a dot may stand for a low line. -/
def isNamed (encoding : Encoding) (plain : Text) : Bool :=
  plain = encoding.mainName || encoding.otherNames.contains plain ||
    encoding.otherNames.contains (plain.map fun c ↦ if c = '.' then '_' else c)

/-- The encoding of a name, if it is one of those above. -/
def ofName? (name : Text) : Option Encoding := all.find? (·.isNamed (normalize name))

end Encoding

/-- What a name of an encoding stands for. -/
inductive Codec where
  | unknown
  /-- A transformation that does not lead from octets to text. -/
  | transform
  | decoder (decode : List UInt8 → Except CodecError Text)

namespace Codec

/-- What a name stands for, given what the machine makes of the names that are not known here. -/
def decoderOf (others : Text → Codec) (name : Text) :
    Except Fault (List UInt8 → Except Fault Text) :=
  match Encoding.ofName? name with
  | some encoding => .ok encoding.decode
  | none =>
    if Encoding.otherTransforms.contains (Encoding.normalize name) then
      .error (.notTextEncoding name)
    else
      match others name with
      | unknown => .error (.unknownEncoding name)
      | transform => .error (.notTextEncoding name)
      | decoder decode => .ok fun octets ↦ (decode octets).mapError .codec

end Codec

end ShellMetrics
