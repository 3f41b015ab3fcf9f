import SchemaDiagram.Text.Blank
import SchemaDiagram.Text.Digits
import SchemaDiagram.Text.Word

/-!
# Identifiers

Every entity of a diagram carries a 128-bit identifier.  It is written as 32 lower-case hexadecimal
digits in groups of 8, 4, 4, 4 and 12 with hyphens between the groups.  It is read in that form,
also within braces or behind `urn:uuid:`, and as 32 digits without hyphens; the case of letters
never matters.
-/

namespace SchemaDiagram

/-- An opaque 128-bit name of an entity. -/
structure Identifier where
  bits : BitVec 128
  deriving DecidableEq, Repr

namespace Identifier

open SchemaDiagram.Text

instance : Inhabited Identifier := ⟨⟨0⟩⟩

/-- The identifier with a given value, taken modulo 2^128. -/
def ofNat (value : Nat) : Identifier :=
  ⟨BitVec.ofNat 128 value⟩

def toNat (id : Identifier) : Nat :=
  id.bits.toNat

def groups : List Nat := [8, 4, 4, 4, 12]

/-- Cut a text into pieces of given lengths. -/
def cut : List Nat → List Char → List (List Char)
  | [], _ => []
  | n :: lengths, text => text.take n :: cut lengths (text.drop n)

def write (id : Identifier) : List Char :=
  joinWith ['-'] (cut groups (fixedDigits 16 32 id.toNat))

def ofDigits? (text : List Char) : Option Identifier :=
  if text.length = 32 then (hexNumber? text).map ofNat else none

/-- Read the form with hyphens. -/
def ofHyphenated? (text : List Char) : Option Identifier :=
  let parts := splitAt '-' text
  if parts.map List.length = groups then ofDigits? parts.flatten else none

/-- What stands behind `urn:uuid:` or within braces, or else the text itself. -/
def unwrap (text : List Char) : List Char :=
  match text with
  | '\x7b' :: rest => if rest.getLast? = some '\x7d' then rest.dropLast else text
  | _ =>
    (afterPrefixIgnoringCase? ['u', 'r', 'n', ':', 'u', 'u', 'i', 'd', ':'] text).getD text

/-- Read an identifier in any of its forms. -/
def read? (text : List Char) : Option Identifier :=
  if text.length = 32 then ofDigits? text else ofHyphenated? (unwrap text)

def toText (id : Identifier) : String :=
  String.ofList id.write

end Identifier

end SchemaDiagram
