import SqlAssembly.Text.Printable

/-!
# Quoted text

A text is written between quotes so that it stays on one line and shows every
character that could be mistaken for another.  The quote is a single one,
unless the text holds a single quote and no double one.  The quote in use, the
backslash and the unprintable characters are written with a backslash.

Octet strings are written the same way after a leading `b`; there everything
outside the printable part of seven bits is escaped.
-/

namespace SqlAssembly.Text

/-- The last `width` hexadecimal digits of a number, in lower case. -/
def hexadecimal (width n : Nat) : List Char :=
  (List.range width).reverse.map fun place => Nat.digitChar (n / Nat.pow 16 place % 16)

/-- The quote for a text: single, unless only that one occurs in it. -/
def quoteFor (cs : List Char) : Char :=
  if cs.contains '\'' && !cs.contains '"' then '"' else '\''

/-- An escape with so many digits as the code point needs: two, four or eight. -/
def escapeCode (n : Nat) : List Char :=
  if n < 0x100 then '\\' :: 'x' :: hexadecimal 2 n
  else if n < 0x10000 then '\\' :: 'u' :: hexadecimal 4 n
  else '\\' :: 'U' :: hexadecimal 8 n

/-- A character between the given quotes. -/
def quoteChar (quote c : Char) : List Char :=
  if c = quote ∨ c = '\\' then ['\\', c]
  else if c = '\n' then ['\\', 'n']
  else if c = '\r' then ['\\', 'r']
  else if c = '\t' then ['\\', 't']
  else if isPrintable c then [c]
  else escapeCode c.toNat

/-- A text between quotes. -/
def quoted (s : String) : String :=
  let quote := quoteFor s.toList
  String.ofList (quote :: s.toList.flatMap (quoteChar quote) ++ [quote])

/-- The octet as the character of the same number. -/
def octetChar (octet : UInt8) : Char := Char.ofNat octet.toNat

/-- An octet between the given quotes. -/
def quoteOctet (quote : Char) (octet : UInt8) : List Char :=
  if octet < 0x7f then quoteChar quote (octetChar octet) else escapeCode octet.toNat

/-- An octet string between quotes, after a `b`. -/
def quotedOctets (octets : List UInt8) : String :=
  let quote := quoteFor (octets.map octetChar)
  String.ofList ('b' :: quote :: octets.flatMap (quoteOctet quote) ++ [quote])

example : quoted "it's" = "\"it's\"" := by decide +kernel
example : quoted "it's \"so\"" = "'it\\'s \"so\"'" := by decide +kernel
example : quoted "a\nb\x00" = "'a\\nb\\x00'" := by decide +kernel
example : quotedOctets [0, 255, 65] = "b'\\x00\\xffA'" := by decide +kernel

end SqlAssembly.Text
