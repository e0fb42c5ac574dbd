import SqlAssembly.Settings.Environment
import SqlAssembly.Text.Blank

/-!
# Settings files

A settings file is a text of entries, one to a line: a name, an equals sign and
a value.  The word `export` may stand before the name, blanks around the equals
sign, and a comment after a number sign.  A name without an equals sign has no
value.

A value is plain, between single quotes or between double quotes.  A plain one
ends at the end of the line or at a blank before a number sign, and loses the
blanks at both ends.  A quoted one may go over several lines; in it a backslash
takes the meaning from a quote or another backslash and, between double quotes,
writes the usual control characters.

In a value, a name between braces after a dollar sign stands for the text of
that variable, or of an entry further up, which has precedence; after a colon
and a minus sign it may have a text for the case that there is none.

A line that is no entry is skipped from where it goes wrong to its end.  A mark
of the order of bytes at the very start of the text is no part of it.
-/

namespace SqlAssembly.EnvFile

/-! ## Quoted values -/

/-- A value up to its closing quote, and what comes after it.

Of two backslashes the second is taken with the first.  A quote after a backslash closes
nothing, unless no other quote does. -/
def upToQuote (quote : Char) : List Char → Option (List Char × List Char)
  | [] => none
  | '\\' :: '\\' :: rest =>
    (upToQuote quote rest).map fun (body, after) => ('\\' :: '\\' :: body, after)
  | '\\' :: c :: rest =>
    if c = quote then match upToQuote quote rest with
      | some (body, after) => some ('\\' :: c :: body, after)
      | none => some (['\\'], rest)
    else (upToQuote quote (c :: rest)).map fun (body, after) => ('\\' :: body, after)
  | c :: rest =>
    if c = quote then some ([], rest)
    else (upToQuote quote rest).map fun (body, after) => (c :: body, after)

/-- What a backslash and a character stand for between quotes, if for anything else. -/
def unescaped? (quote c : Char) : Option Char :=
  if c = '\\' ∨ c = '\'' then some c
  else if quote = '\'' then none
  else match c with
    | '"' => some '"'
    | 'a' => some '\x07'
    | 'b' => some '\x08'
    | 'f' => some '\x0c'
    | 'n' => some '\n'
    | 'r' => some '\r'
    | 't' => some '\t'
    | 'v' => some '\x0b'
    | _ => none

/-- The text that a quoted value writes. -/
def unescape (quote : Char) : List Char → List Char
  | '\\' :: c :: rest => match unescaped? quote c with
    | some d => d :: unescape quote rest
    | none => '\\' :: unescape quote (c :: rest)
  | c :: rest => c :: unescape quote rest
  | [] => []

/-! ## Plain values -/

/-- A plain value without its comment: cut at the first blanks before a number sign. -/
def withoutComment (cs : List Char) : List Char :=
  match cs with
  | [] => []
  | c :: rest =>
    if Text.isBlank c && (rest.dropWhile Text.isBlank).head? == some '#' then []
    else c :: withoutComment rest

/-- The value of the rest of a line, which starts with any blanks after the equals sign. -/
def plainValue (line : List Char) : List Char :=
  (Text.trimEnd (withoutComment line)).dropWhile Text.isInnerBlank

/-! ## Entries -/

/-- Without the blanks at the start, but not past the end of the line. -/
def skipInner (cs : List Char) : List Char := cs.dropWhile Text.isInnerBlank

/-- The value after an equals sign, and what comes after it. -/
def readValue (cs : List Char) : Option (List Char × List Char) :=
  match skipInner cs with
  | '\'' :: rest => (upToQuote '\'' rest).map fun (body, after) => (unescape '\'' body, after)
  | '"' :: rest => (upToQuote '"' rest).map fun (body, after) => (unescape '"' body, after)
  | _ => some (plainValue (cs.takeWhile (!Text.isLineEnd ·)), cs.dropWhile (!Text.isLineEnd ·))

/-- Without the word `export` and the blanks after it, if both are there. -/
def skipExport (cs : List Char) : List Char :=
  let word := "export".toList
  if word.isPrefixOf cs then
    let rest := cs.drop word.length
    if (rest.head?.map Text.isInnerBlank).getD false then skipInner rest else cs
  else cs

/-- The name of an entry and what comes after it; a comment has no name. -/
def readName (cs : List Char) : Option (Option (List Char) × List Char) :=
  match cs with
  | '#' :: _ => some (none, cs)
  | '\'' :: rest =>
    let name := rest.takeWhile (· != '\'')
    match name, rest.dropWhile (· != '\'') with
    | _ :: _, _ :: after => some (some name, after)
    | _, _ => none
  | _ =>
    let inName (c : Char) : Bool := c != '=' && c != '#' && !Text.isBlank c
    match cs.takeWhile inName with
    | [] => none
    | name => some (some name, cs.dropWhile inName)

/-- Without a comment up to the end of the line. -/
def skipComment (cs : List Char) : List Char :=
  match skipInner cs with
  | '#' :: rest => rest.dropWhile (!Text.isLineEnd ·)
  | _ => cs

/-- What comes after the end of a line, if only blanks stand before it. -/
def lineEnd? (cs : List Char) : Option (List Char) :=
  match skipInner cs with
  | [] => some []
  | '\r' :: '\n' :: rest => some rest
  | c :: rest => if Text.isLineEnd c then some rest else none

/-- What comes after the end of the line, whatever stands before it. -/
def nextLine (cs : List Char) : List Char :=
  match cs.dropWhile (!Text.isLineEnd ·) with
  | '\r' :: '\n' :: rest => rest
  | _ :: rest => rest
  | [] => []

/-- The value of a named line, if it has one, and what comes after it. -/
def readAssigned (cs : List Char) : Option (Option (List Char) × List Char) :=
  match skipInner cs with
  | '=' :: rest => (readValue rest).map fun (text, after) => (some text, after)
  | after => some (none, after)

/-- The entry at the start of a text, if it is one, and the rest of the text. -/
def readEntry (cs : List Char) : Option (String × Option String) × List Char :=
  let start := skipExport cs
  match readName start with
  | none => (none, nextLine start)
  | some (name, afterName) => match readAssigned afterName with
    | none => (none, nextLine afterName)
    | some (text, afterText) => match lineEnd? (skipComment afterText) with
      | none => (none, nextLine (skipComment afterText))
      | some rest =>
        (name.map fun name => (String.ofList name, text.map String.ofList), rest)

/-- The entries of a text, in order; each takes at least one character. -/
def readEntries : Nat → List Char → List (String × Option String)
  | 0, _ => []
  | fuel + 1, cs => match cs.dropWhile Text.isBlank with
    | [] => []
    | start =>
      let (entry, rest) := readEntry start
      entry.toList ++ readEntries fuel rest

/-- Line ends of every sort written as line feeds. -/
def unixLines : List Char → List Char
  | '\r' :: '\n' :: rest => '\n' :: unixLines rest
  | '\r' :: rest => '\n' :: unixLines rest
  | c :: rest => c :: unixLines rest
  | [] => []

/-! ## Names that stand for texts -/

/-- A name between braces, the text for its absence, and what comes after the closing brace. -/
def readReference (cs : List Char) : Option (String × Option String × List Char) :=
  let name := String.ofList (cs.takeWhile fun c => c != '\x7d' && c != ':')
  match cs.dropWhile (fun c => c != '\x7d' && c != ':') with
  | '\x7d' :: rest => some (name, none, rest)
  | ':' :: '-' :: rest => match rest.dropWhile (· != '\x7d') with
    | _ :: after => some (name, some (String.ofList (rest.takeWhile (· != '\x7d'))), after)
    | [] => none
  | _ => none

/-- A value with its references replaced; each takes at least one character. -/
def expand (known : String → Option (Option String)) : Nat → List Char → List Char
  | 0, cs => cs
  | _, [] => []
  | fuel + 1, '$' :: '\x7b' :: rest => match readReference rest with
    | some (name, otherwise, after) =>
      let text := match known name with
        | some text => text.getD ""
        | none => otherwise.getD ""
      text.toList ++ expand known fuel after
    | none => '$' :: expand known fuel ('\x7b' :: rest)
  | fuel + 1, c :: rest => c :: expand known fuel rest

/-- What a name stands for: an entry further up, else a variable. -/
def known (process : Bindings String) (entries : Bindings (Option String)) (name : String) :
    Option (Option String) :=
  match entries.get? name with
  | some text => some text
  | none => (process.get? name).map some

/-- The entries with a line more, its references replaced. -/
def addEntry (process : Bindings String) (entries : Bindings (Option String))
    (line : String × Option String) : Bindings (Option String) :=
  entries.put line.1 (line.2.map fun text =>
    String.ofList (expand (known process entries) text.toList.length text.toList))

/-- A text without the mark of the order of bytes at its start. -/
def withoutMark : List Char → List Char
  | '\ufeff' :: rest => rest
  | cs => cs

/-- The entries of the text of a settings file. -/
def parse (process : Bindings String) (text : String) : Bindings (Option String) :=
  let cs := unixLines (withoutMark text.toList)
  (readEntries (cs.length + 1) cs).foldl (addEntry process) []

example : parse [] "export A=1\n# none\nB = 'x y' # c\nC" =
    [("A", some "1"), ("B", some "x y"), ("C", none)] := by decide +kernel
example : parse [("A", "0")] "B=$\x7bA\x7d$\x7bC:-d\x7d\nA=2\nD=$\x7bA\x7d" =
    [("B", some "0d"), ("A", some "2"), ("D", some "2")] := by decide +kernel
example : parse [] "A= # none\nB='a\\\\' # c\nC=#d" =
    [("A", some ""), ("B", some "a\\"), ("C", some "#d")] := by decide +kernel
example : parse [] "A=warn # said\nB=a#b\n=x\nA=2\n" =
    [("A", some "2"), ("B", some "a#b")] := by decide +kernel

end SqlAssembly.EnvFile
