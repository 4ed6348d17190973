/-
  `ini_parse_stream` (ini.c): the reader of the configuration files.

  It reads line by line into a buffer of `INI_MAX_LINE` characters and gives each value to a handler
  with the section and the name that it stands under. A line that makes no sense is passed over, and
  the number of the first one is what the reader returns.

  A character stands for a byte. A text in the buffer is a C string; where the source puts a NUL
  into it, here it is cut.
-/
import TelemetryAgent.Lib.CText

namespace TelemetryAgent

open Lib

namespace Ini

/-- `INI_MAX_LINE` -/
def iniMaxLine : Nat := 200

/-- `MAX_SECTION` -/
def maxSection : Nat := 50

/-- `MAX_NAME` -/
def maxName : Nat := 50

/-- `INI_INLINE_COMMENT_PREFIXES` -/
def iniInlineCommentPrefixes : List Char := [';']

def rstrip (s : List Char) : List Char := s.rdropWhile isspace

def lskip (s : List Char) : List Char := s.dropWhile isspace

/-- `find_chars_or_comment`: what is before the found character, and the text from it on. `chars`
    has no element for NULL. -/
def findCharsOrComment (chars : List Char) (wasSpace : Bool) : List Char → List Char × List Char
  | [] => ([], [])
  | c :: s =>
    if c ∈ chars || (wasSpace && c ∈ iniInlineCommentPrefixes) then ([], c :: s)
    else
      let r := findCharsOrComment chars (isspace c) s
      (c :: r.1, r.2)

/-- `strncpy0` of a C string. -/
def strncpy0 (src : List Char) (size : Nat) : List Char := src.take (size - 1)

/-- `handler(user, section, name, value)`, with the new value of `user`. -/
abbrev Handler (υ : Type) := υ → List Char → List Char → List Char → Bool × υ

/-- The local variables of the loop, and what is behind `user`. -/
structure Parser (υ : Type) where
  inSection : List Char := []
  prevName : List Char := []
  lineno : Nat := 0
  error : Nat := 0
  user : υ
  deriving DecidableEq, Repr

variable {υ : Type}

namespace Parser

/-- `if (!error) error = lineno` -/
def fail (p : Parser υ) : Parser υ := if p.error = 0 then { p with error := p.lineno } else p

/-- The handler is called; a zero is an error. -/
def call (handler : Handler υ) (p : Parser υ) (name value : List Char) : Parser υ :=
  let (ok, user) := handler p.user p.inSection name value
  let p := { p with user := user }
  if ok then p else p.fail

/-- The byte order mark. -/
def bom : List Char := ['\xef', '\xbb', '\xbf']

/-- A line that begins with `[`, from behind it. -/
def heading (p : Parser υ) (s : List Char) : Parser υ :=
  match findCharsOrComment [']'] false s with
  | (name, ']' :: _) => { p with inSection := strncpy0 name maxSection, prevName := [] }
  | _ => p.fail

/-- A line that must be a name and a value. -/
def pair (handler : Handler υ) (p : Parser υ) (s : List Char) : Parser υ :=
  match findCharsOrComment ['=', ':'] false s with
  | (name, c :: value) =>
    if c = '=' || c = ':' then
      let name := rstrip name
      let value := rstrip (findCharsOrComment [] false (lskip value)).1
      { p with prevName := strncpy0 name maxName }.call handler name value
    else p.fail
  | _ => p.fail

/-- What a line says, without the white space at its end. `marked` is that a byte order mark has
    been cut off in front of it. -/
def statement (handler : Handler υ) (p : Parser υ) (marked : Bool) (line : List Char) : Parser υ :=
  match lskip line with
  | [] => p
  | c :: s =>
    if c = ';' || c = '#' then p
    -- a line that is indented continues the value before it
    else if p.prevName ≠ [] && (marked || lskip line ≠ line) then p.call handler p.prevName (c :: s)
    else if c = '[' then p.heading s
    else p.pair handler (c :: s)

/-- A turn of the loop, with the line that has been read. -/
def turn (handler : Handler υ) (p : Parser υ) (line : List Char) : Parser υ :=
  let p := { p with lineno := p.lineno + 1 }
  let line := cString line
  let marked := p.lineno = 1 && bom.isPrefixOf line
  p.statement handler marked (rstrip (if marked then line.drop bom.length else line))

end Parser

/-- `ini_parse_stream`: the result, and what is behind `user` at the end. -/
def iniParseStream (handler : Handler υ) (user : υ) (stream : List Char) : Nat × υ :=
  let p := (fgetsAll iniMaxLine stream.length stream).foldl (Parser.turn handler) { user := user }
  (p.error, p.user)

/-- `ini_parse`: the content of the file, or `none` if it cannot be opened. -/
def iniParse (handler : Handler υ) (user : υ) (file : Option (List Char)) : Int × υ :=
  match file with
  | none => (-1, user)
  | some stream =>
    let (error, user) := iniParseStream handler user stream
    (error, user)

end Ini

end TelemetryAgent
