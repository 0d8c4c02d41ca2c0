import WebviewBridge.App.Variables
import WebviewBridge.Files.Tree
import WebviewBridge.Text.Alphanumeric

/-!
# Variables from a file

Before anything else the application reads a file `.env`, which sets variables that are not set
already.  The file is looked for in the working directory and then in the directories above it.

A line sets one variable: a name, an equals sign and a value.  Quotes keep blanks and line breaks,
a backslash keeps the next character, and a dollar sign stands for the value of another variable.
Reading stops at the first line that is wrong; what was set before that stays set.
-/

namespace WebviewBridge.DotEnv

/-! ## Values -/

/-- Where a value is being read. -/
inductive ValueState where
  /-- Outside names and escapes; whether inside double quotes. -/
  | plain (quoted : Bool)
  /-- Inside single quotes. -/
  | literal
  /-- After a backslash. -/
  | escape (quoted : Bool)
  /-- After a dollar sign: the name so far, last character first. -/
  | name (quoted : Bool) (chars : List Char)
  /-- Inside braces after a dollar sign: the name so far, last character first. -/
  | braced (quoted : Bool) (chars : List Char)
  /-- After the value, where only blanks and a comment may follow. -/
  | over

/-- What a character stands for after a backslash. -/
def escaped? (c : Char) : Option Char :=
  if c = 'n' then some '\n'
  else if c = '\\' ∨ c = '\'' ∨ c = '"' ∨ c = '$' ∨ c = ' ' then some c
  else none

/-- The characters of the variable whose name was read, last character first. -/
def substitute (resolve : String → String) (chars : List Char) : List Char :=
  (resolve (String.ofList chars.reverse)).toList

/-- The value that a text writes; nothing when it is wrong.  Without braces a name is made of letters
and numbers of any script.  The character after the name of a variable is taken as it is, unless it
is another dollar sign. -/
def scanValue (resolve : String → String) : ValueState → List Char → Option (List Char)
  | .plain quoted, [] => if quoted then none else some []
  | .literal, [] => none
  | .escape quoted, [] => if quoted then none else some []
  | .name quoted chars, [] => if quoted then none else some (substitute resolve chars)
  | .braced _ _, [] => none
  | .over, [] => some []
  | .over, c :: cs =>
    if c = ' ' ∨ c = '\t' then scanValue resolve .over cs
    else if c = '#' then some []
    else none
  | .escape quoted, c :: cs =>
    match escaped? c with
    | some x => (scanValue resolve (.plain quoted) cs).map (x :: ·)
    | none => none
  | .literal, c :: cs =>
    if c = '\'' then scanValue resolve (.plain false) cs
    else (scanValue resolve .literal cs).map (c :: ·)
  | .name quoted chars, c :: cs =>
    if Text.isAlphanumeric c then scanValue resolve (.name quoted (c :: chars)) cs
    else if c = '\x7b' ∧ chars.isEmpty then scanValue resolve (.braced quoted []) cs
    else if c = '$' then
      (scanValue resolve (.name quoted []) cs).map (substitute resolve chars ++ ·)
    else (scanValue resolve (.plain quoted) cs).map (substitute resolve chars ++ c :: ·)
  | .braced quoted chars, c :: cs =>
    if c = '\x7d' then
      (scanValue resolve (.plain quoted) cs).map (substitute resolve chars ++ ·)
    else scanValue resolve (.braced quoted (c :: chars)) cs
  | .plain quoted, c :: cs =>
    if c = '$' then scanValue resolve (.name quoted []) cs
    else if c = '\\' then scanValue resolve (.escape quoted) cs
    else if c = '"' then scanValue resolve (.plain !quoted) cs
    else if quoted then (scanValue resolve (.plain true) cs).map (c :: ·)
    else if c = '\'' then scanValue resolve .literal cs
    else if c = ' ' ∨ c = '\t' then scanValue resolve .over cs
    else (scanValue resolve (.plain false) cs).map (c :: ·)

/-! ## Lines -/

/-- Whether a character may start a name. -/
def startsName (c : Char) : Bool := c.isAlpha || c = '_'

/-- Whether a character may stand in a name. -/
def inName (c : Char) : Bool := c.isAlphanum || c = '_' || c = '.'

/-- A text without the white space in front. -/
def skipBlanks (cs : List Char) : List Char := cs.dropWhile Text.isBlankChar

/-- A name, and what follows the white space after it. -/
def name? (cs : List Char) : Option (String × List Char) :=
  match cs with
  | c :: _ =>
    if startsName c then some (String.ofList (cs.takeWhile inName), skipBlanks (cs.dropWhile inName))
    else none
  | [] => none

/-- What follows an equals sign and white space. -/
def afterEquals? : List Char → Option (List Char)
  | '=' :: cs => some (skipBlanks cs)
  | _ => none

/-- Whether nothing but a comment is left. -/
def isOver : List Char → Bool
  | [] | '#' :: _ => true
  | _ => false

/-- The name and the text of the value of a line that sets a variable.  The word `export` may
stand in front of the name, or be the name. -/
def assignment? (cs : List Char) : Option (String × List Char) := do
  let (first, rest) ← name? cs
  match afterEquals? rest with
  | some value => pure (first, value)
  | none =>
    if first = "export" then
      let (second, rest) ← name? rest
      pure (second, ← afterEquals? rest)
    else none

/-- What is known while a file is read: the variables of the process, and the latest value of each
name in the file. -/
structure Reading where
  environ : Variables
  known : List (String × String) := []

/-- What a name stands for in a value. -/
def Reading.resolve (r : Reading) (name : String) : String :=
  (((r.environ.lookUp? name).bind Text.decodeStrict?).or (r.known.lookup name)).getD ""

/-- Carries out a line; nothing when it is wrong. -/
def Reading.line (r : Reading) (line : List Char) : Option Reading := do
  let cs := skipBlanks (Text.trimChars line)
  if isOver cs then pure r
  else
    let (name, rest) ← assignment? cs
    let value ← if isOver rest then pure []
      else scanValue r.resolve (.plain false) rest
    let text := String.ofList value
    pure {
      environ := if (r.environ.text? name).isSome then r.environ
        else r.environ.set name (Text.encode text)
      known := (name, text) :: r.known }

/-! ## Joining lines -/

/-- Where a line ends, as far as quotes decide whether the next one belongs to it. -/
inductive LineState where
  | complete
  | blank
  | escape
  | strong
  | strongEscape
  | weak
  | weakEscape
deriving DecidableEq, Repr

/-- The state after a character outside quotes. -/
def LineState.outside (c : Char) : LineState :=
  if c = '\\' then .escape else if c = '"' then .weak else if c = '\'' then .strong else .complete

/-- The state after a character. -/
def LineState.next (c : Char) : LineState → LineState
  | .blank => outside c
  | .escape => .complete
  | .complete =>
    if Text.isBlankChar c ∧ c ≠ '\n' ∧ c ≠ '\r' then .blank else outside c
  | .weak => if c = '\\' then .weakEscape else if c = '"' then .complete else .weak
  | .weakEscape => .weak
  | .strong => if c = '\\' then .strongEscape else if c = '\'' then .complete else .strong
  | .strongEscape => .strong

/-- Follows the characters of a line; gives those before a comment if there is one, and the state
at the end otherwise. -/
def LineState.follow : LineState → (taken : List Char) → List Char → Except (List Char) LineState
  | s, _, [] => .ok s
  | .blank, taken, '#' :: _ => .error taken.reverse
  | s, taken, c :: cs => follow (s.next c) (c :: taken) cs

/-- A line without the break at its end. -/
def withoutBreak (cs : List Char) : List Char :=
  if cs.getLast? = some '\n' then
    let cs := cs.dropLast
    if cs.getLast? = some '\r' then cs.dropLast else cs
  else cs

/-- Carries out lines, each with its break; `pending` is the part of a line that was read before,
and nothing stands for a line that is no text. -/
def Reading.lines (r : Reading) (pending : List Char) (s : LineState) :
    List (Option (List Char)) → Reading
  | [] => r
  | none :: _ => r
  | some line :: rest =>
    if (skipBlanks (pending ++ line)).head? = some '#' then r.lines [] .complete rest
    else
      match s.follow [] line with
      | .error before =>
        match r.line (pending ++ before) with
        | some r => r.lines [] .complete rest
        | none => r
      | .ok .complete =>
        match r.line (withoutBreak (pending ++ line)) with
        | some r => r.lines [] .complete rest
        | none => r
      | .ok s => r.lines (pending ++ line) s rest

/-- The lines of some bytes, each with its break. -/
def splitLines : List UInt8 → List (List UInt8)
  | [] => []
  | b :: bs =>
    if b = 10 then [b] :: splitLines bs
    else
      match splitLines bs with
      | [] => [[b]]
      | l :: ls => (b :: l) :: ls

/-- The bytes of a file without the mark that some editors put in front. -/
def withoutMark : List UInt8 → List UInt8
  | 0xef :: 0xbb :: 0xbf :: bs => bs
  | bs => bs

/-- The variables after a file was read. -/
def load (v : Variables) (content : List UInt8) : Variables :=
  let lines := (splitLines (withoutMark content)).map fun l =>
    (Text.decodeStrict? l).map String.toList
  (({ environ := v } : Reading).lines [] .complete lines).environ

/-! ## The file -/

/-- The name of the file. -/
def fileName : String := ".env"

/-- The paths at which the file may lie: in a directory and in all above it. -/
def candidates (dir : String) : List String :=
  let names := FilePath.names dir
  (List.range (names.length + 1)).map fun n =>
    FilePath.join (FileTree.pathOfNames true (names.take n)) fileName

/-- The file in a directory of the given names or in one above it; something else in its place is
passed over. -/
def find? (t : FileTree) : (names : List String) → Option String
  | [] =>
    if t.isFile (FilePath.join "/" fileName) then some (FilePath.join "/" fileName) else none
  | n :: ns =>
    let path := FilePath.join (FileTree.pathOfNames true (n :: ns).reverse) fileName
    if t.isFile path then some path else find? t ns

/-- The variables after the file of a working directory was read, if there is one. -/
def loadFrom (v : Variables) (t : FileTree) (workingDir : String) : Variables :=
  match find? t (FilePath.names workingDir).reverse with
  | none => v
  | some path =>
    match t.read path with
    | .ok content => load v content.toList
    | .error _ => v

end WebviewBridge.DotEnv
