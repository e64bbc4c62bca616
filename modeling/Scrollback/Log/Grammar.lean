/-
The plain-text logs that the services serve, one chat line to a line of text:

    [2020-01-01 12:00:00] #channel alice: hello world      (gempir)
    [2020-01-01 12:00:00 UTC] alice: hello world           (overrustle)

A line that does not have this form is passed over.  A body that is, but for white space around
it, the service's notice that it has no such log gives a log that is not valid.

Each line is read by itself; `spansFrom` adds up where it stands in the whole text.
-/
import Scrollback.Log.Basic
import Scrollback.Service
import Scrollback.Time.Stamp

namespace Scrollback.Grammar

/-- What a line says and where: the bytes before the author, and between author and message. -/
structure Parts where
  time : Instant
  before : Nat
  author : List Char
  between : Nat
  message : List Char

/-- The text before the first occurrence of a character, and the text after it. -/
def cut (c : Char) (cs : List Char) : Option (List Char × List Char) :=
  let front := cs.takeWhile (· != c)
  match cs.drop front.length with
  | [] => none
  | _ :: rest => some (front, rest)

/-- `cutBracket`, with the text passed so far in reverse. -/
def cutBracketFrom (passed : List Char) : List Char → Option (List Char × List Char)
  | [] => none
  | ']' :: ' ' :: rest => some (passed.reverse, rest)
  | d :: rest => cutBracketFrom (d :: passed) rest

/-- The text before the first closing bracket that a space follows, and the text after both. -/
def cutBracket (cs : List Char) : Option (List Char × List Char) :=
  cutBracketFrom [] cs

/-- The time in the brackets at the head of a line, the bytes up to the end of the brackets and
the space after them, and the rest.  `tail` says what must follow the time within the brackets. -/
def head (tail : List Char → Bool) : List Char → Option (Instant × Nat × List Char)
  | '[' :: line => do
    let (inside, rest) ← cutBracket line
    let (t, more) ← Stamp.read inside
    if tail more then some (t, utf8Size inside + 3, rest) else none
  | _ => none

theorem head_eq {tail : List Char → Bool} {line inside rest more : List Char} {t : Instant}
    (cut : cutBracket line = some (inside, rest)) (read : Stamp.read inside = some (t, more))
    (followed : tail more = true) : head tail ('[' :: line) = some (t, utf8Size inside + 3, rest) := by
  simp [head, cut, read, followed]

/-- The author ends at the first colon after the channel; one space after the colon is dropped. -/
def gempirLine (line : List Char) : Option Parts := do
  let (t, before, rest) ← head List.isEmpty line
  let (channel, rest) ← cut ' ' rest
  let (author, message) ← cut ':' rest
  let before := before + utf8Size channel + 1
  match message with
  | ' ' :: message => some ⟨t, before, author, 2, message⟩
  | message => some ⟨t, before, author, 1, message⟩

/-- The author ends at the first space, which a colon must precede. -/
def overrustleLine (line : List Char) : Option Parts := do
  let (t, before, rest) ← head (fun more => trimStart more == ['U', 'T', 'C']) line
  let (author, message) ← cut ' ' rest
  if author.getLast? = some ':' then some ⟨t, before, author.dropLast, 2, message⟩ else none

/-- The line form of a service. -/
def lineOf : Service → List Char → Option Parts
  | .gempir => gempirLine
  | .overrustle => overrustleLine

/-- The notice that a service gives for a log that it does not have. -/
def notice : Service → String
  | .gempir => "\x7b\"message\":\"Failure reading log\"\x7d"
  | .overrustle => "didn't find any logs for this user"

/-- Drop the carriage return that ends a line. -/
def dropReturn (line : List Char) : List Char :=
  if line.getLast? = some '\r' then line.dropLast else line

/-- The spans of the parts of a line that starts at a given byte. -/
def Parts.spans (p : Parts) (start : Nat) : LineSpan :=
  let author : Span := ⟨start + p.before, utf8Size p.author⟩
  ⟨p.time, author, ⟨author.stop + p.between, utf8Size p.message⟩⟩

/-- The lines that have the form of the service, where the first of them starts at a given byte
and a line break separates each from the next. -/
def spansFrom (s : Service) : Nat → List (List Char) → List LineSpan
  | _, [] => []
  | start, line :: rest =>
    let later := spansFrom s (start + utf8Size line + 1) rest
    match lineOf s (dropReturn line) with
    | some p => p.spans start :: later
    | none => later

/-- Every chat line of a body. -/
def spans (s : Service) (body : String) : List LineSpan :=
  spansFrom s 0 (body.toList.splitOn '\n')

end Scrollback.Grammar

namespace Scrollback

/-- The log in a body that a service served. -/
def Service.parse (s : Service) (id : LogId) (body : String) : Log :=
  if trimText body = Grammar.notice s then Log.missing id body
  else Log.ofLines id body (Grammar.spans s body)

end Scrollback
