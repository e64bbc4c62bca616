/-
Reading a log on a machine.  `decode` counts without bounds; here every sum and product is one of
64-bit words, and three things stop the machine instead of refusing the bytes: a sum or a product
beyond the words, an index outside of what it looks into, and asking for more room than there may
be.

Where the reader expects a sum too great, it looks (`Machine.slice`, `Machine.room`, the message
table); everywhere else it relies on what it has read before (`Machine.add`, `Machine.mul`).
-/
import Scrollback.Codec.Decode

namespace Scrollback.Codec

/-- What stops a machine. -/
inductive Fault where
  /-- A sum or a product is no word. -/
  | overflow
  /-- An index lies outside, or within a character. -/
  | outside
  /-- Too much room is asked for. -/
  | capacity
  deriving DecidableEq, Repr

/-- Why a machine ends without a log: it refuses the bytes, or it is stopped. -/
inductive Halt where
  | refused (cause : CodecError)
  | fault (f : Fault)
  deriving DecidableEq, Repr

namespace Machine

/-- The greatest word. -/
def top : Nat := Mode.max .u64

/-- The greatest number of bytes that there can be in one stretch of memory. -/
def maxBytes : Nat := top / 2

/-- A computation that no fault can stop. -/
def lift {α : Type} (x : Except CodecError α) : Except Halt α :=
  x.mapError .refused

/-- A sum. -/
def add (a b : Nat) : Except Halt Nat :=
  if a + b ≤ top then .ok (a + b) else .error (.fault .overflow)

/-- A product. -/
def mul (a b : Nat) : Except Halt Nat :=
  if a * b ≤ top then .ok (a * b) else .error (.fault .overflow)

/-- Ask for room for `n` entries, of at most `limit`. -/
def reserve (limit n : Nat) : Except Halt Unit :=
  if n ≤ limit then .ok () else .error (.fault .capacity)

/-- Look at one byte. -/
def byteAt (bytes : ByteArray) (i : Nat) : Except Halt UInt8 :=
  if i < bytes.size then .ok (bytes.get! i) else .error (.fault .outside)

/-- Cut a span out of a text. -/
def cutOut (text : String) (s : Span) : Except Halt String := do
  let _ ← add s.offset s.length
  if s.Fits text then pure (s.textIn text) else throw (.fault .outside)

/-! ### Numbers and stretches -/

/-- A stretch of bytes; one that ends beyond the words ends beyond the bytes. -/
def slice (s : Source) (start length : Nat) (part : CodecPart) : Except Halt ByteArray :=
  if top < start + length then throw (.refused (.truncated part))
  else lift (s.slice start length part)

/-- A number. -/
def word (s : Source) (start : Nat) (part : CodecPart) : Except Halt Nat :=
  (slice s start s.mode.width part).map fun b => s.order.number b.data.toList

/-- A number of milliseconds. -/
def stamp (s : Source) (start : Nat) (part : CodecPart) : Except Halt Int :=
  (slice s start 8 part).map fun b => intOfWord (s.order.number b.data.toList)

/-- A stretch of bytes with its size in front. -/
def sized (s : Source) (start : Nat) (part : CodecPart) : Except Halt ByteArray := do
  let length ← word s start part
  let first ← add start s.mode.width
  slice s first length part

/-- A stretch with its size in front, or no bytes where the offset says that it is absent. -/
def sizedOrEmpty (s : Source) (start : Nat) (part : CodecPart) : Except Halt ByteArray :=
  if start = 0 then .ok ByteArray.empty else sized s start part

/-- Room for `count` entries of a given size; a product beyond the words is beyond the bytes. -/
def room (s : Source) (start count size : Nat) (part : CodecPart) : Except Halt Unit :=
  if top < count * size then throw (.refused (.truncated part))
  else (slice s start (count * size) part).map fun _ => ()

/-! ### Before the lines -/

/-- Read the tags. -/
def readTags (bytes : ByteArray) : Except Halt Source := do
  if bytes.size < preambleSize then throw (.refused (.truncated .preamble))
  let modeTag ← byteAt bytes 0
  match Mode.ofTag? modeTag with
  | none => throw (.refused (.unknownFormat modeTag))
  | some mode =>
    let orderTag ← byteAt bytes 1
    match ByteOrder.ofTag? orderTag with
    | none => throw (.refused (.unknownOrder orderTag))
    | some order =>
      if order = ByteOrder.native then pure ⟨bytes, mode, order⟩
      else throw (.refused (.foreignOrder order))

/-- The `i`-th number of the header. -/
def field (s : Source) (i : Nat) : Except Halt Nat := do
  let ahead ← mul i s.mode.width
  let place ← add preambleSize ahead
  word s place .header

/-- Read the tags, the period and the numbers before the parts. -/
def readHeader (bytes : ByteArray) : Except Halt Header := do
  let s ← readTags bytes
  let ahead ← mul headerWords s.mode.width
  let place ← add preambleSize ahead
  let start ← stamp s place .header
  let next ← add place 8
  let stop ← stamp s next .header
  let lineCount ← field s 0
  let channel ← field s 1
  let user ← field s 2
  let names ← field s 3
  let messages ← field s 4
  let nameTable ← field s 5
  let timestamps ← field s 6
  let authors ← field s 7
  let messageTable ← field s 8
  let period ← lift ((Period.make? start stop).mapError .time)
  pure ⟨s.mode, s.order, lineCount, channel, user, names, messages, nameTable, timestamps,
    authors, messageTable, period⟩

/-- The place of the `i`-th of pairs of numbers. -/
def pairPlace (first w i : Nat) : Except Halt Nat := do
  let twice ← mul i 2
  let ahead ← mul twice w
  add first ahead

/-- The `i`-th entry of the name table.  Where it stops is added up before anything is known of its
size. -/
def readName (s : Source) (first : Nat) (text : String) (namesSize i : Nat) :
    Except Halt Span := do
  let place ← pairPlace first s.mode.width i
  let offset ← word s place .nameTable
  let next ← add place s.mode.width
  let length ← word s next .nameTable
  let stop ← add offset length
  let span : Span := ⟨offset, length⟩
  if namesSize < stop || !decide (span.Fits text) then
    throw (.refused (.outOfBounds .nameTable))
  pure span

/-- The spans of the name table.  The start of its entries is no greater than the greatest word. -/
def readNames (limit : Nat) (s : Source) (start : Nat) (text : String) (namesSize : Nat) :
    Except Halt (List Span) :=
  if start = 0 then .ok []
  else do
    let count ← word s start .nameTable
    let first := min (start + s.mode.width) top
    let size ← mul 2 s.mode.width
    room s first count size .nameTable
    reserve limit count
    (List.range count).mapM (readName s first text namesSize)

/-- Whether each name comes before the next one; those after the first that does not are not looked
at. -/
def increasing (text : String) : List Span → Except Halt Bool
  | a :: b :: rest => do
    let x ← cutOut text a
    let y ← cutOut text b
    if utf8 x < utf8 y then increasing text (b :: rest) else pure false
  | _ => pure true

/-! ### Lines -/

/-- The `i`-th line.  Where its message stops is looked at before it is added to anything. -/
def readLine (s : Source) (h : Header) (text : String) (namesSize messagesSize : Nat)
    (names : Array Span) (i : Nat) : Except Halt LineSpan := do
  let w := s.mode.width
  let ahead ← mul i 8
  let place ← add h.timestamps ahead
  let millis ← stamp s place .timestamps
  let time ← lift ((Instant.ofMillis? millis).mapError .time)
  let ahead ← mul i w
  let place ← add h.authors ahead
  let index ← word s place .authorIndices
  match names[index]? with
  | none => throw (.refused (.authorIndex index names.size))
  | some author =>
    let place ← pairPlace h.messageTable w i
    let offset ← word s place .messageTable
    let next ← add place w
    let length ← word s next .messageTable
    if top < offset + length || messagesSize < offset + length then
      throw (.refused (.outOfBounds .messageTable))
    let moved ← add namesSize offset
    let message : Span := ⟨moved, length⟩
    if !decide (message.Fits text) then throw (.refused (.outOfBounds .messageTable))
    pure ⟨time, author, message⟩

/-- All lines. -/
def readLines (limit : Nat) (s : Source) (h : Header) (text : String)
    (namesSize messagesSize : Nat) (names : Array Span) : Except Halt (List LineSpan) :=
  if h.lineCount = 0 then .ok []
  else do
    if h.timestamps = 0 || h.authors = 0 || h.messageTable = 0 then
      throw (.refused (.missingSection .lineArrays))
    room s h.timestamps h.lineCount 8 .timestamps
    room s h.authors h.lineCount s.mode.width .authorIndices
    let size ← mul 2 s.mode.width
    room s h.messageTable h.lineCount size .messageTable
    reserve limit h.lineCount
    (List.range h.lineCount).mapM (readLine s h text namesSize messagesSize names)

/-! ### Whole logs -/

/-- The texts of a stored log, and what stands in front of them. -/
structure Texts where
  header : Header
  channel : String
  user : String
  namesSize : Nat
  messagesSize : Nat
  text : String

/-- A text of some bytes, in room of its own. -/
def ownText (limit : Nat) (bytes : ByteArray) : Except Halt String := do
  let text ← lift (textOf bytes)
  reserve limit bytes.size
  pure text

/-- Read the texts; names and messages are put together in room that is asked for at once. -/
def readTexts (limit : Nat) (bytes : ByteArray) : Except Halt Texts := do
  let h ← readHeader bytes
  let s : Source := ⟨bytes, h.mode, h.order⟩
  if h.channel = 0 then throw (.refused (.missingSection .channel))
  let channel ← sized s h.channel .channel >>= ownText limit
  let user ← sizedOrEmpty s h.user .user >>= ownText limit
  let nameBlob ← sizedOrEmpty s h.names .nameBlob
  let messageBlob ← sizedOrEmpty s h.messages .messageBlob
  let size ← add nameBlob.size messageBlob.size
  reserve limit size
  let text ← lift (textOf (nameBlob ++ messageBlob))
  pure ⟨h, channel, user, nameBlob.size, messageBlob.size, text⟩

/-- Read the names and the lines. -/
def readRest (limit : Nat) (bytes : ByteArray) (t : Texts) : Except Halt Log := do
  let s : Source := ⟨bytes, t.header.mode, t.header.order⟩
  let names ← readNames limit s t.header.nameTable t.text t.namesSize
  let ordered ← increasing t.text names
  if !ordered then throw (.refused .unsortedNames)
  let lines ← readLines limit s t.header t.text t.namesSize t.messagesSize names.toArray
  pure ⟨⟨t.channel, t.header.period, t.user⟩, t.text, true, names.toArray, lines.toArray⟩

/-- Read a log, asking for no more room than for twice as many entries as there are bytes. -/
def decode (bytes : ByteArray) : Except Halt Log := do
  let limit := 2 * bytes.size
  let texts ← readTexts limit bytes
  readRest limit bytes texts

end Machine

end Scrollback.Codec
