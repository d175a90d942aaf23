import MazeGrader.Json.Number

/-! Reading a JSON text into a draft. -/
namespace MazeGrader.Json

def isSpace (c : Char) : Bool := c = ' ' || c = '\n' || c = '\t' || c = '\r'

def skipSpace (source : List Char) : List Char := source.dropWhile isSpace

def hexValue? (c : Char) : Option Nat :=
  if c.isDigit then some (c.toNat - '0'.toNat)
  else if 'a' ≤ c ∧ c ≤ 'f' then some (c.toNat - 'a'.toNat + 10)
  else if 'A' ≤ c ∧ c ≤ 'F' then some (c.toNat - 'A'.toNat + 10)
  else none

def hexQuad? (a b c d : Char) : Option Nat := do
  return 4096 * (← hexValue? a) + 256 * (← hexValue? b) + 16 * (← hexValue? c) + (← hexValue? d)

/-- The fault of an escape after which fewer than four characters are left. They may still
be four bytes, which is enough to be read and found wrong. -/
def shortEscape (left : List Char) : Fault :=
  if 4 ≤ (String.ofList left).utf8ByteSize then .malformed else .cut

/-- The character of an escape of two characters. -/
def escaped? (c : Char) : Option Char :=
  match c with
  | '"' => some '"'
  | '\\' => some '\\'
  | '/' => some '/'
  | 'b' => some '\x08'
  | 'f' => some '\x0c'
  | 'n' => some '\n'
  | 'r' => some '\r'
  | 't' => some '\t'
  | _ => none

/-- Two escapes that stand for one character. -/
def pairValue (high low : Nat) : Nat := 0x10000 + 0x400 * (high - 0xD800) + (low - 0xDC00)

/-- The characters up to the closing quote and what follows it. -/
def readString : List Char → Except Fault (List Char × List Char)
  | [] => .error .cut
  | '"' :: rest => .ok ([], rest)
  | '\\' :: 'u' :: a :: b :: c :: d :: rest =>
    match hexQuad? a b c d with
    | none => .error .malformed
    | some first =>
      if first < 0xD800 || 0xDFFF < first then do
        let (chars, rest) ← readString rest
        return (Char.ofNat first :: chars, rest)
      else if 0xDBFF < first then .error .malformed
      else match rest with
        | '\\' :: 'u' :: a :: b :: c :: d :: rest =>
          match hexQuad? a b c d with
          | none => .error .malformed
          | some second =>
            if second < 0xDC00 || 0xDFFF < second then .error .malformed
            else do
              let (chars, rest) ← readString rest
              return (Char.ofNat (pairValue first second) :: chars, rest)
        | '\\' :: 'u' :: left => .error (shortEscape left)
        | [] => .error .cut
        | ['\\'] => .error .cut
        | _ => .error .malformed
  | '\\' :: 'u' :: left => .error (shortEscape left)
  | ['\\'] => .error .cut
  | '\\' :: c :: rest =>
    match escaped? c with
    | none => .error .malformed
    | some c => do
      let (chars, rest) ← readString rest
      return (c :: chars, rest)
  | c :: rest =>
    if c.toNat < 0x20 then .error .malformed
    else do
      let (chars, rest) ← readString rest
      return (c :: chars, rest)

/-- What follows the closing quote, whichever characters the escapes stand for. -/
def skipString : List Char → Except Fault (List Char)
  | [] => .error .cut
  | '"' :: rest => .ok rest
  | '\\' :: 'u' :: a :: b :: c :: d :: rest =>
    if (hexQuad? a b c d).isSome then skipString rest else .error .malformed
  | '\\' :: 'u' :: left => .error (shortEscape left)
  | ['\\'] => .error .cut
  | '\\' :: c :: rest => if (escaped? c).isSome then skipString rest else .error .malformed
  | c :: rest => if c.toNat < 0x20 then .error .malformed else skipString rest

/-- A string behind its opening quote. -/
def draftString (source : List Char) : Quoted × Option (List Char) :=
  let value := (readString source).map fun read => String.ofList read.1
  match skipString source with
  | .ok rest => (⟨value, none⟩, some rest)
  | .error fault => (⟨value, some fault⟩, none)

/-- What follows a word whose first letter was met. -/
def readWord : List Char → List Char → Except Fault (List Char)
  | [], source => .ok source
  | _ :: _, [] => .error .cut
  | c :: word, d :: source => if c = d then readWord word source else .error .malformed

def draftWord (word : String) (value : Draft) (source : List Char) : Draft × Option (List Char) :=
  match readWord word.toList source with
  | .ok rest => (value, some rest)
  | .error fault => (.broken fault, none)

mutual

/-- The draft in front of a text, and what follows it unless a fault stops the reading. -/
def readDraft : Nat → List Char → Draft × Option (List Char)
  | 0, _ => (.broken .malformed, none)
  | fuel + 1, source =>
    match skipSpace source with
    | [] => (.broken .cut, none)
    | '"' :: rest => let (value, rest) := draftString rest; (.string value, rest)
    | '[' :: rest =>
      match skipSpace rest with
      | ']' :: rest => (.array [] .malformed none, some rest)
      | [] => (.array [] .malformed (some .cut), none)
      | rest =>
        let (items, ending, rest) := readItems fuel rest
        (.array items .malformed ending, rest)
    | '\x7b' :: rest =>
      match skipSpace rest with
      | '\x7d' :: rest => (.object [] none, some rest)
      | rest =>
        let (members, ending, rest) := readMembers fuel rest
        (.object members ending, rest)
    | 'n' :: rest => draftWord "ull" .null rest
    | 't' :: rest => draftWord "rue" (.bool true) rest
    | 'f' :: rest => draftWord "alse" (.bool false) rest
    | c :: rest =>
      if c = '-' || c.isDigit then draftNumber (c :: rest) else (.broken .malformed, none)

/-- Items of an array, from one of them on. -/
def readItems : Nat → List Char → List Draft × Option Fault × Option (List Char)
  | 0, _ => ([], some .malformed, none)
  | fuel + 1, source =>
    match readDraft fuel source with
    | (item, none) => ([item], some .malformed, none)
    | (item, some rest) =>
      match skipSpace rest with
      | [] => ([item], some .cut, none)
      | ']' :: rest => ([item], none, some rest)
      | ',' :: rest =>
        let (items, ending, rest) := readItems fuel rest
        (item :: items, ending, rest)
      | _ => ([item], some .malformed, none)

/-- Members of an object, from a key on. -/
def readMembers : Nat → List Char → List (Quoted × Draft) × Option Fault × Option (List Char)
  | 0, _ => ([], some .malformed, none)
  | fuel + 1, source =>
    match skipSpace source with
    | [] => ([], some .cut, none)
    | '"' :: rest =>
      match draftString rest with
      | (key, none) => ([(key, .broken .malformed)], some .malformed, none)
      | (key, some rest) =>
        match skipSpace rest with
        | [] => ([(key, .broken .cut)], some .cut, none)
        | ':' :: rest =>
          match readDraft fuel rest with
          | (value, none) => ([(key, value)], some .malformed, none)
          | (value, some rest) =>
            match skipSpace rest with
            | [] => ([(key, value)], some .cut, none)
            | '\x7d' :: rest => ([(key, value)], none, some rest)
            | ',' :: rest =>
              let (members, ending, rest) := readMembers fuel rest
              ((key, value) :: members, ending, rest)
            | _ => ([(key, value)], some .malformed, none)
        | _ => ([(key, .broken .malformed)], some .malformed, none)
    | _ => ([], some .malformed, none)

end

/-- Every level of reading takes a character, so twice the length of the text is enough. -/
def readDocument (text : String) : Document :=
  let source := text.toList
  let (root, rest) := readDraft (2 * source.length + 2) source
  let trailing := match rest.map skipSpace with
    | some (_ :: _) => some .malformed
    | _ => none
  ⟨root, trailing⟩

def parse (text : String) : Except Fault Json := (readDocument text).toJson

end MazeGrader.Json
