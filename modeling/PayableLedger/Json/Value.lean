import PayableLedger.Json.Quoted

set_option autoImplicit false

namespace PayableLedger.Json

/-- What stands outside quotes, brackets and braces is kept as the bare run of characters that it
is. Only a record that knows the member asks whether the run is a word. -/
inductive Value
  | bare (run : String)
  | text (chars : String)
  | array (items : List Value)
  | object (members : List (String × Value))

/-- The members of an object in the order of the text; a name may occur repeatedly. -/
abbrev Members := List (String × Value)

def Value.null : Value := .bare "null"

def Value.ofBool (b : Bool) : Value := .bare (if b then "true" else "false")

/-- How a value of `α` stands in JSON, and which values are read as one. -/
class Coded (α : Type) where
  toJson : α → Value
  ofJson? : Value → Option α

export Coded (toJson ofJson?)

instance : Coded String where
  toJson := .text
  ofJson?
    | .text chars => some chars
    | _ => none

instance : Coded Bool where
  toJson := Value.ofBool
  ofJson?
    | .bare "true" => some true
    | .bare "false" => some false
    | _ => none

def ofOption {α : Type} [Coded α] : Option α → Value
  | none => .null
  | some a => toJson a

namespace Members

def named (members : Members) (name : String) : List Value :=
  (members.filter fun member => member.1 == name).map Prod.snd

/-- Reads a member that has to be there, once. -/
def required (members : Members) (name : String) (α : Type) [Coded α] : Option α :=
  match members.named name with
  | [value] => ofJson? value
  | _ => none

/-- Reads a member that may be left out or null, and stands there at most once. -/
def optional (members : Members) (name : String) (α : Type) [Coded α] : Option (Option α) :=
  match members.named name with
  | [] => some none
  | [.bare "null"] => some none
  | [value] => (ofJson? value).map some
  | _ => none

end Members

/-- A record is read from the members of an object, and from nothing else. -/
def ofObject? {α : Type} (read : Members → Option α) : Value → Option α
  | .object members => read members
  | _ => none

def printText (text : String) : List Char := '"' :: escape text.toList ++ ['"']

mutual

/-- The text without blanks, members in the order given. -/
def Value.print : Value → List Char
  | .bare run => run.toList
  | .text chars => printText chars
  | .array items => '[' :: printItems items ++ [']']
  | .object members => '\x7b' :: printMembers members ++ ['\x7d']

def printItems : List Value → List Char
  | [] => []
  | [item] => item.print
  | item :: items => item.print ++ ',' :: printItems items

def printMembers : List (String × Value) → List Char
  | [] => []
  | [(name, value)] => printText name ++ ':' :: value.print
  | (name, value) :: members => printText name ++ ':' :: value.print ++ ',' :: printMembers members

end

def encode {α : Type} [Coded α] (a : α) : String := String.ofList (toJson a).print

/-- A reader takes a value off the front of a text, or refuses the text. -/
abbrev Reader (α : Type) := List Char → Option (α × List Char)

def isBlank (c : Char) : Bool := c == ' ' || c == '\t' || c == '\n' || c == '\r'

def skipBlanks (text : List Char) : List Char := text.dropWhile isBlank

def trimBlanksRight (text : List Char) : List Char := (skipBlanks text.reverse).reverse

def isDelimiter (c : Char) : Bool := c == ',' || c == ']' || c == '\x7d'

/-- Reads a quoted text from behind its opening quote. -/
def readQuoted : Reader String := fun text => do
  let (inside, rest) ← closeQuote? text
  return (String.ofList (← unquote? inside), rest)

/-- Reads a bare run up to the delimiter that has to follow it. -/
def readBare : Reader Value := fun text =>
  let run := text.takeWhile (!isDelimiter ·)
  let rest := text.dropWhile (!isDelimiter ·)
  if run.isEmpty || rest.isEmpty then none
  else some (.bare (String.ofList (trimBlanksRight run)), rest)

def readScalar : Reader Value
  | [] => none
  | c :: rest =>
    if c = '"' then (readQuoted rest).map fun (chars, rest) => (.text chars, rest)
    else if c = '[' || c = '\x7b' then none
    else readBare (c :: rest)

/-- Reads items up to the closing character, each behind a comma; one may stand `alone`, without a
comma before it. In a sequence where `commaLeads`, that need not be the first. Each item takes a
character at least, so the length of the text bounds their number. -/
def readItems {α : Type} (close : Char) (commaLeads : Bool) (read : Reader α) :
    Bool → Nat → Reader (List α)
  | _, 0, _ => none
  | alone, bound + 1, text =>
    match skipBlanks text with
    | [] => none
    | c :: rest =>
      if c = close then some ([], rest)
      else if c = ',' && (commaLeads || !alone) then do
        let (item, rest) ← read (skipBlanks rest)
        let (items, rest) ← readItems close commaLeads read alone bound rest
        return (item :: items, rest)
      else if alone then do
        let (item, rest) ← read (c :: rest)
        let (items, rest) ← readItems close commaLeads read false bound rest
        return (item :: items, rest)
      else none

def readSequence {α : Type} (close : Char) (commaLeads : Bool) (read : Reader α) :
    Reader (List α) := fun text => readItems close commaLeads read true text.length text

def readMember (read : Reader Value) : Reader (String × Value)
  | [] => none
  | c :: rest =>
    if c = '"' then do
      let (name, rest) ← readQuoted rest
      match skipBlanks rest with
      | [] => none
      | c :: rest =>
        if c = ':' then (read (skipBlanks rest)).map fun (value, rest) => ((name, value), rest)
        else none
    else none

/-- Reads a value that nests at most the given number of levels. -/
def readValue : Nat → Reader Value
  | 0 => readScalar
  | levels + 1 => fun text =>
    match text with
    | [] => none
    | c :: rest =>
      if c = '[' then
        (readSequence ']' true (readValue levels) rest).map fun (items, rest) =>
          (.array items, rest)
      else if c = '\x7b' then
        (readSequence '\x7d' false (readMember (readValue levels)) rest).map fun (members, rest) =>
          (.object members, rest)
      else readScalar (c :: rest)

def maxLevels : Nat := 127

/-- Reads a whole text: one value, with nothing but blanks around it. -/
def readText? (text : List Char) : Option Value := do
  let (value, rest) ← readValue maxLevels (skipBlanks text)
  if rest.all isBlank then return value else none

def decode? (α : Type) [Coded α] (text : String) : Option α :=
  (readText? text.toList).bind ofJson?

end PayableLedger.Json
