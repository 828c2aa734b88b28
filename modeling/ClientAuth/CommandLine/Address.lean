/-! Internet addresses: four bytes between dots, or eight groups of sixteen bits between colons. -/

namespace ClientAuth

inductive Address where
  | four (bytes : List Nat)
  | eight (groups : List Nat)
  deriving DecidableEq, Inhabited

namespace Address

/-- What stands between the marks of a text, one piece where it has none. -/
def pieces (mark : Char) (text : List Char) : List (List Char) :=
  text.foldr
    (fun c pieces => if c = mark then [] :: pieces else (c :: pieces.headD []) :: pieces.tail) [[]]

def isHexDigit (c : Char) : Bool :=
  c.isDigit || ('a' ≤ c.toLower && c.toLower ≤ 'f')

def number (base : Nat) (digits : List Char) : Nat :=
  digits.foldl
    (fun n c => n * base + if c.isDigit then c.toNat - 48 else c.toLower.toNat - 87) 0

/-! ## Four bytes -/

/-- A number is octal after a zero, hexadecimal after a zero and an x, and decimal otherwise. -/
def number? : List Char → Option Nat
  | [] => none
  | '0' :: 'x' :: digits => if digits.all isHexDigit then some (number 16 digits) else none
  | '0' :: digits =>
    if digits.all fun c => '0' ≤ c && c ≤ '7' then some (number 8 digits) else none
  | digits => if digits.all Char.isDigit then some (number 10 digits) else none

/-- The numbers of a dotted text, where a dot at its end does not count. -/
def dottedPieces (text : List Char) : List (List Char) :=
  let all := pieces '.' text
  if all.getLast? = some [] && all.length > 1 then all.dropLast else all

/-- A text is meant as an address if its last piece is a number or looks like one. -/
def isDotted (text : List Char) : Bool :=
  match (dottedPieces text).getLast? with
  | some (first :: rest) => (first :: rest).all Char.isDigit || (number? (first :: rest)).isSome
  | _ => false

/-- The last number fills the bytes that the numbers before it leave. -/
def ofDotted? (text : List Char) : Option Address := do
  let numbers ← (dottedPieces text).mapM number?
  let last ← numbers.getLast?
  let before := numbers.dropLast
  let room := 4 - before.length
  if before.length < 4 && before.all (· < 256) && last < Nat.pow 256 room then
    return .four (before ++ (List.range room).reverse.map fun place => last / Nat.pow 256 place % 256)
  else none

/-! ## Eight groups -/

def group? (digits : List Char) : Option Nat :=
  if 0 < digits.length && digits.length ≤ 4 && digits.all isHexDigit then some (number 16 digits)
  else none

/-- A byte has no zero before its other digits. -/
def byte? (digits : List Char) : Option Nat :=
  if !digits.isEmpty && digits.all Char.isDigit && (digits.head? ≠ some '0' || digits.length = 1)
      && number 10 digits < 256 then
    some (number 10 digits)
  else none

/-- Groups of which the last two may be written as four bytes. -/
def groups? : List (List Char) → Option (List Nat)
  | [] => some []
  | [last] =>
    match group? last, (pieces '.' last).mapM byte? with
    | some group, _ => some [group]
    | none, some [a, b, c, d] => some [a * 256 + b, c * 256 + d]
    | none, _ => none
  | first :: rest => return (← group? first) :: (← groups? rest)

/-- The parts before and after the first two colons that stand together. -/
def aroundGap? : List Char → Option (List Char × List Char)
  | [] => none
  | ':' :: ':' :: rest => some ([], rest)
  | c :: rest => (aroundGap? rest).map fun parts => (c :: parts.1, parts.2)

def colonPieces (text : List Char) : List (List Char) :=
  if text.isEmpty then [] else pieces ':' text

/-- Two colons together stand for the groups that are missing, at least one and all zero. -/
def ofColons? (text : List Char) : Option Address :=
  match aroundGap? text with
  | some (before, after) => do
    let before ← (colonPieces before).mapM group?
    let after ← groups? (colonPieces after)
    let missing := 8 - (before.length + after.length)
    if missing = 0 then none else return .eight (before ++ List.replicate missing 0 ++ after)
  | none => do
    let groups ← groups? (colonPieces text)
    if groups.length = 8 then return .eight groups else none

/-! ## The written form -/

/-- The start and the length of the first longest run of two or more zeros. -/
def zeroRun? (groups : List Nat) : Option (Nat × Nat) :=
  (List.range groups.length).findSome? fun shorter =>
    let size := groups.length - shorter
    if size < 2 then none
    else ((List.range (shorter + 1)).find? fun start =>
      (groups.drop start).take size = List.replicate size 0).map (·, size)

def joinGroups (groups : List Nat) : String :=
  ":".intercalate (groups.map fun group => String.ofList (Nat.toDigits 16 group))

/-- Groups are in small letters, and their longest run of zeros is left out. -/
def renderGroups (groups : List Nat) : String :=
  match zeroRun? groups with
  | some (start, size) =>
    joinGroups (groups.take start) ++ "::" ++ joinGroups (groups.drop (start + size))
  | none => joinGroups groups

def render : Address → String
  | .four bytes => ".".intercalate (bytes.map toString)
  | .eight groups => "[" ++ renderGroups groups ++ "]"

end Address

end ClientAuth
