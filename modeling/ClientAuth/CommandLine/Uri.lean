import ClientAuth.CommandLine.Address
import ClientAuth.Negotiation.Factory
import ClientAuth.Serial.Values

/-! Targets as they are written on a command line, by a URI. The library itself is handed targets and
reads none. In the schemes of the web a host is the same in any case and may be an address, and it has
ASCII characters only; elsewhere it stands as it is. -/

namespace ClientAuth

inductive Host where
  | name (text : List Char)
  | address (address : Address)
  deriving DecidableEq, Inhabited

namespace Host

def isDelimiter (c : Char) : Bool :=
  c ∈ ['\x00', '\t', '\n', '\r', ' ', '#', '/', ':', '<', '>', '?', '@', '[', '\\', ']', '^', '|']

def isPrintable (c : Char) : Bool :=
  ' ' ≤ c && c ≤ '~'

/-- A character out of the printable ones is written as its bytes. -/
def encoded (c : Char) : List Char :=
  if isPrintable c then [c]
  else (String.utf8EncodeChar c).flatMap fun byte => '%' :: (Hex.encode [byte]).map Char.toUpper

def decoded : List Char → List Char
  | '%' :: high :: low :: rest =>
    if Address.isHexDigit high && Address.isHexDigit low then
      Char.ofNat (Address.number 16 [high, low]) :: decoded rest
    else '%' :: decoded (high :: low :: rest)
  | c :: rest => c :: decoded rest
  | [] => []

/-- An address of eight groups stands in brackets. -/
def bracketed? (text : List Char) : Option Host :=
  if text.getLast? = some ']' then Host.address <$> Address.ofColons? text.dropLast else none

def ofText? : List Char → Option Host
  | '[' :: rest => bracketed? rest
  | text => if text.any isDelimiter then none else some (name (text.flatMap encoded))

def ofWebText? : List Char → Option Host
  | '[' :: rest => bracketed? rest
  | text =>
    let plain := (decoded text).map Char.toLower
    if plain.any fun c => isDelimiter c || c = '%' || !isPrintable c then none
    else if Address.isDotted plain then Host.address <$> Address.ofDotted? plain
    else some (name plain)

def render : Host → String
  | .name text => String.ofList text
  | .address found => found.render

end Host

namespace Uri

def isSchemeChar (c : Char) : Bool :=
  c.isAlphanum || c = '+' || c = '-' || c = '.'

def isScheme : List Char → Bool
  | [] => false
  | first :: rest => first.isAlpha && rest.all isSchemeChar

/-- In the schemes of the web a host is always named, after any number of slashes. -/
def isWeb (scheme : String) : Bool :=
  scheme ∈ ["http", "https", "ws", "wss", "ftp"]

def isSlash (c : Char) : Bool :=
  c = '/' || c = '\\'

def endsAuthority (web : Bool) (c : Char) : Bool :=
  c = '/' || c = '?' || c = '#' || (web && c = '\\')

/-- What follows the last `mark`, or all of the text where there is none. -/
def afterLast (mark : Char) (text : List Char) : List Char :=
  (text.reverse.takeWhile (· ≠ mark)).reverse

/-- The part before the number. An address in brackets keeps its colons. -/
def hostPart : List Char → List Char
  | '[' :: rest =>
    let address := rest.takeWhile (· ≠ ']')
    '[' :: address ++ (rest.drop address.length).take 1
  | name => name.takeWhile (· ≠ ':')

/-- Nothing, or a colon and a number of sixteen bits whose digits may be left out. A backslash ends
the number as the end of the authority does. -/
def isNumberPart : List Char → Bool
  | [] => true
  | ':' :: rest =>
    let digits := rest.takeWhile Char.isDigit
    Address.number 10 digits < Nat.pow 2 16 && (rest.drop digits.length).head?.all (· = '\\')
  | _ => false

/-- The host of an authority, which stands between the user before it and the number behind it. Only
outside the web it may be missing, and then there is no number and no user. An empty user makes no
difference, unless it has no colon and something follows. -/
def hostOf? (web followed : Bool) (authority : List Char) : Option (Option Host) :=
  let named := afterLast '@' authority
  let user := authority.take (authority.length - named.length)
  let host := hostPart named
  let number := named.drop host.length
  if host.isEmpty then
    if !web && number.isEmpty && (user ∈ [[], [':', '@']] || (user = ['@'] && !followed)) then
      some none
    else none
  else if isNumberPart number then
    some <$> (if web then Host.ofWebText? host else Host.ofText? host)
  else none

def isDriveLetter : List Char → Bool
  | [letter, mark] => letter.isAlpha && (mark = ':' || mark = '|')
  | _ => false

def startsWithDrive : List Char → Bool
  | mark :: path => isSlash mark && isDriveLetter (path.takeWhile (!endsAuthority true ·))
  | [] => false

/-- The host of a file has neither user nor number. The name of the machine itself is no host, and
where a drive is named, in place of a host or after it, there is none. -/
def fileHost? (text : List Char) : Option (Option Host) :=
  let host := text.takeWhile (!endsAuthority true ·)
  if host.isEmpty || isDriveLetter host then some none
  else (Host.ofWebText? host).map fun named =>
    if named = .name "localhost".toList || startsWithDrive (text.drop host.length) then none
    else some named

/-- The host that is named in what follows the scheme and its colon. -/
def findHost? (scheme : String) (text : List Char) : Option (Option Host) :=
  let inAuthority (web : Bool) (text : List Char) :=
    let authority := text.takeWhile (!endsAuthority web ·)
    hostOf? web (authority.length < text.length) authority
  if isWeb scheme then inAuthority true (text.dropWhile isSlash)
  else match text with
    | first :: second :: rest =>
      if scheme = "file" && isSlash first && isSlash second then fileHost? rest
      else if first = '/' && second = '/' then inAuthority false rest
      else some none
    | _ => some none

/-- Blanks around a URI and breaks within it do not count. -/
def visible (uri : String) : List Char :=
  let trimmed := (uri.toList.dropWhile (· ≤ ' ')).reverse.dropWhile (· ≤ ' ')
  trimmed.reverse.filter fun c => c ≠ '\t' && c ≠ '\n' && c ≠ '\r'

def target? (uri : String) : Option Target :=
  let text := visible uri
  let scheme := text.takeWhile (· ≠ ':')
  match text.drop scheme.length with
  | ':' :: rest =>
    let name := String.ofList (scheme.map Char.toLower)
    if isScheme scheme then
      (findHost? name rest).map fun host => ⟨name, host.map Host.render⟩
    else none
  | _ => none

end Uri

end ClientAuth
