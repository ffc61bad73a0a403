import DeltaBridge.Broker.NumericHost
import DeltaBridge.Decimal.Numeral
import DeltaBridge.Text.Case
import DeltaBridge.Text.Quoted

/-!
# Broker addresses

The address of a broker: a host with a port, and whether the connection is encrypted. It is written
as a URL whose scheme, port and user information may be left out.

* `Scheme`, `Scheme.port`, `Scheme.isEncrypted`;
* `splitUrl`: scheme and authority of a URL; `hostAndPort`, `readPort?`: host and port of an authority;
* `bracketedHostError?`: a host in brackets is numeric;
* `Address.parse`: the address in a text, or what is wrong with it.
-/

namespace DeltaBridge

open Ascii Text

/-- The schemes of broker URLs. -/
inductive Scheme where
  | mqtt
  | tcp
  | mqtts
  | ssl
  | tls
  deriving DecidableEq, Repr

namespace Scheme

/-- All schemes. -/
def all : List Scheme := [mqtt, tcp, mqtts, ssl, tls]

/-- The name of a scheme. -/
def name : Scheme → Text
  | mqtt => "mqtt"
  | tcp => "tcp"
  | mqtts => "mqtts"
  | ssl => "ssl"
  | tls => "tls"

/-- The scheme of a name. -/
def ofName? (t : Text) : Option Scheme := all.find? fun s => s.name = t

/-- The connection is encrypted. -/
def isEncrypted : Scheme → Bool
  | mqtt | tcp => false
  | mqtts | ssl | tls => true

/-- The port of a connection whose address names none. -/
def port (s : Scheme) : Nat := if s.isEncrypted then 8883 else 1883

end Scheme

/-- Where a broker is reached. -/
structure Address where
  host : Text
  port : Nat
  encrypted : Bool
  deriving DecidableEq, Repr

/-- What is wrong with an address. -/
inductive AddressError where
  | missing
  /-- A bracket without its partner, or something beside a host in brackets. -/
  | misplacedBrackets
  /-- A host in brackets that starts as one of a later version and is none. -/
  | badLaterVersion
  /-- A host in brackets that needs none. -/
  | bracketedVersion4
  /-- A host in brackets that is not numeric. -/
  | notNumeric (host : Text)
  /-- The authority has a character that some readers take for a separator. -/
  | disguisedSeparator (authority : Text)
  | unknownScheme (scheme : Text)
  | badPort (server : Text)
  | noHost (server : Text)
  deriving DecidableEq, Repr

namespace AddressError

/-- The fault is reported as one of the connection parameters. -/
def isContained : AddressError → Bool
  | misplacedBrackets | badLaterVersion | bracketedVersion4 | notNumeric _ | disguisedSeparator _ => false
  | missing | unknownScheme _ | badPort _ | noHost _ => true

/-- The fault in words. -/
def message : AddressError → Text
  | missing => "MQTT broker address is required"
  | misplacedBrackets => "Invalid IPv6 URL"
  | badLaterVersion => "IPvFuture address is invalid"
  | bracketedVersion4 => "An IPv4 address cannot be in brackets"
  | notNumeric h => h.quoted ++ " does not appear to be an IPv4 or IPv6 address"
  | disguisedSeparator a => "netloc '" ++ a ++ "' contains invalid characters under NFKC normalization"
  | unknownScheme s => "Unsupported MQTT URL scheme: " ++ s
  | badPort s => "Invalid MQTT broker port in " ++ s.quoted
  | noHost s => "MQTT broker host missing in " ++ s.quoted

end AddressError

/-! ## URLs -/

/-- The character can occur in the scheme of a URL. -/
def isSchemeChar (c : CodePoint) : Bool := isLetter c || isDigit c || c == plus || c == minus || c == dot

/-- The text is the scheme of a URL: a letter and characters of schemes after it. -/
def isScheme : Text → Bool
  | [] => false
  | c :: t => isLetter c && t.all isSchemeChar

/-- The scheme of a URL, empty if it has none, and what follows it. -/
def splitScheme (url : Text) : Text × Text :=
  match cutAt colon url with
  | (s, some r) => if isScheme s then (s.map lowerAscii, r) else ([], url)
  | (_, none) => ([], url)

/-- The character ends an authority. -/
def endsAuthority (c : CodePoint) : Bool := c == slash || c == question || c == hash

/-- The authority of a URL without its scheme. -/
def authorityOf : Text → Text
  | slash :: slash :: t => t.takeWhile fun c => !endsAuthority c
  | _ => []

/-- The characters that turn into one of the marks of a URL, or into several characters with one among
them, when compatible characters are folded together. -/
def disguised : List CodePoint :=
  [0x2047, 0x2048, 0x2049, 0x2100, 0x2101, 0x2105, 0x2106, 0x2A74, 0xFE13, 0xFE16, 0xFE55, 0xFE56,
    0xFE5F, 0xFE6B, 0xFF03, 0xFF0F, 0xFF1A, 0xFF1F, 0xFF20]

/-- The host and the port of an authority as they are written. -/
def hostAndPort (authority : Text) : Text × Text :=
  match cutAt openBracket (afterLast atSign authority) with
  | (_, some bracketed) =>
    match cutAt closeBracket bracketed with
    | (host, some r) => (host, ((cutAt colon r).2).getD [])
    | (host, none) => (host, [])
  | (t, none) =>
    match cutAt colon t with
    | (host, port) => (host, port.getD [])

/-- A host in brackets stands right after the user information, and nothing but a port follows it. -/
def bracketsFit (authority : Text) : Bool :=
  match cutAt openBracket (afterLast atSign authority) with
  | (before, some bracketed) =>
    before.isEmpty &&
      match (cutAt closeBracket bracketed).2 with
      | some (c :: _) => c == colon
      | _ => true
  | (_, none) => true

/-- What is wrong with a host in brackets. -/
def bracketedHostError? (host : Text) : Option AddressError :=
  if NumericHost.startsLaterVersion host then
    if NumericHost.isLaterVersion host then none else some .badLaterVersion
  else if NumericHost.isVersion4 host then some .bracketedVersion4
  else if NumericHost.isVersion6 host then none
  else some (.notNumeric host)

/-- What is wrong with an authority. Brackets in its user information count as brackets around its host. -/
def authorityError? (authority : Text) : Option AddressError :=
  let opened := authority.contains openBracket
  let closed := authority.contains closeBracket
  if opened != closed then some .misplacedBrackets
  else if opened && !bracketsFit authority then some .misplacedBrackets
  else
    match if opened then bracketedHostError? (hostAndPort authority).1 else none with
    | some e => some e
    | none => if authority.any (disguised.contains ·) then some (.disguisedSeparator authority) else none

/-- A URL without what does not count in it: the control characters and spaces before it, and all tabs
and line ends. -/
def trimUrl (url : Text) : Text :=
  (url.dropWhile fun c => c ≤ space).filter fun c => c ≠ tab ∧ c ≠ lineFeed ∧ c ≠ carriageReturn

/-- The scheme and the authority of a URL. -/
def splitUrl (url : Text) : Except AddressError (Text × Text) :=
  let (scheme, rest) := splitScheme (trimUrl url)
  match authorityError? (authorityOf rest) with
  | some e => .error e
  | none => .ok (scheme, authorityOf rest)

/-- The host in lower case, but for what follows a percent sign. -/
def lowerHost (host : Text) : Text :=
  match cutAt percent host with
  | (a, some zone) => a.lower ++ percent :: zone
  | (a, none) => a.lower

/-- The port that a text denotes, none for an empty text: ASCII digits, up to 65535. -/
def readPort? (t : Text) : Option (Option Nat) :=
  if t.isEmpty then some none
  else if t.all isDigit ∧ t.length ≤ digitLimit ∧ readDigits (t.map (· - 0x30)) ≤ 65535 then
    some (some (readDigits (t.map (· - 0x30))))
  else none

/-! ## Addresses -/

/-- Three marks that end a scheme. -/
def schemeMark : Text := "://"

/-- The mark stands somewhere in the text. -/
def hasSchemeMark : Text → Bool
  | [] => false
  | c :: t => schemeMark.isPrefixOf (c :: t) || hasSchemeMark t

/-- The address in a text, blanks around it aside. Without a scheme it is an unencrypted one; a port of
zero counts as none. -/
def Address.parse (server : Text) : Except AddressError Address :=
  let t := server.strip
  if t.isEmpty then .error .missing
  else
    match splitUrl (if hasSchemeMark t then t else "mqtt://" ++ t) with
    | .error e => .error e
    | .ok (scheme, authority) =>
      match Scheme.ofName? scheme with
      | none => .error (.unknownScheme scheme)
      | some s =>
        let (host, port) := hostAndPort authority
        match readPort? port with
        | none => .error (.badPort server)
        | some p =>
          if host.isEmpty then .error (.noHost server)
          else
            let port := match p with
              | some (n + 1) => n + 1
              | _ => s.port
            .ok ⟨lowerHost host, port, s.isEncrypted⟩

end DeltaBridge
