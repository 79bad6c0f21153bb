import FluxComposer.Http.Exchange
import FluxComposer.Http.Host
/-
Which addresses and header values a request can be made with. An address
is absolute, of the scheme `http` or `https`, with a host and at most a
port of sixteen bits behind it. Tabs and line ends within it do not
count, nor do blanks and controls around it.
-/
namespace FluxComposer.Http

/-- The character classes of a header value: everything but controls, and
the tab. -/
def isHeaderValue (s : String) : Bool :=
  s.toList.all fun c => c == '\t' || (0x20 ≤ c.toNat && c.toNat ≠ 0x7F)

-- ========================================================== addresses

/-- Whether a text is a port or is empty. -/
def isPort (s : List Char) : Bool :=
  s.all Char.isDigit
    && s.foldl (fun n c => n * 10 + (c.toNat - 48)) 0 < 65536

/-- What follows the scheme of a web address. -/
def afterScheme? (s : List Char) : Option (List Char) :=
  match s.dropWhile (· != ':') with
  | ':' :: rest =>
    let scheme := String.ofList ((s.takeWhile (· != ':')).map Char.toLower)
    if scheme = "http" ∨ scheme = "https" then some rest else none
  | _ => none

/-- The host and the port in the part of an address that names the
server, behind the user. -/
def hostAndPort (s : List Char) : List Char × List Char :=
  let server := ((s.reverse.takeWhile (· != '@')).reverse)
  match server with
  | '[' :: _ =>
    let inside := server.takeWhile (· != ']')
    match server.dropWhile (· != ']') with
    | ']' :: ':' :: port => (inside ++ [']'], port)
    | ']' :: [] => (inside ++ [']'], [])
    | rest => (inside ++ rest, [])
  | _ =>
    (server.takeWhile (· != ':'), (server.dropWhile (· != ':')).drop 1)

/-- Whether a request can be sent to an address. -/
def isAddress (url : String) : Bool :=
  let isBlank (c : Char) : Bool := c.toNat ≤ 0x20
  let trimmed := ((url.toList.dropWhile isBlank).reverse.dropWhile
    isBlank).reverse
  let s := trimmed.filter fun c => c != '\t' && c != '\n' && c != '\r'
  match afterScheme? s with
  | none => false
  | some rest =>
    let rest := rest.dropWhile fun c => c == '/' || c == '\\'
    let server := rest.takeWhile fun c =>
      !(c == '/' || c == '\\' || c == '?' || c == '#')
    let (host, port) := hostAndPort server
    isHost host && isPort port

/-- Whether a request can be made: it goes to an address, and what it
carries is a header value. -/
def Request.isSendable (r : Request) : Bool :=
  isAddress r.url && r.authorization.all isHeaderValue

end FluxComposer.Http
