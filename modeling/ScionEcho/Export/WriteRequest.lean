import ScionEcho.Numeral.Natural
import ScionEcho.Text.Hex
import ScionEcho.Text.Split

/-!
# Write requests

The request that hands one line to a time series database, as text of the hypertext transfer
protocol.
-/

namespace ScionEcho

open Text

/-- Where a database listens. -/
structure Server where
  host : String
  port : Int
  path : String
  deriving DecidableEq, Repr

/-- The port of a database whose address names none. -/
def Server.defaultPort : Int := 80

/-- Reads the address of a server: `http://`, a host, and optionally a port and a path. -/
def Server.ofUrl? (url : String) : Option Server :=
  match url.toList with
  | 'h' :: 't' :: 't' :: 'p' :: ':' :: '/' :: '/' :: rest =>
    let authority := rest.takeWhile (· ≠ '/')
    let path := String.ofList (rest.dropWhile (· ≠ '/'))
    match cut ':' authority with
    | (host, none) => some ⟨String.ofList host, defaultPort, path⟩
    | (host, some port) => (Numeral.readInt? port).map (⟨String.ofList host, ·, path⟩)
  | _ => none

/-- Whether a byte stands for itself in the query of a request. -/
def isPlainByte (b : UInt8) : Bool :=
  let c := Char.ofNat b.toNat
  b < 128 && (c.isAlphanum || c = '-' || c = '_' || c = '.' || c = '~')

/-- A text as the value of a query parameter. -/
def queryText (text : String) : String :=
  String.ofList (text.toUTF8.toList.flatMap fun b =>
    if isPlainByte b then [Char.ofNat b.toNat] else '%' :: hexPadded 2 b.toNat)

def Server.writeRequest (s : Server) (token organization bucket line : String) : String :=
  let base := String.ofList (s.path.toList.reverse.dropWhile (· = '/')).reverse
  let query := s!"org={queryText organization}&bucket={queryText bucket}&precision=ns"
  "\r\n".intercalate [
    s!"POST {base}/api/v2/write?{query} HTTP/1.1",
    s!"Host: {s.host}:{s.port}",
    s!"Authorization: Token {token}",
    "Content-Type: text/plain; charset=utf-8",
    s!"Content-Length: {line.utf8ByteSize}",
    "Connection: close",
    "",
    line]

/-- The status of a response; nothing if it is none. -/
def statusOf? (response : String) : Option Int :=
  match splitOn ' ' (response.toList.takeWhile (· ≠ '\r')) with
  | _ :: status :: _ => Numeral.readInt? status
  | _ => none

end ScionEcho
