import ContainerFixture.Text.Blank
import ContainerFixture.Text.Split
import ContainerFixture.Text.Numeral

/-!
# Ports

Container engines list ports as `host:port->port/protocol`, or `port/protocol` for a port that is
not published, with commas between them. `PortBinding.parse` reads one of them, `parsePortList` a
listing. Blanks around a listing's entries, around the arrow and around port numbers do not count;
inside a protocol or a host they do.
-/
namespace ContainerFixture

open Text

inductive Protocol where
  | tcp
  | udp
  | sctp
  deriving DecidableEq, Repr

/-- A port on the host, with the interface that it is bound to. -/
structure HostAddress where
  host : String
  port : UInt16
  deriving DecidableEq, Repr

/-- A port of a container and the host's address that reaches it, if it is published. -/
structure PortBinding where
  containerPort : UInt16
  protocol : Protocol
  host : Option HostAddress
  deriving DecidableEq, Repr

inductive PortError where
  | malformed (token : String)
  | invalidPort (number : String)
  | unknownProtocol (name : String)
  deriving DecidableEq, Repr

def PortError.message : PortError → String
  | .malformed token => "malformed port token '" ++ token ++ "'"
  | .invalidPort number => "invalid port number '" ++ number ++ "'"
  | .unknownProtocol name => "unknown protocol '" ++ name ++ "'"

namespace Protocol

def text : Protocol → String
  | tcp => "tcp"
  | udp => "udp"
  | sctp => "sctp"

/-- Reads a protocol's name, in lower or in upper case throughout. -/
def parse (name : String) : Except PortError Protocol :=
  if name = "tcp" ∨ name = "TCP" then .ok tcp
  else if name = "udp" ∨ name = "UDP" then .ok udp
  else if name = "sctp" ∨ name = "SCTP" then .ok sctp
  else .error (.unknownProtocol name)

end Protocol

def HostAddress.text (address : HostAddress) : String :=
  address.host ++ ":" ++ address.port.toNat.repr

namespace PortBinding

def isBound (binding : PortBinding) : Bool := binding.host.isSome

/-- The form in which engines list a binding. -/
def text (binding : PortBinding) : String :=
  (binding.host.map (·.text ++ "->")).getD "" ++ binding.containerPort.toNat.repr ++ "/" ++
    binding.protocol.text

/-- A port number; blanks around it do not count. -/
def readPort (cs : List Char) : Except PortError UInt16 :=
  match word16? (trimBlank cs) with
  | some port => .ok port
  | none => .error (.invalidPort (String.ofList cs))

/-- The side of the container: a port number, the first slash and a protocol. `token` is what an
error quotes. -/
def readContainerSide (token side : List Char) : Except PortError (UInt16 × Protocol) :=
  match atFirst '/' side with
  | none => .error (.malformed (String.ofList token))
  | some (number, protocol) => do
    let port ← readPort number
    let protocol ← Protocol.parse (String.ofList protocol)
    return (port, protocol)

/-- The side of the host: an interface, the last colon and a port number. -/
def readHostSide (token side : List Char) : Except PortError HostAddress :=
  match atLast ':' side with
  | none => .error (.malformed (String.ofList token))
  | some (host, number) => (readPort number).map fun port => ⟨String.ofList host, port⟩

/-- Reads a binding that has no blanks around it. -/
def parseTrimmed (token : List Char) : Except PortError PortBinding :=
  match (arrowPieces token).map trimBlank with
  | [container] => do
    let (port, protocol) ← readContainerSide token container
    return ⟨port, protocol, none⟩
  | [host, container] => do
    let (port, protocol) ← readContainerSide token container
    let address ← readHostSide token host
    return ⟨port, protocol, some address⟩
  | _ => .error (.malformed (String.ofList token))

/-- Reads a binding; blanks around it do not count. -/
def parse (s : String) : Except PortError PortBinding := parseTrimmed (trimBlank s.toList)

end PortBinding

/-- Reads a listing of bindings; entries that are blank do not count, and the first entry that is
no binding is the error. -/
def parsePortList (listing : String) : Except PortError (List PortBinding) :=
  (((pieces ',' listing.toList).map trimBlank).filter fun token => !token.isEmpty).mapM
    PortBinding.parseTrimmed

end ContainerFixture
