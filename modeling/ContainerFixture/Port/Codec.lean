import ContainerFixture.Document.Decode
import ContainerFixture.Port

/-!
# Ports in documents
-/
namespace ContainerFixture

open Document

def Protocol.variants : List (String × Protocol) :=
  [("tcp", .tcp), ("udp", .udp), ("sctp", .sctp)]

namespace Protocol

def encode (protocol : Protocol) : Value := .text protocol.text

def decode : Decoder Protocol := Decoder.variant variants

end Protocol

namespace HostAddress

def shape : Shape :=
  ⟨"struct HostAddress", [field "host" .text, field "port" .word16], false⟩

def encode (address : HostAddress) : Value :=
  .table [("host", .text address.host), ("port", .natural address.port.toNat)]

def decode : Decoder HostAddress := fun d v => do
  let slots ← shape.slots d v
  return ⟨← slots.required "host" .text d, ← slots.required "port" .word16 d⟩

end HostAddress

namespace PortBinding

def shape : Shape :=
  ⟨"struct PortBinding",
    [field "container_port" .word16, field "protocol" Protocol.decode,
      field "host" (.optional HostAddress.decode)], false⟩

/-- Writes a binding; the host is left out when the port is not published. -/
def encode (binding : PortBinding) : Value :=
  .table ([("container_port", .natural binding.containerPort.toNat),
    ("protocol", binding.protocol.encode)] ++
    (binding.host.map fun address => ("host", address.encode)).toList)

def decode : Decoder PortBinding := fun d v => do
  let slots ← shape.slots d v
  return {
    containerPort := ← slots.required "container_port" .word16 d
    protocol := ← slots.required "protocol" Protocol.decode d
    host := ← slots.withDefault "host" (.optional HostAddress.decode) none d }

end PortBinding

end ContainerFixture
