import ContainerFixture.Params
import ContainerFixture.Port.Codec

/-!
# Container parameters in documents
-/
namespace ContainerFixture

open Document Text

namespace CommandType

def variants : List (String × CommandType) :=
  [("blocking", .blocking), ("exiting-immediately", .exitingImmediately)]

def encode (commandType : CommandType) : Value := .text commandType.text

def decode : Decoder CommandType := Decoder.variant variants

end CommandType

namespace LogStream

def variants : List (String × LogStream) := [("stdout", .stdout), ("stderr", .stderr)]

def encode (stream : LogStream) : Value := .text stream.text

def decode : Decoder LogStream := Decoder.variant variants

end LogStream

namespace AccessMode

def variants : List (String × AccessMode) :=
  [("read-only", .readOnly), ("read-write", .readWrite)]

def encode (mode : AccessMode) : Value := .text mode.text

def decode : Decoder AccessMode := Decoder.variant variants

end AccessMode

namespace BindMount

def shape : Shape :=
  ⟨"struct BindMount",
    [field "host_dir" .path, field "container_dir" .text, field "mode" AccessMode.decode], false⟩

def encode (mount : BindMount) : Value :=
  .table [("host_dir", .text mount.hostDir), ("container_dir", .text mount.containerDir),
    ("mode", mount.mode.encode)]

def decode : Decoder BindMount := fun d v => do
  let slots ← shape.slots d v
  return {
    hostDir := ← slots.required "host_dir" .path d
    containerDir := ← slots.required "container_dir" .text d
    mode := ← slots.required "mode" AccessMode.decode d }

end BindMount

namespace PortSpec

def shape : Shape :=
  ⟨"struct PortSpec",
    [field "container_port" .word16, field "protocol" Protocol.decode,
      field "host_port" (.optional .word16)], false⟩

def encode (port : PortSpec) : Value :=
  .table [("container_port", .natural port.containerPort.toNat),
    ("protocol", port.protocol.encode),
    ("host_port", .ofOption (fun host => .natural host.toNat) port.hostPort)]

def decode : Decoder PortSpec := fun d v => do
  let slots ← shape.slots d v
  return {
    containerPort := ← slots.required "container_port" .word16 d
    protocol := ← slots.required "protocol" Protocol.decode d
    hostPort := ← slots.nullable "host_port" .word16 d }

end PortSpec

def Text.TextMap.encode (map : TextMap) : Value :=
  .table (map.entries.map fun entry => (entry.1, .text entry.2))

namespace Params

def shape : Shape :=
  ⟨"struct ContainerParams",
    [field "image" .image, field "name" (.optional .text), field "command" (.listOf .text),
      field "command_type" CommandType.decode, field "ports" (.listOf PortSpec.decode),
      field "env" .textMap, field "bind_mounts" (.listOf BindMount.decode),
      field "tmpfs" (.listOf .text), field "labels" .textMap, field "disable_auto_remove" .flag,
      field "stop_timeout_secs" .word64], false⟩

def encode (params : Params) : Value :=
  .table [("image", .text params.image.text), ("name", .ofOption .text params.name),
    ("command", .texts params.command), ("command_type", params.commandType.encode),
    ("ports", .list (params.ports.map PortSpec.encode)), ("env", params.env.encode),
    ("bind_mounts", .list (params.bindMounts.map BindMount.encode)),
    ("tmpfs", .texts params.tmpfs), ("labels", params.labels.encode),
    ("disable_auto_remove", .flag params.disableAutoRemove),
    ("stop_timeout_secs", .natural params.stopTimeout.toNat)]

def decode : Decoder Params := fun d v => do
  let slots ← shape.slots d v
  return {
    image := ← slots.required "image" .image d
    name := ← slots.nullable "name" .text d
    command := ← slots.required "command" (.listOf .text) d
    commandType := ← slots.required "command_type" CommandType.decode d
    ports := ← slots.required "ports" (.listOf PortSpec.decode) d
    env := ← slots.required "env" .textMap d
    bindMounts := ← slots.required "bind_mounts" (.listOf BindMount.decode) d
    tmpfs := ← slots.required "tmpfs" (.listOf .text) d
    labels := ← slots.required "labels" .textMap d
    disableAutoRemove := ← slots.required "disable_auto_remove" .flag d
    stopTimeout := ← slots.required "stop_timeout_secs" .word64 d }

end Params

end ContainerFixture
