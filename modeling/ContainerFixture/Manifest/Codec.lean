import ContainerFixture.Manifest
import ContainerFixture.Params.Codec

/-!
# Manifests in documents

Manifests are read from TOML and from JSON. The records of a manifest refuse keys that they do not
know, except for the actions, which ignore them.
-/
namespace ContainerFixture

open Document Text

namespace PortEntry

def shape : Shape :=
  ⟨"struct PortEntry",
    [field "container" .word16, field "protocol" Protocol.decode,
      field "host" (.optional .word16)], true⟩

def encode (entry : PortEntry) : Value :=
  .table [("container", .natural entry.container.toNat), ("protocol", entry.protocol.encode),
    ("host", .ofOption (fun host => .natural host.toNat) entry.host)]

/-- Reads a port; the protocol is TCP unless it is given. -/
def decode : Decoder PortEntry := fun d v => do
  let slots ← shape.slots d v
  return {
    container := ← slots.required "container" .word16 d
    protocol := ← slots.withDefault "protocol" Protocol.decode .tcp d
    host := ← slots.withDefault "host" (.optional .word16) none d }

end PortEntry

namespace MountEntry

def shape : Shape :=
  ⟨"struct MountEntry",
    [field "host" .path, field "container" .text, field "read_only" .flag], true⟩

def encode (entry : MountEntry) : Value :=
  .table [("host", .text entry.host), ("container", .text entry.container),
    ("read_only", .flag entry.readOnly)]

/-- Reads a mount; the container may write unless it is said otherwise. -/
def decode : Decoder MountEntry := fun d v => do
  let slots ← shape.slots d v
  return {
    host := ← slots.required "host" .path d
    container := ← slots.required "container" .text d
    readOnly := ← slots.withDefault "read_only" .flag false d }

end MountEntry

namespace ContainerSection

def shape : Shape :=
  ⟨"struct ContainerSection",
    [field "image" .text, field "name" (.optional .text), field "command" (.listOf .text),
      field "command_type" CommandType.decode, field "disable_auto_remove" .flag,
      field "stop_timeout_secs" (.optional .word64), field "tmpfs" (.listOf .text),
      field "env" .textMap, field "labels" .textMap, field "ports" (.listOf PortEntry.decode),
      field "mounts" (.listOf MountEntry.decode)], true⟩

def encode (container : ContainerSection) : Value :=
  .table [("image", .text container.image), ("name", .ofOption .text container.name),
    ("command", .texts container.command), ("command_type", container.commandType.encode),
    ("disable_auto_remove", .flag container.disableAutoRemove),
    ("stop_timeout_secs", .ofOption (fun n => .natural n.toNat) container.stopTimeout),
    ("tmpfs", .texts container.tmpfs), ("env", container.env.encode),
    ("labels", container.labels.encode),
    ("ports", .list (container.ports.map PortEntry.encode)),
    ("mounts", .list (container.mounts.map MountEntry.encode))]

/-- Reads a container; only the image has to be given. -/
def decode : Decoder ContainerSection := fun d v => do
  let slots ← shape.slots d v
  return {
    image := ← slots.required "image" .text d
    name := ← slots.withDefault "name" (.optional .text) none d
    command := ← slots.withDefault "command" (.listOf .text) [] d
    commandType := ← slots.withDefault "command_type" CommandType.decode .blocking d
    disableAutoRemove := ← slots.withDefault "disable_auto_remove" .flag false d
    stopTimeout := ← slots.withDefault "stop_timeout_secs" (.optional .word64) none d
    tmpfs := ← slots.withDefault "tmpfs" (.listOf .text) [] d
    env := ← slots.withDefault "env" .textMap .empty d
    labels := ← slots.withDefault "labels" .textMap .empty d
    ports := ← slots.withDefault "ports" (.listOf PortEntry.decode) [] d
    mounts := ← slots.withDefault "mounts" (.listOf MountEntry.decode) [] d }

end ContainerSection

def actionKey : String := "action"

namespace PreStartAction

def copyShape : Shape :=
  ⟨"struct variant PreStartAction::Copy", [field "local" .path, field "remote" .text], false⟩

def encode : PreStartAction → Value
  | copy hostPath remote =>
    .table [(actionKey, .text "copy"), ("local", .text hostPath), ("remote", .text remote)]

def decodeCopy (v : Value) : Except Misfit PreStartAction := do
  let slots ← copyShape.slots .buffered v
  return .copy (← slots.required "local" .path .buffered)
    (← slots.required "remote" .text .buffered)

def decode : Decoder PreStartAction :=
  Tagged.decode ⟨"internally tagged enum PreStartAction", actionKey, [("copy", decodeCopy)]⟩

end PreStartAction

namespace PostStartAction

def awaitLogShape : Shape :=
  ⟨"struct variant PostStartAction::AwaitLog",
    [field "pattern" .text, field "stream" LogStream.decode, field "timeout_secs" .word64], false⟩

def execShape : Shape :=
  ⟨"struct variant PostStartAction::Exec",
    [field "command" (.listOf .text), field "env" .textMap], false⟩

def copyOutShape : Shape :=
  ⟨"struct variant PostStartAction::CopyOut", [field "remote" .text, field "local" .path], false⟩

def encode : PostStartAction → Value
  | awaitLog pattern stream timeout =>
    .table [(actionKey, .text "await-log"), ("pattern", .text pattern),
      ("stream", stream.encode), ("timeout_secs", .natural timeout.toNat)]
  | exec command env =>
    .table [(actionKey, .text "exec"), ("command", .texts command), ("env", env.encode)]
  | copyOut remote hostPath =>
    .table [(actionKey, .text "copy-out"), ("remote", .text remote), ("local", .text hostPath)]

def decodeAwaitLog (v : Value) : Except Misfit PostStartAction := do
  let slots ← awaitLogShape.slots .buffered v
  return .awaitLog (← slots.required "pattern" .text .buffered)
    (← slots.withDefault "stream" LogStream.decode .stdout .buffered)
    (← slots.withDefault "timeout_secs" .word64 Manifest.defaultAwaitTimeout .buffered)

def decodeExec (v : Value) : Except Misfit PostStartAction := do
  let slots ← execShape.slots .buffered v
  return .exec (← slots.required "command" (.listOf .text) .buffered)
    (← slots.withDefault "env" .textMap .empty .buffered)

def decodeCopyOut (v : Value) : Except Misfit PostStartAction := do
  let slots ← copyOutShape.slots .buffered v
  return .copyOut (← slots.required "remote" .text .buffered)
    (← slots.required "local" .path .buffered)

def decode : Decoder PostStartAction :=
  Tagged.decode ⟨"internally tagged enum PostStartAction", actionKey,
    [("await-log", decodeAwaitLog), ("exec", decodeExec), ("copy-out", decodeCopyOut)]⟩

end PostStartAction

namespace Manifest

def shape : Shape :=
  ⟨"struct ManifestV1",
    [field "manifest_version" .word32, field "container" ContainerSection.decode,
      field "pre_start" (.listOf PreStartAction.decode),
      field "post_start" (.listOf PostStartAction.decode)], true⟩

def encode (manifest : Manifest) : Value :=
  .table [("manifest_version", .natural manifest.version.toNat),
    ("container", manifest.container.encode),
    ("pre_start", .list (manifest.preStart.map PreStartAction.encode)),
    ("post_start", .list (manifest.postStart.map PostStartAction.encode))]

def decode : Decoder Manifest := fun d v => do
  let slots ← shape.slots d v
  return {
    version := ← slots.required "manifest_version" .word32 d
    container := ← slots.required "container" ContainerSection.decode d
    preStart := ← slots.withDefault "pre_start" (.listOf PreStartAction.decode) [] d
    postStart := ← slots.withDefault "post_start" (.listOf PostStartAction.decode) [] d }

end Manifest

def ResolvedManifest.encode (manifest : ResolvedManifest) : Value :=
  .table [("params", manifest.params.encode),
    ("pre_start", .list (manifest.preStart.map PreStartAction.encode)),
    ("post_start", .list (manifest.postStart.map PostStartAction.encode))]

end ContainerFixture
