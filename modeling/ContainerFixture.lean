import ContainerFixture.Container.Rehearsal
import ContainerFixture.ExitHook.Rehearsal
import ContainerFixture.Main
import ContainerFixture.Proofs.Lifecycle.Bracketing
import ContainerFixture.Proofs.Provider.Effects
import ContainerFixture.Proofs.Provider.Guards
import ContainerFixture.Proofs.Provider.Teardown
import ContainerFixture.Proofs.Provider.Cell
import ContainerFixture.Proofs.Provider.Stages
import ContainerFixture.Proofs.Provider.Once
import ContainerFixture.Proofs.Provider.NoLeak
import ContainerFixture.Proofs.Provider.Hooks
import ContainerFixture.Proofs.Provider.Solo
import ContainerFixture.Proofs.Provider.SafetyNet
import ContainerFixture.Proofs.Image.Derivation
import ContainerFixture.Proofs.Docker.Encoding
import ContainerFixture.Proofs.ExitHook.Accounts
import ContainerFixture.Proofs.ExitHook.Rehearsed
import ContainerFixture.Proofs.Container.Record
import ContainerFixture.Proofs.Container.Teardown
import ContainerFixture.Proofs.Container.Life
import ContainerFixture.Proofs.Container.Agreement
import ContainerFixture.Proofs.Provider.Firing
import ContainerFixture.Proofs.Container.Planned
import ContainerFixture.Proofs.Manifest.Resolution
import ContainerFixture.Proofs.Manifest.UnknownKeys
import ContainerFixture.Proofs.Container.Transitions
import ContainerFixture.Proofs.Provider.Events
import ContainerFixture.Proofs.CommandLine.Released
import ContainerFixture.Proofs.Manifest.RoundTrip
import ContainerFixture.Proofs.Docker.Reading
import ContainerFixture.Proofs.Provider.LockOrder
import ContainerFixture.Proofs.Lifecycle.Reports
import ContainerFixture.Proofs.Engine.Faithful
import ContainerFixture.Proofs.ExitHook.Deregistration
import ContainerFixture.Proofs.CommandLine.ExitStatus
import ContainerFixture.Proofs.Provider.Reported
import ContainerFixture.Proofs.Provider.Slots
import ContainerFixture.Proofs.Port.Grammar
import ContainerFixture.Proofs.Port.Spacing
import ContainerFixture.Proofs.Container.Deadline
import ContainerFixture.Proofs.Engine.Effects
import ContainerFixture.Proofs.Engine.PublishedPorts
import ContainerFixture.Proofs.Manifest.MountSources
import ContainerFixture.Proofs.CommandLine.Checkup
