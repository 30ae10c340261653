import WinBoot.Interaction
import WinBoot.Monitor
import WinBoot.KernelCalls
import WinBoot.PciScan
import WinBoot.PciHost
import WinBoot.ConfigSpace
import WinBoot.ConfigStorage
import WinBoot.SavedControls
import WinBoot.GuardRules
import WinBoot.ScanRuns
import WinBoot.WriteGuard
import WinBoot.PongoUpload
import WinBoot.AtomicFile
import WinBoot.SnapshotStore
import WinBoot.ConfigRestore
import WinBoot.PowerDomains
import WinBoot.PciePhy
import WinBoot.MsiDomain
import WinBoot.DartLifetime
import WinBoot.RadioPulse
import WinBoot.EndpointProbe
import WinBoot.Nesting
import WinBoot.LayerLifetimes
import WinBoot.ParentLifetimes
import WinBoot.RadioLifetimes
import WinBoot.HostLifetimes
import WinBoot.ProbeLifetimes
import WinBoot.PaddedField
import WinBoot.PathSegments
import WinBoot.RamEnvelope
import WinBoot.TarAgreement
import WinBoot.AdtParser
import WinBoot.AdtReport
import WinBoot.AdtRoundTrip
import WinBoot.BootGate
import WinBoot.BootGateRuns
import WinBoot.DevelopmentBundle
import WinBoot.MsiAllocator
import WinBoot.RamPreflight
import WinBoot.Userland
import WinBoot.RamScripts
import WinBoot.StateLock
import WinBoot.FileTree
import WinBoot.RestoreRollback
import WinBoot.UploadArguments
import WinBoot.DomainRuns
import WinBoot.PhyRollback
import WinBoot.EndpointCalls
import WinBoot.RadioReset
import WinBoot.ChipRollback
import WinBoot.AlpineVersion
import WinBoot.ConstrainedAtoms
import WinBoot.NewestProvider
import WinBoot.PackageLock
import WinBoot.InstallRollback
import WinBoot.Transitions
import WinBoot.WifiSession
import WinBoot.WifiTeardown
import WinBoot.ChainSearch
import WinBoot.ControlPlaces
import WinBoot.UploadBound
import WinBoot.ArchiveTree
import WinBoot.RestoreEffect
import WinBoot.RestoreSpace
import WinBoot.InstallSpace
import WinBoot.UserlandPublication
import WinBoot.BundleArchive
import WinBoot.WifiListener
import WinBoot.CapabilityWalk
import WinBoot.DartTcr
import WinBoot.EcidGate
import WinBoot.PackageIndex
import WinBoot.Interleaving
import WinBoot.BoundedProcess
import WinBoot.ResourceLedger
import WinBoot.KernelLedger
import WinBoot.WindowResources
import WinBoot.ScanResources
import WinBoot.ProbeResources
import WinBoot.DomainResources
import WinBoot.FirmwareFence
import WinBoot.SnapshotCycle
import WinBoot.HoldSession
import WinBoot.WifiProfile
import WinBoot.Pipe
import WinBoot.SshDownload
import WinBoot.WriteHistory
import WinBoot.SshUpload
import WinBoot.CodexState
import WinBoot.RuntimeStaging
import WinBoot.CodexRuntime
import WinBoot.Embedding
import WinBoot.UsbSession
import WinBoot.UploadReport
import WinBoot.LineSearch
import WinBoot.SerialHostKey
