import ResolverChoice.About
import ResolverChoice.ErrorLog
import ResolverChoice.Proofs.MachineFrame
import ResolverChoice.Proofs.SourceOutcome
import ResolverChoice.Proofs.SourceWalk
import ResolverChoice.Proofs.TableLookup
import ResolverChoice.Session
import ResolverChoice.Switch.Outcome
import ResolverChoice.Switch.Writing
import ResolverChoice.Proofs.HostRoute
import ResolverChoice.Proofs.FallbackRoute
import ResolverChoice.Proofs.NativeReason
import ResolverChoice.Proofs.NeutralCriteria
import ResolverChoice.Proofs.ReadableNumber
import ResolverChoice.Proofs.SettingsFault
import ResolverChoice.Proofs.BuildFault
import ResolverChoice.Proofs.CacheStaleness
import ResolverChoice.Proofs.CacheWindow
import ResolverChoice.Proofs.TableConcatenation
import ResolverChoice.Proofs.TableRoundTrip
import ResolverChoice.Proofs.BuildFrame
import ResolverChoice.Proofs.ModeOverride
import ResolverChoice.Proofs.CacheAgreement
import ResolverChoice.Proofs.IdleLine
import ResolverChoice.Proofs.ProfileCourse
import ResolverChoice.Proofs.ProfileHistory
import ResolverChoice.Proofs.TextCuts
import ResolverChoice.Proofs.SourceSyntax
import ResolverChoice.Proofs.TableCut
import ResolverChoice.Proofs.NameSpelling
import ResolverChoice.Proofs.OwnName
import ResolverChoice.Proofs.SettingsOrder
import ResolverChoice.Proofs.RefusedOption
import ResolverChoice.Proofs.ModeSetting
import ResolverChoice.Proofs.LookupEffect
import ResolverChoice.Proofs.TableForm
import ResolverChoice.Proofs.NameLabels
