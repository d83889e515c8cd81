import Switchboard.Call.Debug
import Switchboard.Call.DefinitionFile
import Switchboard.Device.Debug
import Switchboard.Main
import Switchboard.Proofs.Argument
import Switchboard.Proofs.LedDispatch
import Switchboard.Proofs.Installation
import Switchboard.Proofs.Traceless
import Switchboard.Proofs.Isolation
import Switchboard.Proofs.Provenance
import Switchboard.Proofs.AcceptedImage
import Switchboard.Proofs.SetupOrder
import Switchboard.Proofs.LastWrite
import Switchboard.Proofs.Parity
import Switchboard.Proofs.ReadYourWrite
import Switchboard.Proofs.CommandCall
import Switchboard.Proofs.CapabilityCall
import Switchboard.Proofs.GeneratedTable
import Switchboard.Proofs.Bystander
import Switchboard.Proofs.BoardGrowth
import Switchboard.Proofs.Identity
import Switchboard.Proofs.RefusedImage
import Switchboard.Proofs.PackedSetting
import Switchboard.Proofs.Counting
import Switchboard.Proofs.Verbosity
import Switchboard.Proofs.RawLookup
import Switchboard.Proofs.Census
import Switchboard.Proofs.BoardOrder
import Switchboard.Proofs.Commuting
import Switchboard.Proofs.NumeralText
import Switchboard.Proofs.FirstFault
import Switchboard.Proofs.TokenSpelling
import Switchboard.Proofs.ValueSpelling
import Switchboard.Proofs.DefinitionSpelling
import Switchboard.Proofs.Renaming
import Switchboard.Proofs.Equipment
import Switchboard.Proofs.Restoring
import Switchboard.Proofs.CapabilityMiss
import Switchboard.Proofs.SettingWord
import Switchboard.Proofs.Filing
import Switchboard.Proofs.FilingLine
import Switchboard.Proofs.RegistryLog
