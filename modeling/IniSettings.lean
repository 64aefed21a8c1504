import IniSettings.Document.Grammar
import IniSettings.Main
import IniSettings.Proofs.Command.Checking
import IniSettings.Proofs.Command.Numbers
import IniSettings.Proofs.Command.SetGet
import IniSettings.Proofs.Document.ByteRefinement
import IniSettings.Proofs.Document.EditHistory
import IniSettings.Proofs.Document.Padding
import IniSettings.Proofs.Document.Recovery
import IniSettings.Proofs.Field.Name
import IniSettings.Proofs.Field.Truncation
import IniSettings.Proofs.Field.Wire
import IniSettings.Proofs.Manager.Carrying
import IniSettings.Proofs.Manager.Confinement
import IniSettings.Proofs.Manager.Reboxing
import IniSettings.Proofs.Manager.Session
import IniSettings.Proofs.Manager.SharedKeys
import IniSettings.Proofs.Manager.Unboxing
import IniSettings.Proofs.Saving.Streaming
import IniSettings.Proofs.Saving.Truncate
import IniSettings.Proofs.Settings.History
import IniSettings.Proofs.Storage.Temporary
import IniSettings.Storage.Buffer
import IniSettings.Storage.Memory
import IniSettings.Storage.Tree
