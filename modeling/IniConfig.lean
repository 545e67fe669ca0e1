import IniConfig.Block
import IniConfig.Plain
import IniConfig.Proofs.Blocks
import IniConfig.Proofs.LineForms
import IniConfig.Proofs.EndedLines
import IniConfig.Proofs.EntryLines
import IniConfig.Proofs.ReadDocuments
import IniConfig.Proofs.RoundTrip
import IniConfig.Proofs.TwoForms
import IniConfig.Proofs.Snapshots
import IniConfig.Proofs.JoinedTexts
import IniConfig.Proofs.LineEnds
import IniConfig.Proofs.LosslessLines
import IniConfig.Proofs.Noise
import IniConfig.Proofs.NameOrder
import IniConfig.Proofs.BareLines
import IniConfig.Proofs.LineByLine
import IniConfig.Proofs.Selection
import IniConfig.Proofs.Failures
import IniConfig.Proofs.Continuation
import IniConfig.Proofs.Refusals
import IniConfig.Proofs.Requests
import IniConfig.Proofs.SectionOrder
import IniConfig.Proofs.Histories
import IniConfig.Proofs.HiddenContent
import IniConfig.Proofs.Charsets
import IniConfig.Proofs.ByteOrderMarks
import IniConfig.Proofs.SavedFiles
import IniConfig.Proofs.MisreadFiles
import IniConfig.Proofs.ChangeOrder
import IniConfig.Grammar
import IniConfig.Proofs.LineGrammar
import IniConfig.Proofs.SeparatedLists
import IniConfig.Proofs.StoredValues
import IniConfig.Proofs.ErasedEntries
import IniConfig.Proofs.EnteredSections
