import LuaBytecode.Bytes
import LuaBytecode.Text.CodeRange
import LuaBytecode.Text.Printable
import LuaBytecode.Text.Quoted
import LuaBytecode.Text.Utf8
import LuaBytecode.Text.Utf16
import LuaBytecode.Text.Encoding.Failure
import LuaBytecode.Text.Encoding.Name
import LuaBytecode.Text.Encoding.Unicode
import LuaBytecode.Text.Encoding.Escaped
import LuaBytecode.Text.Encoding.Punycode
import LuaBytecode.Text.NormalForm.CombiningClass
import LuaBytecode.Text.NormalForm.Composite
import LuaBytecode.Text.NormalForm.Equivalent
import LuaBytecode.Text.NormalForm.Basic
import LuaBytecode.Text.SmallLetter
import LuaBytecode.Text.Direction
import LuaBytecode.Text.Encoding.DomainName
import LuaBytecode.Text.CodePage.Basic
import LuaBytecode.Text.CodePage.Dos
import LuaBytecode.Text.CodePage.Windows
import LuaBytecode.Text.CodePage.Iso
import LuaBytecode.Text.CodePage.Mac
import LuaBytecode.Text.CodePage.Ebcdic
import LuaBytecode.Text.CodePage.Unix
import LuaBytecode.Text.EastAsian.Cells
import LuaBytecode.Text.EastAsian.JisX0208
import LuaBytecode.Text.EastAsian.JisX0212
import LuaBytecode.Text.EastAsian.JisX0213
import LuaBytecode.Text.EastAsian.Windows31J
import LuaBytecode.Text.EastAsian.KsX1001
import LuaBytecode.Text.EastAsian.Gb2312
import LuaBytecode.Text.EastAsian.Big5
import LuaBytecode.Text.EastAsian.Hkscs
import LuaBytecode.Text.EastAsian.Japanese
import LuaBytecode.Text.EastAsian.Korean
import LuaBytecode.Text.EastAsian.Chinese
import LuaBytecode.Text.EastAsian.Basic
import LuaBytecode.Text.Encoding.Basic
import LuaBytecode.Text.Numeral
import LuaBytecode.Text.Blob
import LuaBytecode.BitField
import LuaBytecode.Double.Basic
import LuaBytecode.Double.Decimal
import LuaBytecode.Json.Basic
import LuaBytecode.Header.Basic
import LuaBytecode.Failure
import LuaBytecode.Log.Basic
import LuaBytecode.Log.Event
import LuaBytecode.Reader
import LuaBytecode.Header.Reader
import LuaBytecode.Number
import LuaBytecode.Constant
import LuaBytecode.Instruction.Opcode
import LuaBytecode.Instruction.Basic
import LuaBytecode.Options
import LuaBytecode.Prototype.Basic
import LuaBytecode.Prototype.Reader
import LuaBytecode.DecodedFile
import LuaBytecode.Json.Document
import LuaBytecode.Listing
import LuaBytecode.Path
import LuaBytecode.Store.Basic
import LuaBytecode.Store.Write
import LuaBytecode.Compilation
import LuaBytecode.CommandLine.Basic
import LuaBytecode.CommandLine.Help
import LuaBytecode.Program
import LuaBytecode.Main
import LuaBytecode.Proofs.Results
import LuaBytecode.Proofs.StoredInteger
import LuaBytecode.Proofs.Reading
import LuaBytecode.Proofs.Format
import LuaBytecode.Proofs.HeaderFormat
import LuaBytecode.Proofs.StoredFunction.Basic
import LuaBytecode.Proofs.StoredFunction.Reader
import LuaBytecode.Proofs.StoredFunction.Place
import LuaBytecode.Proofs.StoredFile
import LuaBytecode.Proofs.ParseTree
import LuaBytecode.Proofs.DoubleExact
import LuaBytecode.Proofs.Blueprint
import LuaBytecode.Proofs.ReaderCall
import LuaBytecode.Proofs.ReaderSteps
import LuaBytecode.Proofs.Cursor
import LuaBytecode.Proofs.PartialData
import LuaBytecode.Proofs.DecodeFailure
import LuaBytecode.Proofs.HeaderDefects
import LuaBytecode.Proofs.MoreData
import LuaBytecode.Proofs.DebugErasure
import LuaBytecode.Proofs.FailedReading
import LuaBytecode.Proofs.StoredFunction.Failure
import LuaBytecode.Proofs.FaultPlaces
import LuaBytecode.Proofs.Progress
import LuaBytecode.Proofs.Displacement
import LuaBytecode.Proofs.Notes
import LuaBytecode.Proofs.Extents
import LuaBytecode.Proofs.InstructionWord
import LuaBytecode.Proofs.BitSelection
import LuaBytecode.Proofs.InstructionCoding
import LuaBytecode.Proofs.ExactValue
import LuaBytecode.Proofs.DoubleDecoding
import LuaBytecode.Proofs.NumberRange
import LuaBytecode.Proofs.JsonNumber
import LuaBytecode.Proofs.JsonFaithful
import LuaBytecode.Proofs.JsonGrammar
import LuaBytecode.Proofs.JsonString
import LuaBytecode.Proofs.NumberToken
import LuaBytecode.Proofs.JsonText
import LuaBytecode.Proofs.JsonLayout
import LuaBytecode.Proofs.InstructionShapes
import LuaBytecode.Proofs.StoreFrame
import LuaBytecode.Proofs.WriteEffect
import LuaBytecode.Proofs.AtomicWrite
import LuaBytecode.Proofs.PathText
import LuaBytecode.Proofs.OutputPath
import LuaBytecode.Proofs.ListingFailure
import LuaBytecode.Proofs.DecodedListing
import LuaBytecode.Proofs.ListingBlocks
import LuaBytecode.Proofs.ProgramRun
import LuaBytecode.Proofs.RunOutcome
import LuaBytecode.Proofs.NamedSettings
import LuaBytecode.Proofs.CommandWords
import LuaBytecode.Proofs.StandardOutput
