import ResourceSymbols.Bytes
import ResourceSymbols.Path
import ResourceSymbols.Failure
import ResourceSymbols.Unicode.Utf8
import ResourceSymbols.Unicode.Space
import ResourceSymbols.Unicode.Letter
import ResourceSymbols.Unicode.Digit
import ResourceSymbols.Unicode.Case
import ResourceSymbols.Unicode.Printable
import ResourceSymbols.Text.Quote
import ResourceSymbols.Text.Natural
import ResourceSymbols.Text.Printf
import ResourceSymbols.Text.Outline
import ResourceSymbols.Text.Base64
import ResourceSymbols.Symbol.Basic
import ResourceSymbols.Symbol.Error
import ResourceSymbols.Table.Basic
import ResourceSymbols.Table.Text
import ResourceSymbols.Table.Java
import ResourceSymbols.Table.Dump
import ResourceSymbols.Java.Name
import ResourceSymbols.Zip.Crc32
import ResourceSymbols.Zip.Inflate
import ResourceSymbols.Zip.Archive
import ResourceSymbols.Archive.Walk
import ResourceSymbols.Files.Node
import ResourceSymbols.Files.Host
import ResourceSymbols.Files.Memory
import ResourceSymbols.Files.Disk
import ResourceSymbols.Yaml.Token
import ResourceSymbols.Yaml.Input
import ResourceSymbols.Yaml.Scanner
import ResourceSymbols.Yaml.Number
import ResourceSymbols.Yaml.Time
import ResourceSymbols.Yaml.Node
import ResourceSymbols.Yaml.Parser
import ResourceSymbols.Yaml.Decode
import ResourceSymbols.Yaml.Emit
import ResourceSymbols.Config.Basic
import ResourceSymbols.Config.Yaml
import ResourceSymbols.Config.Check
import ResourceSymbols.Xml.Name
import ResourceSymbols.Xml.Token
import ResourceSymbols.Xml.Document
import ResourceSymbols.Charset.Tables
import ResourceSymbols.Charset.Jis
import ResourceSymbols.Charset.JisX0212
import ResourceSymbols.Charset.Gbk
import ResourceSymbols.Charset.Big5
import ResourceSymbols.Charset.EucKr
import ResourceSymbols.Charset.Multibyte
import ResourceSymbols.Charset.Decode
import ResourceSymbols.Charset.Registry
import ResourceSymbols.Log.Entry
import ResourceSymbols.Log.Line
import ResourceSymbols.Text.Clock
import ResourceSymbols.Manifest
import ResourceSymbols.Files.Replace
import ResourceSymbols.Compile.Sources
import ResourceSymbols.Compile.Command
import ResourceSymbols.Zip.Deflate.Lengths
import ResourceSymbols.Zip.Deflate.Repeats
import ResourceSymbols.Zip.Deflate.Encode
import ResourceSymbols.Zip.Writer
import ResourceSymbols.Files.Temp
import ResourceSymbols.Files.Buffer
import ResourceSymbols.Report
import ResourceSymbols.Log.Sink
import ResourceSymbols.Command.Line
import ResourceSymbols.Command.Help
import ResourceSymbols.Program.Commands
import ResourceSymbols.Program.Session
import ResourceSymbols.Program.Run
import ResourceSymbols.Main
import ResourceSymbols.Proofs.Builder
import ResourceSymbols.Proofs.Segments
import ResourceSymbols.Proofs.Fields
import ResourceSymbols.Proofs.Grammar
import ResourceSymbols.Proofs.Reading
import ResourceSymbols.Proofs.RoundTrip
import ResourceSymbols.Proofs.Paths
import ResourceSymbols.Proofs.Hoare
import ResourceSymbols.Proofs.Watch
import ResourceSymbols.Proofs.RunLogic
import ResourceSymbols.Proofs.Outputs
import ResourceSymbols.Proofs.Inputs
import ResourceSymbols.Proofs.SessionJournal
import ResourceSymbols.Proofs.Confinement
import ResourceSymbols.Proofs.Kept
import ResourceSymbols.Proofs.Reload
import ResourceSymbols.Proofs.Plan
import ResourceSymbols.Proofs.AtomicWrite
import ResourceSymbols.Proofs.Writes
import ResourceSymbols.Proofs.Views
import ResourceSymbols.Proofs.Compiled
import ResourceSymbols.Proofs.SourceOrder
import ResourceSymbols.Proofs.DumpOrder
import ResourceSymbols.Proofs.ArchiveSource
import ResourceSymbols.Proofs.ArchiveWalk
import ResourceSymbols.Proofs.SourceSearch
import ResourceSymbols.Proofs.ArchiveSelection
import ResourceSymbols.Proofs.ReportItems
import ResourceSymbols.Proofs.DiskAppend
import ResourceSymbols.Proofs.ReportBuffer
import ResourceSymbols.Proofs.ReportArchive
import ResourceSymbols.Proofs.OutputPaths
import ResourceSymbols.Proofs.TableViews
import ResourceSymbols.Proofs.Modifiers
