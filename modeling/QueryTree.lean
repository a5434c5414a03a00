import QueryTree.CommandLine.Command
import QueryTree.CommandLine.Option
import QueryTree.CommandLine.Similar
import QueryTree.Config.Basic
import QueryTree.Config.Load
import QueryTree.Config.Save
import QueryTree.Files.Disk
import QueryTree.Files.Path
import QueryTree.Main
import QueryTree.Markup.Render
import QueryTree.Markup.Tag
import QueryTree.Normalizer
import QueryTree.Pattern.CharTest
import QueryTree.Pattern.Compile
import QueryTree.Pattern.Error
import QueryTree.Pattern.Item
import QueryTree.Pattern.Reader
import QueryTree.Pattern.Regex
import QueryTree.Pattern.Strip
import QueryTree.Pattern.Token
import QueryTree.Proofs.Adjacent
import QueryTree.Proofs.Alternatives
import QueryTree.Proofs.Composition
import QueryTree.Proofs.ConfigLoading
import QueryTree.Proofs.Conservation
import QueryTree.Proofs.Disk
import QueryTree.Proofs.Failing
import QueryTree.Proofs.Hex
import QueryTree.Proofs.Image
import QueryTree.Proofs.InitConfig
import QueryTree.Proofs.Items
import QueryTree.Proofs.JsonReading
import QueryTree.Proofs.Keeping
import QueryTree.Proofs.MarkupTags
import QueryTree.Proofs.NormalForm
import QueryTree.Proofs.ParseCommand
import QueryTree.Proofs.Reading
import QueryTree.Proofs.Repertoire
import QueryTree.Proofs.RoundTrip
import QueryTree.Proofs.SavedConfig
import QueryTree.Proofs.SelfDelimiting
import QueryTree.Proofs.Shown
import QueryTree.Proofs.Splitting
import QueryTree.Proofs.Switches
import QueryTree.Proofs.Text
import QueryTree.Proofs.TomlSections
import QueryTree.Proofs.TomlString
import QueryTree.Proofs.Tree
import QueryTree.Proofs.TreeLabels
import QueryTree.Proofs.Verbatim
import QueryTree.Query.Describe
import QueryTree.Query.Json
import QueryTree.Query.Node
import QueryTree.Query.Parser
import QueryTree.Query.Printer
import QueryTree.Query.Scan
import QueryTree.Query.Terms
import QueryTree.Query.Trace
import QueryTree.Session.Basic
import QueryTree.Session.InitConfig
import QueryTree.Session.Parse
import QueryTree.Session.Run
import QueryTree.Terminal
import QueryTree.Text.Basic
import QueryTree.Text.Blank
import QueryTree.Text.CellWidth
import QueryTree.Text.CodeClass
import QueryTree.Text.Letter
import QueryTree.Text.LowerCase
import QueryTree.Text.LowerCase.Table
import QueryTree.Text.Offset
import QueryTree.Text.Printable
import QueryTree.Text.Quoted
import QueryTree.Text.Utf8
import QueryTree.Toml.Document
import QueryTree.Toml.Error
import QueryTree.Toml.Parser
import QueryTree.Toml.Printer
import QueryTree.Toml.Scalar
import QueryTree.Toml.Value
import QueryTree.TreeView.Layout
import QueryTree.TreeView.Outline
import QueryTree.TreeView.Wrap
import QueryTree.Proofs.Description
import QueryTree.Proofs.Normalizers
import QueryTree.Proofs.Offsets
import QueryTree.Proofs.Searches
import QueryTree.Proofs.Tiling
import QueryTree.Proofs.GroupBounds
import QueryTree.Proofs.Account
import QueryTree.Proofs.Matching
import QueryTree.Proofs.LowerCase
import QueryTree.Proofs.Stripping
import QueryTree.Proofs.Words
import QueryTree.Proofs.IndexTerms
