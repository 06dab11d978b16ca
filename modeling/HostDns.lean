import HostDns.Adapter.Basic
import HostDns.Adapter.Document
import HostDns.Adapter.Filter
import HostDns.Adapter.Identifier
import HostDns.Adapter.Kind
import HostDns.Adapter.NamePattern
import HostDns.Adapter.Query
import HostDns.Address.Basic
import HostDns.Address.Printer
import HostDns.Address.Reader
import HostDns.CommandLine.Basic
import HostDns.CommandLine.Reader
import HostDns.CommandLine.Switch
import HostDns.Config.Document
import HostDns.Config.Error
import HostDns.Config.Settings
import HostDns.Config.Template
import HostDns.Discovery
import HostDns.File.Basic
import HostDns.File.Tree
import HostDns.Json
import HostDns.Log
import HostDns.Main
import HostDns.NameServers
import HostDns.Native.Block
import HostDns.Native.Chain
import HostDns.Native.Layout
import HostDns.Native.Memory
import HostDns.Pattern.Basic
import HostDns.Pattern.Bracket
import HostDns.Pattern.CharSet
import HostDns.Pattern.Cursor
import HostDns.Pattern.Error
import HostDns.Pattern.Escape
import HostDns.Pattern.Group
import HostDns.Pattern.NamedSet
import HostDns.Pattern.Reader
import HostDns.Program
import HostDns.Proofs.Adapter.Calls
import HostDns.Proofs.Adapter.Document
import HostDns.Proofs.Adapter.Filter
import HostDns.Proofs.Adapter.Identifier
import HostDns.Proofs.Adapter.Octets
import HostDns.Proofs.Address.RoundTrip
import HostDns.Proofs.Address.Sockets
import HostDns.Proofs.Address.Spelling
import HostDns.Proofs.Config.InEffect
import HostDns.Proofs.Config.Resolution
import HostDns.Proofs.Config.Servers
import HostDns.Proofs.Config.Validity
import HostDns.Proofs.Discovery
import HostDns.Proofs.Json
import HostDns.Proofs.Json.Members
import HostDns.Proofs.NameServers
import HostDns.Proofs.NameServers.Adapters
import HostDns.Proofs.NameServers.Calls
import HostDns.Proofs.NameServers.Preference
import HostDns.Proofs.Native.Bytes
import HostDns.Proofs.Native.Content
import HostDns.Proofs.Native.Dependence
import HostDns.Proofs.Native.Outcome
import HostDns.Proofs.Native.RoundTrip
import HostDns.Proofs.Native.Sockets
import HostDns.Proofs.Native.Values
import HostDns.Proofs.Native.Walk
import HostDns.Proofs.Program
import HostDns.Proofs.Report
import HostDns.Proofs.ResolvConf.Expressible
import HostDns.Proofs.ResolvConf.Faults
import HostDns.Proofs.ResolvConf.Forms
import HostDns.Proofs.ResolvConf.Ndots
import HostDns.Proofs.ResolvConf.Search
import HostDns.Proofs.ResolvConf.Servers
import HostDns.Proofs.ResolvConf.Written
import HostDns.Proofs.Session
import HostDns.Proofs.Text.Blank
import HostDns.Proofs.Text.Numeral
import HostDns.Proofs.Text.Utf16
import HostDns.Proofs.Text.Utf8
import HostDns.Report
import HostDns.ResolvConf.Basic
import HostDns.ResolvConf.Ndots
import HostDns.ResolvConf.Search
import HostDns.Text.Blank
import HostDns.Text.Lines
import HostDns.Text.Numeral
import HostDns.Text.Utf16
import HostDns.Text.Utf8
import HostDns.Toml.Basic
import HostDns.Toml.Reader
import HostDns.Toml.Record
import HostDns.Toml.Text
import HostDns.Unicode.Age
import HostDns.Unicode.Break
import HostDns.Unicode.Category
import HostDns.Unicode.Folding
import HostDns.Unicode.Property
import HostDns.Unicode.Ranges
import HostDns.Unicode.Script
import HostDns.Proofs.Json.Members
import HostDns.Proofs.NameServers.Preference
import HostDns.Proofs.Report
import HostDns.Proofs.NameServers.Document
import HostDns.Proofs.Adapter.Source
import HostDns.Proofs.Report.Adapters
import HostDns.Proofs.File.Tree
import HostDns.Proofs.Toml.Outline
import HostDns.Proofs.Config.Template
import HostDns.Proofs.Native.WideText
import HostDns.Proofs.CommandLine.Given
import HostDns.Proofs.CommandLine.Written
import HostDns.Proofs.CommandLine.Declared
