import PrinterWiring.Text.Numeral
import PrinterWiring.Text.Column
import PrinterWiring.Json.Writer
import PrinterWiring.Json.Reader
import PrinterWiring.Board.Basic
import PrinterWiring.Function.Slot
import PrinterWiring.Settings.Json
import PrinterWiring.Pin.Resolve
import PrinterWiring.Error
import PrinterWiring.Catalog.File
import PrinterWiring.Session.Restore
import PrinterWiring.Catalog.Builtin
import PrinterWiring.SessionFile.Reader
import PrinterWiring.SessionFile.Writer
import PrinterWiring.PrinterConfig.Render
import PrinterWiring.Web.Api
import PrinterWiring.Storage.Files
import PrinterWiring.Toml.Reader
import PrinterWiring.Toml.Writer
import PrinterWiring.Preferences.File
import PrinterWiring.Main
import PrinterWiring.Proofs.SessionFile.Survival
import PrinterWiring.Proofs.SessionFile.Domain
import PrinterWiring.Proofs.SessionFile.Resaving
import PrinterWiring.Proofs.Pin.Resolved
import PrinterWiring.Proofs.PrinterConfig.References
import PrinterWiring.Proofs.Session.Accounting
import PrinterWiring.Proofs.PrinterConfig.WellFormed
import PrinterWiring.Proofs.PrinterConfig.Outline
import PrinterWiring.Proofs.SessionFile.LastLine
import PrinterWiring.Proofs.Session.AnyOrder
import PrinterWiring.Proofs.Report.Printable
import PrinterWiring.Proofs.PrinterConfig.Coverage
import PrinterWiring.Proofs.CommandLine.OneKey
import PrinterWiring.Proofs.SessionFile.CatalogIds
import PrinterWiring.Proofs.Session.Lockstep
import PrinterWiring.Proofs.Session.Location
import PrinterWiring.Proofs.Session.Options
import PrinterWiring.Proofs.Session.Transport
import PrinterWiring.Proofs.Session.Clearing
import PrinterWiring.Proofs.Session.Conflicts
import PrinterWiring.Proofs.Session.LetterCase
import PrinterWiring.Proofs.Pin.Readable
import PrinterWiring.Proofs.Settings.Store
import PrinterWiring.Proofs.Catalog.Joining
import PrinterWiring.Proofs.PrinterConfig.Drivers
import PrinterWiring.Proofs.PrinterConfig.Probe
import PrinterWiring.Proofs.Settings.Numbers
import PrinterWiring.Proofs.SessionFile.LineByLine
import PrinterWiring.Proofs.PrinterConfig.Geometry
