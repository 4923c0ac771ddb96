import ProbeCatalog.Main
import ProbeCatalog.Proofs.Provider.Storage
import ProbeCatalog.Proofs.Analysis.Faults
import ProbeCatalog.Proofs.Cache.Calls
import ProbeCatalog.Proofs.Analysis.Candidates
import ProbeCatalog.Proofs.Provider.Naming
import ProbeCatalog.Proofs.Provider.Origins
import ProbeCatalog.Proofs.Text.Strings
import ProbeCatalog.Proofs.Text.Quotes
import ProbeCatalog.Proofs.Text.Quotations
import ProbeCatalog.Proofs.Syntax.Formatting
import ProbeCatalog.Proofs.Text.Words
import ProbeCatalog.Proofs.Syntax.Tokens
import ProbeCatalog.Proofs.Syntax.Parsing
import ProbeCatalog.Proofs.Syntax.Expressions
import ProbeCatalog.Proofs.Syntax.Patterns
import ProbeCatalog.Proofs.Syntax.Sources
import ProbeCatalog.Proofs.Syntax.Lines
import ProbeCatalog.Proofs.Probe.Annotations
import ProbeCatalog.Proofs.Probe.Heads
import ProbeCatalog.Proofs.Provider.Readings
import ProbeCatalog.Proofs.Ignore.Patterns
import ProbeCatalog.Proofs.Ignore.Verdicts
import ProbeCatalog.Proofs.Ignore.Scopes
import ProbeCatalog.Proofs.Ignore.Relocation
import ProbeCatalog.Proofs.Ignore.Precedence
import ProbeCatalog.Proofs.Ignore.Confinement
import ProbeCatalog.Proofs.Json.Limits
import ProbeCatalog.Proofs.Provider.Loading
import ProbeCatalog.Proofs.Cache.Payloads
import ProbeCatalog.Proofs.Cache.Faults
import ProbeCatalog.Proofs.Terminal.Codes
import ProbeCatalog.Proofs.Terminal.Printing
import ProbeCatalog.Proofs.Json.Characters
import ProbeCatalog.Proofs.Command.Scans
import ProbeCatalog.Proofs.Command.Printed
import ProbeCatalog.Proofs.Command.ReportFile
import ProbeCatalog.Proofs.Analysis.Walk
import ProbeCatalog.Proofs.Probe.FirstFault
import ProbeCatalog.Proofs.Provider.Phases
import ProbeCatalog.Proofs.Probe.Denotations
import ProbeCatalog.Proofs.Provider.Collisions
import ProbeCatalog.Proofs.Provider.Boundaries
import ProbeCatalog.Proofs.Provider.Fields
import ProbeCatalog.Proofs.Analysis.SourceOrder
import ProbeCatalog.Proofs.Cache.Keys
import ProbeCatalog.Proofs.Probe.Descent
import ProbeCatalog.Proofs.Provider.Reformatting
import ProbeCatalog.Proofs.Provider.ReadingBack
