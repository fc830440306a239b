import TripleRules.Binding
import TripleRules.Config.Basic
import TripleRules.Config.Document
import TripleRules.Config.Error
import TripleRules.Config.File
import TripleRules.Config.Level
import TripleRules.Dependency.Basic
import TripleRules.Dependency.Component
import TripleRules.Dependency.Cycle
import TripleRules.Dependency.Stratification
import TripleRules.Diagnostic.Basic
import TripleRules.Diagnostic.Json
import TripleRules.Dictionary
import TripleRules.Engine.Basic
import TripleRules.Engine.Body
import TripleRules.Engine.Saturation
import TripleRules.Engine.Settings
import TripleRules.Expr.Basic
import TripleRules.Expr.Error
import TripleRules.Expr.Eval
import TripleRules.Expr.Function
import TripleRules.Expr.Numeric
import TripleRules.Expr.Standard
import TripleRules.Graph.Index
import TripleRules.Graph.Layered
import TripleRules.Graph.Store
import TripleRules.Json.Basic
import TripleRules.Json.Reader
import TripleRules.Json.Token
import TripleRules.Literal
import TripleRules.LogFilter
import TripleRules.Number.Decimal
import TripleRules.Number.Integer
import TripleRules.Number.Shortest
import TripleRules.Proofs.Binding
import TripleRules.Proofs.Config.Document
import TripleRules.Proofs.Config.Overrides
import TripleRules.Proofs.Config.Saving
import TripleRules.Proofs.Dependency.Component
import TripleRules.Proofs.Dependency.Form
import TripleRules.Proofs.Dependency.LeastStrata
import TripleRules.Proofs.Dependency.Overlap
import TripleRules.Proofs.Dependency.Reach
import TripleRules.Proofs.Dependency.Recursion
import TripleRules.Proofs.Dependency.Relabel
import TripleRules.Proofs.Dependency.Search
import TripleRules.Proofs.Dependency.ShortestCycle
import TripleRules.Proofs.Dependency.Strata
import TripleRules.Proofs.Dependency.Walk
import TripleRules.Proofs.Dictionary
import TripleRules.Proofs.Engine.Account
import TripleRules.Proofs.Engine.Answer
import TripleRules.Proofs.Engine.Domain
import TripleRules.Proofs.Engine.Equivalence
import TripleRules.Proofs.Engine.Failure
import TripleRules.Proofs.Engine.FiniteClosure
import TripleRules.Proofs.Engine.Ignored
import TripleRules.Proofs.Engine.LeastModel
import TripleRules.Proofs.Engine.Monotone
import TripleRules.Proofs.Engine.Order
import TripleRules.Proofs.Engine.Prepare
import TripleRules.Proofs.Engine.Round
import TripleRules.Proofs.Engine.RoundLimit
import TripleRules.Proofs.Engine.Settling
import TripleRules.Proofs.Engine.Solution
import TripleRules.Proofs.Engine.Splitting
import TripleRules.Proofs.Engine.StableModel
import TripleRules.Proofs.Engine.Stage
import TripleRules.Proofs.Engine.Stratum
import TripleRules.Proofs.Engine.Termination
import TripleRules.Proofs.Engine.Unaffected
import TripleRules.Proofs.Expr.Calculation
import TripleRules.Proofs.Expr.Comparison
import TripleRules.Proofs.Expr.Concrete
import TripleRules.Proofs.Expr.Connective
import TripleRules.Proofs.Expr.IntegerComparison
import TripleRules.Proofs.Expr.Reading
import TripleRules.Proofs.Extension
import TripleRules.Proofs.Graph.Flattening
import TripleRules.Proofs.Graph.History
import TripleRules.Proofs.Graph.Insertion
import TripleRules.Proofs.Graph.Lookup
import TripleRules.Proofs.Matching
import TripleRules.Proofs.Number.Conversion
import TripleRules.Proofs.Number.Encoding
import TripleRules.Proofs.Number.Numeral
import TripleRules.Proofs.Number.Rank
import TripleRules.Proofs.Number.Rounding
import TripleRules.Proofs.Outcome
import TripleRules.Proofs.Rearrangement
import TripleRules.Proofs.Renaming.Basic
import TripleRules.Proofs.Renaming.Engine
import TripleRules.Proofs.Renaming.RuleSet
import TripleRules.Proofs.Renaming.Solution
import TripleRules.Proofs.Rule.Identity
import TripleRules.Proofs.Scope
import TripleRules.Proofs.Toml.Format
import TripleRules.Proofs.Toml.Range
import TripleRules.Proofs.Toml.Section
import TripleRules.Proofs.Toml.Standard
import TripleRules.Proofs.Toml.Table
import TripleRules.Proofs.Toml.Text
import TripleRules.Proofs.Unification
import TripleRules.Regex.Basic
import TripleRules.Regex.CharSet
import TripleRules.Regex.Reader
import TripleRules.Rule.Basic
import TripleRules.Rule.RuleSet
import TripleRules.Rule.Scope
import TripleRules.Term
import TripleRules.Text.Blank
import TripleRules.Text.Case
import TripleRules.Text.Category
import TripleRules.Text.CodePoints
import TripleRules.Text.Hex
import TripleRules.Text.Property
import TripleRules.Text.Quoted
import TripleRules.Text.Script
import TripleRules.Toml.Format
import TripleRules.Toml.Reader
import TripleRules.Toml.Section
import TripleRules.Toml.Table
import TripleRules.Toml.Text
import TripleRules.Toml.Value
import TripleRules.Triple
import TripleRules.Vocabulary
