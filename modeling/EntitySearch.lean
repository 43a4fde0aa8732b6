import EntitySearch.Connection
import EntitySearch.Expr.Equality
import EntitySearch.Identifier
import EntitySearch.Logging
import EntitySearch.Proofs.Containment
import EntitySearch.Proofs.Statement
import EntitySearch.Select.Execution
import EntitySearch.Select.Text
import EntitySearch.Session
import EntitySearch.Store.Change
import EntitySearch.Trace.Call
import EntitySearch.Proofs.Narrowing
import EntitySearch.Proofs.Rules
import EntitySearch.Proofs.TenantIsolation
import EntitySearch.Proofs.StandardRules
import EntitySearch.Proofs.Scope
import EntitySearch.Proofs.Matches
import EntitySearch.Proofs.Answers
import EntitySearch.Proofs.Combination
import EntitySearch.Proofs.ScopeKept
import EntitySearch.Proofs.Masking
import EntitySearch.Proofs.PhoneShape
import EntitySearch.Proofs.Privacy
import EntitySearch.Proofs.Rounding
import EntitySearch.Proofs.ShortestDecimal
import EntitySearch.Proofs.NumberText
import EntitySearch.Proofs.Lexer
import EntitySearch.Proofs.Reader
import EntitySearch.Proofs.Legible
import EntitySearch.Proofs.Canonical
import EntitySearch.Proofs.Meaning
import EntitySearch.Proofs.ReadBack
import EntitySearch.Proofs.ResultCap
import EntitySearch.Proofs.SearchedPhone
import EntitySearch.Proofs.MissingParts
import EntitySearch.Proofs.FirstItems
import EntitySearch.Proofs.Stages
import EntitySearch.Proofs.JoinedPaths
import EntitySearch.Proofs.LoadedSettings
import EntitySearch.Proofs.ConfiguredLimits
import EntitySearch.Proofs.StoredRows
import EntitySearch.Proofs.LiteralMatch
import EntitySearch.Proofs.StoredPhone
import EntitySearch.Proofs.LongestMatches
import EntitySearch.Proofs.PhoneRuns
import EntitySearch.Proofs.WellFormed
import EntitySearch.Proofs.NormalForm
import EntitySearch.Proofs.HiddenDigits
import EntitySearch.Proofs.SingleLine
import EntitySearch.Proofs.PhoneQueries
import EntitySearch.Proofs.DigitScripts
import EntitySearch.Proofs.Spelling
import EntitySearch.Proofs.LowerCase
import EntitySearch.Proofs.Entries
import EntitySearch.Proofs.ProviderNames
import EntitySearch.Proofs.JoinedText
import EntitySearch.Proofs.SpanAttributes
import EntitySearch.Proofs.TracedCalls
