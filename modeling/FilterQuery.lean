import FilterQuery.Dialect.Summary
import FilterQuery.KeyStyle
import FilterQuery.Proofs.Agreement
import FilterQuery.Proofs.Aliases
import FilterQuery.Proofs.Composition
import FilterQuery.Proofs.Decoding
import FilterQuery.Proofs.DepthLimit
import FilterQuery.Proofs.JsonGrammar
import FilterQuery.Proofs.KeyFilter
import FilterQuery.Proofs.KnownTokens
import FilterQuery.Proofs.LiveCharacters
import FilterQuery.Proofs.Meaning
import FilterQuery.Proofs.MongoDocument
import FilterQuery.Proofs.Quoting
import FilterQuery.Proofs.Rendering
import FilterQuery.Proofs.SettingsText
import FilterQuery.Proofs.Spelling
import FilterQuery.Proofs.SqlGrouping
import FilterQuery.Proofs.StandIns
import FilterQuery.Proofs.Unbalanced
import FilterQuery.Proofs.Warnings
import FilterQuery.Query.Noting
import FilterQuery.Settings.Build
import FilterQuery.Text.Quoted
import FilterQuery.Proofs.Stripping
import FilterQuery.Proofs.Positions
import FilterQuery.Proofs.UsableOperators
import FilterQuery.Proofs.TokenSearch
import FilterQuery.Proofs.ByOffset
import FilterQuery.Proofs.Pieces
import FilterQuery.Proofs.Separators
import FilterQuery.Proofs.Shapes
import FilterQuery.Proofs.Layout
import FilterQuery.Proofs.Dump
