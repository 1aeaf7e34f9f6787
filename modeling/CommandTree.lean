import CommandTree.FileSystem.Tree
import CommandTree.Host.OfSchema
import CommandTree.Main
import CommandTree.Proofs.Declaration.Links
import CommandTree.Proofs.Live.SchemaHost
import CommandTree.Proofs.Live.Exporting
import CommandTree.Proofs.Schema.RoundTrip
import CommandTree.Proofs.Schema.Walks
import CommandTree.Proofs.Declaration.DocumentOrder
import CommandTree.Proofs.Click.Cutting
import CommandTree.Proofs.Click.Injective
import CommandTree.Proofs.Live.Recompiling
import CommandTree.Proofs.Yaml.PlainScalars
import CommandTree.Proofs.Yaml.QuotedScalars
import CommandTree.Proofs.Yaml.BlockScalars
import CommandTree.Proofs.Yaml.Lexing
import CommandTree.Proofs.Yaml.Tokens
import CommandTree.Proofs.Yaml.ScalarTokens
import CommandTree.Proofs.Yaml.Layout
import CommandTree.Proofs.Yaml.Parsing
import CommandTree.Proofs.Project.SchemaFiles
import CommandTree.Proofs.Host.ParentSearch
import CommandTree.Proofs.Click.Lines
import CommandTree.Proofs.Project.Wholeness
import CommandTree.Proofs.Host.Names
import CommandTree.Proofs.Program.Acceptance
import CommandTree.Proofs.Click.StringLiterals
import CommandTree.Proofs.Click.Shadowing
import CommandTree.Proofs.Click.Parameters
import CommandTree.Proofs.Declaration.Lowerable
import CommandTree.Proofs.Text.LetterCase
import CommandTree.Proofs.Identifier.Usable
import CommandTree.Proofs.Declaration.EntryPoints
import CommandTree.Proofs.Schema.FirstViolation
import CommandTree.Proofs.Lint.DuplicateSiblings
import CommandTree.Proofs.Lint.SingleNodes
import CommandTree.Proofs.Lint.Locations
import CommandTree.Proofs.Declaration.Independence
import CommandTree.Proofs.Declaration.Claiming
import CommandTree.Proofs.Declaration.Spelling
import CommandTree.Proofs.Schema.Drawing
import CommandTree.Proofs.Project.Confinement
import CommandTree.Proofs.Json.Offsets
import CommandTree.Proofs.SourceText
