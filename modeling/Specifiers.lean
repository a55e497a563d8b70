import Specifiers.Main
import Specifiers.Proofs.Reference
import Specifiers.Proofs.Resolution
import Specifiers.Proofs.Path
import Specifiers.Proofs.Table
import Specifiers.Proofs.FileTree
import Specifiers.Proofs.Ignore.Filter
import Specifiers.Proofs.Project
import Specifiers.Proofs.Grammar.Lexer
import Specifiers.Proofs.Grammar.Parse
import Specifiers.Proofs.Grammar.Expression
import Specifiers.Proofs.Grammar.Statement
import Specifiers.Proofs.Grammar.Program
import Specifiers.Proofs.Extraction
import Specifiers.Proofs.Text.PercentEncoding
import Specifiers.Proofs.Dependency
import Specifiers.Proofs.Value
import Specifiers.Proofs.Toml.Document
import Specifiers.Proofs.Value.Merge
import Specifiers.Proofs.Settings.Validation
import Specifiers.Proofs.Settings.Outcome
import Specifiers.Proofs.Settings.Layers
import Specifiers.Proofs.Project.FailFast
import Specifiers.Proofs.Command.Scan
import Specifiers.Proofs.Project.KeepGoing
import Specifiers.Proofs.Dependency.Normal
import Specifiers.Proofs.Tree.Occurrence
import Specifiers.Proofs.Tree.Visit
import Specifiers.Proofs.Console.Markup
import Specifiers.Proofs.FileTree.Put
import Specifiers.Proofs.Command.Init
import Specifiers.Proofs.Settings.Template
import Specifiers.Proofs.Project.Initialized
import Specifiers.Proofs.Command.Initialized
import Specifiers.Proofs.Reference.Adaptation
import Specifiers.Proofs.Tree.Rewriting
import Specifiers.Proofs.Reference.Rewriting
import Specifiers.Proofs.FileTree.Follow
import Specifiers.Proofs.Ignore.Sources
import Specifiers.Proofs.Ignore.Rules
import Specifiers.Proofs.Ignore.Monotone
import Specifiers.Proofs.Ignore.Pattern
import Specifiers.Proofs.Ignore.Standard
import Specifiers.Proofs.Text.Utf8.Strict
import Specifiers.Proofs.Ignore.Source
import Specifiers.Proofs.Ignore.Root
import Specifiers.Proofs.Value.KeyPath
import Specifiers.Proofs.Value.Layering
import Specifiers.Proofs.Text.PercentEncoding.Escaped
import Specifiers.Proofs.Dependency.Reading
import Specifiers.Proofs.Text.Lines
import Specifiers.Proofs.SourceFile
import Specifiers.Proofs.Text.Lowercase
import Specifiers.Proofs.Settings.Written
import Specifiers.Proofs.Tree.Json
import Specifiers.Proofs.Listing
import Specifiers.Proofs.Command.Unique
import Specifiers.Proofs.Console.Emoji
import Specifiers.Proofs.Console.Escape
import Specifiers.Proofs.Console.Verbatim
import Specifiers.Proofs.Console.Line
import Specifiers.Proofs.Command.Extract
import Specifiers.Proofs.Grammar.Cursor
import Specifiers.Proofs.Hashbang
