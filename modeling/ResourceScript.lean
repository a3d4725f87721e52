import ResourceScript.Text.Blank
import ResourceScript.Text.Printable
import ResourceScript.Text.LowerCase
import ResourceScript.Text.Quoted
import ResourceScript.Binary64.Shortest
import ResourceScript.Binary64.Reader
import ResourceScript.Value.Form
import ResourceScript.Entries
import ResourceScript.Text.Escaped
import ResourceScript.Credential.Registry
import ResourceScript.Literal.Format
import ResourceScript.Schema
import ResourceScript.Settings.Validation
import ResourceScript.Block.Render
import ResourceScript.Unquote.Strip
import ResourceScript.Environment
import ResourceScript.Yaml.Token.Name
import ResourceScript.Yaml.Token.Quoted
import ResourceScript.Yaml.Lexer
import ResourceScript.Yaml.Tag
import ResourceScript.Settings.File
import ResourceScript.Proofs.Steps
import ResourceScript.Proofs.Text.Name
import ResourceScript.Proofs.Text.Deletion
import ResourceScript.Proofs.Text.Escape
import ResourceScript.Proofs.Text.Replacement
import ResourceScript.Proofs.Text.Join
import ResourceScript.Proofs.Text.Template
import ResourceScript.Proofs.Unquote.Parity
import ResourceScript.Proofs.Unquote.Assignment
import ResourceScript.Proofs.Unquote.Position
import ResourceScript.Proofs.Unquote.Pairing
import ResourceScript.Proofs.Unquote.Removal
import ResourceScript.Proofs.Unquote.Separators
import ResourceScript.Proofs.Unquote.Composite
import ResourceScript.Proofs.Unquote.Nesting
import ResourceScript.Proofs.Unquote.Terminator
import ResourceScript.Proofs.Block.Surviving
import ResourceScript.Proofs.Block.Rows
import ResourceScript.Proofs.Block.Line
import ResourceScript.Proofs.Stripping.Row
import ResourceScript.Proofs.Stripping.Conversion
import ResourceScript.Proofs.Stripping.Mention
import ResourceScript.Proofs.Stripping.Order
import ResourceScript.Proofs.Stripping.Span
import ResourceScript.Proofs.Stripping.Reach
import ResourceScript.Proofs.Stripping.EarlierRow
import ResourceScript.Proofs.Stripping.Frame
import ResourceScript.Proofs.Stripping.Content
import ResourceScript.Proofs.Stripping.Composite
import ResourceScript.Proofs.Stripping.Line
import ResourceScript.Proofs.Stripping.Fields
import ResourceScript.Proofs.Stripping.TextArray
import ResourceScript.Proofs.Stripping.Tidying
import ResourceScript.Proofs.Literal.Readback
import ResourceScript.Proofs.Literal.HashTable
import ResourceScript.Proofs.Literal.Mapping
import ResourceScript.Proofs.Literal.NullItems
import ResourceScript.Proofs.Block.Readback
import ResourceScript.Proofs.Credential.Registry
import ResourceScript.Proofs.Credential.Reference
import ResourceScript.Proofs.Block.Credential
import ResourceScript.Proofs.Block.Recording
import ResourceScript.Proofs.Environment.Registration
import ResourceScript.Proofs.Block.Failure
import ResourceScript.Proofs.Block.Arrangement
import ResourceScript.Proofs.Block.Replacement
import ResourceScript.Proofs.Block.Independence
import ResourceScript.Proofs.Document.Layout
import ResourceScript.Proofs.Document.History
import ResourceScript.Proofs.Unquote.Ends
import ResourceScript.Proofs.Unquote.Idempotence
import ResourceScript.Proofs.Unquote.Lexing
import ResourceScript.Proofs.Block.Metadata
