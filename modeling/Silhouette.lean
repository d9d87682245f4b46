import Silhouette.Asset.Basic
import Silhouette.Asset.Buffer
import Silhouette.Asset.Format
import Silhouette.Asset.Id
import Silhouette.Asset.Json
import Silhouette.Bytes.Equality
import Silhouette.Bytes.Find
import Silhouette.Command.Configuration
import Silhouette.Command.DeriveCostume
import Silhouette.Command.Failure
import Silhouette.Command.Line
import Silhouette.Command.RemoveFile
import Silhouette.Command.Run
import Silhouette.Command.Usage
import Silhouette.Costume
import Silhouette.Costume.Json
import Silhouette.Decimal.Binary
import Silhouette.Decimal.Nearest
import Silhouette.Decimal.Notation
import Silhouette.Decimal.Shortest
import Silhouette.Digest.Blake3
import Silhouette.Duration
import Silhouette.Files.Error
import Silhouette.Files.Path
import Silhouette.Files.Tree
import Silhouette.Host.Basic
import Silhouette.Host.Error
import Silhouette.Host.Folder
import Silhouette.Host.Renderer
import Silhouette.Host.Storage
import Silhouette.Http.FormData
import Silhouette.Http.Header
import Silhouette.Http.Message
import Silhouette.Http.Mime
import Silhouette.Http.Origin
import Silhouette.Http.PartHeader
import Silhouette.Http.ReceivedForm
import Silhouette.Http.Uri
import Silhouette.Identifier
import Silhouette.Identifier.Json
import Silhouette.Image.Bmp
import Silhouette.Image.Decode
import Silhouette.Image.Field
import Silhouette.Image.Gif
import Silhouette.Image.Inflate
import Silhouette.Image.Jpeg
import Silhouette.Image.Png
import Silhouette.Image.Webp
import Silhouette.Json.Decode
import Silhouette.Json.Number
import Silhouette.Json.Text
import Silhouette.Json.Token
import Silhouette.Json.Tree
import Silhouette.Main
import Silhouette.Net.SocketAddress
import Silhouette.Proofs.Course
import Silhouette.Proofs.Delivery
import Silhouette.Proofs.Exclusion
import Silhouette.Proofs.Footprint
import Silhouette.Proofs.Holdings
import Silhouette.Proofs.Independence
import Silhouette.Proofs.Installation
import Silhouette.Proofs.Interleaving
import Silhouette.Proofs.Invocation
import Silhouette.Proofs.Removal
import Silhouette.Proofs.RemovalRun
import Silhouette.Proofs.Renaming
import Silhouette.Proofs.Renderer
import Silhouette.Proofs.Requirements
import Silhouette.Proofs.Stages
import Silhouette.Proofs.StorageKey
import Silhouette.Proofs.Table
import Silhouette.Proofs.Uninterrupted
import Silhouette.Proofs.Variants
import Silhouette.Relay.Access
import Silhouette.Relay.Erase
import Silhouette.Relay.Routes
import Silhouette.Relay.SafeName
import Silhouette.Removal.Busy
import Silhouette.Removal.Deadline
import Silhouette.Removal.Error
import Silhouette.Removal.Install
import Silhouette.Removal.Invocation
import Silhouette.Removal.Resolve
import Silhouette.Removal.Run
import Silhouette.Removal.Settings
import Silhouette.Removal.Summary
import Silhouette.Service.Client
import Silhouette.Service.Config
import Silhouette.Service.Error
import Silhouette.Service.ErrorBody
import Silhouette.Service.Upload
import Silhouette.Table
import Silhouette.Target
import Silhouette.Text.Blank
import Silhouette.Text.Hex
import Silhouette.Text.Printable
import Silhouette.Text.Quoted
import Silhouette.Text.Utf8
import Silhouette.Toml.Document
import Silhouette.Toml.Scalar
import Silhouette.Toml.Text
import Silhouette.Toml.Value
import Silhouette.VariantList
import Silhouette.Proofs.Integrity
import Silhouette.Proofs.Files
import Silhouette.Proofs.Utf8
import Silhouette.Proofs.SafeName
import Silhouette.Proofs.Relay
import Silhouette.Proofs.Passthrough
import Silhouette.Proofs.SavedCopies
import Silhouette.Proofs.JsonText
import Silhouette.Proofs.FormatText
import Silhouette.Proofs.VariantEdits
import Silhouette.Proofs.Directories
import Silhouette.Proofs.Folder
import Silhouette.Proofs.Loaders
import Silhouette.Proofs.Retention
import Silhouette.Proofs.Siblings
import Silhouette.Proofs.Strategies
import Silhouette.Proofs.SourceSafety
import Silhouette.Proofs.ContentNames
import Silhouette.Proofs.JsonMembers
import Silhouette.Proofs.ErrorMessage
import Silhouette.Proofs.Credentials
import Silhouette.Proofs.DocumentLines
import Silhouette.Proofs.DocumentedKeys
import Silhouette.Proofs.Marks
import Silhouette.Proofs.JsonGrammar
import Silhouette.Proofs.MessageOrigin
import Silhouette.Proofs.CopyNames
import Silhouette.Proofs.MediaTypes
import Silhouette.Proofs.FormFraming
import Silhouette.Proofs.Upload
import Silhouette.Proofs.MimeEssence
import Silhouette.Proofs.Responses
import Silhouette.Proofs.AssetIdText
import Silhouette.Proofs.RendererHistory
import Silhouette.Proofs.SharedRenderer
import Silhouette.Proofs.JsonWriting
import Silhouette.Proofs.SettingsText
import Silhouette.Proofs.BufferWindow
