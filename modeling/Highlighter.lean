import Highlighter.Main
import Highlighter.TokenStream
import Highlighter.Proofs.Scanner.Slices
import Highlighter.Proofs.Scanner.Grammar
import Highlighter.Proofs.Scanner.Locality
import Highlighter.Proofs.Scanner.ClassifiedWords
import Highlighter.Proofs.Registry.ListModel
import Highlighter.Proofs.Registry.Clash
import Highlighter.Proofs.Config.RoundTrip
import Highlighter.Proofs.Scanner.OpeningCharacters
import Highlighter.Proofs.Scanner.CodeTokens
import Highlighter.Proofs.Path.Extension
import Highlighter.Proofs.Registry.Detection
import Highlighter.Proofs.Registry.Reports
import Highlighter.Proofs.CommandLine.Verbose
import Highlighter.Proofs.Session.Reports
import Highlighter.Proofs.Session.LanguageOrder
import Highlighter.Proofs.Text.Enclosed
import Highlighter.Proofs.Text.Quoted
import Highlighter.Proofs.Json.Reader
import Highlighter.Proofs.Listing.Decoding
import Highlighter.Proofs.Command.Inputs
import Highlighter.Proofs.Command.TokenListing
import Highlighter.Proofs.Theme.Overrides
import Highlighter.Proofs.Terminal.Display
import Highlighter.Proofs.Command.HighlightEach
import Highlighter.Proofs.TokenStream.States
import Highlighter.Proofs.Scanner.Neighbours
import Highlighter.Proofs.Scanner.CommentOpeners
import Highlighter.Proofs.Scanner.LiteralEnd
import Highlighter.Proofs.OrderedSet.Members
import Highlighter.Proofs.Language.Checks
import Highlighter.Proofs.Text.Trimming
import Highlighter.Proofs.Language.NormalForm
import Highlighter.Proofs.Scanner.WordTables
import Highlighter.Proofs.Session.Resolution
import Highlighter.Proofs.CharClass.Packed
import Highlighter.Proofs.Config.FailedSave
import Highlighter.Proofs.Cursor.Operations
import Highlighter.Proofs.Cursor.Zipper
