import SlideDeck.Catalogue
import SlideDeck.Proofs.Script.Attaching
import SlideDeck.Proofs.Script.Braces
import SlideDeck.Proofs.Script.Children
import SlideDeck.Proofs.Script.Configuring
import SlideDeck.Proofs.Script.Cycles
import SlideDeck.Proofs.Script.Environments
import SlideDeck.Proofs.Script.Indentation
import SlideDeck.Proofs.Settings.Loading
import SlideDeck.Proofs.Settings.Stated
import SlideDeck.Text.PathName
import SlideDeck.Proofs.Script.Observing
import SlideDeck.Proofs.Correspondence
import SlideDeck.Proofs.Renaming
import SlideDeck.Proofs.Store.Embedding
import SlideDeck.Proofs.Script.Relocating
import SlideDeck.Proofs.Script.Tied
import SlideDeck.Proofs.Script.Tandem
import SlideDeck.Proofs.Script.InPlace
import SlideDeck.Proofs.Script.Logging
import SlideDeck.Proofs.Script.Bounds
import SlideDeck.Proofs.Script.Retaining
import SlideDeck.Proofs.Script.SharedSettings
import SlideDeck.Proofs.Script.Forwarding
import SlideDeck.Proofs.Store.Appending
import SlideDeck.Proofs.Script.Beside
import SlideDeck.Proofs.Script.StandAlone
import SlideDeck.Proofs.Markup.Dots
import SlideDeck.Proofs.Markup.Pairing
import SlideDeck.Proofs.Markup.Rules
import SlideDeck.Proofs.Markup.Order
import SlideDeck.Proofs.Markup.Repetition
import SlideDeck.Proofs.Markup.Appending
import SlideDeck.Proofs.Store.DepthFirst
import SlideDeck.Proofs.Script.Searching
import SlideDeck.Proofs.Qualification
import SlideDeck.Proofs.Store.Exchange
import SlideDeck.Proofs.Script.Qualifying
import SlideDeck.Proofs.Script.RunningText
import SlideDeck.Proofs.Script.LineBreaks
import SlideDeck.Proofs.Script.ReadingBack
import SlideDeck.Proofs.Script.Opening
import SlideDeck.Proofs.Script.Verbatim
import SlideDeck.Proofs.Script.Preamble
