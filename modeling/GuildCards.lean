import GuildCards.Text.Lowercase
import GuildCards.Document.Wording
import GuildCards.Document.Patch
import GuildCards.Document.Printer
import GuildCards.Document.Reader
import GuildCards.Effect.Compile
import GuildCards.Card
import GuildCards.Rulebook.Check
import GuildCards.Zone
import GuildCards.Catalog.Standard
import GuildCards.Shuffle.Seeded
import GuildCards.State
import GuildCards.Play.Placement
import GuildCards.Play.Effects
import GuildCards.Play.Refusal
import GuildCards.Play.Event
import GuildCards.Play.Legal
import GuildCards.Play.Standing
import GuildCards.Play.Deal
import GuildCards.State.Record
import GuildCards.Store.Memory
import GuildCards.Store.File
import GuildCards.Session
import GuildCards.Service.Http
import GuildCards.CommandLine.Run
import GuildCards.Main
import GuildCards.Proofs.Cards.Conservation
import GuildCards.Proofs.Play.Questions
import GuildCards.Proofs.Effect.Recompile
import GuildCards.Proofs.State.Stored
import GuildCards.Proofs.Effect.Names
import GuildCards.Proofs.State.RoundTrip
import GuildCards.Proofs.Play.Listed
import GuildCards.Proofs.Play.Legality
import GuildCards.Proofs.Effect.Amounts
import GuildCards.Proofs.Play.Deeds
import GuildCards.Proofs.Play.History
import GuildCards.Proofs.Play.TurnLength
import GuildCards.Proofs.Play.Deferral
import GuildCards.Proofs.Play.Owed
import GuildCards.Proofs.Play.Causes
import GuildCards.Proofs.Play.Balances
import GuildCards.Proofs.Session.Replay
import GuildCards.Proofs.Session.LifeCycle
import GuildCards.Proofs.Session.Interchange
import GuildCards.Proofs.Play.Solvency
import GuildCards.Proofs.Play.Frame
import GuildCards.Proofs.Board.Garrisons
import GuildCards.Proofs.Cards.Piles
import GuildCards.Proofs.Board.Outposts
import GuildCards.Proofs.Play.TurnOrder
import GuildCards.Proofs.Effect.Sentences
import GuildCards.Proofs.Effect.LetterCase
import GuildCards.Proofs.Effect.Language
import GuildCards.Proofs.Effect.Understood
import GuildCards.Proofs.Play.Policy
import GuildCards.Proofs.Service.Hidden
import GuildCards.Proofs.Cards.Laying
import GuildCards.Proofs.Cards.Regrouping
import GuildCards.Proofs.Play.Choices
import GuildCards.Proofs.Play.Conditionals
import GuildCards.Proofs.Effect.Trimmed
import GuildCards.Proofs.Play.Membership
import GuildCards.Proofs.Effect.Plain
import GuildCards.Proofs.Effect.CaseFree
import GuildCards.Proofs.Effect.Reread
import GuildCards.Proofs.Play.Offered
import GuildCards.Proofs.State.Reloaded
import GuildCards.Proofs.Rulebook.Valid
import GuildCards.Proofs.Board.Neighbours
import GuildCards.Proofs.Play.Opening
import GuildCards.Proofs.Board.Territory
import GuildCards.Proofs.Effect.Tokens
import GuildCards.Proofs.Store.Ids
import GuildCards.Proofs.Effect.WellFormed
