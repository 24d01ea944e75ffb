import PaymentUri.Proofs.Base58
import PaymentUri.Proofs.Amount
import PaymentUri.Proofs.Percent
import PaymentUri.Session.Step
import PaymentUri.Proofs.LegalText
import PaymentUri.Proofs.LetterCase
import PaymentUri.Proofs.LongNumbers
import PaymentUri.Proofs.Parts
import PaymentUri.Proofs.Query
import PaymentUri.Proofs.Address
import PaymentUri.Proofs.Reader
import PaymentUri.Proofs.Grammar
import PaymentUri.Proofs.RoundTrip
import PaymentUri.Proofs.Canonical
import PaymentUri.Proofs.ParseErrors
import PaymentUri.Proofs.Checksum
import PaymentUri.Proofs.WholeCoins
import PaymentUri.Proofs.CanonicalInjective
import PaymentUri.Proofs.Preference
import PaymentUri.Proofs.Enrolment
import PaymentUri.Proofs.Loading
import PaymentUri.Proofs.RegistryHistory
import PaymentUri.Proofs.RegistryLookup
import PaymentUri.Proofs.RegistryChanges
import PaymentUri.Proofs.RegistryGrowth
import PaymentUri.Proofs.Persistence
import PaymentUri.Proofs.RegistryRuns
import PaymentUri.Proofs.ExactAmounts
import PaymentUri.Proofs.RequestInvariant
import PaymentUri.Amount.Decimal
import PaymentUri.Proofs.AmountNotation
import PaymentUri.Proofs.AddressDecoding
import PaymentUri.Proofs.Fixpoint
import PaymentUri.Proofs.PercentRuns
import PaymentUri.Proofs.Encoding
import PaymentUri.Proofs.Rewritten
import PaymentUri.Proofs.Reordering
import PaymentUri.Proofs.Respelling
import PaymentUri.Proofs.Reference
import PaymentUri.Proofs.Document
import PaymentUri.Proofs.Registration
import PaymentUri.Proofs.LoadEffects
import PaymentUri.Proofs.AmountComparison
import PaymentUri.Proofs.Integer
import PaymentUri.Proofs.CurrencySections
import PaymentUri.Proofs.ReadingRecords
import PaymentUri.Proofs.ConsoleIndependence
import PaymentUri.Proofs.ConsoleLines
