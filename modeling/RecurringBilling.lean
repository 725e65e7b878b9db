import RecurringBilling.Text.Digit
import RecurringBilling.Text.LetterCase
import RecurringBilling.Text.Numeric
import RecurringBilling.Text.Unprintable
import RecurringBilling.Text.Blank
import RecurringBilling.Text.Decimal
import RecurringBilling.Text.Utf8
import RecurringBilling.Json.Reader
import RecurringBilling.Json.Writer
import RecurringBilling.Text.Base64
import RecurringBilling.Text.Quoted
import RecurringBilling.Calendar.CivilDate
import RecurringBilling.Calendar.Instant
import RecurringBilling.Calendar.Rfc3339
import RecurringBilling.Failure
import RecurringBilling.Identifier
import RecurringBilling.Plan.Name
import RecurringBilling.Billing.Error
import RecurringBilling.Plan.Amount
import RecurringBilling.Plan.Interval
import RecurringBilling.Subscription.Status
import RecurringBilling.Billing.Period
import RecurringBilling.Identity.Account
import RecurringBilling.Plan.Basic
import RecurringBilling.Subscription.Basic
import RecurringBilling.Store.Basic
import RecurringBilling.Store.Plans
import RecurringBilling.Store.Subscriptions
import RecurringBilling.Table.Column
import RecurringBilling.Table.PlanRow
import RecurringBilling.Table.PlanTable
import RecurringBilling.Table.SubscriptionRow
import RecurringBilling.Table.SubscriptionTable
import RecurringBilling.Payment.Ledger
import RecurringBilling.Program.Basic
import RecurringBilling.Store.Accounts
import RecurringBilling.Billing.Catalogue
import RecurringBilling.Billing.Change
import RecurringBilling.Billing.Overview
import RecurringBilling.Billing.Renew
import RecurringBilling.Billing.Subscribe
import RecurringBilling.Identity.Activate
import RecurringBilling.Identity.Register
import RecurringBilling.Identity.SignIn
import RecurringBilling.World.Basic
import RecurringBilling.Digest.Blake2b
import RecurringBilling.Digest.Hmac
import RecurringBilling.Digest.Argon2.Basic
import RecurringBilling.Digest.HashString
import RecurringBilling.Token.Claims
import RecurringBilling.Token.Header
import RecurringBilling.Token.Service
import RecurringBilling.Settings.Basic
import RecurringBilling.Settings.Environment
import RecurringBilling.Exchange.Account
import RecurringBilling.Exchange.Failure
import RecurringBilling.Exchange.Plan
import RecurringBilling.Exchange.Settings
import RecurringBilling.Exchange.Subscription
import RecurringBilling.Proofs.Interleaving.Scene
import RecurringBilling.Proofs.Interleaving.Conduct
import RecurringBilling.Proofs.Interleaving.Serve
import RecurringBilling.Proofs.Payment.Numbering
import RecurringBilling.Proofs.Payment.Reconciliation
import RecurringBilling.Proofs.Interleaving.Grounds
import RecurringBilling.Proofs.Payment.Pricing
import RecurringBilling.Proofs.Payment.Settlement
import RecurringBilling.Proofs.Store.ActiveRows
import RecurringBilling.Proofs.Calendar.Succession
import RecurringBilling.Proofs.Store.Refusal
import RecurringBilling.Proofs.Interleaving.Rows
import RecurringBilling.Proofs.Interleaving.Attempt
import RecurringBilling.Proofs.Interleaving.Race
import RecurringBilling.Proofs.Interleaving.Progress
import RecurringBilling.Proofs.Interleaving.Winner
import RecurringBilling.Proofs.Billing.Periods
import RecurringBilling.Proofs.Billing.Renewal
import RecurringBilling.Proofs.Billing.Extension
import RecurringBilling.Proofs.Billing.KeptRenewals
import RecurringBilling.Proofs.Table.Columns
import RecurringBilling.Proofs.Plan.Terms
import RecurringBilling.Proofs.Table.PlanRows
import RecurringBilling.Proofs.Subscription.Lifecycle
import RecurringBilling.Proofs.Table.SubscriptionRows
import RecurringBilling.Proofs.Interleaving.Deeds
import RecurringBilling.Proofs.Interleaving.FailedCalls
import RecurringBilling.Proofs.Billing.StandingChanges
import RecurringBilling.Proofs.Subscription.Stamps
import RecurringBilling.Proofs.Text.Utf8
import RecurringBilling.Proofs.Text.Split
import RecurringBilling.Proofs.Text.Base64
import RecurringBilling.Proofs.Text.Decimal
import RecurringBilling.Proofs.Json.Scalar
import RecurringBilling.Proofs.Json.RoundTrip
import RecurringBilling.Proofs.Json.Members
import RecurringBilling.Proofs.Token.Acceptance
import RecurringBilling.Proofs.Token.Lifetime
import RecurringBilling.Proofs.Calendar.Composition
import RecurringBilling.Proofs.Interleaving.Visits
import RecurringBilling.Proofs.Billing.Yields
import RecurringBilling.Proofs.Billing.Schedule
import RecurringBilling.Proofs.Table.RejectedRows
import RecurringBilling.Proofs.Billing.Findings
import RecurringBilling.Proofs.Billing.Integrity
import RecurringBilling.Proofs.Calendar.Bounds
import RecurringBilling.Proofs.Calendar.Rollover
import RecurringBilling.Proofs.Billing.PeriodLength
import RecurringBilling.Proofs.Billing.CalendarEnd
import RecurringBilling.Proofs.Payment.Thrift
import RecurringBilling.Proofs.Payment.Sequential
import RecurringBilling.Proofs.Store.Journal
import RecurringBilling.Proofs.Store.Mailboxes
import RecurringBilling.Proofs.Store.FiniteMaps
import RecurringBilling.Proofs.Interleaving.Sessions
import RecurringBilling.Proofs.Identity.Accounts
import RecurringBilling.Proofs.Identity.Spelling
import RecurringBilling.Proofs.Identity.SignUp
import RecurringBilling.Proofs.Identity.AddressGrammar
import RecurringBilling.Proofs.Interleaving.Owners
import RecurringBilling.Proofs.Billing.Isolation
import RecurringBilling.Proofs.Billing.PeriodLength
import RecurringBilling.Proofs.Calendar.DaySteps
import RecurringBilling.Proofs.Plan.PlanNames
import RecurringBilling.Proofs.Identity.PersonNames
import RecurringBilling.Proofs.Plan.Printable
import RecurringBilling.Proofs.Plan.CurrencyCodes
import RecurringBilling.Proofs.Text.Surroundings
import RecurringBilling.Proofs.Payment.Conservation
import RecurringBilling.Proofs.Interleaving.Runs
import RecurringBilling.Proofs.Interleaving.Reports
import RecurringBilling.Proofs.Identity.Passwords
import RecurringBilling.Proofs.Identity.Activations
import RecurringBilling.Proofs.Interleaving.Inquiry
import RecurringBilling.Proofs.Identity.Discretion
import RecurringBilling.Proofs.Identity.Rivals
import RecurringBilling.Proofs.Identity.AddressRules
import RecurringBilling.Proofs.Identity.Registering
import RecurringBilling.Proofs.Table.Lookups
import RecurringBilling.Proofs.Table.Schema
import RecurringBilling.Proofs.Calendar.WrittenInstants
import RecurringBilling.Proofs.Payment.ReceiptForms
import RecurringBilling.Proofs.Failure.Classification
