import Moadian.Api.App
import Moadian.Api.Correction
import Moadian.Api.Example
import Moadian.Api.Referring
import Moadian.Auth.Accounts
import Moadian.Auth.Administrators
import Moadian.Auth.Alone
import Moadian.Auth.Deactivation
import Moadian.Auth.Endpoints
import Moadian.Auth.Issued
import Moadian.Auth.LoggingIn
import Moadian.Auth.Passwords
import Moadian.Auth.Refusals
import Moadian.Auth.Registered
import Moadian.Auth.Revocation
import Moadian.Auth.Sessions
import Moadian.Auth.Steps
import Moadian.Auth.Writes
import Moadian.Checked
import Moadian.Client.Authenticator
import Moadian.Client.Cleaning
import Moadian.Client.Client
import Moadian.Client.Packet
import Moadian.Client.Sheets
import Moadian.Codec.Base64
import Moadian.Codec.Datetime
import Moadian.Codec.Encoding
import Moadian.Codec.Integer
import Moadian.Codec.Isoformat
import Moadian.Codec.JsonText
import Moadian.Codec.JsonTrip
import Moadian.Codec.NumberTrip
import Moadian.Codec.Split
import Moadian.Codec.Surrogates
import Moadian.Config.Envelope
import Moadian.Config.Environment
import Moadian.Config.Keyring
import Moadian.Config.Material
import Moadian.Config.MemoryIds
import Moadian.Config.Profile
import Moadian.Config.Profiles
import Moadian.Config.Refinement
import Moadian.Config.Settings
import Moadian.Config.Updates
import Moadian.Config.Vault
import Moadian.Contract.Batch
import Moadian.Contract.Filing
import Moadian.Contract.Inquiry
import Moadian.Contract.Pipeline
import Moadian.Contract.Trace
import Moadian.Crypto.Canonical
import Moadian.Crypto.Encryptor
import Moadian.Crypto.Keys
import Moadian.Crypto.Signatory
import Moadian.Csv
import Moadian.Dictionary
import Moadian.Double
import Moadian.Errors
import Moadian.Fallible
import Moadian.Filing.Asking
import Moadian.Filing.Cards
import Moadian.Filing.Edited
import Moadian.Filing.Finality
import Moadian.Filing.Lifecycle
import Moadian.Filing.Memory
import Moadian.Filing.Moves
import Moadian.Filing.Outcome
import Moadian.Filing.Overlap
import Moadian.Filing.Verdicts
import Moadian.Filing.Voiding
import Moadian.Firsts
import Moadian.Folding
import Moadian.Frontend.Markdown
import Moadian.Frontend.MoneyCell
import Moadian.Frontend.Rendering
import Moadian.Fts5.Literals
import Moadian.Fts5.Query
import Moadian.Json
import Moadian.Marked
import Moadian.Mock.Batches
import Moadian.Mock.Exchange
import Moadian.Mock.History
import Moadian.Mock.Inquiries
import Moadian.Mock.Nonces
import Moadian.Mock.Payments
import Moadian.Mock.Reports
import Moadian.Mock.Requests
import Moadian.Mock.Server
import Moadian.Mock.SingleUse
import Moadian.Mock.Submissions
import Moadian.Mock.Timestamps
import Moadian.Mock.Unpacked
import Moadian.Mock.Uuids
import Moadian.Models.Invoice
import Moadian.Models.Reposting
import Moadian.Models.Responses
import Moadian.Models.Validation
import Moadian.Observed
import Moadian.Paging
import Moadian.Persian
import Moadian.Pipeline
import Moadian.Polling
import Moadian.Refolding
import Moadian.Resumption.Contract
import Moadian.Resumption.Ends
import Moadian.Resumption.Pool
import Moadian.Resumption.Program
import Moadian.Resumption.Solo
import Moadian.Resumption.Stages
import Moadian.Rules.Arithmetic
import Moadian.Rules.Concord
import Moadian.Rules.Conditions
import Moadian.Rules.CrossFoot
import Moadian.Rules.Document
import Moadian.Rules.Doubles
import Moadian.Rules.Emission
import Moadian.Rules.Engine
import Moadian.Rules.Extract
import Moadian.Rules.Flow
import Moadian.Rules.Obligations
import Moadian.Rules.Patterns
import Moadian.Rules.Presence
import Moadian.Rules.Recompute
import Moadian.Rules.Refilled
import Moadian.Rules.Reloading
import Moadian.Rules.Sections
import Moadian.Rules.Spec
import Moadian.Rules.Violations
import Moadian.Serial.Counter
import Moadian.Serial.Host
import Moadian.Serial.Locking
import Moadian.Serial.Moves
import Moadian.Serial.Repair
import Moadian.Serial.Repeat
import Moadian.Serial.Runs
import Moadian.Serial.Stage
import Moadian.Serial.Text
import Moadian.Serial.Values
import Moadian.Service
import Moadian.Store.Buyers
import Moadian.Store.Catalogue
import Moadian.Store.CurrentCodes
import Moadian.Store.Dashboard
import Moadian.Store.Defaults
import Moadian.Store.Export
import Moadian.Store.Goods
import Moadian.Store.Import
import Moadian.Store.Interruption
import Moadian.Store.Merge
import Moadian.Store.Migration
import Moadian.Store.Records
import Moadian.Store.Replacement
import Moadian.Store.Search
import Moadian.Store.Upgrade
import Moadian.Store.Values
import Moadian.Submission.Complete
import Moadian.Submission.Gate
import Moadian.Submission.Ledger
import Moadian.Submission.Matching
import Moadian.Submission.Reported
import Moadian.Table
import Moadian.TaxId
import Moadian.TaxId.CheckSum
import Moadian.TaxId.Decoding
import Moadian.TaxId.Detection
import Moadian.TaxId.Recovery
import Moadian.TaxId.Slips
import Moadian.Transaction
import Moadian.Units
import Moadian.Write
