import CovertVault.App.Opening
import CovertVault.App.Vault
import CovertVault.Files.Category
import CovertVault.Files.MediaType
import CovertVault.Files.SizeText
import CovertVault.Remote.ManualClock
import CovertVault.Remote.Recorder
import CovertVault.World
import CovertVault.Proofs.Formula.Grammar
import CovertVault.Proofs.Formula.Evaluation
import CovertVault.Proofs.Formula.ResultText
import CovertVault.Proofs.Keypad.Layout
import CovertVault.Proofs.Keypad.Pressed
import CovertVault.Proofs.Keypad.Reading
import CovertVault.Proofs.Keypad.WellFormed
import CovertVault.Proofs.Cipher.Stream
import CovertVault.Proofs.Store.Ready
import CovertVault.Proofs.App.Effects
import CovertVault.Proofs.Pin.Digest
import CovertVault.Proofs.Vault.Refinement
import CovertVault.Proofs.Store.Writes
import CovertVault.Proofs.Vault.Secret
import CovertVault.Proofs.Vault.PinChange
import CovertVault.Proofs.Vault.Interleaving
import CovertVault.Proofs.Base64
import CovertVault.Proofs.Cipher.Aes
import CovertVault.Proofs.Json.Quoted
import CovertVault.Proofs.Json.Reader
import CovertVault.Proofs.Record.Coding
import CovertVault.Proofs.Seal.Opening
import CovertVault.Proofs.Json.Tree
import CovertVault.Proofs.Remote.Service
import CovertVault.Proofs.Remote.Mirror
import CovertVault.Proofs.Vault.Operations
import CovertVault.Proofs.App.Lockstep
import CovertVault.Proofs.Remote.Server
import CovertVault.Proofs.App.Calls
import CovertVault.Proofs.Store.Merging
import CovertVault.Proofs.Remote.Failures
import CovertVault.Proofs.Remote.HistoryNode
import CovertVault.Proofs.Remote.Showing
import CovertVault.Proofs.App.Independence
import CovertVault.Proofs.App.Fetching
import CovertVault.Proofs.App.Deletion
import CovertVault.Proofs.Pin.Attempt
import CovertVault.Proofs.Calculator.Detection
import CovertVault.Proofs.App.Secrecy
import CovertVault.Proofs.Remote.Window
import CovertVault.Proofs.Remote.Rate
import CovertVault.Proofs.Backup.Service
import CovertVault.Proofs.Backup.Job
import CovertVault.Proofs.Backup.Locking
import CovertVault.Proofs.Remote.Grants
import CovertVault.Proofs.Calculator.Display
import CovertVault.Proofs.Keypad.Unmarked
import CovertVault.Proofs.Time.Order
import CovertVault.Proofs.App.Calculations
import CovertVault.Proofs.Keypad.Typing
import CovertVault.Proofs.Remote.Waiting
import CovertVault.Proofs.Store.Additions
import CovertVault.Proofs.Formula.Acceptance
import CovertVault.Proofs.Formula.Finite
import CovertVault.Proofs.Keypad.Literals
import CovertVault.Proofs.Calculator.Buffer
import CovertVault.Proofs.Keypad.Unfinished
import CovertVault.Proofs.Formula.Accuracy
import CovertVault.Proofs.Number.Arithmetic
import CovertVault.Proofs.Number.Grouped
import CovertVault.Proofs.Keypad.Chaining
import CovertVault.Proofs.InPlace
import CovertVault.Proofs.Keypad.InPlace
import CovertVault.Proofs.Remote.Restoring
import CovertVault.Proofs.Store.Transaction
import CovertVault.Proofs.Store.Tables
import CovertVault.Proofs.Keypad.Erasing
import CovertVault.Proofs.Keypad.Ambiguity
import CovertVault.Proofs.Keypad.Zero
import CovertVault.Proofs.Pin.Canary
