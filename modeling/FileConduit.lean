import FileConduit.Request.Answer
import FileConduit.Request.Chunk
import FileConduit.FileInfo
import FileConduit.Metrics
import FileConduit.Settings.Document
import FileConduit.Settings.Environment
import FileConduit.Path.HostName
import FileConduit.Client.Removal
import FileConduit.Client.Transfer
import FileConduit.Client.Walk
import FileConduit.Session
import FileConduit.Session.Script
import FileConduit.Proofs.Wire.Taking
import FileConduit.Proofs.Wire.Encoding
import FileConduit.Proofs.Session.Receiving
import FileConduit.Proofs.Session.RoundTrip
import FileConduit.Proofs.Session.History
import FileConduit.Proofs.Session.Effect
import FileConduit.Proofs.Session.Correlation
import FileConduit.Proofs.Session.Desynchronization
import FileConduit.Proofs.Program.Play
import FileConduit.Proofs.Session.Answering
import FileConduit.Proofs.Device.Tree
import FileConduit.Proofs.Device.Reading
import FileConduit.Proofs.Device.Removing
import FileConduit.Proofs.Device.Serving
import FileConduit.Proofs.Client.Path
import FileConduit.Proofs.Client.Removal
import FileConduit.Proofs.Client.Pull.Step
import FileConduit.Proofs.Client.Pull.Run
import FileConduit.Proofs.Client.Pull.Once
import FileConduit.Proofs.Path.HostName
import FileConduit.Proofs.Program.Confinement
import FileConduit.Proofs.Client.Pull.Containment
import FileConduit.Proofs.Program.Rounds
import FileConduit.Proofs.Client.Looking
import FileConduit.Proofs.Client.Removal.Course
import FileConduit.Proofs.Client.Removal.Ending
import FileConduit.Proofs.Client.Removal.Surfacing
import FileConduit.Proofs.Client.Removal.BestEffort
import FileConduit.Proofs.Client.Removal.Report
import FileConduit.Proofs.Program.Trace
import FileConduit.Proofs.Client.Pull.Contents
import FileConduit.Proofs.Program.Loop
import FileConduit.Proofs.Host.Tree
import FileConduit.Proofs.Client.Fetching
import FileConduit.Proofs.Client.Pull.Mirror
import FileConduit.Proofs.Client.Pull.Unending
import FileConduit.Proofs.Client.Storing
import FileConduit.Proofs.Host.Listing
import FileConduit.Proofs.Client.Push.Mirror
import FileConduit.Proofs.Wire.Fields
import FileConduit.Proofs.Wire.Cutting
import FileConduit.Proofs.Wire.Exactness
import FileConduit.Proofs.Request.Frames
import FileConduit.Proofs.Request.Reading
import FileConduit.Proofs.Text.Numeral
import FileConduit.Proofs.Device.Keeping
import FileConduit.Proofs.Device.Framed
import FileConduit.Proofs.Client.ReadBack
import FileConduit.Proofs.Session.Counting
import FileConduit.Proofs.Session.Balance
import FileConduit.Proofs.Request.Refusal
import FileConduit.Proofs.Session.Refusals
import FileConduit.Proofs.Session.Cancellation
import FileConduit.Proofs.Client.Walk.Course
import FileConduit.Proofs.Client.Walk.Listing
import FileConduit.Proofs.Client.Writing
import FileConduit.Proofs.Client.Reading
import FileConduit.Proofs.Client.Closing
import FileConduit.Proofs.Session.Finishing
import FileConduit.Proofs.Client.WholeFile
import FileConduit.Proofs.Program.Ensuring
import FileConduit.Proofs.Host.View
import FileConduit.Proofs.Client.Push.Once
import FileConduit.Proofs.Path.Confusion
import FileConduit.Proofs.Client.Pull.Distinct
import FileConduit.Proofs.Program.Within
import FileConduit.Proofs.Session.Whole
import FileConduit.Proofs.Client.Limits
import FileConduit.Proofs.Client.Accepting
import FileConduit.Proofs.Request.Partition
import FileConduit.Proofs.Wire.Strings
import FileConduit.Proofs.Text.Grammar
import FileConduit.Proofs.FileInfo
import FileConduit.Proofs.Request.Status
import FileConduit.Proofs.Client.Statuses
import FileConduit.Proofs.Path.Admission
import FileConduit.Proofs.Path.Entry
import FileConduit.Proofs.Wire.Headers
import FileConduit.Proofs.Wire.Dictionaries
import FileConduit.Proofs.Client.Buffer
