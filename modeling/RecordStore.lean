import RecordStore.Proofs.Store.History
import RecordStore.Proofs.Store.Laws
import RecordStore.Proofs.Store.Run
import RecordStore.Server
import RecordStore.Proofs.Store.GeneratedKeys
import RecordStore.Proofs.Criterion.Reading
import RecordStore.Proofs.Store.InPlace
import RecordStore.Proofs.Store.Contents
import RecordStore.Proofs.Store.Image
import RecordStore.Proofs.Store.Reload
import RecordStore.Proofs.Store.KeyLookup
import RecordStore.Proofs.Server.Run
import RecordStore.Proofs.Server.Simulation
import RecordStore.Proofs.Server.Unseen
import RecordStore.Proofs.Store.Shape
import RecordStore.Proofs.Server.Shape
import RecordStore.Proofs.Store.OwnKeys
import RecordStore.Proofs.Server.Credentials
import RecordStore.Proofs.Store.Undeclared
import RecordStore.Proofs.Server.Undeclared
import RecordStore.Proofs.Store.ClaimedKeys
import RecordStore.Proofs.Store.FreshStart
import RecordStore.Proofs.Store.OneByOne
import RecordStore.Proofs.Store.Headroom
import RecordStore.Proofs.Number.Shortest
import RecordStore.Proofs.Json.Numerals
import RecordStore.Proofs.Json.Scanning
import RecordStore.Proofs.Json.Structure
import RecordStore.Proofs.Rpc.Decoding
import RecordStore.Proofs.Server.Replies
import RecordStore.Proofs.Store.CanonicalImage
import RecordStore.Proofs.Json.ReadingBack
import RecordStore.Proofs.Dataset.Text
import RecordStore.Proofs.Criterion.Grammar
import RecordStore.Proofs.Number.Whole
import RecordStore.Proofs.Server.AccountStatus
import RecordStore.Proofs.NameMap
import RecordStore.Proofs.Schema.Registration
import RecordStore.Proofs.Schema.Text
import RecordStore.Proofs.Store.Putting
import RecordStore.Proofs.Number.Nearest
import RecordStore.Proofs.Criterion.WholeNumbers
import RecordStore.Proofs.Server.BearerToken
import RecordStore.Proofs.Store.Loading
import RecordStore.Proofs.Criterion.FirstFault
import RecordStore.Proofs.Criterion.TestSets
import RecordStore.Proofs.Criterion.Usable
import RecordStore.Proofs.Criterion.OwnValues
import RecordStore.Proofs.Store.OneKey
import RecordStore.Proofs.Store.TwoKeys
import RecordStore.Proofs.Store.SavingAgain
import RecordStore.Proofs.KeyCounter
import RecordStore.Proofs.Partition
import RecordStore.Proofs.Schema.LastRegistered
import RecordStore.Proofs.Rpc.Demands
import RecordStore.Proofs.Server.Precedence
import RecordStore.Proofs.Store.ProjectedAgain
import RecordStore.Proofs.Record
import RecordStore.Proofs.Store.Tables
