import Cadastre.Json.Access
import Cadastre.Main
import Cadastre.Pipeline.Rehearsal
import Cadastre.Pipeline.Report
import Cadastre.Proofs.Cache.Environments
import Cadastre.Proofs.Cache.LastWriter
import Cadastre.Proofs.Cache.Listing
import Cadastre.Proofs.Command.Success
import Cadastre.Proofs.Grid.Bijection
import Cadastre.Proofs.Grid.Counts
import Cadastre.Proofs.Grid.Numbering
import Cadastre.Proofs.Grid.Table
import Cadastre.Proofs.Grid.WalkText
import Cadastre.Proofs.Item.Lifecycle
import Cadastre.Proofs.Item.Publication
import Cadastre.Proofs.Item.Refusal
import Cadastre.Proofs.Job.Ending
import Cadastre.Proofs.Json.Settled
import Cadastre.Proofs.Pipeline.Advancing
import Cadastre.Proofs.Pipeline.Agreement
import Cadastre.Proofs.Pipeline.Alignment
import Cadastre.Proofs.Pipeline.Completeness
import Cadastre.Proofs.Pipeline.Conduct
import Cadastre.Proofs.Pipeline.Depositing
import Cadastre.Proofs.Pipeline.Discovery
import Cadastre.Proofs.Pipeline.Founding
import Cadastre.Proofs.Pipeline.Idempotence
import Cadastre.Proofs.Pipeline.Idling
import Cadastre.Proofs.Pipeline.Recognition
import Cadastre.Proofs.Pipeline.Regrouping
import Cadastre.Proofs.Pipeline.Resumption
import Cadastre.Proofs.Pipeline.Schedule
import Cadastre.Proofs.Pipeline.Traffic
import Cadastre.Proofs.Pipeline.Upholding
import Cadastre.Proofs.Pipeline.Wholeness
import Cadastre.Proofs.Registry.Safety
import Cadastre.Proofs.Storage.Buckets
import Cadastre.Proofs.Storage.Links
import Cadastre.Proofs.Storage.Posting
import Cadastre.Proofs.Storage.Retrying
import Cadastre.Proofs.Cache.Retelling
