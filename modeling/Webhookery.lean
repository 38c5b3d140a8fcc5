import Webhookery.Capture.Interleaving
import Webhookery.App.Storable
import Webhookery.App.Authenticity
import Webhookery.Replay.Recovery
import Webhookery.Replay.Interruption
import Webhookery.Replay.Release
import Webhookery.Delivery.RouteDryRun
import Webhookery.Replay.Evidence
import Webhookery.Delivery.Client
import Webhookery.Delivery.Circuits
import Webhookery.App.OutboxLoop
import Webhookery.Delivery.Sends
import Webhookery.Audit.Races
import Webhookery.Signals.Enqueue
import Webhookery.Audit.Rewriting
import Webhookery.Evidence.Vouching
import Webhookery.Evidence.Export
import Webhookery.Retention.Runs
import Webhookery.Delivery.Versions
import Webhookery.Identity.AccessPolicies
import Webhookery.Provider.Freshness
import Webhookery.Secrets.AwsKms
import Webhookery.Capture.Matching
import Webhookery.Capture.ReadBack
import Webhookery.Store.Delays
import Webhookery.Transform.Pointer
