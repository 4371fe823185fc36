import Switchboard.Json.Writer
import Switchboard.Main
import Switchboard.Scripted.Resource
import Switchboard.Scripted.Stage
import Switchboard.View.Event
import Switchboard.View.Session
import Switchboard.View.Settings
import Switchboard.Proofs.Channel.Opening
import Switchboard.Proofs.Lifecycle.Machine
import Switchboard.Proofs.Channel.Guests
import Switchboard.Proofs.Listener
import Switchboard.Proofs.Adapter
import Switchboard.Proofs.Forwarding
import Switchboard.Proofs.Panel
import Switchboard.Proofs.Exchange.Core
import Switchboard.Proofs.Chain
import Switchboard.Proofs.Exchange.Aligned
import Switchboard.Proofs.Exchange.Forwarding
import Switchboard.Proofs.Broker.Deployment
import Switchboard.Proofs.Exchange.Accounts
import Switchboard.Proofs.Exchange.Lively
import Switchboard.Proofs.Assembly
import Switchboard.Proofs.Broker.Running
import Switchboard.Proofs.Lifecycle.Course
import Switchboard.Proofs.Lifecycle.Report
import Switchboard.Proofs.Lifecycle.Discipline
import Switchboard.Proofs.Delivery
import Switchboard.Proofs.Exchange.Closed
import Switchboard.Proofs.Broker.Accounts
import Switchboard.Proofs.Broker.Shutdown
import Switchboard.Proofs.Channel.Tasks
import Switchboard.Proofs.Exchange.Staffed
import Switchboard.Proofs.Exchange.Turns
import Switchboard.Proofs.Exchange.Carried
import Switchboard.Proofs.Broker.Orderly
import Switchboard.Proofs.Broker.Publish
import Switchboard.Proofs.Lifecycle.Members
import Switchboard.Proofs.Lifecycle.Attended
import Switchboard.Proofs.Lifecycle.Recovery
import Switchboard.Proofs.Broker.Refusal
import Switchboard.Proofs.Delivery.Placements
import Switchboard.Proofs.Broker.Bystanders
import Switchboard.Proofs.Channel.Names
import Switchboard.Proofs.Channel.Readers
import Switchboard.Proofs.Json.Documents
import Switchboard.Proofs.Chain.Masking
import Switchboard.Proofs.Chain.Passage
import Switchboard.Proofs.Chain.Authorization
import Switchboard.Proofs.Chain.Interception
import Switchboard.Proofs.Broker.Audit
import Switchboard.Proofs.Station.Closing
import Switchboard.Proofs.Channel.Publishing
import Switchboard.Proofs.Channel.Waking
import Switchboard.Proofs.Broker.Failures
import Switchboard.Proofs.Settings
import Switchboard.Proofs.Registry.Registration
import Switchboard.Proofs.Registry.Remoting
import Switchboard.Proofs.Broker.Configured
import Switchboard.Proofs.Settings.Override
import Switchboard.Proofs.Failure.Notes
import Switchboard.Proofs.Logging.Directive
