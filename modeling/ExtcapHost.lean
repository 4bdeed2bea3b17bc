import ExtcapHost.Main
import ExtcapHost.Report
import ExtcapHost.Proofs.Argument
import ExtcapHost.Proofs.Argument.Attachment
import ExtcapHost.Proofs.CommandLine.Capture
import ExtcapHost.Proofs.Discovery.Answering
import ExtcapHost.Proofs.Discovery.Routing
import ExtcapHost.Proofs.Launcher.Custody
import ExtcapHost.Proofs.Launcher.Holder
import ExtcapHost.Proofs.Registry
import ExtcapHost.Proofs.Sentence.Mixed
import ExtcapHost.Proofs.Sentence.Skipping
import ExtcapHost.Proofs.Sentence.Writing
import ExtcapHost.Proofs.Session.Attribution
import ExtcapHost.Proofs.Session.ChannelConservation
import ExtcapHost.Proofs.Session.Forgetting
import ExtcapHost.Proofs.Session.History
import ExtcapHost.Proofs.Session.Ownership
import ExtcapHost.Proofs.Session.PidAgreement
import ExtcapHost.Proofs.Session.Planned
import ExtcapHost.Proofs.Session.Resumption
import ExtcapHost.Proofs.Session.Retrying
import ExtcapHost.Proofs.Session.Starting
import ExtcapHost.Proofs.Session.Tabled
import ExtcapHost.Proofs.Settings.RoundTrip
import ExtcapHost.Proofs.Text.Integer
import ExtcapHost.Proofs.Sentence.LineByLine
import ExtcapHost.Proofs.Sentence.Spelling
import ExtcapHost.Proofs.Json.Verbatim
import ExtcapHost.Proofs.Settings.Overriding
import ExtcapHost.Proofs.Channel.Accounting
import ExtcapHost.Proofs.OperatorArgument
import ExtcapHost.Proofs.Launcher.Liveness
import ExtcapHost.Proofs.Discovery.Messages
import ExtcapHost.Proofs.Channel.Leftover
import ExtcapHost.Proofs.Sentence.Scanning
import ExtcapHost.Proofs.Session.Listing
import ExtcapHost.Proofs.Session.Delivery
import ExtcapHost.Proofs.CommandLine.Rejection
