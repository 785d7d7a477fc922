import AmgiNetTools.Library.Runs
import AmgiNetTools.Socks5.Reactions
import AmgiNetTools.Http.Reactions
import AmgiNetTools.Session.Dispatch
import AmgiNetTools.Session.Locality
import AmgiNetTools.Session.Isolation
import AmgiNetTools.Session.Stopping
import AmgiNetTools.Session.Completion
import AmgiNetTools.Session.Snapshot
import AmgiNetTools.Session.Tasks
import AmgiNetTools.Library.Lane
import AmgiNetTools.Session.Relay
import AmgiNetTools.Session.Conversation
import AmgiNetTools.Socks5.Conversation
import AmgiNetTools.Socks5.Discipline
import AmgiNetTools.Socks5.Negotiation
import AmgiNetTools.Socks5.Segmentation
import AmgiNetTools.Session.Advance
import AmgiNetTools.Http.Conversation
import AmgiNetTools.Http.Tunnel
import AmgiNetTools.Http.Order
import AmgiNetTools.Http.Views
import AmgiNetTools.Http.Liveness
import AmgiNetTools.Socks5.Decoding
import AmgiNetTools.Session.Bounds
import AmgiNetTools.Session.Buffers
import AmgiNetTools.Http.Failures
import AmgiNetTools.Http.Message
import AmgiNetTools.Http.Segmentation
import AmgiNetTools.Library.Tickets
import AmgiNetTools.Server.Collision
import AmgiNetTools.Tunnel.Session
import AmgiNetTools.Tunnel.Course
import AmgiNetTools.Tunnel.Stages
import AmgiNetTools.Tunnel.Relay
import AmgiNetTools.Tunnel.Table
import AmgiNetTools.Tunnel.Closing
import AmgiNetTools.Http.Split
import AmgiNetTools.Http.Outcome
import AmgiNetTools.Http.Targets
import AmgiNetTools.Http.Absolute
import AmgiNetTools.Http.Fields
import AmgiNetTools.Library.Queries
import AmgiNetTools.Socks5.Greetings
import AmgiNetTools.Socks5.Addresses
import AmgiNetTools.Socks5.Requests
import AmgiNetTools.Socks5.Reply
import AmgiNetTools.Tunnel.Counter
import AmgiNetTools.Tunnel.Lifetime
import AmgiNetTools.Tunnel.Chain
import AmgiNetTools.Tunnel.Setup
import AmgiNetTools.Tunnel.Ending
import AmgiNetTools.Tunnel.Exact
import AmgiNetTools.Tunnel.Conversation
import AmgiNetTools.Session.Realize
import AmgiNetTools.Socks5.Exact
import AmgiNetTools.Http.Exact
import AmgiNetTools.Session.Returns
import AmgiNetTools.Session.Compose
import AmgiNetTools.Session.Drain
import AmgiNetTools.Session.Closing
import AmgiNetTools.Server.Endings
import AmgiNetTools.Server.Sessions
import AmgiNetTools.Server.Serving
import AmgiNetTools.Session.Wire
import AmgiNetTools.Http.Transparent
import AmgiNetTools.Http.Forwarding
import AmgiNetTools.Socks5.Transparent
import AmgiNetTools.Library.Writer
import AmgiNetTools.Session.Writers
import AmgiNetTools.Http.Forwarding
