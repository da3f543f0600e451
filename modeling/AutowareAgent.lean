import AutowareAgent.Acknowledgements
import AutowareAgent.Answers
import AutowareAgent.Bank
import AutowareAgent.BankedRoutes
import AutowareAgent.Bridges
import AutowareAgent.Callbacks
import AutowareAgent.Cancellation
import AutowareAgent.Centrelines
import AutowareAgent.Clusters
import AutowareAgent.Completions
import AutowareAgent.Components
import AutowareAgent.Couplings
import AutowareAgent.Deadlines
import AutowareAgent.Deliveries
import AutowareAgent.Destinations
import AutowareAgent.Engagement
import AutowareAgent.EtaRequests
import AutowareAgent.EventStream
import AutowareAgent.Forgetting
import AutowareAgent.Frames
import AutowareAgent.Handshake
import AutowareAgent.Islands
import AutowareAgent.LanePointers
import AutowareAgent.LaneReads
import AutowareAgent.LegData
import AutowareAgent.Localisation
import AutowareAgent.Locations
import AutowareAgent.NextTrip
import AutowareAgent.Offsets
import AutowareAgent.Pacing
import AutowareAgent.Phases
import AutowareAgent.Plannings
import AutowareAgent.QuotedTrips
import AutowareAgent.ReadLoop
import AutowareAgent.Rejections
import AutowareAgent.Requests
import AutowareAgent.Shutdown
import AutowareAgent.Startup
import AutowareAgent.StateChanges
import AutowareAgent.StreamLife
import AutowareAgent.Streaming
import AutowareAgent.Surroundings
import AutowareAgent.Tickers
import AutowareAgent.TripData
import AutowareAgent.TripEvents
import AutowareAgent.TripFrames
import AutowareAgent.TripIds
import AutowareAgent.Uplink
