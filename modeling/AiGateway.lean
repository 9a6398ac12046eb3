import AiGateway.Framework.Runs
import AiGateway.Framework.Gcra
import AiGateway.Framework.RustStd
import AiGateway.Config.RateLimit
import AiGateway.RateLimit.Redis
import AiGateway.RateLimit.Remaining
import AiGateway.RateLimit.Rate
import AiGateway.RateLimit.Concurrent
import AiGateway.Types.Provider
import AiGateway.Config.Router
import AiGateway.Discover.Key
import AiGateway.Monitor.RetryAfter
import AiGateway.Monitor.System
import AiGateway.Monitor.Exclusion
import AiGateway.Monitor.Panic
import AiGateway.Framework.ReadyCache
import AiGateway.Balancer.Weighted
import AiGateway.Dispatcher.Client
import AiGateway.Framework.Url
import AiGateway.Config.Helicone
import AiGateway.Dispatcher.Service
import AiGateway.Router.Meta
import AiGateway.Config.Read
import AiGateway.Framework.Text
import AiGateway.Types.ModelId
import AiGateway.Mapper.Model
import AiGateway.ControlPlane.State
import AiGateway.Config.Validation
import AiGateway.Types.Written
import AiGateway.Mapper.Sound
import AiGateway.Router.Route
import AiGateway.Framework.Registry
import AiGateway.Router.Wiring
import AiGateway.Cache.Service
import AiGateway.Dispatcher.Credentials
import AiGateway.Framework.InOrder
import AiGateway.Mapper.Conversation
import AiGateway.Mapper.Anthropic
import AiGateway.Mapper.Bedrock
import AiGateway.Mapper.Kept
import AiGateway.Monitor.Timers
import AiGateway.Router.Separation
import AiGateway.Dispatcher.Stream
import AiGateway.Mapper.Response
import AiGateway.Types.Completion
import AiGateway.Mapper.AnthropicStream
import AiGateway.Framework.Buffer
import AiGateway.Router.Readiness
import AiGateway.Monitor.Ticks
import AiGateway.Config.Limits
import AiGateway.RateLimit.Layer
import AiGateway.Cache.History
import AiGateway.Cache.Hits
import AiGateway.Balancer.Live
import AiGateway.Cache.Message
import AiGateway.Cache.Transparent
import AiGateway.RateLimit.Interchange
import AiGateway.Framework.Codec
import AiGateway.Framework.Record
import AiGateway.Config.Sections
import AiGateway.Config.Traffic
import AiGateway.Config.Load
import AiGateway.ControlPlane.Auth
import AiGateway.Mapper.Pinned
import AiGateway.Mapper.Request
import AiGateway.Mapper.AnthropicTools
import AiGateway.Mapper.BedrockStream
import AiGateway.Mapper.Answers
import AiGateway.RateLimit.Advice
import AiGateway.RateLimit.Expiry
import AiGateway.RateLimit.Key
import AiGateway.Monitor.Duplicates
import AiGateway.Framework.Layered
import AiGateway.Mapper.Relay
import AiGateway.Router.Fallback
import AiGateway.Monitor.HttpDate
import AiGateway.Router.Departure
import AiGateway.Discover.Shares
import AiGateway.Balancer.Chosen
import AiGateway.Framework.Stamped
import AiGateway.Monitor.RollingCounter
import AiGateway.Monitor.Health
import AiGateway.Monitor.Announced
import AiGateway.Cache.Probing
import AiGateway.Mapper.Preference
import AiGateway.Framework.Splits
import AiGateway.Types.Dates
import AiGateway.Types.WrittenDates
import AiGateway.Types.Reprinted
import AiGateway.Mapper.SameModel
import AiGateway.Framework.Base64
import AiGateway.Mapper.Sampling
import AiGateway.Mapper.Images
import AiGateway.Cache.Manager
import AiGateway.Cache.Status
import AiGateway.Framework.Channel
import AiGateway.Discover.Replay
import AiGateway.Mapper.OpenAI
import AiGateway.Mapper.OpenAIStream
import AiGateway.Types.Serialized
import AiGateway.Framework.Projection
import AiGateway.RateLimit.Greedy
import AiGateway.RateLimit.Shared
import AiGateway.Monitor.Recovery
import AiGateway.ControlPlane.Client
import AiGateway.Router.Mapped
import AiGateway.Router.Unified
import AiGateway.Framework.Effects
import AiGateway.Logger.Service
import AiGateway.Logger.Delivery
import AiGateway.Mapper.FromAnthropic
import AiGateway.RateLimit.FrontDoor
import AiGateway.Mapper.Returned
import AiGateway.Mapper.Registry
import AiGateway.Router.Conveyed
import AiGateway.Router.MetaRouter
