import Kmip.Lib.BigEndian
import Kmip.Lib.Traced
import Kmip.Lib.Raises
import Kmip.Lib.Slice
import Kmip.Lib.Hoare
import Kmip.Lib.Refinement
import Kmip.Lib.Prophecy
import Kmip.Lib.Resumable
import Kmip.Lib.Settling
import Kmip.Lib.Moves
import Kmip.Lib.Congruence
import Kmip.Lib.FirstSeen
import Kmip.Lib.Transition
import Kmip.Lib.Counting
import Kmip.Lib.BoundedPool
import Kmip.Lib.Window
import Kmip.Lib.Radix
import Kmip.Lib.Lines
import Kmip.Core.Errors
import Kmip.Core.Enums
import Kmip.Core.Basics
import Kmip.Core.SerializationBuffer
import Kmip.Core.BufferGrowth
import Kmip.Core.BufferCalls
import Kmip.Core.BufferObjects
import Kmip.Core.BufferLimits
import Kmip.Core.Ttlv
import Kmip.Core.Serialize
import Kmip.Core.Deserialize
import Kmip.Core.Codec
import Kmip.Core.RoundTrip
import Kmip.Core.Accesses
import Kmip.Core.Protocol
import Kmip.Core.Raised
import Kmip.Core.RequestRoundTrip
import Kmip.Core.ResponseRoundTrip
import Kmip.Core.BatchItemIds
import Kmip.Core.Text
import Kmip.Core.ErrorTexts
import Kmip.Core.Attributes
import Kmip.Core.AttributesParser
import Kmip.Core.Keys
import Kmip.Core.Requests
import Kmip.Core.AttributeEncodings
import Kmip.Core.AttributeRouting
import Kmip.Core.AttributeNumerals
import Kmip.Core.Responses
import Kmip.Core.KeyParser
import Kmip.Core.RegisterTrees
import Kmip.Core.RegisterPairs
import Kmip.Core.RequestAttributes
import Kmip.Core.RegisterGet
import Kmip.Core.RequestPayloads
import Kmip.Core.Formatter
import Kmip.Core.Redaction
import Kmip.Core.LogLines
import Kmip.Core.ResponseParser
import Kmip.Core.InternalErrors
import Kmip.Core.TypedResponses
import Kmip.Core.LocatePayloads
import Kmip.Core.MessageSizes
import Kmip.Core.Selectors
import Kmip.Util.Encoding
import Kmip.Util.Base64
import Kmip.Util.KeyText
import Kmip.Client.Locate
import Kmip.Client.LocateRules
import Kmip.Client.LocateComplete
import Kmip.Client.LocateFirstSeen
import Kmip.Client.LocateBounds
import Kmip.Client.LocateExact
import Kmip.Client.Pool
import Kmip.Client.PoolMoves
import Kmip.Client.PoolAccounting
import Kmip.Client.PoolSafety
import Kmip.Client.IOUtils
import Kmip.Client.ExchangeRules
import Kmip.Client.ExchangeFraming
import Kmip.Client.Session
import Kmip.Client.KeyFormats
import Kmip.Client.GetOperations
import Kmip.Client.GetRetries
import Kmip.Client.Transport
import Kmip.Client.Ownership
import Kmip.Client.LocatePages
import Kmip.Client.Operations
import Kmip.Client.SessionRequests
import Kmip.Client.SessionTransport
import Kmip.Client.Commands
import Kmip.Client.LocateWire
import Kmip.Client.LocateService
import Kmip.Client.LocateTransport
import Kmip.Client.NetClient
import Kmip.Client.NetClientSafety
import Kmip.Client.ExchangeTransports
import Kmip.Client.NetClientExchanges
import Kmip.Client.NetClientWaits
import Kmip.Client.ExchangeReplies
import Kmip.Client.PoolFrames
import Kmip.Client.PooledExchanges
import Kmip.Client.ExchangeLog
