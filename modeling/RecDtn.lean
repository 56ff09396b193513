import RecDtn.Python.Value
import RecDtn.Python.Ops
import RecDtn.Python.Msgpack
import RecDtn.Messages.Types
import RecDtn.Messages.Bundle
import RecDtn.Messages.Message
import RecDtn.Messages.RoundTrip
import RecDtn.Messages.Decode
import RecDtn.Messages.Errors
import RecDtn.Broker.State
import RecDtn.Broker.Run
import RecDtn.Broker.Cycle
import RecDtn.Broker.Loop
