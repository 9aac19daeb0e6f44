import BrokerClient.Client.Channel
import BrokerClient.Settings

/-!
# Endpoints

An endpoint knows where the broker is and with which options clients talk to it.  Connecting gives
a client, unless the broker cannot be reached; a client whose first channel could not be opened is
given all the same, with that failure recorded.
-/

namespace BrokerClient

/-- A broker's address and the options of its clients. -/
structure Endpoint where
  url : String
  connectionName : String
  options : Options

namespace Endpoint

/-- The endpoint at an address, with the default options. -/
def new (url : String) : Endpoint where
  url := url
  connectionName := Settings.default.connectionName
  options := .default

/-- The endpoint that settings describe. -/
def ofSettings (settings : Settings) : Endpoint where
  url := settings.url
  connectionName := settings.connectionName
  options := settings.options

/-- The same endpoint with other options. -/
def withOptions (endpoint : Endpoint) (options : Options) : Endpoint :=
  { endpoint with options := options }

/-- Dial the broker; the client has no channel yet. -/
def dial (endpoint : Endpoint) (consumerId : String) : Program (Except TransportError Client) := do
  match ← Program.call (.dial endpoint.url) with
  | .ok connection => return .ok (.new connection endpoint.url consumerId endpoint.options)
  | .error error => return .error error

/-- Dial the broker and open a channel; `none` if the broker cannot be reached. -/
def connect (endpoint : Endpoint) (consumerId : String) : Program (Option Client) := do
  match ← endpoint.dial consumerId with
  | .ok client =>
      let (_, client) ← client.reset
      return some client
  | .error _ => return none

end Endpoint

end BrokerClient
