import BrokerClient.Client

/-!
# Opening and closing

Resetting a client gives it a new channel, on a new connection if the old one is closed.  The old
channel is closed first, and both registries are emptied, for what they hold belongs to it.
-/

namespace BrokerClient.Client

/-- Dial again if the connection is closed; a failure changes nothing. -/
def redial (client : Client) : Program (Outcome Unit) := do
  if ← Program.request (.isClosed client.connection) then
    match ← Program.call (.dial client.url) with
    | .ok connection => return (.ok (), { client with connection := connection })
    | .error error => return (.error (.connection client.url error.message), client)
  else
    return (.ok (), client)

/-- Ask the channel to close, if one is held; it may be beyond that already. -/
def closeChannel (client : Client) : Program Unit := do
  match client.channel with
  | some channel =>
      let _ ← Program.call (.closeChannel channel)
      return
  | none => return

/-- The client without its channel and all that belongs to it. -/
def withoutChannel (client : Client) : Client :=
  { client with channel := none, queues := [], streams := [] }

/-- Close the channel, give its streams up and open a new one. -/
def replaceChannel (client : Client) : Program (Outcome Unit) := do
  client.closeChannel
  releaseAll (client.streams.map Prod.snd)
  let client := client.withoutChannel
  match ← Program.call (.openChannel client.connection) with
  | .ok channel => return (.ok (), { client with channel := some channel })
  | .error error => return (.error (.channel error.message), client)

/-- Get a new channel, on a new connection if need be. -/
def reopen (client : Client) : Program (Outcome Unit) := do
  match ← client.redial with
  | (.ok (), client) => client.replaceChannel
  | (.error error, client) => return (.error error, client)

/-- Reset the client to a new channel. -/
def reset (client : Client) : Program (Outcome Unit) :=
  record client.reopen

/-- Close the connection behind the channel. -/
def closeBoth (client : Client) : Program (Outcome Unit) := do
  client.closeChannel
  return client.outcomeOf .close (← Program.call (.closeConnection client.connection))

/-- Close the channel, then the connection, which decides the outcome. -/
def close (client : Client) : Program (Outcome Unit) :=
  record client.closeBoth

end BrokerClient.Client
