import BrokerClient.Endpoint
import BrokerClient.Proofs.Broker.Stock
import BrokerClient.Proofs.Client.Conduct

/-!
# Clients around one broker

A network consists of a broker in memory and any number of parties, each of which has a client.
The parties are cooperative: an operation runs until it waits, for a delivery or for time to pass,
and only then others get their turn, since no call to a broker in memory makes its caller wait.
In which order the waits go on, and what happens to the broker meanwhile, is up to the moves.

The log tells what happened.  It is written for the statements about runs; nothing reads it while
a network runs.
-/

namespace BrokerClient

/-- Whether a request makes its program wait. -/
def Request.waits : Request → Bool
  | .sleep _ => true
  | .next .. => true
  | _ => false

/-- What happens to a broker besides the calls of clients. -/
inductive Disturbance where
  | pushRaw (queue : String) (body : List UInt8)
  | dropConsumers
  | dropConnections
  | refuseDials (refuses : Bool)
  | settle (delivery : Delivery) (settlement : Settlement)

/-- The broker after a disturbance. -/
def Broker.disturb (broker : Broker) : Disturbance → Broker
  | .pushRaw queue body => broker.pushRaw queue body
  | .dropConsumers => broker.dropConsumers
  | .dropConnections => broker.dropConnections
  | .refuseDials refuses => broker.refuseDials refuses
  | .settle delivery settlement => (broker.settle delivery settlement).2

/-- What can happen in a network. -/
inductive Move : Type 1 where
  /-- Somebody dials the broker and gets a client. -/
  | join (consumerId : String) (endpoint : Endpoint)
  | start (party : Nat) (operation : Operation)
  /-- A wait goes on: it has ended or, where nothing has arrived, its time is over. -/
  | resume (party : Nat)
  /-- A party lets its client go, in the middle of an operation or not. -/
  | leave (party : Nat)
  | disturb (disturbance : Disturbance)

/-- What is told of a network. -/
inductive Event : Type 1 where
  | joined (connection : Connection)
  | asked (party : Nat) (operation : Operation) (exchange : Exchange)
  /-- A stream is given up, with what is left in it. -/
  | gaveUp (party : Nat) (stream : Stream) (unread : List Delivery)
  | finished (party : Nat) (operation : Operation)
      (outcome : Except ClientError operation.Value)
  | leaving (party : Nat)
  | disturbed (disturbance : Disturbance)

/-- One of those around the broker. -/
inductive Party : Type 1 where
  | idle (client : Client)
  /-- In the middle of an operation, with what is left of it. -/
  | busy (operation : Operation) (standing : Standing)
      (rest : Program (Outcome operation.Value))
  /-- Without a client, and about to give up the streams that it had. -/
  | gone (abandoned : List Stream)

namespace Party

/-- The client of a party as it is now. -/
def client? : Party → Option Client
  | .idle client => some client
  | .busy _ standing _ => some standing.client
  | .gone _ => none

/-- The operation that a party is in the middle of. -/
def operation? : Party → Option Operation
  | .busy operation _ _ => some operation
  | _ => none

/-- The streams that a party is about to give up. -/
def abandoned : Party → List Stream
  | .idle _ => []
  | .busy _ standing _ => standing.abandoned
  | .gone abandoned => abandoned

/-- All streams that a party has not given up yet. -/
def streams (party : Party) : List Stream :=
  party.abandoned ++ (party.client?.map fun client => client.streams.map Prod.snd).getD []

end Party

/-- A broker and those around it. -/
structure Network where
  broker : Broker
  /-- How many identifiers have been drawn. -/
  drawnIds : Nat
  parties : List Party
  /-- What happened, the earliest first. -/
  log : List Event

namespace Network

/-- A broker that nobody has talked to, with nobody around it. -/
def start (arbitration : Arbitration) : Network where
  broker := .empty arbitration
  drawnIds := 0
  parties := []
  log := []

/-- Put a party in a place. -/
def seat (network : Network) (place : Nat) (party : Party) : Network :=
  { network with parties := network.parties.set place party }

/-- Tell an event. -/
def tell (network : Network) (event : Event) : Network :=
  { network with log := network.log ++ [event] }

/-- What a request is answered with, where every wait is at its end. -/
def answer (network : Network) : (request : Request) → request.Answer
  | .transport call => (network.broker.perform call).1
  | .isClosed connection => network.broker.isClosed connection
  | .sleep _ => ()
  | .next stream _ =>
      match network.broker.poll stream with
      | .item delivery _ => .item (.ok delivery)
      | .ended => .ended
      | .pending => .timedOut
  | .release _ => ()
  | .describe _ => ()
  | .freshId => MessageId.ofNat network.drawnIds

/-- The broker after a request was answered. -/
def brokerAfter (network : Network) : Request → Broker
  | .transport call => (network.broker.perform call).2
  | .next stream _ =>
      match network.broker.poll stream with
      | .item _ broker => broker
      | _ => network.broker
  | .release stream => network.broker.release stream
  | _ => network.broker

/-- How many identifiers have been drawn after a request was answered. -/
def drawnAfter (network : Network) : Request → Nat
  | .freshId => network.drawnIds + 1
  | _ => network.drawnIds

/-- Give a stream up, which leaves a party in a place. -/
def dropStream (network : Network) (place : Nat) (stream : Stream) (party : Party) : Network where
  broker := network.broker.release stream
  drawnIds := network.drawnIds
  parties := network.parties.set place party
  log := network.log ++ [.gaveUp place stream (network.broker.buffer stream)]

/-- Answer a request of a party that is in the middle of an operation. -/
def exchange
    (network : Network)
    (place : Nat)
    (operation : Operation)
    (standing : Standing)
    (request : Request)
    (next : request.Answer → Program (Outcome operation.Value)) :
    Network :=
  let answer := network.answer request
  let party := .busy operation (standing.after operation ⟨request, answer⟩) (next answer)
  match request with
  | .release stream => network.dropStream place stream party
  | request =>
      { broker := network.brokerAfter request
        drawnIds := network.drawnAfter request
        parties := network.parties.set place party
        log := network.log ++ [.asked place operation ⟨request, network.answer request⟩] }

/-- Let a party finish an operation. -/
def finish
    (network : Network)
    (place : Nat)
    (operation : Operation)
    (ended : Outcome operation.Value) :
    Network :=
  (network.seat place (.idle ended.2)).tell (.finished place operation ended.1)

/-- Let a party go on with its operation, up to its next wait. -/
def proceed
    (place : Nat)
    (operation : Operation) :
    Program (Outcome operation.Value) → Standing → Network → Network
  | .done ended, _, network => network.finish place operation ended
  | .ask request next, standing, network =>
      if request.waits then
        network
      else
        proceed place operation
          (next (network.answer request))
          (standing.after operation ⟨request, network.answer request⟩)
          (network.exchange place operation standing request next)

/-- Give up streams, one after the other. -/
def giveUp (place : Nat) : List Stream → Network → Network
  | [], network => network
  | stream :: rest, network =>
      giveUp place rest (network.dropStream place stream (.gone rest))

/-- Make a move; one that is not possible changes nothing. -/
def step (network : Network) : Move → Network
  | .join consumerId endpoint =>
      match network.broker.dial with
      | (.ok connection, broker) =>
          let client := .new connection endpoint.url consumerId endpoint.options
          { network with
            broker := broker
            parties := network.parties ++ [.idle client]
            log := network.log ++ [.joined connection] }
      | (.error _, _) => network
  | .start place operation =>
      match network.parties[place]? with
      | some (.idle client) =>
          let standing := Standing.start client
          let program := operation.program client
          (network.seat place (.busy operation standing program)).proceed place operation
            program standing
      | _ => network
  | .resume place =>
      match network.parties[place]? with
      | some (.busy operation standing (.ask request next)) =>
          (network.exchange place operation standing request next).proceed place operation
            (next (network.answer request))
            (standing.after operation ⟨request, network.answer request⟩)
      | _ => network
  | .leave place =>
      match network.parties[place]? with
      | some party =>
          ((network.tell (.leaving place)).seat place (.gone party.streams)).giveUp place
            party.streams
      | none => network
  | .disturb disturbance =>
      { network with
        broker := network.broker.disturb disturbance
        log := network.log ++ [.disturbed disturbance] }

/-- Make moves one after the other. -/
def run (network : Network) (moves : List Move) : Network :=
  moves.foldl step network

end Network

end BrokerClient
