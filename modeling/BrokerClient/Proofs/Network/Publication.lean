import BrokerClient.Proofs.Network.Pausing
import BrokerClient.Proofs.Network.Supply
import BrokerClient.Proofs.Network.Upkeep

/-!
# Publishing to a missing queue

Whoever publishes successfully has had a usable channel and a message that can be encoded.  A queue
that is missing has neither a backlog nor consumers, so what is published to it is alone in it
afterwards.
-/

namespace BrokerClient

namespace Client

variable {client : Client} {broker : Broker} {queue : String} {message : Outgoing}

/-- Without a channel nothing is declared, and the client stays without one. -/
theorem declare_attains_of_no_channel
    (absent : client.channel = none)
    (definition : QueueDefinition)
    (drawnIds : Nat) :
    (client.declare definition).Attains (fun ended _ => ended.2.channel = none) broker
      drawnIds := by
  unfold declare
  split
  · exact absent
  · simp only [absent]
    exact absent

/-- Whoever publishes successfully has a usable channel and a message that can be encoded. -/
theorem publish_attains_usable
    (client : Client)
    (broker : Broker)
    (tracing : Tracing)
    (queue : String)
    (message : Outgoing)
    (drawnIds : Nat) :
    (client.publish tracing queue message).Attains
      (fun ended _ =>
        ended.1 = .ok () →
          (∃ channel, client.channel = some channel ∧ broker.isOpen channel = true) ∧
            ∃ body, message.body = .ok body)
      broker drawnIds := by
  cases encoded : message.body with
  | error error =>
      have fails :
          (client.sendDeclared tracing queue message).Attains (fun ended _ => ended.1 ≠ .ok ())
            broker drawnIds := by
        refine (Program.attains_end (client.declare (.new queue)) broker drawnIds).bind ?_
        rintro ⟨outcome, declared⟩ after drawn -
        cases outcome with
        | error failure => exact fun isOk => by cases isOk
        | ok value =>
            simp only [encoded]
            exact fun isOk => by cases isOk
      exact fails.bind fun ended after drawn fails isOk => absurd isOk fails
  | ok body =>
      cases isHeld : client.channel with
      | none =>
          have fails :
              (client.sendDeclared tracing queue message).Attains (fun ended _ => ended.1 ≠ .ok ())
                broker drawnIds := by
            refine (declare_attains_of_no_channel isHeld (.new queue) drawnIds).bind ?_
            rintro ⟨outcome, declared⟩ after drawn absent
            cases outcome with
            | error failure => exact fun isOk => by cases isOk
            | ok value =>
                have stillAbsent : declared.channel = none := absent
                simp only [encoded, send, stillAbsent]
                exact fun isOk => by cases isOk
          exact fails.bind fun ended after drawn fails isOk => absurd isOk fails
      | some channel =>
          obtain ⟨history, ended, after, drawnThen, course, -, isOk_iff⟩ :=
            publish_course_of_held isHeld broker tracing queue encoded drawnIds
          exact course.attains fun isOk => ⟨⟨channel, rfl, isOk_iff.mp isOk⟩, body, rfl⟩

/-- A message that is published to a missing queue is alone there, and nobody consumes it. -/
theorem publish_course_of_missing
    {channel : Channel}
    (isHeld : client.channel = some channel)
    (usable : broker.isOpen channel = true)
    (noConsumer : ∀ entry ∈ broker.consumers, entry.2.queue ≠ queue)
    (noBacklog : broker.backlog queue = [])
    (tracing : Tracing)
    {body : List UInt8}
    (encoded : message.body = .ok body)
    (drawnIds : Nat) :
    ∃ history ended after drawnThen delivery,
      (client.publish tracing queue message).Course broker drawnIds history ended after drawnThen ∧
        (∀ exchange ∈ history, exchange.IsPrompt) ∧
          after.queues.get? queue = some [delivery] ∧ after.consumers = broker.consumers ∧
            delivery.Carries queue body := by
  obtain ⟨history, queues, declares, stored, properties, sends, prompt, backlog, contentType⟩ :=
    sendDeclared_course isHeld usable tracing queue encoded drawnIds
  let declared := { broker with declares := declares, queues := stored }
  let publication := Publication.toQueue queue body properties
  let delivery := Broker.message (declared.accepted + 1) queue properties body
  have published := @Broker.publish_of_no_consumer declared publication noConsumer
  have isAlone : declared.backlog queue ++ [delivery] = [delivery] := by
    rw [show declared.backlog queue = [] from backlog.trans noBacklog, List.nil_append]
  refine ⟨history, _, declared.publish publication, _, delivery, sends.bind_done rfl, prompt, ?_,
    ?_, rfl, rfl, rfl, rfl, contentType⟩
  · rw [published, ← isAlone]
    exact Dictionary.get?_insert_same _ _ _
  · rw [published]

end Client

namespace Network

variable {network : Network} {place : Nat} {queue : String}

/-- What an operation attains that is over at once fits its outcome. -/
theorem Returns.of_attains
    {operation : Operation}
    {client : Client}
    {fits holds : Except ClientError operation.Value → Prop}
    (returns : network.Returns place operation fits)
    (idle : network.parties[place]? = some (.idle client))
    (receivesNothing : operation.source? = none)
    (attains :
      (operation.program client).Attains (fun ended _ => holds ended.1) network.broker
        network.drawnIds) :
    ∃ outcome, fits outcome ∧ holds outcome := by
  obtain ⟨told, outcome, log, isFit⟩ := returns
  obtain ⟨others, attained, logThen, isHeld⟩ := returns_of_attains idle receivesNothing attains
  have same := List.append_inj_right' (log.symm.trans logThen) rfl
  obtain ⟨-, -, rfl⟩ := Event.finished.inj (List.head_eq_of_cons_eq same)
  exact ⟨outcome, isFit, isHeld⟩

/-- Whoever returns from an operation was idle before. -/
theorem Returns.idle
    {operation : Operation}
    {fits : Except ClientError operation.Value → Prop}
    (returns : network.Returns place operation fits) :
    ∃ client, network.parties[place]? = some (.idle client) := by
  obtain ⟨told, outcome, log, -⟩ := returns
  by_contra notIdle
  have still : network.step (.start place operation) = network := by
    simp only [step]
    split
    · next client idle => exact absurd ⟨client, idle⟩ notIdle
    · rfl
  rw [still] at log
  simpa using congrArg List.length log

/-- A message that is successfully published to a missing queue is stored there. -/
theorem Returns.stored
    {tracing : Tracing}
    {message : Outgoing}
    (returns : network.Returns place (.publish tracing queue message) (· = .ok ()))
    (supplied : network.broker.Supplied)
    (missing : network.broker.queueExists queue = false) :
    let after := network.step (.start place (.publish tracing queue message))
    ∃ body delivery,
      message.body = .ok body ∧ delivery.Carries queue body ∧
        after.broker.queues.get? queue = some [delivery] ∧ Stored queue delivery after.broker := by
  intro after
  obtain ⟨client, idle⟩ := returns.idle
  obtain ⟨_, isOk, succeeds⟩ :
      ∃ outcome : Except ClientError Unit,
        outcome = .ok () ∧
          (outcome = .ok () →
            (∃ channel, client.channel = some channel ∧ network.broker.isOpen channel = true) ∧
              ∃ body, message.body = .ok body) :=
    returns.of_attains idle rfl
      (client.publish_attains_usable network.broker tracing queue message network.drawnIds)
  obtain ⟨⟨channel, isHeld, usable⟩, body, encoded⟩ := succeeds isOk
  have noConsumer : ∀ entry ∈ network.broker.consumers, entry.2.queue ≠ queue := by
    rintro entry member rfl
    cases missing.symm.trans (supplied.consumers entry member)
  obtain
    ⟨history, ended, left, drawnThen, delivery, course, prompt, alone, sameConsumers, carries⟩ :=
    Client.publish_course_of_missing isHeld usable noConsumer
      (Broker.backlog_of_not_queueExists missing) tracing encoded network.drawnIds
  have isAfter :
      after = network.taking place (.publish tracing queue message) history ended left _ :=
    step_start_of_course idle course prompt
  refine ⟨body, delivery, encoded, carries, by rw [isAfter]; exact alone, ⟨[], ?_⟩, ?_⟩
  · rw [isAfter]
    simp [taking, Broker.backlog, alone]
  · rw [isAfter]
    exact sameConsumers ▸ noConsumer

end Network

end BrokerClient
