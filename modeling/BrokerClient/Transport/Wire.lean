import BrokerClient.Transport.Error

/-!
# Failures on the wire

The wire protocol reports failures by reply codes and by states of channels and connections.  They
are classified by what a client can do about them: a queue that is unknown now may be known later,
a channel or connection in a wrong state has to be replaced, and the rest is only reported.
-/

namespace BrokerClient

/-- Whether a reply code ends the channel or the whole connection. -/
inductive Severity where
  | soft
  | hard
  deriving Repr, DecidableEq

/-- A reply code that the protocol defines, with its name. -/
structure ReplyCode where
  number : Nat
  severity : Severity
  name : String
  deriving Repr, DecidableEq

namespace ReplyCode

/-- All reply codes of the protocol. -/
def all : List ReplyCode :=
  [
    ⟨311, .soft, "CONTENT-TOO-LARGE"⟩,
    ⟨312, .soft, "NO-ROUTE"⟩,
    ⟨313, .soft, "NO-CONSUMERS"⟩,
    ⟨403, .soft, "ACCESS-REFUSED"⟩,
    ⟨404, .soft, "NOT-FOUND"⟩,
    ⟨405, .soft, "RESOURCE-LOCKED"⟩,
    ⟨406, .soft, "PRECONDITION-FAILED"⟩,
    ⟨320, .hard, "CONNECTION-FORCED"⟩,
    ⟨402, .hard, "INVALID-PATH"⟩,
    ⟨501, .hard, "FRAME-ERROR"⟩,
    ⟨502, .hard, "SYNTAX-ERROR"⟩,
    ⟨503, .hard, "COMMAND-INVALID"⟩,
    ⟨504, .hard, "CHANNEL-ERROR"⟩,
    ⟨505, .hard, "UNEXPECTED-FRAME"⟩,
    ⟨506, .hard, "RESOURCE-ERROR"⟩,
    ⟨530, .hard, "NOT-ALLOWED"⟩,
    ⟨540, .hard, "NOT-IMPLEMENTED"⟩,
    ⟨541, .hard, "INTERNAL-ERROR"⟩
  ]

/-- The reply code with a number. -/
def ofNat? (number : Nat) : Option ReplyCode :=
  all.find? fun code => code.number = number

/-- The number that says that a name is unknown. -/
def notFoundNumber : Nat := 404

end ReplyCode

/-- A failure as the wire protocol reports it. -/
inductive WireError where
  | reply (code : ReplyCode) (text : String)
  | channelState (state : String)
  | connectionState (state : String)
  | unknownChannel (number : Nat)
  | network (text : String)
  | missedHeartbeat
  | tooManyChannels
  deriving Repr, DecidableEq

namespace WireError

/-- The words for a failure on the wire. -/
def message : WireError → String
  | .reply code text =>
      let severity := match code.severity with
        | .soft => "soft"
        | .hard => "hard"
      "protocol error: AMQP " ++ severity ++ " error: " ++ code.name ++ ": " ++ text
  | .channelState state => "invalid channel state: " ++ state
  | .connectionState state => "invalid connection state: " ++ state
  | .unknownChannel number => "invalid channel: " ++ toString number
  | .network text => "IO error: " ++ text
  | .missedHeartbeat => "no heartbeat received from server for too long"
  | .tooManyChannels => "the maximum number of channels for this connection has been reached"

/-- What a failure on the wire means to a client. -/
def classify (error : WireError) : TransportError :=
  match error with
  | .reply code _ =>
      if code.number = ReplyCode.notFoundNumber then .notFound error.message
      else .protocol error.message
  | .channelState _ => .closed error.message
  | .connectionState _ => .closed error.message
  | _ => .protocol error.message

/-- An unknown name is reported by one reply code only. -/
theorem isNotFound_classify {error : WireError} :
    error.classify.isNotFound = true ↔
      ∃ code text, error = .reply code text ∧ code.number = ReplyCode.notFoundNumber := by
  cases error with
  | reply code text =>
      by_cases isNotFoundNumber : code.number = ReplyCode.notFoundNumber <;>
        simp [classify, isNotFoundNumber, TransportError.isNotFound]
  | _ => simp [classify, TransportError.isNotFound]

end WireError

end BrokerClient
