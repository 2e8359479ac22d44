import NativeBridge.Host.Request

/-!
# The log of the engine
-/

namespace NativeBridge.Engine

open NativeBridge.Host

/-- How much a message matters. -/
inductive LogLevel where
  | trace | debug | info | warn | error
  deriving DecidableEq, Repr, Inhabited

/-- The order of levels, from the least one up. -/
def LogLevel.rank : LogLevel → Nat
  | trace => 0
  | debug => 1
  | info => 2
  | warn => 3
  | error => 4

/-- A message that was kept. -/
structure LogRecord where
  level : LogLevel
  text : String
  deriving DecidableEq, Repr

/-- The least level that is kept, and the messages kept since they were last taken. -/
structure LogSink where
  minimum : LogLevel
  records : List LogRecord
  deriving Repr

namespace LogSink

/-- The log at the start. -/
def fresh : LogSink :=
  ⟨.info, []⟩

/-- Sets the least level that is kept from now on. -/
def setMinimum (sink : LogSink) (level : LogLevel) : LogSink :=
  { sink with minimum := level }

/-- The message to keep, if its text can be read and its level is high enough. -/
def record? (minimum : LogLevel) (level : LogLevel) (text : WideText) : Option LogRecord := do
  let text ← text.text?
  if level.rank < minimum.rank then none else some ⟨level, text⟩

/-- Writes a message. -/
def write (sink : LogSink) (level : LogLevel) (text : WideText) : LogSink :=
  { sink with records := sink.records ++ (record? sink.minimum level text).toList }

/-- Takes the messages out. -/
def take (sink : LogSink) : List LogRecord × LogSink :=
  (sink.records, { sink with records := [] })

end LogSink

/-- A call about the log. -/
inductive LogCall where
  | write (level : LogLevel) (text : WideText)
  | setMinimum (level : LogLevel)
  | take
  deriving Inhabited

namespace LogSink

/-- Answers a call; only taking returns messages. -/
def answer (sink : LogSink) : LogCall → Option (List LogRecord) × LogSink
  | .write level text => (none, sink.write level text)
  | .setMinimum level => (none, sink.setMinimum level)
  | .take => (some sink.take.1, sink.take.2)

/-- Answers calls in order: the batches that were taken, and the log then. -/
def answerAll (sink : LogSink) : List LogCall → List (List LogRecord) × LogSink
  | [] => ([], sink)
  | call :: rest =>
      let (batch, next) := sink.answer call
      let (batches, last) := next.answerAll rest
      (batch.toList ++ batches, last)

end LogSink

end NativeBridge.Engine
