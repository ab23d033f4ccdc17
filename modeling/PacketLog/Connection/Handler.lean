/-! # Handlers

A handler is a short program: it makes itself heard, waits for its connection to be closed or for a
word of its own to finish, or breaks down. `Handler.advance` runs it as far as the signals it has
received allow. However it ends, it gives up its guard.
-/

namespace PacketLog

/-- What a handler makes heard. -/
inductive Word
  | started
  | closed
  | finished
  | ended
  deriving DecidableEq, Repr

/-- One act of a handler. -/
inductive Act
  | say (word : Word)
  | awaitClose
  | awaitFinish
  | awaitEither
  | breakDown
  deriving DecidableEq, Repr

/-- The ways a handler can behave. Two of them concern its making: its guard is given up at once, or
making it breaks down. -/
inductive HandlerMode
  | exit
  | wait
  | waitTwice
  | waitOrFinish
  | deaf
  | stubborn
  | breakAtOnce
  | breakOnClose
  | breakOnFinish
  | giveUpGuard
  | breakWhenMade
  deriving DecidableEq, Repr

/-- The acts of a handler. -/
def HandlerMode.acts : HandlerMode → List Act
  | .exit => [.say .started, .say .ended]
  | .wait => [.say .started, .awaitClose, .say .closed, .say .ended]
  | .waitTwice =>
      [.say .started, .awaitClose, .say .closed, .awaitClose, .say .closed, .say .ended]
  | .waitOrFinish => [.say .started, .awaitEither, .say .ended]
  | .deaf => [.say .started, .awaitFinish, .say .finished, .say .ended]
  | .stubborn =>
      [.say .started, .awaitFinish, .say .finished, .awaitClose, .say .closed, .say .ended]
  | .breakAtOnce => [.say .started, .breakDown]
  | .breakOnClose => [.say .started, .awaitClose, .say .closed, .breakDown]
  | .breakOnFinish => [.say .started, .awaitFinish, .breakDown]
  | .giveUpGuard | .breakWhenMade => []

/-- A handler at work: the key and the port its guard carries, the acts left to do, the signals it
has received, and whether it still holds its guard. -/
structure Handler where
  key : Nat
  port : Nat
  acts : List Act
  closeSent : Bool
  finishSent : Bool
  guarded : Bool
  deriving DecidableEq, Repr

namespace Handler

/-- Acts as far as the received signals allow. Answers what is heard meanwhile and the acts left. A
close is noticed before a word to finish. -/
def act (closeSent finishSent : Bool) : List Act → List Word × List Act
  | [] => ([], [])
  | .say word :: rest =>
      let (heard, left) := act closeSent finishSent rest
      (word :: heard, left)
  | .awaitClose :: rest =>
      if closeSent then act closeSent finishSent rest else ([], .awaitClose :: rest)
  | .awaitFinish :: rest =>
      if finishSent then act closeSent finishSent rest else ([], .awaitFinish :: rest)
  | .awaitEither :: rest =>
      if closeSent then
        let (heard, left) := act closeSent finishSent rest
        (.closed :: heard, left)
      else if finishSent then
        let (heard, left) := act closeSent finishSent rest
        (.finished :: heard, left)
      else ([], .awaitEither :: rest)
  | .breakDown :: _ => ([], [])

/-- Runs the handler as far as it gets. -/
def advance (h : Handler) : List Word × Handler :=
  let (heard, acts) := act h.closeSent h.finishSent h.acts
  (heard, { h with acts })

/-- Whether the handler has ended, well or badly. -/
def isDone (h : Handler) : Bool := h.acts.isEmpty

end Handler

end PacketLog
