import BlockSigner.Text
import BlockSigner.Json.Value

/-! # Execution of the signer

The signer acts on the outside by starting `curl` and by writing log lines. A
computation therefore maps a world to a result and the world it leaves: what
each further start of `curl` will do is fixed in the world, arbitrarily, and
every act is recorded there. A Java exception ends a computation and keeps the
record.
-/

namespace BlockSigner

abbrev Bytes := List UInt8

/-! ## Exceptions -/

inductive ExceptionClass where
  | nullPointer
  | illegalArgument
  | illegalState
  | runtime
  | classCast
  | unsupportedOperation
  | io
  | interrupted
  | jsonSyntax
  | other (name : Text)
  deriving DecidableEq

def ExceptionClass.name : ExceptionClass → Text
  | .nullPointer => "java.lang.NullPointerException".toList
  | .illegalArgument => "java.lang.IllegalArgumentException".toList
  | .illegalState => "java.lang.IllegalStateException".toList
  | .runtime => "java.lang.RuntimeException".toList
  | .classCast => "java.lang.ClassCastException".toList
  | .unsupportedOperation => "java.lang.UnsupportedOperationException".toList
  | .io => "java.io.IOException".toList
  | .interrupted => "java.lang.InterruptedException".toList
  | .jsonSyntax => "com.google.gson.JsonSyntaxException".toList
  | .other name => name

structure JavaException where
  cls : ExceptionClass
  message : Option Text
  deriving DecidableEq

def JavaException.toString (e : JavaException) : Text :=
  match e.message with
  | some message => e.cls.name ++ ": ".toList ++ message
  | none => e.cls.name

/-- An exception that the source throws with a text of its own. -/
def exception (cls : ExceptionClass) (message : String) : JavaException :=
  ⟨cls, some message.toList⟩

/-! ## The world -/

/-- How the `curl` process ended: an exit status and all it wrote to its output,
    or an exception of `start`, `waitFor` or the read loop. -/
inductive CurlProcess where
  | exited (status : Int) (stdout : Text)
  | raised (e : JavaException)

/-- One start of `curl`, with the clock reading taken before it. -/
structure CurlRun where
  nanoTime : Int
  process : CurlProcess

inductive Event where
  | curl (command : List Text) (run : CurlRun)
  | log (message : Text)

/-- `lastSubmittedHash` is the local variable of the signing loop; the loop body
    assigns it, also when an exception ends the body later on. -/
structure World where
  node : Nat → CurlRun
  events : List Event
  lastSubmittedHash : Option Bytes

def World.emit (w : World) (event : Event) : World :=
  { w with events := w.events ++ [event] }

/-- The next start of `curl`. -/
def World.curl (w : World) (command : List Text) : World :=
  { w with node := fun i => w.node (i + 1), events := w.events ++ [.curl command (w.node 0)] }

@[simp] theorem World.emit_node (w : World) (event : Event) : (w.emit event).node = w.node := rfl

@[simp] theorem World.emit_events (w : World) (event : Event) :
    (w.emit event).events = w.events ++ [event] := rfl

@[simp] theorem World.emit_lastSubmittedHash (w : World) (event : Event) :
    (w.emit event).lastSubmittedHash = w.lastSubmittedHash := rfl

@[simp] theorem World.curl_node (w : World) (command : List Text) (i : Nat) :
    (w.curl command).node i = w.node (i + 1) := rfl

@[simp] theorem World.curl_events (w : World) (command : List Text) :
    (w.curl command).events = w.events ++ [.curl command (w.node 0)] := rfl

@[simp] theorem World.curl_lastSubmittedHash (w : World) (command : List Text) :
    (w.curl command).lastSubmittedHash = w.lastSubmittedHash := rfl

/-! ## Computations -/

def Exec (α : Type) : Type := World → Except JavaException α × World

namespace Exec

def run {α : Type} (x : Exec α) (w : World) : Except JavaException α × World := x w

instance : Monad Exec where
  pure a := fun w => (.ok a, w)
  bind x f := fun w =>
    match x w with
    | (.ok a, w') => f a w'
    | (.error e, w') => (.error e, w')

instance : MonadExceptOf JavaException Exec where
  throw e := fun w => (.error e, w)
  tryCatch x handler := fun w =>
    match x w with
    | (.ok a, w') => (.ok a, w')
    | (.error e, w') => handler e w'

/-- A computation that does not touch the world. -/
def ofExcept {α : Type} (result : Except JavaException α) : Exec α := fun w => (result, w)

instance : MonadLift (Except JavaException) Exec := ⟨ofExcept⟩

variable {α β : Type}

@[simp] theorem pure_run (a : α) (w : World) : (pure a : Exec α).run w = (.ok a, w) := rfl

theorem bind_run (x : Exec α) (f : α → Exec β) (w : World) :
    (x >>= f).run w =
      match x.run w with
      | (.ok a, w') => (f a).run w'
      | (.error e, w') => (.error e, w') := rfl

theorem tryCatch_run (x : Exec α) (handler : JavaException → Exec α) (w : World) :
    (tryCatch x handler).run w =
      match x.run w with
      | (.ok a, w') => (.ok a, w')
      | (.error e, w') => (handler e).run w' := rfl

@[simp] theorem throw_run (e : JavaException) (w : World) :
    (throw e : Exec α).run w = (.error e, w) := rfl

@[simp] theorem liftM_run (result : Except JavaException α) (w : World) :
    (liftM result : Exec α).run w = (result, w) := rfl

theorem bind_ok {x : Exec α} {f : α → Exec β} {w w' : World} {a : α} (h : x.run w = (.ok a, w')) :
    (x >>= f).run w = (f a).run w' := by
  simp only [bind_run, h]

theorem bind_error {x : Exec α} {f : α → Exec β} {w w' : World} {e : JavaException}
    (h : x.run w = (.error e, w')) : (x >>= f).run w = (.error e, w') := by
  simp only [bind_run, h]

/-- The record of one log line. -/
def println (message : Text) : Exec Unit := fun w => (.ok (), w.emit (.log message))

def startCurl (command : List Text) : Exec CurlRun := fun w => (.ok (w.node 0), w.curl command)

def setLastSubmittedHash (hash : Bytes) : Exec Unit := fun w =>
  (.ok (), { w with lastSubmittedHash := some hash })

def getLastSubmittedHash : Exec (Option Bytes) := fun w => (.ok w.lastSubmittedHash, w)

@[simp] theorem println_run (message : Text) (w : World) :
    (println message).run w = (.ok (), w.emit (.log message)) := rfl

@[simp] theorem startCurl_run (command : List Text) (w : World) :
    (startCurl command).run w = (.ok (w.node 0), w.curl command) := rfl

@[simp] theorem setLastSubmittedHash_run (hash : Bytes) (w : World) :
    (setLastSubmittedHash hash).run w = (.ok (), { w with lastSubmittedHash := some hash }) := rfl

@[simp] theorem getLastSubmittedHash_run (w : World) :
    getLastSubmittedHash.run w = (.ok w.lastSubmittedHash, w) := rfl

end Exec

end BlockSigner
