import BlockSigner.Submission
import BlockSigner.Transcript

/-! # Reading the log

The log tells what happened: which way each iteration ended, and for which block,
can be read off its lines, with verbose logging or without. What it tells of
submitted blocks is what the node acknowledged.
-/

namespace BlockSigner

variable {lib : Libraries}

/-! ## What an iteration writes -/

/-- Lines about calls, which are written with verbose logging only. -/
inductive Verbose : Text → Prop where
  | payload (method : RpcMethod) (payload : Text) : Verbose (RPC.payloadLine method payload)
  | response (method : RpcMethod) (response : InternalRpcResult) :
      Verbose (RPC.responseLine method response)

theorem callLines_verbose (lib : Libraries) (rpc : RPC) :
    CallLines lib rpc (fun _ => True) Verbose where
  payload c := .payload c.method c.payload
  response method _ response _ _ := .response method response

/-- The line that tells how an iteration ended. A refused signature leaves none. -/
def Branch.lines (lib : Libraries) : Branch → Option Bytes → List Text
  | .noSeed, _ => [noSeedLine]
  | .noBlock, _ => [noBlockLine]
  | .alreadySubmitted, some hash => [alreadySubmittedLine hash]
  | .submitted, some hash => [submittedLine hash]
  | .caught e, _ => [caughtLine lib e]
  | _, _ => []

/-- The events of a computation are calls with the lines about them, and where it
    ends in a branch, the line of that branch after them. -/
def Tells (lib : Libraries) (caller : RpcCaller) (x : Exec Branch) : Prop :=
  ∀ w, ∃ noise, (∀ event ∈ noise, Act caller Verbose event) ∧
    (x.run w).2.events = w.events ++ noise ++
      match (x.run w).1 with
      | .ok branch => (branch.lines lib (x.run w).2.lastSubmittedHash).map Event.log
      | .error _ => []

namespace Tells

variable {caller : RpcCaller}

/-- Calls first, and then what tells. -/
theorem bind {α : Type} {x : Exec α} {f : α → Exec Branch}
    (first : Acts caller (fun _ => True) Verbose x) (rest : ∀ a, Tells lib caller (f a)) :
    Tells lib caller (x >>= f) := by
  intro w
  obtain ⟨_, noise, added, all⟩ := first w fun _ => trivial
  change (x.run w).2.events = _ at added
  rw [Exec.bind_run]
  cases ran : x.run w with
  | mk result w' =>
      rw [ran] at added
      cases result with
      | error e => exact ⟨noise, all, by rw [added, List.append_nil]⟩
      | ok a =>
          obtain ⟨noise', all', told⟩ := rest a w'
          refine ⟨noise ++ noise', ?_, ?_⟩
          · intro event member
            exact (List.mem_append.mp member).elim (all event) (all' event)
          · change ((f a).run w').2.events = _
            rw [told, added]
            simp only [List.append_assoc]

/-- One line, and then a branch it is the line of. -/
theorem line {x : Exec Branch} {branch : Branch} {message : Text}
    (runs : ∀ w, (x.run w).1 = .ok branch ∧ (x.run w).2.events = w.events ++ [.log message] ∧
      branch.lines lib (x.run w).2.lastSubmittedHash = [message]) : Tells lib caller x := by
  intro w
  obtain ⟨result, events, lines⟩ := runs w
  refine ⟨[], by simp, ?_⟩
  rw [result, events]
  simp only [lines, List.append_nil]
  rfl

end Tells

namespace Signer

variable {signer : Signer lib}

theorem submitBlock_tells (signer : Signer lib) (blockHash : Bytes) :
    Tells lib signer.rpc.rpc (signer.submitBlock blockHash) := by
  have calls := callLines_verbose lib signer.rpc
  unfold submitBlock
  apply Tells.bind (.lift _)
  intro signature
  apply Tells.bind (.method calls (.submitSignature signature blockHash)
    (signer.rpc.submitSignature_run lib signature blockHash))
  intro answer
  split
  · exact .line fun w => ⟨rfl, rfl, rfl⟩
  · intro w
    exact ⟨[], by simp, by simp [Branch.lines]⟩

theorem body_tells (signer : Signer lib) : Tells lib signer.rpc.rpc signer.body := by
  have calls := callLines_verbose lib signer.rpc
  unfold body
  apply Tells.bind (.method calls .getSeed (signer.rpc.getSeed_run lib))
  intro oldSeed
  apply Tells.bind (.lift _)
  intro nextSeed
  cases nextSeed with
  | none => exact .line fun w => ⟨rfl, rfl, rfl⟩
  | some seed =>
      apply Tells.bind (.method calls (.submitSeed seed _ _) (signer.rpc.submitSeed_run lib seed _ _))
      intro blockHashToSign
      cases blockHashToSign with
      | none => exact .line fun w => ⟨rfl, rfl, rfl⟩
      | some blockHash =>
          intro w
          rw [Exec.bind_run, Exec.getLastSubmittedHash_run]
          by_cases fresh : w.lastSubmittedHash ≠ some blockHash
          · simp only [if_pos fresh]
            exact submitBlock_tells signer blockHash w
          · have same : w.lastSubmittedHash = some blockHash := not_not.mp fresh
            simp only [if_neg fresh]
            refine ⟨[], by simp, ?_⟩
            simp [log_bind, Branch.lines, same]

/-- An exception is told with its stack trace. -/
theorem pass_tells (signer : Signer lib) : Tells lib signer.rpc.rpc signer.pass := by
  intro w
  obtain ⟨noise, all, told⟩ := body_tells signer w
  refine ⟨noise, all, ?_⟩
  unfold pass
  rw [Exec.tryCatch_run]
  cases ran : signer.body.run w with
  | mk result w' =>
      rw [ran] at told
      cases result with
      | ok branch => exact told
      | error e =>
          have left : w'.events = w.events ++ noise := told.trans (List.append_nil _)
          simp [log_bind, Branch.lines, left]

end Signer

/-! ## Reading it -/

/-- How an iteration ended, as far as the log tells. -/
inductive LogEntry where
  | noSeed
  | noBlock
  | alreadySubmitted (hash : Bytes)
  | submitted (hash : Bytes)
  | caught (stackTrace : Text)
  deriving DecidableEq

/-- What follows on a front. -/
def following (front line : Text) : Option Text :=
  if front.isPrefixOf line then some (line.drop front.length) else none

def submittedFront : Text := "Block submitted successfully. BlockMineHash: ".toList

def alreadySubmittedFront : Text := "Block already submitted, blockMineHash: ".toList

def caughtFront : Text := "Block Signer caught exception, ".toList

def readHash (digits : Text) : Option Bytes := Hex.decode Hex.value? digits

def readLine (line : Text) : Option LogEntry :=
  if line = noSeedLine then some .noSeed
  else if line = noBlockLine then some .noBlock
  else
    match following submittedFront line with
    | some digits => (readHash digits).map .submitted
    | none =>
        match following alreadySubmittedFront line with
        | some digits => (readHash digits).map .alreadySubmitted
        | none => (following caughtFront line).map .caught

def readEvent : Event → Option LogEntry
  | .log message => readLine message
  | .curl .. => none

theorem readHash_encode (hash : Bytes) : readHash (Hex.encode hash) = some hash := by
  have digits : ∀ n < 16, Hex.value? (Hex.digit n) = some n := by decide
  exact Hex.decode_encode digits hash

theorem following_append (front rest : Text) : following front (front ++ rest) = some rest := by
  simp [following]

theorem readLine_noSeedLine : readLine noSeedLine = some .noSeed := if_pos rfl

theorem readLine_noBlockLine : readLine noBlockLine = some .noBlock := by
  have other : noBlockLine ≠ noSeedLine := by decide
  rw [readLine, if_neg other, if_pos rfl]

/-- A line that begins otherwise is neither of the two fixed lines. -/
theorem readLine_of_head {c : Char} {line : Text} (begins : line.head? = some c) (other : c ≠ 'C') :
    readLine line =
      match following submittedFront line with
      | some digits => (readHash digits).map .submitted
      | none =>
          match following alreadySubmittedFront line with
          | some digits => (readHash digits).map .alreadySubmitted
          | none => (following caughtFront line).map .caught := by
  have noSeed : line ≠ noSeedLine := by
    rintro rfl
    exact other (Option.some.inj begins).symm
  have noBlock : line ≠ noBlockLine := by
    rintro rfl
    exact other (Option.some.inj begins).symm
  rw [readLine, if_neg noSeed, if_neg noBlock]

theorem readLine_submittedLine (hash : Bytes) :
    readLine (submittedLine hash) = some (.submitted hash) := by
  have begins : (submittedLine hash).head? = some 'B' := rfl
  have rest : following submittedFront (submittedLine hash) = some (Hex.encode hash) :=
    following_append submittedFront _
  rw [readLine_of_head begins (by simp), rest]
  simp only [readHash_encode, Option.map_some]

theorem readLine_alreadySubmittedLine (hash : Bytes) :
    readLine (alreadySubmittedLine hash) = some (.alreadySubmitted hash) := by
  have begins : (alreadySubmittedLine hash).head? = some 'B' := rfl
  have other : following submittedFront (alreadySubmittedLine hash) = none := rfl
  have rest : following alreadySubmittedFront (alreadySubmittedLine hash) =
      some (Hex.encode hash) := following_append alreadySubmittedFront _
  rw [readLine_of_head begins (by simp), other, rest]
  simp only [readHash_encode, Option.map_some]

theorem readLine_caughtLine (e : JavaException) :
    readLine (caughtLine lib e) = some (.caught (lib.stackTrace e)) := by
  have begins : (caughtLine lib e).head? = some 'B' := rfl
  have submitted : following submittedFront (caughtLine lib e) = none := rfl
  have already : following alreadySubmittedFront (caughtLine lib e) = none := rfl
  have rest : following caughtFront (caughtLine lib e) = some (lib.stackTrace e) :=
    following_append caughtFront _
  rw [readLine_of_head begins (by simp), submitted, already, rest]
  rfl

/-- A line about a call begins with the name of its method. -/
theorem readLine_verbose {line : Text} (verbose : Verbose line) : readLine line = none := by
  cases verbose with
  | payload method payload =>
      cases method with
      | call => rw [readLine_of_head (c := 'e') rfl (by simp)]; rfl
      | getSeed => rw [readLine_of_head (c := 'g') rfl (by simp)]; rfl
      | submitSeed | submitSignature => rw [readLine_of_head (c := 's') rfl (by simp)]; rfl
  | response method response =>
      cases method with
      | call => rw [readLine_of_head (c := 'e') rfl (by simp)]; rfl
      | getSeed => rw [readLine_of_head (c := 'g') rfl (by simp)]; rfl
      | submitSeed | submitSignature => rw [readLine_of_head (c := 's') rfl (by simp)]; rfl

/-! ## The log of a run -/

/-- What the log is to tell of an iteration: everything but a refused signature. -/
def Branch.entry (lib : Libraries) : Branch → Option Bytes → Option LogEntry
  | .noSeed, _ => some .noSeed
  | .noBlock, _ => some .noBlock
  | .alreadySubmitted, some hash => some (.alreadySubmitted hash)
  | .submitted, some hash => some (.submitted hash)
  | .caught e, _ => some (.caught (lib.stackTrace e))
  | _, _ => none

def Iteration.entry (lib : Libraries) (iteration : Iteration) : Option LogEntry :=
  match iteration.exit with
  | .ok branch => branch.entry lib iteration.after
  | .error _ => none

def LogEntry.submitted? : LogEntry → Option Bytes
  | .submitted hash => some hash
  | _ => none

theorem readEvent_noise {caller : RpcCaller} {noise : List Event}
    (all : ∀ event ∈ noise, Act caller Verbose event) : noise.filterMap readEvent = [] := by
  rw [List.filterMap_eq_nil_iff]
  intro event member
  cases all event member with
  | request c answer => rfl
  | line verbose => exact readLine_verbose verbose

theorem readEvent_lines (branch : Branch) (last : Option Bytes) :
    ((branch.lines lib last).map Event.log).filterMap readEvent = (branch.entry lib last).toList := by
  have one : ∀ {message : Text} {entry : LogEntry}, readLine message = some entry →
      ([message].map Event.log).filterMap readEvent = [entry] := by
    intro message entry read
    simp [readEvent, read]
  cases branch with
  | noSeed => exact one readLine_noSeedLine
  | noBlock => exact one readLine_noBlockLine
  | notAccepted => rfl
  | caught e => exact one (readLine_caughtLine e)
  | alreadySubmitted =>
      cases last with
      | none => rfl
      | some hash => exact one (readLine_alreadySubmittedLine hash)
  | submitted =>
      cases last with
      | none => rfl
      | some hash => exact one (readLine_submittedLine hash)

/-- An iteration leaves its own entry in the log, and no other. -/
theorem iterate_log (signer : Signer lib) (last : Option Bytes) (turn : Turn) :
    (iterate signer last turn).events.filterMap readEvent =
      ((iterate signer last turn).entry lib).toList := by
  obtain ⟨noise, all, told⟩ := Signer.pass_tells signer ⟨turn, [], last⟩
  obtain ⟨branch, exit, _⟩ := iterate_pass signer last turn
  have exit : (signer.pass.run ⟨turn, [], last⟩).1 = .ok branch := exit
  have events : (iterate signer last turn).events = noise ++
      (branch.lines lib (iterate signer last turn).after).map Event.log := by
    rw [exit] at told
    exact told
  have entry : (iterate signer last turn).entry lib =
      branch.entry lib (iterate signer last turn).after := by
    rw [Iteration.entry]
    change (match (signer.pass.run ⟨turn, [], last⟩).1 with
      | .ok branch => _
      | .error _ => _) = _
    rw [exit]
  rw [events, List.filterMap_append, readEvent_noise all, readEvent_lines, entry, List.nil_append]

/-- The entry says submitted where the node acknowledged the block. -/
theorem Pass.entry_submitted {signer : Signer lib} {last after : Option Bytes} {turn : Turn}
    {calls : List (Text × CurlRun)} {branch : Branch}
    (pass : Pass signer last turn calls branch after) :
    ((branch.entry lib after).bind LogEntry.submitted?).toList =
      calls.filterMap (acknowledged signer) := by
  cases pass with
  | submitted _ _ _ _ replied accepted =>
      simp [acknowledged_submitSignature, replied, returnedTrue, accepted, Branch.entry,
        LogEntry.submitted?]
  | notAccepted _ _ _ _ replied refused =>
      simp [acknowledged_submitSignature, replied, returnedTrue, refused, Branch.entry]
  | submitSignatureFailed _ _ _ _ replied =>
      simp [acknowledged_submitSignature, replied, returnedTrue, Branch.entry, LogEntry.submitted?]
  | alreadySubmitted _ _ same => simp [Branch.entry, LogEntry.submitted?, same]
  | _ => simp [Branch.entry, LogEntry.submitted?]

theorem runFrom_log (signer : Signer lib) (last : Option Bytes) (turns : List Turn) :
    ((runFrom signer last turns).flatMap Iteration.events).filterMap readEvent =
      (runFrom signer last turns).filterMap (Iteration.entry lib) := by
  induction turns generalizing last with
  | nil => rfl
  | cons turn turns ih =>
      rw [runFrom_cons, List.flatMap_cons, List.filterMap_append, iterate_log, ih, List.filterMap_cons]
      cases (iterate signer last turn).entry lib <;> rfl

theorem runFrom_submitted (signer : Signer lib) (last : Option Bytes) (turns : List Turn) :
    ((runFrom signer last turns).filterMap (Iteration.entry lib)).filterMap LogEntry.submitted? =
      acknowledgements signer (runFrom signer last turns) := by
  induction turns generalizing last with
  | nil => rfl
  | cons turn turns ih =>
      obtain ⟨branch, exit, pass⟩ := iterate_pass signer last turn
      have told := pass.entry_submitted
      have entry : (iterate signer last turn).entry lib =
          branch.entry lib (iterate signer last turn).after := by
        simp only [Iteration.entry, exit]
      have head : (iterate signer last turn).acknowledgements signer =
          (((iterate signer last turn).entry lib).bind LogEntry.submitted?).toList := by
        rw [entry, told]
        rfl
      rw [runFrom_cons, List.filterMap_cons, acknowledgements, List.flatMap_cons, head]
      have rest := ih (iterate signer last turn).after
      cases told' : (iterate signer last turn).entry lib with
      | none => exact rest
      | some entry =>
          simp only [List.filterMap_cons, Option.bind_some]
          cases entry.submitted? with
          | none => exact rest
          | some hash => exact congrArg (hash :: ·) rest

/-- A launch leaves nothing in the log that could be taken for an iteration. -/
theorem launchLines_unread (lib : Libraries) (rpc : RPC) :
    LaunchLines lib rpc (fun _ => True) (fun line => readLine line = none) where
  payload c := readLine_verbose (.payload c.method c.payload)
  response method _ response _ _ := readLine_verbose (.response method response)
  retrieving registry := by
    rw [readLine_of_head (c := 'R') rfl (by simp)]
    rfl
  found coinbase := by
    rw [readLine_of_head (c := 'U') rfl (by simp)]
    rfl
  producing := by
    rw [readLine_of_head (c := 'P') rfl (by simp)]
    rfl

theorem main_log {files : Text → Except JavaException Properties} {args : List Text}
    {node : Nat → CurlRun} {signer : Signer lib} {v : World}
    (launched : (main lib files args).run ⟨node, [], none⟩ = (.ok (some signer), v)) :
    v.events.filterMap readEvent = [] := by
  obtain ⟨settings, resolved, starts⟩ := (main_ok_iff files args _ v signer).mp launched
  have acts := (start_acts starts.rpc (launchLines_unread lib signer.rpc)).all (s := ⟨node, [], none⟩)
    (fun _ => trivial) rfl
  change ∀ event ∈ ((start lib settings).run ⟨node, [], none⟩).2.events, _ at acts
  rw [(start_ok_iff settings _ v signer).mpr starts] at acts
  rw [List.filterMap_eq_nil_iff]
  intro event member
  cases acts event member with
  | request c answer => rfl
  | line unread => exact unread

/-- Read line by line, the log of a launch and of the loop after it is the list of
    the endings of the iterations, but for refused signatures, with verbose logging
    or without; and the blocks it tells as submitted are those that the node
    acknowledged. -/
theorem transcript_log {files : Text → Except JavaException Properties} {args : List Text}
    {node : Nat → CurlRun} {signer : Signer lib} {v : World}
    (launched : (main lib files args).run ⟨node, [], none⟩ = (.ok (some signer), v))
    (turns : List Turn) :
    (transcript v (run signer turns)).filterMap readEvent =
        (run signer turns).filterMap (Iteration.entry lib) ∧
      ((transcript v (run signer turns)).filterMap readEvent).filterMap LogEntry.submitted? =
        acknowledgements signer (run signer turns) := by
  have read : (transcript v (run signer turns)).filterMap readEvent =
      (run signer turns).filterMap (Iteration.entry lib) := by
    rw [transcript, List.filterMap_append, main_log launched, List.nil_append]
    exact runFrom_log signer none turns
  refine ⟨read, ?_⟩
  rw [read]
  exact runFrom_submitted signer none turns

/-- Two iterations with verbose logging, after a launch from a file. -/
theorem transcript_log_file :
    ∃ (signer : Signer Blind.libraries) (v : World), signer.logger.verboseLoggingEnabled = true ∧
      (main Blind.libraries (Blind.files (List.replicate 32 7))
        ["-config".toList, "config.properties".toList]).run ⟨fun _ => Reference.resultRun .null, [],
          none⟩ = (.ok (some signer), v) ∧
      ((transcript v (run signer [Reference.accepting, Reference.accepting])).filterMap
          readEvent).filterMap LogEntry.submitted? =
        acknowledgements signer (run signer [Reference.accepting, Reference.accepting]) := by
  have size : (List.replicate 32 7 : Bytes).length = 32 := rfl
  have launched := Blind.main_files size ⟨fun _ => Reference.resultRun .null, [], none⟩
  exact ⟨_, _, rfl, launched, (transcript_log launched _).2⟩

end BlockSigner
