import TopicStream.Engine.Step

/-!
# A scripted transport

A rule says what becomes of requests that the engine makes: they succeed, fail, are held until they
are released, or crash the transport. The transport answers as soon as it is asked.
-/

namespace TopicStream.Simulation

open Engine

/-- What becomes of a request. -/
inductive Mode where
  /-- It succeeds. -/
  | succeed
  /-- It fails. -/
  | fail (error : ClientError)
  /-- It is held. -/
  | hold
  /-- The transport crashes. -/
  | crash

/-- The answer of the transport, unless the request is held. -/
def Mode.answer? : Mode → Option Answer
  | succeed => some .success
  | fail error => some (.failure error)
  | hold => none
  | crash => some .crash

/-- Which requests a mode is for. All others succeed. -/
structure Rule where
  /-- The mode. -/
  mode : Mode
  /-- If given, only announcements of this topic. -/
  topic : Option String
  /-- If given, only so many requests more. -/
  left : Option Nat

namespace Rule

/-- All requests succeed. -/
def allSucceed : Rule := ⟨.succeed, none, none⟩

/-- Whether a rule is for a request with topics. -/
def covers (r : Rule) (topics : List String) : Bool :=
  r.left != some 0 &&
    match r.topic with
    | some topic => topics.contains topic
    | none => true

/-- The mode of a request, and the rule for the requests after it. -/
def take (r : Rule) (topics : List String) : Mode × Rule :=
  if r.covers topics then (r.mode, { r with left := r.left.map (· - 1) }) else (.succeed, r)

end Rule

/-- An engine with its scripted transport. -/
structure World where
  /-- The engine. -/
  engine : Engine
  /-- The rule for announcements. -/
  sends : Rule
  /-- The rule for streams. -/
  opens : Rule
  /-- Whether the client is to go as soon as no call keeps it. -/
  leaving : Bool
  /-- The effects that have not been taken, last first. The trace of the engine is kept empty. -/
  effects : List Engine.Event

namespace World

/-- An engine whose transport follows rules. -/
def ofEngine (engine : Engine) (sends opens : Rule) : World := ⟨engine, sends, opens, false, []⟩

/-- Goes on with the engine that an action has led to. -/
def goOn (w : World) (engine : Engine) : World :=
  { w with
    engine := { engine with trace := [] }
    effects := (engine.trace.map (·.event)).reverse ++ w.effects }

/-- The effects since they were last taken. -/
def takeEffects (w : World) : List Engine.Event × World :=
  (w.effects.reverse, { w with effects := [] })

/-- Hands the answer of a mode to a task. -/
def giveAnswer (w : World) (task : Task) (mode : Mode) : World :=
  match mode.answer?.bind fun answer => w.engine.step (.answer task answer) with
  | some engine => w.goOn engine
  | none => w

/-- Answers a request that the engine has just made. -/
def respond (w : World) : Engine.Event → World
  | .requested worker _ =>
    let (mode, opens) := w.opens.take []
    { w with opens }.giveAnswer (.worker worker) mode
  | .announced task _ topics =>
    let (mode, sends) := w.sends.take topics
    { w with sends }.giveAnswer task mode
  | _ => w

/-- Lets an action happen, if it can, and answers the requests that it leads to. -/
def act (w : World) (action : Action) : World :=
  match w.engine.step action with
  | none => w
  | some engine => (engine.trace.map (·.event)).foldl respond (w.goOn engine)

/-- Lets a task go on as far as it can. -/
def drive (w : World) (task : Task) : (fuel : Nat) → World
  | 0 => w
  | fuel + 1 => if w.engine.canResume task then drive (w.act (.resume task true)) task fuel else w

/-- How many steps the tasks of an engine can take at most before they all wait. -/
def patience (w : World) : Nat :=
  let bodies := w.engine.workers.filterMap (·.phase.body?)
  let sizeOf (item : Except ClientError Bytes) : Nat :=
    match item with
    | .ok chunk => chunk.length + 1
    | .error _ => 1
  let left := bodies.foldl (fun n b =>
    b.records.input.foldl (fun n item => n + sizeOf item) (n + b.records.ready.length)) 0
  64 + 16 * (w.engine.workers.length + w.engine.calls.length) + 4 * left

/-- Lets tasks go on until all wait: workers before calls, earlier ones before later ones, each as
far as it can. A client that is to go goes when they do. -/
def settleWithin (w : World) : (fuel : Nat) → World
  | 0 => w
  | fuel + 1 =>
    match w.engine.tasks.find? w.engine.canResume with
    | some task => settleWithin (w.drive task w.patience) fuel
    | none =>
      if w.leaving then
        match w.engine.step .dropClient with
        | some engine => settleWithin ({ w with leaving := false }.goOn engine) fuel
        | none => w
      else w

/-- Lets tasks go on until all wait. -/
def settle (w : World) : World := w.settleWithin w.patience

/-- Lets an action happen, and then tasks go on until all wait. -/
def perform (w : World) (action : Action) : World := (w.act action).settle

/-- Lets a call begin and go on as far as it can, and then the other tasks. -/
def begin (w : World) (action : Action) : World :=
  -- The call that begins gets the next index.
  let call := w.engine.calls.length
  let w := w.act action
  (w.drive (.call call) w.patience).settle

/-- Moves the clock from deadline to deadline up to a time. -/
def advanceTo (w : World) (time : Nat) : (fuel : Nat) → World
  | 0 => w
  | fuel + 1 =>
    -- Timers due at the very end fire in the last step.
    match (w.engine.deadlines.filter (· < time)).min? with
    | some deadline => (w.perform (.tick deadline)).advanceTo time fuel
    | none => w.perform (.tick time)

/-- Moves the clock by a number of milliseconds. -/
def advance (w : World) (ms : Nat) : World :=
  w.advanceTo (w.engine.now + ms) (ms + 1)

/-- Hands an answer to tasks, and says to how many. -/
def release (w : World) (tasks : List Task) (answer : Answer) : Nat × World :=
  (tasks.length, (tasks.foldl (fun w task => w.act (.answer task answer)) w).settle)

/-- Whether a task waits for a stream. -/
def awaitsStream (w : World) : Task → Bool
  | .worker k =>
    match w.engine.workers[k]? with
    | some worker =>
      match worker.phase with
      | .opening none => true
      | _ => false
    | none => false
  | .call _ => false

/-- The tasks whose requests for a stream are held. -/
def heldOpens (w : World) : List Task :=
  w.engine.tasks.filter w.awaitsStream

/-- The tasks whose announcements are held. -/
def heldSends (w : World) : List Task :=
  w.engine.tasks.filter fun task => w.engine.awaitsAnswer task && !w.awaitsStream task

end World

end TopicStream.Simulation
