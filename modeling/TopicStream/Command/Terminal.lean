import TopicStream.Command.Listening
import TopicStream.Simulation.Transport

/-!
# A listening command over a scripted transport

The command reacts to the effects of the engine as they happen, and its calls run as those of a
scenario do. Requests that the rules hold can be answered from outside. A command that is watched
for a time has a status if it has ended by then.
-/

namespace TopicStream.Command

open Simulation

/-- A listening command with its engine. -/
structure Terminal where
  /-- The engine and its transport. -/
  world : World
  /-- The command. -/
  command : Listening
  /-- The effects that the command has not reacted to. -/
  pending : List Engine.Event
  /-- The effects that it has reacted to, last first. -/
  seen : List Engine.Event
  /-- The lines printed, last first. -/
  printed : List Line

namespace Terminal

/-- Lets the engine do something and takes note of its effects. -/
def alter (t : Terminal) (f : World → World) : Terminal :=
  let (events, world) := (f t.world).takeEffects
  { t with world, pending := t.pending ++ events }

/-- Carries out what the command does. -/
def carryOut (t : Terminal) (r : Reaction) : Terminal :=
  let t := { t with command := r.after, printed := r.lines.reverse ++ t.printed }
  match r.call with
  | some request => t.alter (·.begin (.start request))
  | none => t

/-- The status of the command, if it has ended. -/
def status? (t : Terminal) : Option Nat :=
  match t.command.phase with
  | .over status => some status
  | _ => none

/-- Reacts to effects until there are none, or the command has ended. -/
def reactWithin (t : Terminal) : (fuel : Nat) → Terminal
  | 0 => t
  | fuel + 1 =>
    match t.status?, t.pending with
    | none, event :: pending =>
      let t := { t with pending, seen := event :: t.seen }
      reactWithin (t.carryOut (t.command.onEvent event)) fuel
    | _, _ => t

/-- Reacts to all effects. -/
def react (t : Terminal) : Terminal :=
  t.reactWithin (t.pending.length + t.world.patience * (t.command.topics + 1))

/-- Lets the command run until a time, unless it ends before. -/
def runUntil (t : Terminal) (time : Nat) : (fuel : Nat) → Terminal
  | 0 => t
  | fuel + 1 =>
    let t := t.react
    if t.status?.isSome || time ≤ t.world.engine.now then t
    else
      let deadlines := t.world.engine.deadlines.filter (· < time)
      runUntil (t.alter (·.perform (.tick (deadlines.min?.getD time)))) time fuel

/-- The beginning of a command, with the rules of the transport. -/
def start (plan : Plan) (credential : Option String) (sends opens : Rule) : Terminal :=
  let first := Listening.start plan
  let world := World.ofEngine (Listening.engine plan credential) sends opens
  carryOut ⟨world, first.after, [], [], []⟩ first

end Terminal

/-- What a listening command has printed and its status, if it has ended after a number of
milliseconds. -/
def watch (plan : Plan) (credential : Option String) (sends opens : Rule) (ms : Nat) :
    Option (List Line × Nat) :=
  let t := (Terminal.start plan credential sends opens).runUntil ms (ms + 2)
  t.status?.map (t.printed.reverse, ·)

end TopicStream.Command
