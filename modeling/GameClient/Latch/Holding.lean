import GameClient.Latch

/-!
# Holding a latch

Who takes a latch gets a guard. The latch is held as long as the guard lives, and on every way out
the guard goes: when it is dropped, when its holder returns early with an error, and when its holder
is unwound. A guard may carry a hook, which runs when the guard goes and the latch is free again; a
hook registered later takes the place of an earlier one.
-/

namespace GameClient.Latch

/-- What is done when a guard goes: it finds the latch and a world, and may change both. A hook that
leaves the latch held has taken it and kept the guard; nothing else that it does to the latch lasts
longer than the hook. -/
def Hook (World : Type) : Type := Latch → World → Latch × World

/-- A latch, the guards that live, each with its hook if it has one, and the world that hooks act
on. -/
structure Holding (World : Type) where
  latch : Latch
  guards : List (String × Option (Hook World)) := []
  world : World

namespace Holding

variable {World : Type}

inductive Step (World : Type) where
  /-- Take the latch, and keep the guard under a name. -/
  | acquire (guard : String)
  /-- Register a hook with a guard. -/
  | onRelease (guard : String) (hook : Hook World)
  /-- Let a guard go. -/
  | drop (guard : String)
  /-- Return with an error while holding the guard of a name, or else the latch, which is taken
  first. -/
  | earlyReturn (error : ActionError) (guard : Option String := none)
  /-- Be unwound while holding the guard of a name, or else the latch, which is taken first. -/
  | unwind (guard : Option String := none)

inductive Answer where
  | acquired
  | failed (error : ActionError)
  /-- A guard went; or there was none of that name. -/
  | dropped (existed : Bool)
  /-- The latch was held by the one who was unwound, and who was. -/
  | unwound (acquired unwound : Bool)
  | registered
  deriving DecidableEq, Repr

/-- The latch is freed, and then the hook runs. If the hook takes the latch and keeps the guard,
this stands under the name of the one that went. -/
def letGo (holding : Holding World) (guard : String) (hook : Option (Hook World)) :
    Holding World :=
  let latch := holding.latch.release
  let guards := holding.guards.filter fun entry => entry.1 ≠ guard
  match hook with
  | none => { holding with latch, guards }
  | some hook =>
    let (left, world) := hook latch holding.world
    if left.held then
      { latch := { latch with held := true }, guards := (guard, none) :: guards, world }
    else { latch, guards, world }

/-- The guard of a name goes, if it lives. -/
def exit? (holding : Holding World) (guard : String) : Option (Holding World) :=
  (holding.guards.lookup guard).map fun hook => holding.letGo guard hook

def register (guard : String) (hook : Hook World) (entry : String × Option (Hook World)) :
    String × Option (Hook World) :=
  if entry.1 = guard then (guard, some hook) else entry

def step (holding : Holding World) : Step World → Holding World × Answer
  | .acquire guard =>
    match holding.latch.tryAcquire with
    | .error error => (holding, .failed error)
    | .ok latch => ({ holding with latch, guards := (guard, none) :: holding.guards }, .acquired)
  | .onRelease guard hook =>
    ({ holding with guards := holding.guards.map (register guard hook) }, .registered)
  | .drop guard =>
    match holding.exit? guard with
    | none => (holding, .dropped false)
    | some left => (left, .dropped true)
  -- A guard without a name carries no hook, and is gone before the step is over.
  | .earlyReturn error none =>
    match holding.latch.tryAcquire with
    | .error pending => (holding, .failed pending)
    | .ok latch => ({ holding with latch := latch.release }, .failed error)
  | .earlyReturn error (some guard) =>
    match holding.exit? guard with
    | none => (holding, .dropped false)
    | some left => (left, .failed error)
  | .unwind none =>
    match holding.latch.tryAcquire with
    | .error _ => (holding, .unwound false false)
    | .ok latch => ({ holding with latch := latch.release }, .unwound true true)
  | .unwind (some guard) =>
    match holding.exit? guard with
    | none => (holding, .unwound false false)
    | some left => (left, .unwound true true)

def run (holding : Holding World) : List (Step World) → Holding World
  | [] => holding
  | step :: steps => (holding.step step).1.run steps

def start (action : Action) (world : World) : Holding World := { latch := { action }, world }

end Holding

end GameClient.Latch
