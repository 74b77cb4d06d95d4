/-!
# Emitters

An `Emitter` passes events on to its listeners.  Registering a listener gives a serial number, and
the listener stays registered until that number is released.

Listeners may themselves register, release and fire.  `Emitter.Program` is the smallest setting in
which all of that can happen: a table of named registrations, a group of registrations that are
released together, and listeners that carry out an action when they are called.
-/

namespace AsmExplorer

/-- The listeners of one event, in order of registration. -/
structure Emitter (α : Type) where
  /-- The serial number of the next registration. -/
  next : Nat := 0
  /-- The listeners by serial number. -/
  entries : List (Nat × α) := []

namespace Emitter

variable {α : Type}

instance : Inhabited (Emitter α) := ⟨{}⟩

/-- Registers a listener; returns its serial number. -/
def subscribe (e : Emitter α) (listener : α) : Emitter α × Nat :=
  ({ next := e.next + 1, entries := e.entries ++ [(e.next, listener)] }, e.next)

/-- Releases a registration. -/
def release (e : Emitter α) (serial : Nat) : Emitter α :=
  { e with entries := e.entries.filter (·.1 != serial) }

/-- The listeners that are registered now. -/
def listeners (e : Emitter α) : List α :=
  e.entries.map (·.2)

/-! ### Programs -/

namespace Program

/-- What a listener does when it is called, in this order. -/
structure Action where
  /-- Registers a listener without action under a name. -/
  subscribe : Option String := none
  /-- Releases the registration under a name. -/
  drop : Option String := none
  /-- Fires the next smaller value, if the value is positive. -/
  refire : Bool := false
deriving DecidableEq, Inhabited

/-- A listener: the name it logs, and its action. -/
structure Listener where
  /-- The name. -/
  id : String
  /-- The action. -/
  action : Action := {}
deriving DecidableEq, Inhabited

/-- An emitter with the registrations that are held. -/
structure State where
  /-- The emitter, until it is dropped. -/
  emitter : Option (Emitter Listener) := some {}
  /-- The registrations held by name. -/
  table : List (String × Nat) := []
  /-- The registrations held by the group. -/
  group : List Nat := []
  /-- The deliveries made: the name of the listener and the value. -/
  log : List (String × Int) := []
deriving Inhabited

namespace State

/-- Releases a registration, if the emitter still exists. -/
def release (s : State) (serial : Nat) : State :=
  { s with emitter := s.emitter.map (·.release serial) }

/-- Releases the registration held under a name. -/
def drop (s : State) (id : String) : State :=
  match s.table.lookup id with
  | none => s
  | some serial => { s with table := s.table.filter (·.1 != id) }.release serial

/-- Registers a listener under its name.  A registration held under that name is released after the
new one exists. -/
def subscribe (s : State) (listener : Listener) : State :=
  match s.emitter with
  | none => s
  | some e =>
    let (e, serial) := e.subscribe listener
    let held := s.table.lookup listener.id
    let table := (listener.id, serial) :: s.table.filter (·.1 != listener.id)
    let s := { s with emitter := some e, table }
    match held with
    | none => s
    | some old => s.release old

/-- What calling a listener does apart from firing again. -/
def enter (s : State) (listener : Listener) (value : Int) : State :=
  let s := { s with log := s.log ++ [(listener.id, value)] }
  let s :=
    match listener.action.subscribe with
    | some id => s.subscribe { id }
    | none => s
  match listener.action.drop with
  | some id => s.drop id
  | none => s

/-- Fires a value to all listeners registered at this moment.  A listener that fires again fires a
smaller value, so `depth` bounds the nesting. -/
def fireWithin (depth : Nat) (value : Int) (s : State) : State :=
  let called := (s.emitter.map Emitter.listeners).getD []
  called.foldl
    (fun s listener =>
      let s := s.enter listener value
      if listener.action.refire ∧ value > 0 then
        match depth with
        | 0 => s
        | depth + 1 => fireWithin depth (value - 1) s
      else s)
    s

/-- Fires a value. -/
def fire (s : State) (value : Int) : State :=
  fireWithin value.toNat value s

/-- Moves the registrations with the given names into the group. -/
def moveToGroup (s : State) (ids : List String) : State :=
  ids.foldl
    (fun s id =>
      match s.table.lookup id with
      | none => s
      | some serial =>
        { s with table := s.table.filter (·.1 != id), group := s.group ++ [serial] })
    s

/-- Releases all registrations of the group. -/
def disposeGroup (s : State) : State :=
  { s.group.foldl release s with group := [] }

/-- Drops the emitter with all its listeners. -/
def dropEmitter (s : State) : State :=
  { s with emitter := none }

end State

/-- A step of a program. -/
inductive Step where
  /-- Registers a listener under its name. -/
  | subscribe (listener : Listener)
  /-- Releases the registration under a name. -/
  | drop (id : String)
  /-- Moves registrations into the group. -/
  | group (ids : List String)
  /-- Releases the registrations of the group. -/
  | disposeGroup
  /-- Puts a new group in the place of the old one, which releases its registrations. -/
  | replaceGroup
  /-- Fires a value. -/
  | fire (value : Int)
  /-- Drops the emitter. -/
  | dropEmitter
deriving Inhabited

/-- Carries out a step; the log holds the deliveries of this step. -/
def step (s : State) (action : Step) : State :=
  let s := { s with log := [] }
  match action with
  | .subscribe listener => s.subscribe listener
  | .drop id => s.drop id
  | .group ids => s.moveToGroup ids
  | .disposeGroup => s.disposeGroup
  | .replaceGroup => s.disposeGroup
  | .fire value => s.fire value
  | .dropEmitter => s.dropEmitter

end Program

end Emitter

end AsmExplorer
