import AsmExplorer.Proofs.Emitter.Moments

/-!
# Every fire calls what is registered

A program whose listeners are those of `Emitter.Program` is played moment by moment when the
behaviour is that of their actions (`Listener.reaction`).  Firing at once and firing moment by
moment come to the same: `Moment.plays_fire` for one fire, `Moment.plays` for a program.

* `Moment.delivers_exactly` : at every moment of every program, whatever its listeners do, **the
  registrations are those that are held**, and **every fire has called the listeners that were
  registered when it came**, each once and in the order of registration, or is on the way to.
-/

namespace AsmExplorer.Emitter.Program

/-- What the action of a listener makes it do. -/
def Listener.reaction (l : Listener) (value : Int) : List Step :=
  (l.action.subscribe.map fun id => .subscribe { id }).toList ++ (l.action.drop.map .drop).toList ++
    if l.action.refire ∧ value > 0 then [.fire (value - 1)] else []

/-- Listeners do what their actions say. -/
def reactions : Behaviour :=
  fun _ l value => l.reaction value

/-- What a call leaves in the log. -/
def Call.entry (c : Call) : String × Int :=
  (c.registration.2.id, c.value)

/-- What a program leaves in the log. -/
def logFrom (s : State) : List Step → List (String × Int)
  | [] => []
  | a :: program => (step s a).log ++ logFrom (step s a) program

namespace State

/-- The state without the log. -/
def quiet (s : State) : State :=
  { s with log := [] }

/-- The state with one more call in the log. -/
def noted (s : State) (l : Listener) (value : Int) : State :=
  { s with log := s.log ++ [(l.id, value)] }

variable {s : State}

theorem subscribe_withLog (s : State) (l : Listener) (log : List (String × Int)) :
    { s with log }.subscribe l = { s.subscribe l with log } := by
  obtain ⟨emitter, table, group, -⟩ := s
  cases emitter with
  | none => rfl
  | some e =>
    simp only [State.subscribe]
    cases table.lookup l.id <;> rfl

theorem drop_withLog (s : State) (id : String) (log : List (String × Int)) :
    { s with log }.drop id = { s.drop id with log } := by
  simp only [State.drop]
  cases s.table.lookup id <;> rfl

theorem log_subscribe (s : State) (l : Listener) : (s.subscribe l).log = s.log :=
  (congrArg State.log (subscribe_withLog s l s.log)).trans rfl

theorem log_drop (s : State) (id : String) : (s.drop id).log = s.log :=
  (congrArg State.log (drop_withLog s id s.log)).trans rfl

theorem log_moveToGroup (s : State) (ids : List String) : (s.moveToGroup ids).log = s.log := by
  unfold State.moveToGroup
  induction ids generalizing s with
  | nil => rfl
  | cons id ids ih =>
    rw [List.foldl_cons, ih]
    cases s.table.lookup id <;> rfl

theorem log_disposeGroup (s : State) : s.disposeGroup.log = s.log := by
  rw [disposeGroup_eq]

theorem log_step {a : Step} (ha : ∀ value, a ≠ .fire value) : (step s a).log = [] := by
  cases a with
  | subscribe l => exact log_subscribe _ l
  | drop id => exact log_drop _ id
  | group ids => exact log_moveToGroup _ ids
  | disposeGroup | replaceGroup => exact log_disposeGroup _
  | fire value => exact absurd rfl (ha value)
  | dropEmitter => rfl

theorem step_quiet (s : State) (a : Step) : step s.quiet a = step s a := by
  cases a <;> rfl

theorem quiet_of_log (h : s.log = []) : s.quiet = s := by
  obtain ⟨emitter, table, group, log⟩ := s
  subst h
  rfl

/-- What a listener registers when it is called. -/
def subscribed (s : State) (l : Listener) : State :=
  match l.action.subscribe with
  | some id => s.subscribe { id }
  | none => s

/-- What a listener releases when it is called. -/
def dropped (s : State) (l : Listener) : State :=
  match l.action.drop with
  | some id => s.drop id
  | none => s

/-- What comes of calling a listener. -/
def respond (depth : Nat) (value : Int) (s : State) (l : Listener) : State :=
  if l.action.refire ∧ value > 0 then
    match depth with
    | 0 => s.enter l value
    | depth + 1 => fireWithin depth (value - 1) (s.enter l value)
  else s.enter l value

theorem enter_eq (s : State) (l : Listener) (value : Int) :
    s.enter l value = ((s.noted l value).subscribed l).dropped l := rfl

theorem fireWithin_eq (depth : Nat) (value : Int) (s : State) :
    fireWithin depth value s = (s.registrations.map (·.2)).foldl (respond depth value) s := by
  have hcalled : (s.emitter.map Emitter.listeners).getD [] = s.registrations.map (·.2) := by
    unfold registrations
    cases s.emitter <;> rfl
  cases depth <;> rw [fireWithin, hcalled] <;> rfl

end State

namespace Moment

variable {x : Moment} {s s₁ s₂ : State} {running running₁ running₂ outer : List Delivery}
  {number depth : Nat} {value : Int} {due : List Registration} {todo : List Step}

/-- Some moments later the state is another one and other deliveries are in progress, and the log
has gained the calls made meanwhile. -/
def Plays (x : Moment) (s s' : State) (running : List Delivery) : Prop :=
  ∃ n made, (x.after reactions n).state = s'.quiet ∧ (x.after reactions n).program = x.program ∧
    (x.after reactions n).running = running ∧ (x.after reactions n).calls = x.calls ++ made ∧
    s'.log = s.log ++ made.map Call.entry

theorem Plays.refl (hs : x.state = s.quiet) (hrunning : x.running = running) :
    x.Plays s s running :=
  ⟨0, [], hs, rfl, hrunning, (List.append_nil _).symm, (List.append_nil _).symm⟩

theorem Plays.trans (h : x.Plays s s₁ running₁)
    (h' : ∀ y : Moment, y.state = s₁.quiet → y.running = running₁ → y.Plays s₁ s₂ running₂) :
    x.Plays s s₂ running₂ := by
  obtain ⟨n, made, hstate, hprogram, hrunning, hcalls, hlog⟩ := h
  obtain ⟨m, made', hstate', hprogram', hrunning', hcalls', hlog'⟩ := h' _ hstate hrunning
  rw [← after_add] at hstate' hprogram' hrunning' hcalls'
  refine ⟨n + m, made ++ made', hstate', hprogram'.trans hprogram, hrunning', ?_, ?_⟩
  · rw [hcalls', hcalls, List.append_assoc]
  · rw [hlog', hlog, List.map_append, List.append_assoc]

/-- A listener does something that is no fire. -/
theorem plays_act {a : Step} (ha : ∀ value, a ≠ .fire value) (hs : x.state = s.quiet)
    (hrunning : x.running = ⟨number, value, due, a :: todo⟩ :: outer)
    (hstep : step s.quiet a = s₁.quiet) (hlog : s₁.log = s.log) :
    x.Plays s s₁ (⟨number, value, due, todo⟩ :: outer) := by
  refine ⟨1, [], ?_, ?_, ?_, ?_, hlog.trans (List.append_nil _).symm⟩ <;>
    simp only [after, next, hrunning, perform_of_ne_fire ha, List.append_nil]
  rw [hs, hstep]

/-- A listener fires. -/
theorem plays_fires {value' : Int} (hs : x.state = s.quiet)
    (hrunning : x.running = ⟨number, value, due, .fire value' :: todo⟩ :: outer) :
    x.Plays s s
      (⟨x.done.length, value', s.registrations, []⟩ :: ⟨number, value, due, todo⟩ :: outer) := by
  refine ⟨1, [], ?_, ?_, ?_, ?_, (List.append_nil _).symm⟩ <;>
    simp only [after, next, hrunning, perform, List.append_nil]
  · exact hs
  · rw [hs]
    rfl

theorem plays_call {r : Registration} (hs : x.state = s.quiet)
    (hrunning : x.running = ⟨number, value, r :: due, []⟩ :: outer) :
    x.Plays s (s.noted r.2 value) (⟨number, value, due, r.2.reaction value⟩ :: outer) := by
  refine ⟨1, [⟨number, value, r⟩], ?_, ?_, ?_, ?_, rfl⟩ <;>
    simp only [after, next, hrunning]
  · exact hs
  · rfl

theorem plays_end (hs : x.state = s.quiet)
    (hrunning : x.running = ⟨number, value, [], []⟩ :: outer) : x.Plays s s outer := by
  refine ⟨1, [], ?_, ?_, ?_, ?_, (List.append_nil _).symm⟩ <;>
    simp only [after, next, hrunning, List.append_nil]
  exact hs

/-- A listener registers what its action says. -/
theorem plays_subscribed {l : Listener} (hs : x.state = s.quiet)
    (hrunning : x.running = ⟨number, value, due,
      (l.action.subscribe.map fun id => .subscribe { id }).toList ++ todo⟩ :: outer) :
    x.Plays s (s.subscribed l) (⟨number, value, due, todo⟩ :: outer) := by
  unfold State.subscribed
  cases hid : l.action.subscribe with
  | none =>
    rw [hid] at hrunning
    exact .refl hs hrunning
  | some id =>
    rw [hid] at hrunning
    exact plays_act (by rintro value ⟨⟩) hs hrunning (State.subscribe_withLog s _ [])
      (State.log_subscribe s _)

/-- A listener releases what its action says. -/
theorem plays_dropped {l : Listener} (hs : x.state = s.quiet)
    (hrunning : x.running =
      ⟨number, value, due, (l.action.drop.map Step.drop).toList ++ todo⟩ :: outer) :
    x.Plays s (s.dropped l) (⟨number, value, due, todo⟩ :: outer) := by
  unfold State.dropped
  cases hid : l.action.drop with
  | none =>
    rw [hid] at hrunning
    exact .refl hs hrunning
  | some id =>
    rw [hid] at hrunning
    exact plays_act (by rintro value ⟨⟩) hs hrunning (State.drop_withLog s _ [])
      (State.log_drop s _)

/-- Calling a listener, up to where it fires. -/
theorem plays_enter {r : Registration} (hs : x.state = s.quiet)
    (hrunning : x.running = ⟨number, value, r :: due, []⟩ :: outer) :
    x.Plays s (s.enter r.2 value) (⟨number, value, due,
      if r.2.action.refire ∧ value > 0 then [.fire (value - 1)] else []⟩ :: outer) := by
  rw [State.enter_eq]
  refine (plays_call hs hrunning).trans fun y hy hrunning => ?_
  rw [Listener.reaction, List.append_assoc] at hrunning
  refine (plays_subscribed hy hrunning).trans fun y hy hrunning => ?_
  exact plays_dropped hy hrunning

/-- **Firing at once is what comes of firing moment by moment.** -/
theorem plays_fire (hdepth : value.toNat ≤ depth) (hs : x.state = s.quiet)
    (hrunning : x.running = ⟨number, value, s.registrations, []⟩ :: outer) :
    x.Plays s (State.fireWithin depth value s) outer := by
  induction depth using Nat.strongRecOn generalizing value s x number outer with
  | ind depth ih =>
    rw [State.fireWithin_eq]
    generalize s.registrations = rs at hrunning ⊢
    induction rs generalizing s x with
    | nil => exact plays_end hs hrunning
    | cons r rs ihcalls =>
      rw [List.map_cons, List.foldl_cons]
      have hresponds :
          x.Plays s (State.respond depth value s r.2) (⟨number, value, rs, []⟩ :: outer) := by
        refine (plays_enter hs hrunning).trans fun y hy hrunning => ?_
        unfold State.respond
        by_cases hrefire : r.2.action.refire ∧ value > 0
        · rw [if_pos hrefire] at hrunning ⊢
          -- a value that is fired again is positive, so the depth is not used up
          obtain ⟨depth, rfl⟩ : ∃ d, depth = d + 1 := ⟨depth - 1, by omega⟩
          refine (plays_fires hy hrunning).trans fun z hz hrunning => ?_
          exact ih depth (by omega) (by omega) hz hrunning
        · rw [if_neg hrefire] at hrunning ⊢
          exact .refl hy hrunning
      exact hresponds.trans fun y hy hrunning => ihcalls hy hrunning

/-! ### Programs -/

/-- A step of the program, with all that the listeners do meanwhile. -/
theorem plays_step {a : Step} {program : List Step} (hs : x.state = s.quiet)
    (hrunning : x.running = []) (hprogram : x.program = a :: program) :
    ∃ n made, (x.after reactions n).state = (step s a).quiet ∧
      (x.after reactions n).program = program ∧ (x.after reactions n).running = [] ∧
      (x.after reactions n).calls = x.calls ++ made ∧ (step s a).log = made.map Call.entry := by
  have hnext : x.next reactions = { x with program }.perform a := by
    simp only [next, hrunning, hprogram]
  by_cases ha : ∃ value, a = .fire value
  · obtain ⟨value, rfl⟩ := ha
    have hplays : (x.next reactions).Plays s.quiet (step s (.fire value)) [] := by
      have hfires : (x.next reactions).running =
          [⟨x.done.length, value, s.quiet.registrations, []⟩] := by
        simp only [hnext, perform, hrunning, hs]
      have hquiet : (x.next reactions).state = s.quiet.quiet := by
        rw [hnext]
        exact hs
      exact plays_fire (Nat.le_refl _) hquiet hfires
    obtain ⟨n, made, hstate, hprogram', hrunning', hcalls, hlog⟩ := hplays
    have hafter : x.after reactions (1 + n) = (x.next reactions).after reactions n :=
      after_add x 1 n
    refine ⟨1 + n, made, ?_, ?_, ?_, ?_, hlog⟩ <;> rw [hafter]
    · exact hstate
    · rw [hprogram', hnext]
      rfl
    · exact hrunning'
    · rw [hcalls, hnext]
      rfl
  · have hne : ∀ value, a ≠ .fire value := fun value h => ha ⟨value, h⟩
    have hlog : (step s a).log = [] := State.log_step hne
    refine ⟨1, [], ?_, ?_, ?_, ?_, hlog⟩ <;> rw [after, after, hnext, perform_of_ne_fire hne]
    · rw [State.quiet_of_log hlog]
      exact (congrArg (step · a) hs).trans (State.step_quiet s a)
    · exact hrunning
    · exact (List.append_nil _).symm

/-- **A program played moment by moment comes to its end**, in the state and with the log that
taking its steps gives. -/
theorem plays {program : List Step} (hs : x.state = s.quiet) (hrunning : x.running = [])
    (hprogram : x.program = program) :
    ∃ n made, (x.after reactions n).state = (program.foldl step s).quiet ∧
      (x.after reactions n).program = [] ∧ (x.after reactions n).running = [] ∧
      (x.after reactions n).calls = x.calls ++ made ∧
      logFrom s program = made.map Call.entry := by
  induction program generalizing s x with
  | nil => exact ⟨0, [], hs, hprogram, hrunning, (List.append_nil _).symm, rfl⟩
  | cons a program ih =>
    obtain ⟨n, made, hstate, hprogram, hrunning, hcalls, hlog⟩ := plays_step hs hrunning hprogram
    obtain ⟨m, made', hstate', hprogram', hrunning', hcalls', hlog'⟩ :=
      ih hstate hrunning hprogram
    rw [← after_add] at hstate' hprogram' hrunning' hcalls'
    refine ⟨n + m, made ++ made', hstate', hprogram', hrunning', ?_, ?_⟩
    · rw [hcalls', hcalls, List.append_assoc]
    · rw [logFrom, hlog, hlog', List.map_append]

/-! ### Every moment -/

/-- A moment of a program whose listeners behave in a given way. -/
def reached (behaviour : Behaviour) (program : List Step) (n : Nat) : Moment :=
  ({ program } : Moment).after behaviour n

variable {behaviour : Behaviour} {program : List Step} {n m : Nat}

theorem reached_add (behaviour : Behaviour) (program : List Step) (n m : Nat) :
    reached behaviour program (n + m) = (reached behaviour program n).after behaviour m :=
  after_add _ n m

theorem Exact.pairwise_entries (h : x.Exact) {e : Emitter Listener}
    (he : x.state.emitter = some e) : (e.entries.map (·.1)).Pairwise (· < ·) := by
  have hall : ((numbered x.registered).map (·.1)).Pairwise (· < ·) := by
    rw [State.map_fst_numbered]
    exact List.pairwise_lt_range
  rw [h.entries e he]
  exact hall.sublist (List.filter_sublist.map _)

/-- The deed with a number was to fire a value, and it came before the given moment. -/
def Fired (behaviour : Behaviour) (program : List Step) (n number : Nat) (value : Int) : Prop :=
  ∃ m < n, (reached behaviour program m).upcoming? = some (.fire value) ∧
    (reached behaviour program m).done.length = number

theorem Fired.succ (h : Fired behaviour program n number value) :
    Fired behaviour program (n + 1) number value := by
  obtain ⟨m, hm, hfire⟩ := h
  exact ⟨m, Nat.lt_succ_of_lt hm, hfire⟩

theorem fired (behaviour : Behaviour) (program : List Step) (n : Nat) :
    (∀ d ∈ (reached behaviour program n).deliveries, Fired behaviour program n d.number d.value) ∧
      ∀ c ∈ (reached behaviour program n).calls, Fired behaviour program n c.number c.value := by
  induction n with
  | zero => exact ⟨fun d hd => absurd hd List.not_mem_nil, fun c hc => absurd hc List.not_mem_nil⟩
  | succ n ih =>
    obtain ⟨hdeliveries, hcalls⟩ := ih
    replace hdeliveries := fun d hd => (hdeliveries d hd).succ
    replace hcalls := fun c hc => (hcalls c hc).succ
    have hnext : (reached behaviour program n).Leads (reached behaviour program (n + 1)) :=
      leads_next behaviour _
    cases hnext with
    | rests _ _ _ hsame hkept | does _ _ _ _ _ hsame hkept =>
      rw [hsame, hkept]
      exact ⟨hdeliveries, hcalls⟩
    | fires value hfire _ _ hsame hmore =>
      rw [hsame, hmore]
      refine ⟨List.forall_mem_cons.2 ⟨?_, hdeliveries⟩, hcalls⟩
      exact ⟨n, Nat.lt_succ_self n, hfire, rfl⟩
    | calls d r due outer _ _ _ hmore hbefore hafter =>
      rw [hbefore] at hdeliveries
      rw [hmore, hafter]
      have hd := List.forall_mem_cons.1 hdeliveries
      refine ⟨List.forall_mem_cons.2 hd, fun c hc => ?_⟩
      obtain hc | hc := List.mem_append.1 hc
      · exact hcalls c hc
      · rw [List.mem_singleton.1 hc]
        exact hd.1
    | ends d _ _ _ hsame _ hless =>
      rw [hless] at hdeliveries
      rw [hsame]
      exact ⟨(List.forall_mem_cons.1 hdeliveries).2, hcalls⟩

/-- **Every fire calls the listeners registered when it comes.**  At every moment of every program,
whatever its listeners do when they are called:

* of all listeners that were registered, in that order, those are registered whose numbers are held,
  and no two have one number;
* every fire that came before has called, in order, the listeners that were registered when it came,
  or it is in progress and has the rest of them still to call; and no call was made for anything
  but such a fire.

A program whose listeners do what their actions say comes to its end, in the state and with the log
that taking its steps gives. -/
theorem delivers_exactly (behaviour : Behaviour) (program : List Step) (n : Nat) :
    (∀ e, (reached behaviour program n).state.emitter = some e →
        e.entries = (numbered (reached behaviour program n).registered).filter
          (fun r => (reached behaviour program n).state.held.contains r.1) ∧
        (e.entries.map (·.1)).Pairwise (· < ·)) ∧
      (∀ m < n, ∀ value, (reached behaviour program m).upcoming? = some (.fire value) →
        (reached behaviour program n).Serves (reached behaviour program m).done.length value
          (reached behaviour program m).state.registrations) ∧
      (∀ c ∈ (reached behaviour program n).calls, Fired behaviour program n c.number c.value) ∧
      ∃ last, (reached reactions program last).program = [] ∧
        (reached reactions program last).running = [] ∧
        (reached reactions program last).state = (program.foldl step {}).quiet ∧
        (reached reactions program last).calls.map Call.entry = logFrom {} program := by
  have hexact := exact_after behaviour program n
  refine ⟨fun e he => ⟨hexact.entries e he, hexact.pairwise_entries he⟩, ?_,
    (fired behaviour program n).2, ?_⟩
  · intro m hm value hfire
    obtain ⟨k, rfl⟩ : ∃ k, n = m + (k + 1) := ⟨n - m - 1, by omega⟩
    rw [reached_add]
    exact (ordered_after behaviour program m).serves_after hfire k
  · obtain ⟨last, made, hstate, hprogram, hrunning, hcalls, hlog⟩ :=
      plays (x := { program }) (s := {}) rfl rfl rfl
    refine ⟨last, hprogram, hrunning, hstate, ?_⟩
    rw [hlog, reached, hcalls]
    rfl

/-- The first listener registers another one, releases itself and fires again; the second does
nothing. -/
def nestedProgram : List Step :=
  [.subscribe
      { id := "first", action := { subscribe := "third", drop := "first", refire := true } },
    .subscribe { id := "second" }, .fire 1]

/-- The outer fire calls the first and the second listener, though the first releases itself; the
inner one calls the second and the third. -/
theorem called_nestedProgram :
    (reached reactions nestedProgram 2).upcoming? = some (.fire 1) ∧
      (reached reactions nestedProgram 6).upcoming? = some (.fire 0) ∧
      ((reached reactions nestedProgram 12).called 2).map (·.1) = [0, 1] ∧
      ((reached reactions nestedProgram 12).called 5).map (·.1) = [1, 2] := by
  have hinner : (reached reactions nestedProgram 6).upcoming? = some (.fire 0) := rfl
  have hended : (reached reactions nestedProgram 12).deliveries = [] := by decide +kernel
  have hnone : ∀ number, ∀ d ∈ (reached reactions nestedProgram 12).deliveries,
      d.number ≠ number := by
    simp [hended]
  have hserves := (delivers_exactly reactions nestedProgram 12).2.1
  have houter := (hserves 2 (by decide) 1 rfl).ended (hnone _)
  have hnested := (hserves 6 (by decide) 0 hinner).ended (hnone _)
  refine ⟨rfl, hinner, ?_, ?_⟩
  · exact (congrArg _ houter).trans (by decide +kernel)
  · exact (congrArg _ hnested).trans (by decide +kernel)

end Moment

end AsmExplorer.Emitter.Program
