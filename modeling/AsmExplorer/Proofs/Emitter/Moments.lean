import AsmExplorer.Proofs.Emitter.Registrations

/-!
# Emitters while they deliver

A listener may do anything while it is called: register and release listeners, and fire again, so
that a delivery begins while others are still in progress.  `Moment` is a program in the middle of
all that: a stack of deliveries, the innermost first, each with the registrations that it still has
to call and with what the listener that it called last has still to do.  `Moment.next` is what
happens next, and it is one deed of the program or of a listener, one call, or the end of a
delivery.

What listeners do is given by a *behaviour*, any function of the number of the call, the listener
and the value.  So whatever a listener does, in whatever way it depends on earlier calls, some
behaviour does it.

* `Moment.exact_after` : at every moment what is registered is what is held.
* `Moment.Serves` : the calls that a delivery made and those that it has still to make are
  together the listeners registered when it began; `Moment.serves_after` : so it stays.
-/

namespace AsmExplorer.Emitter.Program

/-- What listeners do when they are called: the number of the call, the listener and the value. -/
abbrev Behaviour := Nat → Listener → Int → List Step

/-- A delivery in progress. -/
structure Delivery where
  /-- The number of the deed that began it. -/
  number : Nat
  /-- The value. -/
  value : Int
  /-- The registrations still to be called. -/
  due : List Registration
  /-- What the listener called last has still to do. -/
  todo : List Step := []

/-- A call of a listener. -/
structure Call where
  /-- The number of the deed that began the delivery. -/
  number : Nat
  /-- The value. -/
  value : Int
  /-- The registration called. -/
  registration : Registration
deriving DecidableEq

/-- A moment of a program. -/
structure Moment where
  /-- The emitter and the registrations that are held. -/
  state : State := {}
  /-- What the program has still to do. -/
  program : List Step
  /-- The deliveries in progress, the innermost first. -/
  running : List Delivery := []
  /-- What the program and the listeners have done, in order. -/
  done : List Step := []
  /-- The calls made, in order. -/
  calls : List Call := []

namespace Moment

/-- Carries out a deed.  Firing begins a delivery to the listeners registered now. -/
def perform (x : Moment) (a : Step) : Moment :=
  match a with
  | .fire value =>
    { x with
      running := { number := x.done.length, value, due := x.state.registrations } :: x.running
      done := x.done ++ [a] }
  | a => { x with state := step x.state a, done := x.done ++ [a] }

/-- What comes next.  While a delivery is in progress, the listener that it called last goes on;
then it calls the next one, and when there is none it ends. -/
def next (behaviour : Behaviour) (x : Moment) : Moment :=
  match x.running with
  | [] =>
    match x.program with
    | [] => x
    | a :: program => { x with program }.perform a
  | d :: outer =>
    match d.todo with
    | a :: todo => { x with running := { d with todo } :: outer }.perform a
    | [] =>
      match d.due with
      | r :: due =>
        { x with
          running := { d with due, todo := behaviour x.calls.length r.2 d.value } :: outer
          calls := x.calls ++ [{ number := d.number, value := d.value, registration := r }] }
      | [] => { x with running := outer }

/-- The moment that comes a number of moments later. -/
def after (behaviour : Behaviour) (x : Moment) : Nat → Moment
  | 0 => x
  | n + 1 => (after behaviour x n).next behaviour

/-- The deed that comes next, if it is not a call or the end of a delivery. -/
def upcoming? (x : Moment) : Option Step :=
  match x.running with
  | [] => x.program.head?
  | d :: _ => d.todo.head?

/-- The listeners that were registered, in order. -/
def registered (x : Moment) : List Listener :=
  x.done.flatMap Step.registers

/-- The registrations that a delivery called, in order. -/
def called (x : Moment) (number : Nat) : List Registration :=
  (x.calls.filter (·.number == number)).map Call.registration

/-- The deliveries in progress without what the listeners have still to do. -/
def deliveries (x : Moment) : List Delivery :=
  x.running.map fun d => { d with todo := [] }

variable {behaviour : Behaviour} {x y : Moment} {number : Nat} {value : Int}
  {rs : List Registration} {d : Delivery}

/-! ### What comes next -/

/-- What the next moment can be. -/
inductive Leads (x y : Moment) : Prop where
  /-- The program has come to its end. -/
  | rests (upcoming : x.upcoming? = none) (state : y.state = x.state) (done : y.done = x.done)
      (calls : y.calls = x.calls) (deliveries : y.deliveries = x.deliveries)
  /-- The program or a listener does something other than firing. -/
  | does (a : Step) (ha : ∀ value, a ≠ .fire value) (upcoming : x.upcoming? = some a)
      (state : y.state = step x.state a) (done : y.done = x.done ++ [a])
      (calls : y.calls = x.calls) (deliveries : y.deliveries = x.deliveries)
  /-- The program or a listener fires. -/
  | fires (value : Int) (upcoming : x.upcoming? = some (.fire value)) (state : y.state = x.state)
      (done : y.done = x.done ++ [.fire value]) (calls : y.calls = x.calls)
      (deliveries : y.deliveries =
        { number := x.done.length, value, due := x.state.registrations } :: x.deliveries)
  /-- The innermost delivery calls a listener. -/
  | calls (d : Delivery) (r : Registration) (due : List Registration) (outer : List Delivery)
      (upcoming : x.upcoming? = none) (state : y.state = x.state) (done : y.done = x.done)
      (calls : y.calls = x.calls ++ [{ number := d.number, value := d.value, registration := r }])
      (before : x.deliveries = { d with due := r :: due } :: outer)
      (after : y.deliveries = { d with due } :: outer)
  /-- The innermost delivery ends. -/
  | ends (d : Delivery) (upcoming : x.upcoming? = none) (state : y.state = x.state)
      (done : y.done = x.done) (calls : y.calls = x.calls) (due : d.due = [])
      (deliveries : x.deliveries = d :: y.deliveries)

theorem perform_of_ne_fire {a : Step} (ha : ∀ value, a ≠ .fire value) (x : Moment) :
    x.perform a = { x with state := step x.state a, done := x.done ++ [a] } := by
  cases a with
  | fire value => exact absurd rfl (ha value)
  | subscribe | drop | group | disposeGroup | replaceGroup | dropEmitter => rfl

theorem leads_perform {a : Step} (hupcoming : x.upcoming? = some a) (hstate : y.state = x.state)
    (hdone : y.done = x.done) (hcalls : y.calls = x.calls)
    (hdeliveries : y.deliveries = x.deliveries) : x.Leads (y.perform a) := by
  by_cases ha : ∃ value, a = .fire value
  · obtain ⟨value, rfl⟩ := ha
    refine .fires value hupcoming hstate ?_ hcalls ?_
    · rw [← hdone]
      rfl
    · rw [← hdeliveries, ← hdone, ← hstate]
      rfl
  · have hne : ∀ value, a ≠ .fire value := fun value h => ha ⟨value, h⟩
    rw [perform_of_ne_fire hne]
    exact .does a hne hupcoming (by rw [hstate]) (by rw [hdone]) hcalls hdeliveries

theorem leads_next (behaviour : Behaviour) (x : Moment) : x.Leads (x.next behaviour) := by
  obtain ⟨state, program, running, done, calls⟩ := x
  cases running with
  | nil =>
    cases program with
    | nil => exact .rests rfl rfl rfl rfl rfl
    | cons a program => exact leads_perform rfl rfl rfl rfl rfl
  | cons d outer =>
    obtain ⟨number, value, due, todo⟩ := d
    cases todo with
    | cons a todo => exact leads_perform rfl rfl rfl rfl rfl
    | nil =>
      cases due with
      | cons r due => exact .calls ⟨number, value, [], []⟩ r due _ rfl rfl rfl rfl rfl rfl
      | nil => exact .ends ⟨number, value, [], []⟩ rfl rfl rfl rfl rfl rfl

theorem after_add (x : Moment) (n m : Nat) :
    x.after behaviour (n + m) = (x.after behaviour n).after behaviour m := by
  induction m with
  | zero => rfl
  | succ m ih =>
    rw [← Nat.add_assoc]
    exact congrArg (next behaviour) ih

/-- What every moment keeps holds at all later moments. -/
theorem after_induction {I : Moment → Prop} (hnext : ∀ x y : Moment, I x → x.Leads y → I y)
    (h : I x) (n : Nat) : I (x.after behaviour n) := by
  induction n with
  | zero => exact h
  | succ n ih => exact hnext _ _ ih (leads_next behaviour _)

/-! ### What is registered -/

/-- What is registered and what is held agree at a moment. -/
def Exact (x : Moment) : Prop :=
  x.state.Exact x.registered

theorem Exact.leads (h : x.Exact) (hnext : x.Leads y) : y.Exact := by
  cases hnext with
  | rests _ hstate hdone | calls _ _ _ _ _ hstate hdone | ends _ _ hstate hdone =>
    rw [Exact, registered, hstate, hdone]
    exact h
  | does a ha _ hstate hdone =>
    have hregistered : y.registered = x.registered ++ a.registers := by
      simp [registered, hdone, List.flatMap_append]
    rw [Exact, hregistered, hstate]
    exact State.Exact.step h ha
  | fires value _ hstate hdone =>
    have hregistered : y.registered = x.registered := by
      simp [registered, hdone, List.flatMap_append, Step.registers]
    rw [Exact, hregistered, hstate]
    exact h

theorem exact_after (behaviour : Behaviour) (program : List Step) (n : Nat) :
    ({ program } : Moment).after behaviour n |>.Exact :=
  after_induction (fun _ _ h hnext => h.leads hnext) State.exact_initial n

/-! ### Deliveries in progress -/

/-- Deliveries are numbered in the order in which they began, and an inner one began later. -/
structure Ordered (x : Moment) : Prop where
  /-- An inner delivery began after all that it is within. -/
  nested : x.deliveries.Pairwise fun d d' => d'.number < d.number
  /-- Deliveries in progress have begun. -/
  running : ∀ d ∈ x.deliveries, d.number < x.done.length
  /-- Deliveries that made calls have begun. -/
  calls : ∀ c ∈ x.calls, c.number < x.done.length

theorem Ordered.leads (h : x.Ordered) (hnext : x.Leads y) : y.Ordered := by
  cases hnext with
  | rests _ _ hdone hcalls hdeliveries =>
    refine ⟨?_, ?_, ?_⟩ <;> simp only [hdone, hcalls, hdeliveries]
    exacts [h.nested, h.running, h.calls]
  | does a _ _ _ hdone hcalls hdeliveries =>
    refine ⟨?_, ?_, ?_⟩ <;>
      simp only [hdone, hcalls, hdeliveries, List.length_append, List.length_singleton]
    exacts [h.nested, fun d hd => Nat.lt_succ_of_lt (h.running d hd),
      fun c hc => Nat.lt_succ_of_lt (h.calls c hc)]
  | fires value _ _ hdone hcalls hdeliveries =>
    refine ⟨?_, ?_, ?_⟩ <;>
      simp only [hdone, hcalls, hdeliveries, List.length_append, List.length_singleton]
    · exact List.pairwise_cons.2 ⟨h.running, h.nested⟩
    · intro d hd
      obtain rfl | hd := List.mem_cons.1 hd
      · exact Nat.lt_succ_self _
      · exact Nat.lt_succ_of_lt (h.running d hd)
    · exact fun c hc => Nat.lt_succ_of_lt (h.calls c hc)
  | calls d r due outer _ _ hdone hcalls hbefore hafter =>
    have hnested := h.nested
    have hrunning := h.running
    rw [hbefore] at hnested hrunning
    refine ⟨?_, ?_, ?_⟩ <;> simp only [hdone, hcalls, hafter]
    · exact List.pairwise_cons.2 (List.pairwise_cons.1 hnested)
    · exact List.forall_mem_cons.2 (List.forall_mem_cons.1 hrunning)
    · intro c hc
      obtain hc | hc := List.mem_append.1 hc
      · exact h.calls c hc
      · rw [List.mem_singleton.1 hc]
        exact (List.forall_mem_cons.1 hrunning).1
  | ends d _ _ hdone hcalls _ hdeliveries =>
    have hnested := h.nested
    have hrunning := h.running
    rw [hdeliveries] at hnested hrunning
    refine ⟨(List.pairwise_cons.1 hnested).2, ?_, ?_⟩ <;> rw [hdone]
    · exact (List.forall_mem_cons.1 hrunning).2
    · exact hcalls ▸ h.calls

theorem ordered_after (behaviour : Behaviour) (program : List Step) (n : Nat) :
    (({ program } : Moment).after behaviour n).Ordered := by
  refine after_induction (fun _ _ h hnext => h.leads hnext) ⟨.nil, ?_, ?_⟩ n
  · exact fun d hd => absurd hd List.not_mem_nil
  · exact fun c hc => absurd hc List.not_mem_nil

/-! ### Calls -/

/-- A delivery of a value has called some of the given registrations, in their order, and nothing
else; the others it has still to call, and once it has ended it has called all. -/
structure Serves (x : Moment) (number : Nat) (value : Int) (rs : List Registration) : Prop where
  /-- The delivery has begun. -/
  begun : number < x.done.length
  /-- It passes the value. -/
  values : ∀ c ∈ x.calls, c.number = number → c.value = value
  /-- While it is in progress, it has called the registrations that it has not still to call. -/
  running : ∀ d ∈ x.deliveries, d.number = number →
    d.value = value ∧ x.called number ++ d.due = rs
  /-- Once it has ended, it has called all. -/
  ended : (∀ d ∈ x.deliveries, d.number ≠ number) → x.called number = rs

theorem called_congr (h : y.calls = x.calls) (number : Nat) :
    y.called number = x.called number := by
  rw [called, called, h]

theorem called_of_calls {c : Call} (h : y.calls = x.calls ++ [c]) (number : Nat) :
    y.called number =
      x.called number ++ if c.number = number then [c.registration] else [] := by
  rw [called, called, h, List.filter_append, List.map_append]
  by_cases hc : c.number = number <;> simp [hc]

/-- A delivery that begins has the registrations of this moment to call. -/
theorem Ordered.serves_fire (h : x.Ordered) {value : Int}
    (hdone : y.done = x.done ++ [.fire value]) (hcalls : y.calls = x.calls)
    (hdeliveries : y.deliveries =
      { number := x.done.length, value, due := x.state.registrations } :: x.deliveries) :
    y.Serves x.done.length value x.state.registrations := by
  have hnone : y.called x.done.length = [] := by
    rw [called_congr hcalls, called, List.map_eq_nil_iff, List.filter_eq_nil_iff]
    intro c hc
    have := h.calls c hc
    simp only [beq_iff_eq]
    omega
  refine ⟨?_, ?_, ?_, ?_⟩
  · simp [hdone]
  · intro c hc heq
    have := h.calls c (hcalls ▸ hc)
    omega
  · intro d hd heq
    rw [hdeliveries] at hd
    obtain rfl | hd := List.mem_cons.1 hd
    · exact ⟨rfl, by rw [hnone, List.nil_append]⟩
    · have := h.running d hd
      omega
  · intro hended
    rw [hdeliveries] at hended
    exact absurd rfl (List.forall_mem_cons.1 hended).1

theorem Serves.leads (h : x.Serves number value rs) (hordered : x.Ordered) (hnext : x.Leads y) :
    y.Serves number value rs := by
  cases hnext with
  | rests _ _ hdone hcalls hdeliveries =>
    refine ⟨?_, ?_, ?_, ?_⟩ <;> simp only [hdone, hcalls, hdeliveries, called_congr hcalls]
    exacts [h.begun, h.values, h.running, h.ended]
  | does a _ _ _ hdone hcalls hdeliveries =>
    refine ⟨?_, ?_, ?_, ?_⟩ <;> simp only [hdone, hcalls, hdeliveries, called_congr hcalls,
      List.length_append]
    exacts [Nat.lt_add_right _ h.begun, h.values, h.running, h.ended]
  | fires value' _ _ hdone hcalls hdeliveries =>
    refine ⟨?_, ?_, ?_, ?_⟩ <;> simp only [hdone, hcalls, hdeliveries, called_congr hcalls,
      List.length_append]
    · exact Nat.lt_add_right _ h.begun
    · exact h.values
    · intro d hd heq
      obtain rfl | hd := List.mem_cons.1 hd
      · exact absurd heq (Nat.ne_of_gt h.begun)
      · exact h.running d hd heq
    · exact fun hended => h.ended fun d hd => hended d (List.mem_cons_of_mem _ hd)
  | calls d r due outer _ _ hdone hcalls hbefore hafter =>
    have hrunning := h.running
    have hended := h.ended
    have hnested := hordered.nested
    rw [hbefore] at hrunning hended hnested
    have hinner := List.forall_mem_cons.1 hrunning
    have hcalled := called_of_calls hcalls number
    refine ⟨hdone ▸ h.begun, ?_, ?_, ?_⟩
    · intro c hc heq
      rw [hcalls] at hc
      obtain hc | hc := List.mem_append.1 hc
      · exact h.values c hc heq
      · rw [List.mem_singleton.1 hc] at heq ⊢
        exact (hinner.1 heq).1
    · intro d' hd' heq
      rw [hafter] at hd'
      obtain rfl | hd' := List.mem_cons.1 hd'
      · obtain ⟨hvalue, hdue⟩ := hinner.1 heq
        refine ⟨hvalue, ?_⟩
        rw [hcalled, if_pos heq, List.append_assoc]
        exact hdue
      · -- a delivery that this one is within began earlier, so the call is none of its own
        have hlt : d'.number < d.number := (List.pairwise_cons.1 hnested).1 d' hd'
        have hne : d.number ≠ number := by omega
        rw [hcalled, if_neg hne, List.append_nil]
        exact hinner.2 d' hd' heq
    · intro hnone
      rw [hafter] at hnone
      obtain ⟨hd, hnone⟩ := List.forall_mem_cons.1 hnone
      rw [hcalled, if_neg hd, List.append_nil]
      exact hended (List.forall_mem_cons.2 ⟨hd, hnone⟩)
  | ends d _ _ hdone hcalls hdue hdeliveries =>
    have hrunning := h.running
    have hended := h.ended
    rw [hdeliveries] at hrunning hended
    have hinner := List.forall_mem_cons.1 hrunning
    refine ⟨?_, ?_, ?_, ?_⟩ <;> simp only [hdone, hcalls, called_congr hcalls]
    · exact h.begun
    · exact h.values
    · exact hinner.2
    · intro hnone
      by_cases hd : d.number = number
      · obtain ⟨-, hall⟩ := hinner.1 hd
        rwa [hdue, List.append_nil] at hall
      · exact hended (List.forall_mem_cons.2 ⟨hd, hnone⟩)

theorem Serves.after (h : x.Serves number value rs) (hordered : x.Ordered) (n : Nat) :
    (x.after behaviour n).Serves number value rs :=
  (after_induction (I := fun y => y.Serves number value rs ∧ y.Ordered)
    (fun _ _ h hnext => ⟨h.1.leads h.2 hnext, h.2.leads hnext⟩) ⟨h, hordered⟩ n).1

theorem Ordered.serves_after (h : x.Ordered) (hupcoming : x.upcoming? = some (.fire value))
    (n : Nat) :
    (x.after behaviour (n + 1)).Serves x.done.length value x.state.registrations := by
  have hnext := leads_next behaviour x
  have hserves : (x.next behaviour).Serves x.done.length value x.state.registrations := by
    cases hnext with
    | rests hnone | calls _ _ _ _ hnone | ends _ hnone => simp [hnone] at hupcoming
    | does a ha hdoes =>
      rw [hdoes, Option.some.injEq] at hupcoming
      exact absurd hupcoming (ha value)
    | fires value' hfires _ hdone hcalls hdeliveries =>
      rw [hfires, Option.some.injEq, Step.fire.injEq] at hupcoming
      subst hupcoming
      exact h.serves_fire hdone hcalls hdeliveries
  rw [Nat.add_comm, after_add]
  exact hserves.after (h.leads hnext) n

end Moment

end AsmExplorer.Emitter.Program
