import SunburstChip.Lib.Code

namespace SunburstChip

/-!
# What a program can be seen to do

A program is a function of what its reads return.  A transcript lists the
accesses of one execution, with the values that were read and written, and
nothing is said about what stands behind the registers: any device, and any
surroundings of it, can be the reason for the values.  What holds of all
transcripts of a program is therefore true for every behaviour of the hardware
and of whoever is connected to it.
-/

/-- An access to a register, with the value that was read or written. -/
inductive Event where
  | read32 (offset : Nat) (value : BitVec 32)
  | write32 (offset : Nat) (value : BitVec 32)
  | write8 (offset : Nat) (value : BitVec 8)
  deriving DecidableEq

/-- The access without the value that was read. -/
def Event.access : Event -> Access
  | .read32 offset _ => .read32 offset
  | .write32 offset value => .write32 offset value
  | .write8 offset value => .write8 offset value

namespace Mmio

variable {α β : Type}

/-- `Transcript m events a`: by these accesses, and no others, `m` returns `a`. -/
inductive Transcript : Mmio α -> List Event -> α -> Prop where
  | ret (value : α) : Transcript (.ret value) [] value
  | read32 {events : List Event} {a : α} (offset : Nat) (value : BitVec 32)
      (next : BitVec 32 -> Mmio α) (rest : Transcript (next value) events a) :
      Transcript (.read32 offset next) (.read32 offset value :: events) a
  | write32 {events : List Event} {a : α} (offset : Nat) (value : BitVec 32) (next : Mmio α)
      (rest : Transcript next events a) :
      Transcript (.write32 offset value next) (.write32 offset value :: events) a
  | write8 {events : List Event} {a : α} (offset : Nat) (value : BitVec 8) (next : Mmio α)
      (rest : Transcript next events a) :
      Transcript (.write8 offset value next) (.write8 offset value :: events) a
  | pollDone {events : List Event} {a : α} (offset : Nat) (done : BitVec 32 -> Bool)
      (value : BitVec 32) (next : BitVec 32 -> Mmio α) (passed : done value = true)
      (rest : Transcript (next value) events a) :
      Transcript (.poll32 offset done next) (.read32 offset value :: events) a
  | pollAgain {events : List Event} {a : α} (offset : Nat) (done : BitVec 32 -> Bool)
      (value : BitVec 32) (next : BitVec 32 -> Mmio α) (failed : done value = false)
      (rest : Transcript (.poll32 offset done next) events a) :
      Transcript (.poll32 offset done next) (.read32 offset value :: events) a

/-! ## Transcripts along the program -/

variable {a : α} {offset : Nat} {m : Mmio α}

theorem transcript_ret {value : α} {events : List Event} :
    Transcript (.ret value) events a ↔ events = [] ∧ a = value := by
  constructor
  · intro transcript
    cases transcript
    exact ⟨rfl, rfl⟩
  · rintro ⟨rfl, rfl⟩
    exact .ret _

theorem transcript_read32 {next : BitVec 32 -> Mmio α} {events : List Event} :
    Transcript (.read32 offset next) events a ↔
      Exists fun value => Exists fun rest =>
        events = .read32 offset value :: rest ∧ Transcript (next value) rest a := by
  constructor
  · intro transcript
    cases transcript with
    | read32 _ value _ rest => exact ⟨value, _, rfl, rest⟩
  · rintro ⟨value, rest, rfl, transcript⟩
    exact .read32 _ _ _ transcript

theorem transcript_write32 {value : BitVec 32} {next : Mmio α} {events : List Event} :
    Transcript (.write32 offset value next) events a ↔
      Exists fun rest => events = .write32 offset value :: rest ∧ Transcript next rest a := by
  constructor
  · intro transcript
    cases transcript with
    | write32 _ _ _ rest => exact ⟨_, rfl, rest⟩
  · rintro ⟨rest, rfl, transcript⟩
    exact .write32 _ _ _ transcript

/-- A transcript of a sequence is one of its first part and one of the rest. -/
theorem transcript_bind {f : α -> Mmio β} {events : List Event} {b : β}
    (transcript : Transcript (m >>= f) events b) :
    Exists fun first => Exists fun rest => Exists fun a =>
      events = first ++ rest ∧ Transcript m first a ∧ Transcript (f a) rest b := by
  generalize program : m >>= f = whole at transcript
  -- The induction is on the transcript; a first part that has already returned
  -- leaves the whole of it to the rest.
  induction transcript generalizing m with
  | ret value =>
      cases m <;> try cases program
      next first => exact ⟨[], [], first, rfl, .ret _, (show f first = _ from program) ▸ .ret _⟩
  | @read32 events b offset value next rest ih =>
      cases m <;> try cases program
      · next first =>
          exact ⟨[], _, first, rfl, .ret _, (show f first = _ from program) ▸ .read32 _ _ _ rest⟩
      · rcases ih rfl with ⟨first, last, a, rfl, left, right⟩
        exact ⟨_ :: first, last, a, rfl, .read32 _ _ _ left, right⟩
  | @write32 events b offset value next rest ih =>
      cases m <;> try cases program
      · next first =>
          exact ⟨[], _, first, rfl, .ret _, (show f first = _ from program) ▸ .write32 _ _ _ rest⟩
      · rcases ih rfl with ⟨first, last, a, rfl, left, right⟩
        exact ⟨_ :: first, last, a, rfl, .write32 _ _ _ left, right⟩
  | @write8 events b offset value next rest ih =>
      cases m <;> try cases program
      · next first =>
          exact ⟨[], _, first, rfl, .ret _, (show f first = _ from program) ▸ .write8 _ _ _ rest⟩
      · rcases ih rfl with ⟨first, last, a, rfl, left, right⟩
        exact ⟨_ :: first, last, a, rfl, .write8 _ _ _ left, right⟩
  | @pollDone events b offset done value next passed rest ih =>
      cases m <;> try cases program
      · next first =>
          exact ⟨[], _, first, rfl, .ret _,
            (show f first = _ from program) ▸ .pollDone _ _ _ _ passed rest⟩
      · rcases ih rfl with ⟨first, last, a, rfl, left, right⟩
        exact ⟨_ :: first, last, a, rfl, .pollDone _ _ _ _ passed left, right⟩
  | @pollAgain events b offset done value next failed rest ih =>
      cases m <;> try cases program
      · next first =>
          exact ⟨[], _, first, rfl, .ret _,
            (show f first = _ from program) ▸ .pollAgain _ _ _ _ failed rest⟩
      · next next' =>
          rcases ih (m := .poll32 offset done next') rfl with ⟨first, last, a, rfl, left, right⟩
          exact ⟨_ :: first, last, a, rfl, .pollAgain _ _ _ _ failed left, right⟩

/-! ## What is known of a program without its transcripts -/

/-- A program makes no other accesses than it may. -/
theorem Within.events {allowed : Access -> Prop} {events : List Event} (within : m.Within allowed)
    (transcript : Transcript m events a) :
    forall event, event ∈ events -> allowed event.access := by
  induction transcript with
  | ret value => exact fun _ member => absurd member (List.not_mem_nil)
  | read32 offset value next rest ih | pollDone offset done value next passed rest ih =>
      intro event member
      rcases List.mem_cons.mp member with rfl | later
      · exact within.1
      · exact ih (within.2 value) event later
  | write32 offset value next rest ih | write8 offset value next rest ih =>
      intro event member
      rcases List.mem_cons.mp member with rfl | later
      · exact within.1
      · exact ih within.2 event later
  | pollAgain offset done value next failed rest ih =>
      intro event member
      rcases List.mem_cons.mp member with rfl | later
      · exact within.1
      · exact ih within event later

/-- A program returns only what it can return. -/
theorem Returns.of_transcript {post : α -> Prop} {events : List Event} (returns : m.Returns post)
    (transcript : Transcript m events a) : post a := by
  induction transcript with
  | ret value => exact returns
  | read32 offset value next rest ih | pollDone offset done value next passed rest ih =>
      exact ih (returns value)
  | write32 offset value next rest ih | write8 offset value next rest ih => exact ih returns
  | pollAgain offset done value next failed rest ih => exact ih returns

/-- What a program returns and writes when its reads return the given values,
one after the other. -/
def replay : Mmio α -> List (BitVec 32) -> Option (α × List Event)
  | .ret value, [] => some (value, [])
  | .read32 offset next, value :: values =>
      ((next value).replay values).map (Prod.map id (.read32 offset value :: ·))
  | .write32 offset value next, values =>
      (next.replay values).map (Prod.map id (.write32 offset value :: ·))
  | .write8 offset value next, values =>
      (next.replay values).map (Prod.map id (.write8 offset value :: ·))
  | .poll32 offset done next, value :: values =>
      if done value then
        ((next value).replay values).map (Prod.map id (.read32 offset value :: ·))
      else none
  | _, _ => none

/-- What a program returns when its reads return the given values. -/
def outcome (m : Mmio α) (values : List (BitVec 32)) : Option α :=
  (m.replay values).map Prod.fst

@[simp] theorem outcome_read32 (offset : Nat) (next : BitVec 32 -> Mmio α) (value : BitVec 32)
    (values : List (BitVec 32)) :
    (Mmio.read32 offset next).outcome (value :: values) = (next value).outcome values := by
  unfold outcome
  rw [replay, Option.map_map]
  rfl

@[simp] theorem outcome_write32 (offset : Nat) (value : BitVec 32) (next : Mmio α)
    (values : List (BitVec 32)) :
    (Mmio.write32 offset value next).outcome values = next.outcome values := by
  unfold outcome
  rw [replay, Option.map_map]
  rfl

/-- A replayed program has a transcript. -/
theorem transcript_replay {values : List (BitVec 32)} {events : List Event}
    (replayed : m.replay values = some (a, events)) : Transcript m events a := by
  induction m generalizing values events with
  | ret value =>
      cases values with
      | nil =>
          cases replayed
          exact .ret _
      | cons => cases replayed
  | read32 offset next ih =>
      cases values with
      | nil => cases replayed
      | cons value values =>
          rcases Option.map_eq_some_iff.mp replayed with ⟨⟨a', rest⟩, replayed', same⟩
          cases same
          exact .read32 _ _ _ (ih value replayed')
  | write32 offset value next ih =>
      rcases Option.map_eq_some_iff.mp replayed with ⟨⟨a', rest⟩, replayed', same⟩
      cases same
      exact .write32 _ _ _ (ih replayed')
  | write8 offset value next ih =>
      rcases Option.map_eq_some_iff.mp replayed with ⟨⟨a', rest⟩, replayed', same⟩
      cases same
      exact .write8 _ _ _ (ih replayed')
  | poll32 offset done next ih =>
      cases values with
      | nil => cases replayed
      | cons value values =>
          simp only [replay] at replayed
          by_cases passed : done value = true
          · rw [if_pos passed] at replayed
            rcases Option.map_eq_some_iff.mp replayed with ⟨⟨a', rest⟩, replayed', same⟩
            cases same
            exact .pollDone _ _ _ _ passed (ih value replayed')
          · rw [if_neg passed] at replayed
            cases replayed

/-! ## Programs that return whatever they read -/

/-- The values read from one register, in order. -/
def readsAt (offset : Nat) (events : List Event) : List (BitVec 32) :=
  events.filterMap (fun event =>
    match event with
    | .read32 offset' value => if offset' = offset then some value else none
    | _ => none)

theorem readsAt_append (offset : Nat) (events events' : List Event) :
    readsAt offset (events ++ events') = readsAt offset events ++ readsAt offset events' :=
  List.filterMap_append

theorem readsAt_cons_same (offset : Nat) (value : BitVec 32) (events : List Event) :
    readsAt offset (.read32 offset value :: events) = value :: readsAt offset events :=
  List.filterMap_cons_some (if_pos rfl)

theorem readsAt_cons_other {offset' : Nat} (other : offset' ≠ offset) (value : BitVec 32)
    (events : List Event) :
    readsAt offset (.read32 offset' value :: events) = readsAt offset events :=
  List.filterMap_cons_none (if_neg other)

/-- The wait can end, and is not on this register. -/
def Answers (offset offset' : Nat) (done : BitVec 32 -> Bool) : Prop :=
  offset' ≠ offset ∧ Exists fun value => done value = true

/-- Whatever a register has to return, there is a transcript in which it does. -/
theorem Polls.transcript (answers : m.Polls (Answers offset)) (supply : Nat -> BitVec 32) :
    Exists fun events => Exists fun a => Exists fun count =>
      Transcript m events a ∧ readsAt offset events = (List.range count).map supply := by
  induction m generalizing supply with
  | ret value => exact ⟨[], value, 0, .ret _, rfl⟩
  | read32 offset' next ih =>
      by_cases same : offset' = offset
      · rcases ih _ (answers (supply 0)) (fun i => supply (i + 1)) with
          ⟨events, a, count, transcript, reads⟩
        refine ⟨_, a, count + 1, .read32 _ (supply 0) _ transcript, ?_⟩
        rw [same, readsAt_cons_same, reads, List.range_succ_eq_map, List.map_cons, List.map_map]
        rfl
      · rcases ih _ (answers 0) supply with ⟨events, a, count, transcript, reads⟩
        exact ⟨_, a, count, .read32 _ 0 _ transcript, (readsAt_cons_other same _ _).trans reads⟩
  | write32 offset' value next ih =>
      rcases ih answers supply with ⟨events, a, count, transcript, reads⟩
      exact ⟨_, a, count, .write32 _ _ _ transcript, reads⟩
  | write8 offset' value next ih =>
      rcases ih answers supply with ⟨events, a, count, transcript, reads⟩
      exact ⟨_, a, count, .write8 _ _ _ transcript, reads⟩
  | poll32 offset' done next ih =>
      rcases answers with ⟨⟨other, value, passed⟩, rest⟩
      rcases ih value (rest value) supply with ⟨events, a, count, transcript, reads⟩
      exact ⟨_, a, count, .pollDone _ _ value _ passed transcript,
        (readsAt_cons_other other _ _).trans reads⟩

end Mmio

/-! ## Routines -/

namespace Code

open Mmio

variable {τ ε α β : Type}
variable {state : τ} {code : Code τ ε α} {post : List Event -> α -> τ -> Prop}

/-- A transcript of a sequence: the first routine has ended early, or the next
one has gone on with its value. -/
theorem transcript_bind {first : Code τ ε α} {next : α -> Code τ ε β} {events : List Event}
    {out : Except ε β × τ} (transcript : Transcript ((first >>= next) state) events out) :
    (Exists fun reason => Exists fun state' =>
      Transcript (first state) events (.error reason, state') ∧ out = (.error reason, state')) ∨
    (Exists fun before => Exists fun after => Exists fun value => Exists fun state' =>
      events = before ++ after ∧ Transcript (first state) before (.ok value, state') ∧
        Transcript (next value state') after out) := by
  rw [bind_apply] at transcript
  rcases Mmio.transcript_bind transcript with ⟨before, after, ⟨reason | value, state'⟩, rfl, here, rest⟩
  · rcases transcript_ret.mp rest with ⟨rfl, rfl⟩
    rw [List.append_nil]
    exact .inl ⟨reason, state', here, rfl⟩
  · exact .inr ⟨before, after, value, state', rfl, here, rest⟩

/-- What a routine keeps to shows in all its transcripts. -/
theorem Confined.transcript {allowed : Access -> Prop} {inv : τ -> Prop} {events : List Event}
    {out : Except ε α × τ} (confined : code.Confined allowed inv) (holds : inv state)
    (transcript : Transcript (code state) events out) :
    (forall event, event ∈ events -> allowed event.access) ∧ inv out.2 :=
  ⟨(confined state holds).1.events transcript, (confined state holds).2.of_transcript transcript⟩

/-- If the routine does not end early, `post` holds of its transcript, of its
value and of the state it leaves. -/
def Ends (code : Code τ ε α) (state : τ) (post : List Event -> α -> τ -> Prop) : Prop :=
  forall events value state', Transcript (code state) events (.ok value, state') ->
    post events value state'

theorem ends_pure {value : α} (holds : post [] value state) :
    Ends (pure value : Code τ ε α) state post := by
  intro events value' state' transcript
  rcases transcript_ret.mp transcript with ⟨rfl, same⟩
  cases same
  exact holds

theorem ends_bind {first : Code τ ε α} {next : α -> Code τ ε β}
    {post : List Event -> β -> τ -> Prop}
    (here : Ends first state (fun before value state' =>
      Ends (next value) state' (fun after => post (before ++ after)))) :
    Ends (first >>= next) state post := by
  intro events value state' transcript
  rcases transcript_bind transcript with
    ⟨reason, state₁, -, impossible⟩ | ⟨before, after, value₁, state₁, rfl, left, right⟩
  · cases impossible
  · exact here before value₁ state₁ left after value state' right

theorem Ends.imp {post' : List Event -> α -> τ -> Prop} (ends : Ends code state post)
    (weaker : forall events value state', post events value state' -> post' events value state') :
    Ends code state post' :=
  fun events value state' transcript => weaker _ _ _ (ends events value state' transcript)

theorem ends_ite {condition : Prop} [Decidable condition] {code' : Code τ ε α}
    (pos : condition -> Ends code state post) (neg : ¬ condition -> Ends code' state post) :
    Ends (if condition then code else code') state post := by
  split
  · next holds => exact pos holds
  · next fails => exact neg fails

/-- A routine that reads one register. -/
theorem ends_read32 {state' : τ} {offset : Nat} {result : BitVec 32 -> α}
    (reads : code state = .read32 offset (fun value => .ret (.ok (result value), state')))
    (holds : forall value, post [.read32 offset value] (result value) state') :
    Ends code state post := by
  intro events out final transcript
  rw [reads] at transcript
  rcases transcript_read32.mp transcript with ⟨value, rest, rfl, returned⟩
  rcases transcript_ret.mp returned with ⟨rfl, same⟩
  cases same
  exact holds value

/-- A routine that writes one register. -/
theorem ends_write32 {state' : τ} {offset : Nat} {value : BitVec 32} {result : α}
    (writes : code state = .write32 offset value (.ret (.ok result, state')))
    (holds : post [.write32 offset value] result state') : Ends code state post := by
  intro events out final transcript
  rw [writes] at transcript
  rcases transcript_write32.mp transcript with ⟨rest, rfl, returned⟩
  rcases transcript_ret.mp returned with ⟨rfl, same⟩
  cases same
  exact holds

end Code
end SunburstChip
