import SunburstChip.Lib.TwoRuns
import SunburstChip.Ujson.Reads

namespace SunburstChip
namespace Ujson

open Routine

/-!
# Parsers and their input

A parser sees of its context what there is to be read, and nothing else: in two
contexts that are going to deliver the same characters, it ends in the same way,
and they are going to deliver the same characters afterwards.  Whether one of
them lies in the buffer is of no consequence, because a character is only pushed
back after one has been read.

Along the way it is counted how many characters a parser has taken.  A parser of
values takes one at least.
-/

/-- Two contexts that are going to deliver the same. -/
structure Alike (uj uj' : Ujson) : Prop where
  pending : pending uj = pending uj'
  ended : uj.ioContext.ended = uj'.ioContext.ended

/-- Of the characters that there are in total, some have been used. -/
structure Level (total used : Nat) (uj uj' : Ujson) : Prop extends Alike uj uj' where
  bound : uj.remaining + used <= total

/-- The last character that has been used can be pushed back. -/
structure Fresh (total used : Nat) (uj uj' : Ujson) : Prop
    extends Level total (used + 1) uj uj' where
  empty : uj.buffer = none
  empty' : uj'.buffer = none

/-- The same with an object. -/
structure LevelOn {τ : Type} (total : Nat) (held : Bool) (used : Nat) (s s' : Ujson × Option τ) :
    Prop extends Level total used s.1 s'.1 where
  object : s.2 = s'.2
  held : s.2.isSome = held

theorem Alike.remaining {uj uj' : Ujson} (alike : Alike uj uj') : uj.remaining = uj'.remaining := by
  rw [remaining_eq, remaining_eq, alike.pending]

theorem Level.less {total used used' : Nat} {uj uj' : Ujson} (level : Level total used uj uj')
    (less : used' <= used) : Level total used' uj uj' :=
  ⟨level.toAlike, Nat.le_trans (Nat.add_le_add_left less _) level.bound⟩

theorem LevelOn.less {τ : Type} {total used used' : Nat} {held : Bool} {s s' : Ujson × Option τ}
    (level : LevelOn total held used s s') (less : used' <= used) :
    LevelOn total held used' s s' :=
  ⟨level.toLevel.less less, level.object, level.held⟩

/-! ## Rules -/

section Rules

variable {σ α β : Type}

/-- On related states a routine ends in the same way, and it uses `k` characters at least. -/
def Uses (rel : Nat -> σ -> σ -> Prop) (early : σ -> σ -> Prop) (k : Nat)
    (m : Routine σ Stop α) : Prop :=
  forall used, Together (rel used) m m
    (fun value s value' s' => value = value' ∧ rel (used + k) s s') (fun _ => early)

variable {rel : Nat -> σ -> σ -> Prop} {early : σ -> σ -> Prop} {k : Nat}

theorem uses_pure (value : α) : Uses rel early 0 (pure value) :=
  fun _ _ _ related => ⟨rfl, related⟩

theorem uses_raise (ends : forall used s s', rel used s s' -> early s s') (reason : Stop) :
    Uses rel early k (raise reason : Routine σ Stop α) :=
  fun used => Together.raise (ends used)

/-- The first routine uses the characters. -/
theorem Uses.first {m : Routine σ Stop α} {next : α -> Routine σ Stop β}
    (uses : Uses rel early k m) (others : forall value, Uses rel early 0 (next value)) :
    Uses rel early k (m >>= next) := by
  intro used
  apply (uses used).bind
  rintro value value' s s' ⟨rfl, related⟩
  exact others value (used + k) s s' related

/-- The other routine uses them. -/
theorem Uses.later {m : Routine σ Stop α} {next : α -> Routine σ Stop β}
    (uses : Uses rel early 0 m) (others : forall value, Uses rel early k (next value)) :
    Uses rel early k (m >>= next) := by
  intro used
  apply (uses used).bind
  rintro value value' s s' ⟨rfl, related⟩
  exact others value used s s' related

theorem Uses.ite {condition : Prop} [Decidable condition] {m m' : Routine σ Stop α}
    (pos : Uses rel early k m) (neg : Uses rel early k m') :
    Uses rel early k (if condition then m else m') := by
  split
  · exact pos
  · exact neg

theorem Uses.weaken (less : forall used s s', rel (used + k) s s' -> rel used s s')
    {m : Routine σ Stop α} (uses : Uses rel early k m) : Uses rel early 0 m := by
  intro used
  apply (uses used).imp
  · rintro value s value' s' ⟨same, related⟩
    exact ⟨same, less used s s' related⟩
  · exact fun _ _ _ ends => ends

theorem uses_repeatedly (ends : forall used s s', rel used s s' -> early s s')
    {size : σ -> Nat} (sizes : forall used s s', rel used s s' -> size s = size s') {stuck : Stop}
    {body : β -> Routine σ Stop (β ⊕ α)} (round : forall start, Uses rel early 0 (body start))
    (start : β) : Uses rel early 0 (repeatedly size stuck body start) := by
  intro used s s' related
  have loop := @Together.repeatedly _ _ _ _ _ _ _ (fun _ => early) stuck body body
    (fun start s start' s' => start = start' ∧ rel used s s')
    (fun value s value' s' => value = value' ∧ rel used s s') size size
  refine loop ?_ ?_ ?_ start start s s' ⟨rfl, related⟩
  · rintro start start' s s' ⟨rfl, related⟩
    apply (round start used s s' related).map id id
    · rintro out t _ t' ⟨rfl, related⟩
      cases out with
      | inl next => exact ⟨rfl, related⟩
      | inr result => exact ⟨rfl, related⟩
    · exact fun _ _ _ ends => ends
  · exact fun _ s _ s' related => ends used s s' related.2
  · exact fun _ s _ s' related => sizes used s s' related.2

end Rules

/-! ## Characters -/

/-- A parser uses `k` characters of its input at least. -/
def Parses {α : Type} (k : Nat) (m : Uj α) : Prop :=
  forall total, Uses (Level total) Alike k m

/-- The same for a parser that fills an object. -/
def ParsesOn {τ α : Type} (k : Nat) (m : UjOn τ α) : Prop :=
  forall total held, Uses (LevelOn total held) (fun s s' => Alike s.1 s'.1) k m

section

variable {τ α β : Type} {k total used : Nat}

theorem level_alike (used : Nat) (uj uj' : Ujson) (level : Level total used uj uj') :
    Alike uj uj' := level.toAlike

theorem levelOn_alike {held : Bool} (used : Nat) (s s' : Ujson × Option τ)
    (level : LevelOn total held used s s') : Alike s.1 s'.1 := level.toAlike

theorem parses_pure (value : α) : Parses 0 (pure value) := fun _ => uses_pure value

theorem parses_raise (reason : Stop) : Parses k (raise reason : Uj α) :=
  fun _ => uses_raise level_alike reason

theorem Parses.first {m : Uj α} {next : α -> Uj β} (parses : Parses k m)
    (others : forall value, Parses 0 (next value)) : Parses k (m >>= next) :=
  fun total => (parses total).first (fun value => others value total)

theorem Parses.later {m : Uj α} {next : α -> Uj β} (parses : Parses 0 m)
    (others : forall value, Parses k (next value)) : Parses k (m >>= next) :=
  fun total => (parses total).later (fun value => others value total)

theorem Parses.ite {condition : Prop} [Decidable condition] {m m' : Uj α} (pos : Parses k m)
    (neg : Parses k m') : Parses k (if condition then m else m') :=
  fun total => (pos total).ite (neg total)

theorem Parses.weaken {m : Uj α} (parses : Parses k m) : Parses 0 m :=
  fun total => (parses total).weaken (fun _ _ _ level => level.less (Nat.le_add_right _ _))

theorem parsesOn_pure (value : α) : ParsesOn 0 (pure value : UjOn τ α) :=
  fun _ _ => uses_pure value

theorem parsesOn_raise (reason : Stop) : ParsesOn k (raise reason : UjOn τ α) :=
  fun _ _ => uses_raise levelOn_alike reason

variable {m : UjOn τ α} {size : Nat}

theorem ParsesOn.first {next : α -> UjOn τ β} (parses : ParsesOn k m)
    (others : forall value, ParsesOn 0 (next value)) : ParsesOn k (m >>= next) :=
  fun total held => (parses total held).first (fun value => others value total held)

theorem ParsesOn.later {next : α -> UjOn τ β} (parses : ParsesOn 0 m)
    (others : forall value, ParsesOn k (next value)) : ParsesOn k (m >>= next) :=
  fun total held => (parses total held).later (fun value => others value total held)

theorem ParsesOn.ite {condition : Prop} [Decidable condition] {m' : UjOn τ α} (pos : ParsesOn k m)
    (neg : ParsesOn k m') : ParsesOn k (if condition then m else m') :=
  fun total held => (pos total held).ite (neg total held)

theorem ParsesOn.weaken (parses : ParsesOn k m) : ParsesOn 0 m :=
  fun total held =>
    (parses total held).weaken (fun _ _ _ level => level.less (Nat.le_add_right _ _))

theorem parsesOn_repeatedly {body : β -> UjOn τ (β ⊕ α)}
    (round : forall start, ParsesOn 0 (body start)) (start : β) :
    ParsesOn 0 (parseLoop body start) :=
  fun total held => uses_repeatedly levelOn_alike (fun _ _ _ level => level.remaining)
    (fun start => round start total held) start

/-- A routine on the context does the same with an object beside it. -/
theorem together_onFirst {held : Bool} {pre : Ujson -> Ujson -> Prop} {m : Uj α}
    {goes : α -> Ujson -> α -> Ujson -> Prop} (together : Together pre m m goes (fun _ => Alike)) :
    Together (fun s s' => pre s.1 s'.1 ∧ s.2 = s'.2 ∧ s.2.isSome = held)
      (Routine.onFirst m : UjOn τ α) (Routine.onFirst m)
      (fun value s value' s' => goes value s.1 value' s'.1 ∧ s.2 = s'.2 ∧ s.2.isSome = held)
      (fun _ s s' => Alike s.1 s'.1) := by
  rintro ⟨uj, object⟩ ⟨uj', object'⟩ ⟨related, same, holds⟩
  exact (together uj uj' related).map (fun uj => (uj, object)) (fun uj' => (uj', object'))
    (fun _ _ _ _ outcome => ⟨outcome, same, holds⟩) (fun _ _ _ alike => alike)

theorem Parses.onFirst {m : Uj α} (parses : Parses k m) :
    ParsesOn k (Routine.onFirst m : UjOn τ α) := by
  intro total held used s s' level
  apply (together_onFirst (parses total used)).imp _ _ s s'
    ⟨level.toLevel, level.object, level.held⟩
  · rintro value s value' s' ⟨⟨rfl, level⟩, same, holds⟩
    exact ⟨rfl, level, same, holds⟩
  · exact fun _ _ _ alike => alike

/-- What reading a character comes to, by what there is to be read. -/
theorem getc_pending (uj : Ujson) :
    match pending uj with
    | [] => ujsonGetc uj = (.error (.status uj.ioContext.ended), uj)
    | .error error :: rest => Exists fun uj' =>
        ujsonGetc uj = (.error (.status error), uj') ∧ pending uj' = rest ∧
          uj'.ioContext.ended = uj.ioContext.ended
    | .ok ch :: rest => Exists fun uj' =>
        ujsonGetc uj = (.ok ch, uj') ∧ pending uj' = rest ∧
          uj'.ioContext.ended = uj.ioContext.ended ∧ uj'.buffer = none := by
  rcases uj with ⟨⟨incoming, ended, refusals, traffic⟩, buffer, crc⟩
  cases buffer with
  | some kept => exact ⟨_, rfl, rfl, rfl, rfl⟩
  | none =>
      rcases incoming with _ | ⟨error | next, incoming⟩
      · rfl
      · exact ⟨_, rfl, rfl, rfl⟩
      · exact ⟨_, rfl, rfl, rfl, rfl⟩

theorem together_getc : Together (Level total used) ujsonGetc ujsonGetc
    (fun ch uj ch' uj' => ch = ch' ∧ Fresh total used uj uj')
    (fun _ uj uj' => Level total used uj uj') := by
  intro uj uj' level
  have spec := getc_pending uj
  have spec' := getc_pending uj'
  have bound := level.bound
  rw [remaining_eq] at bound
  rw [<- level.pending, <- level.ended] at spec'
  cases left : pending uj with
  | nil =>
      rw [left] at spec spec'
      rw [spec, spec']
      exact ⟨rfl, level⟩
  | cons result rest =>
      rw [left] at spec spec' bound
      rw [List.length_cons] at bound
      cases result with
      | error error =>
          rcases spec with ⟨t, done, after, ended⟩
          rcases spec' with ⟨t', done', after', ended'⟩
          rw [done, done']
          refine ⟨rfl, ⟨after.trans after'.symm, ended.trans ended'.symm⟩, ?_⟩
          rw [remaining_eq, after]
          omega
      | ok ch =>
          rcases spec with ⟨t, done, after, ended, empty⟩
          rcases spec' with ⟨t', done', after', ended', empty'⟩
          rw [done, done']
          refine ⟨rfl, ⟨⟨after.trans after'.symm, ended.trans ended'.symm⟩, ?_⟩, empty, empty'⟩
          rw [remaining_eq, after]
          omega

theorem parses_getc : Parses 1 ujsonGetc := by
  intro total used
  apply together_getc.imp
  · exact fun _ _ _ _ outcome => ⟨outcome.1, outcome.2.toLevel⟩
  · exact fun _ _ _ level => level.toAlike

theorem ungetc_eq {uj : Ujson} (empty : uj.buffer = none) (ch : BitVec 8) :
    ujsonUngetc ch uj = (.ok (), { uj with buffer := some ch }) ∧
      pending { uj with buffer := some ch } = .ok ch :: pending uj := by
  rw [ujsonUngetc, pending, pending, empty]
  exact ⟨rfl, rfl⟩

/-- A character can be pushed back after one has been read. -/
theorem Fresh.ungetc {uj uj' : Ujson} (fresh : Fresh total used uj uj') (ch : BitVec 8) :
    Exists fun t => Exists fun t' => ujsonUngetc ch uj = (.ok (), t) ∧
      ujsonUngetc ch uj' = (.ok (), t') ∧ Level total used t t' := by
  have back := ungetc_eq fresh.empty ch
  have back' := ungetc_eq fresh.empty' ch
  refine ⟨_, _, back.1, back'.1, ⟨?_, fresh.ended⟩, ?_⟩
  · rw [back.2, back'.2, fresh.pending]
  · have bound := fresh.bound
    rw [remaining_eq] at bound
    rw [remaining_eq, back.2, List.length_cons]
    omega

theorem together_ungetc (ch : BitVec 8) :
    Together (Fresh total used) (ujsonUngetc ch) (ujsonUngetc ch)
      (fun value uj value' uj' => value = value' ∧ Level total used uj uj') (fun _ => Alike) := by
  intro uj uj' fresh
  rcases fresh.ungetc ch with ⟨t, t', done, done', level⟩
  rw [done, done']
  exact ⟨rfl, level⟩

theorem together_attempt_ungetc (ch : BitVec 8) :
    Together (Fresh total used) (attempt (ujsonUngetc ch)) (attempt (ujsonUngetc ch))
      (fun _ uj _ uj' => Level total used uj uj') (fun _ => Alike) := by
  intro uj uj' fresh
  rcases fresh.ungetc ch with ⟨t, t', done, done', level⟩
  rw [attempt_apply, attempt_apply, done, done']
  exact level

/-- The first character that is not white space. -/
theorem together_consumeWhitespace :
    Together (Level total used) consumeWhitespace consumeWhitespace
      (fun ch uj ch' uj' => ch = ch' ∧ Fresh total used uj uj') (fun _ => Alike) := by
  intro uj uj' level
  have loop := @Together.repeatedly _ _ _ _ _ _ _ (fun _ => Alike) .endless consumeWhitespaceRound
    consumeWhitespaceRound (fun _ uj _ uj' => Level total used uj uj')
    (fun ch uj ch' uj' => ch = ch' ∧ Fresh total used uj uj') Ujson.remaining Ujson.remaining
  refine loop ?_ (fun _ _ _ _ => Level.toAlike) (fun _ _ _ _ level => level.remaining) () () uj uj'
    level
  intro _ _ uj uj' level
  apply Paired.bind (together_getc.imp (fun _ _ _ _ outcome => outcome)
    (fun _ _ _ level => level.toAlike) uj uj' level)
  rintro ch t ch' t' ⟨rfl, fresh⟩
  cases isSpace ch with
  | true => exact fresh.toLevel.less (Nat.le_succ used)
  | false => exact ⟨rfl, fresh⟩

theorem parses_consumeWhitespace : Parses 1 consumeWhitespace := by
  intro total used
  apply together_consumeWhitespace.imp
  · exact fun _ _ _ _ outcome => ⟨outcome.1, outcome.2.toLevel⟩
  · exact fun _ _ _ alike => alike

theorem parses_consume (ch : BitVec 8) : Parses 1 (ujsonConsume ch) :=
  parses_consumeWhitespace.first (fun _ => (parses_raise _).ite (parses_pure _))

/-- If the character is there, it is used. -/
theorem together_consumeMaybe (ch : BitVec 8) :
    Together (Level total used) (ujsonConsumeMaybe ch) (ujsonConsumeMaybe ch)
      (fun found uj found' uj' => found = found' ∧
        if found then Fresh total used uj uj' else Level total used uj uj') (fun _ => Alike) := by
  intro uj uj' level
  apply Paired.bind (together_consumeWhitespace uj uj' level)
  rintro got t got' t' ⟨rfl, fresh⟩
  by_cases other : ch ≠ got
  · rw [if_pos other]
    apply Paired.bind (together_attempt_ungetc got t t' fresh)
    exact fun _ _ _ _ level => ⟨rfl, level⟩
  · rw [if_neg other]
    exact ⟨rfl, fresh⟩

theorem parses_consumeMaybe (ch : BitVec 8) : Parses 0 (ujsonConsumeMaybe ch) := by
  intro total used
  apply (together_consumeMaybe ch).imp
  · rintro found uj found' uj' ⟨same, level⟩
    refine ⟨same, ?_⟩
    cases found with
    | true => exact level.toLevel.less (Nat.le_succ used)
    | false => exact level
  · exact fun _ _ _ alike => alike

/-! ## Strings -/

theorem parses_unescape (ch : BitVec 8) : Parses 0 (unescape ch) := by
  have digit : Parses 0 consumeHexdigit := parses_getc.weaken.later (fun _ =>
    (parses_pure _).ite ((parses_pure _).ite ((parses_pure _).ite (parses_raise _))))
  have hex : Parses 0 consumeHex := digit.later (fun _ => digit.later (fun _ =>
    digit.later (fun _ => digit.later (fun _ => parses_pure _))))
  have sequence (ch : BitVec 8) : Parses 0 (escaped ch) := by
    have code := hex.later (fun hex => parses_pure (hex.setWidth 8))
    exact (parses_pure _).ite ((parses_pure _).ite ((parses_pure _).ite ((parses_pure _).ite
      ((parses_pure _).ite ((parses_pure _).ite (code.ite (parses_raise _)))))))
  exact (parses_getc.weaken.later sequence).ite (parses_pure _)

theorem parsesOn_assign (value : τ) : ParsesOn 0 (assign value) := by
  rintro total held used ⟨uj, object⟩ ⟨uj', object'⟩ ⟨level, same, holds⟩
  cases same
  cases object with
  | none => exact ⟨rfl, level.toAlike⟩
  | some object => exact ⟨rfl, level, rfl, holds⟩

/-- A part of an object is there where the object is. -/
theorem ParsesOn.onPart {σ : Type} {m : UjOn σ α} (parses : ParsesOn k m) (part : τ -> σ)
    (replace : σ -> τ -> τ) : ParsesOn k (Ujson.onPart part replace m) := by
  rintro total held used ⟨uj, object⟩ ⟨uj', object'⟩ ⟨level, same, holds⟩
  cases same
  have outcome := parses total held used (uj, object.map part) (uj', object.map part)
    ⟨level, rfl, Option.isSome_map.trans holds⟩
  let leave (s : Ujson × Option σ) : Ujson × Option τ :=
    (s.1, object.map (fun object => replace (s.2.getD (part object)) object))
  apply outcome.map leave leave
  · rintro value ⟨t, filled⟩ value' ⟨t', filled'⟩ ⟨rfl, level, same, -⟩
    have same : filled = filled' := same
    cases same
    exact ⟨rfl, level, rfl, Option.isSome_map.trans holds⟩
  · exact fun _ _ _ alike => alike

theorem ParsesOn.onElement (parses : ParsesOn k m) (index : Nat) :
    ParsesOn k (Ujson.onElement index m : UjOn (Fin size -> τ) α) := by
  rintro total held used ⟨uj, object⟩ ⟨uj', object'⟩ ⟨level, same, holds⟩
  cases same
  unfold Ujson.onElement
  by_cases inside : index < size
  · rw [dif_pos inside, dif_pos inside]
    exact parses.onPart (fun array : Fin size -> τ => array ⟨index, inside⟩)
      (fun element array => Function.update array ⟨index, inside⟩ element) total held used
      (uj, object) (uj', object) ⟨level, rfl, holds⟩
  · rw [dif_neg inside, dif_neg inside]
    have outcome := parses total false used (uj, none) (uj', none) ⟨level, rfl, rfl⟩
    apply outcome.map (fun s => (s.1, object)) (fun s => (s.1, object))
    · exact fun _ _ _ _ outcome => ⟨outcome.1, outcome.2.toLevel, rfl, holds⟩
    · exact fun _ _ _ alike => alike

theorem parsesOn_parseQs (len : BitVec 32) :
    ParsesOn 1 (ujsonParseQs len : UjOn (Fin size -> BitVec 8) Nat) := by
  have round (start : Nat × BitVec 32) :
      ParsesOn 0 (parseQsRound start : UjOn (Fin size -> BitVec 8) _) := by
    apply parses_getc.weaken.onFirst.later
    intro ch
    apply (parsesOn_pure _).ite
    apply (parses_unescape ch).onFirst.later
    intro ch
    apply ParsesOn.ite
    · exact ((parsesOn_assign ch).onElement _).later (fun _ => parsesOn_pure _)
    · exact parsesOn_pure _
  apply (parses_consume quote).onFirst.first
  intro _
  apply (parsesOn_repeatedly round _).later
  intro n
  exact ((parsesOn_assign 0).onElement n).later (fun _ => parsesOn_pure n)

theorem ParsesOn.onLocal (parses : ParsesOn k m) (contents : τ) :
    Parses k (Ujson.onLocal contents m) := by
  intro total used uj uj' level
  have outcome := parses total true used (uj, some contents) (uj', some contents)
    ⟨level, rfl, rfl⟩
  unfold Ujson.onLocal
  generalize m (uj, some contents) = ended at outcome ⊢
  generalize m (uj', some contents) = ended' at outcome ⊢
  rcases ended with ⟨reason | value, t, filled⟩
  · rcases ended' with ⟨reason' | value', t', filled'⟩
    · exact outcome
    · exact outcome.elim
  · rcases ended' with ⟨reason' | value', t', filled'⟩
    · exact outcome.elim
    · rcases outcome with ⟨_, level, same, _⟩
      have same : filled = filled' := same
      cases same
      exact ⟨rfl, level⟩

theorem parses_parseLocal (bytes : Leftover) (size : Nat) : Parses 1 (parseLocal bytes size) := by
  apply ((parsesOn_parseQs _).onLocal _).first
  intro array
  unfold stringIn
  split
  · exact parses_pure _
  · exact parses_raise _

/-! ## Numbers and booleans -/

/-- A character that is left over can be pushed back. -/
def Behind (total used : Nat) : Option (BitVec 8) -> Ujson -> Ujson -> Prop
  | some _ => Fresh total used
  | none => Level total used

theorem together_pushBack (after : Option (BitVec 8)) :
    Together (Behind total used after) (pushBack after) (pushBack after)
      (fun value uj value' uj' => value = value' ∧ Level total used uj uj') (fun _ => Alike) := by
  cases after with
  | some ch => exact together_ungetc ch
  | none => exact fun uj uj' level => ⟨rfl, level⟩

theorem together_digits (start : BitVec 8 × BitVec 64) :
    Together (Level total used) (repeatedly Ujson.remaining .endless parseIntegerRound start)
      (repeatedly Ujson.remaining .endless parseIntegerRound start)
      (fun value uj value' uj' => value = value' ∧ Behind total used value.2 uj uj')
      (fun _ => Alike) := by
  intro uj uj' level
  have loop := @Together.repeatedly _ _ _ _ _ _ _ (fun _ => Alike) .endless parseIntegerRound
    parseIntegerRound (fun start uj start' uj' => start = start' ∧ Level total used uj uj')
    (fun value uj value' uj' => value = value' ∧ Behind total used value.2 uj uj')
    Ujson.remaining Ujson.remaining
  refine loop ?_ (fun _ _ _ _ level => level.2.toAlike) (fun _ _ _ _ level => level.2.remaining)
    start start uj uj' ⟨rfl, level⟩
  rintro start _ uj uj' ⟨rfl, level⟩
  have outcome := @together_getc total used uj uj' level
  unfold parseIntegerRound
  rw [attempt_bind_apply, attempt_bind_apply]
  generalize ujsonGetc uj = ended at outcome ⊢
  generalize ujsonGetc uj' = ended' at outcome ⊢
  rcases ended with ⟨reason | ch, t⟩
  · rcases ended' with ⟨reason' | ch', t'⟩
    · exact ⟨rfl, outcome.2⟩
    · exact outcome.elim
  · rcases ended' with ⟨reason' | ch', t'⟩
    · exact outcome.elim
    · rcases outcome with ⟨rfl, fresh⟩
      dsimp only
      cases isDigit ch with
      | true => exact ⟨rfl, fresh.toLevel.less (Nat.le_succ used)⟩
      | false => exact ⟨rfl, fresh⟩

theorem parses_parseInteger : Parses 1 ujsonParseInteger := by
  apply parses_consumeWhitespace.first
  intro ch
  have sign : Parses 0 (afterSign ch) := parses_getc.weaken.ite (parses_pure _)
  apply sign.later
  intro digit
  apply (parses_raise _).ite
  intro total used
  apply (together_digits (digit, 0)).bind
  rintro ⟨value, after⟩ _ uj uj' ⟨rfl, behind⟩
  apply (together_pushBack after uj uj' behind).bind
  rintro _ t _ t' ⟨_, level⟩
  exact ⟨rfl, level⟩

theorem parses_deserializeInteger (width : Nat) : Parses 1 (deserializeInteger width) :=
  parses_parseInteger.first (fun _ => parses_pure _)

theorem parses_deserializeBool : Parses 1 ujsonDeserializeBool := by
  have letter (ch : BitVec 8) {m : Uj Bool} (others : Parses 0 m) :
      Parses 0 (ujsonConsume ch >>= fun _ => m) :=
    (parses_consume ch).weaken.later (fun _ => others)
  have isTrue := letter 0x72 (letter 0x75 (letter 0x65 (parses_pure true)))
  have isFalse := letter 0x61 (letter 0x6c (letter 0x73 (letter 0x65 (parses_pure false))))
  intro total used
  apply together_consumeWhitespace.bind
  rintro got _ uj uj' ⟨rfl, fresh⟩
  by_cases first : got = 0x74
  · rw [if_pos first]
    exact isTrue total (used + 1) uj uj' fresh.toLevel
  · rw [if_neg first]
    by_cases first : got = 0x66
    · rw [if_pos first]
      exact isFalse total (used + 1) uj uj' fresh.toLevel
    · rw [if_neg first]
      apply (together_attempt_ungetc got uj uj' fresh).bind
      exact fun _ _ _ _ level => ⟨rfl, level.toAlike⟩

/-! ## Enums and statuses -/

theorem parsesOn_deserializeNumber : ParsesOn 1 deserializeNumber :=
  (parses_deserializeInteger 32).onFirst.first (fun value => parsesOn_assign value)

theorem EnumDecl.parsesOn_named (decl : EnumDecl) (value : List (BitVec 8)) :
    ParsesOn 0 (decl.named value) := by
  unfold EnumDecl.named
  split
  · exact parsesOn_assign _
  · exact parsesOn_raise _

theorem EnumDecl.parsesOn_deserialize (decl : EnumDecl) (stack : Stack) :
    ParsesOn 1 (decl.deserialize stack) := by
  have named : ParsesOn 1 (Routine.onFirst (parseLocal (stack .value) 128) >>= decl.named) :=
    (parses_parseLocal _ 128).onFirst.first decl.parsesOn_named
  have intValue : ParsesOn 0 (decl.deserializeIntValue stack) := by
    apply (parses_parseLocal _ 128).weaken.onFirst.later
    intro value
    apply (parses_consume colon).weaken.onFirst.later
    intro _
    apply ParsesOn.ite
    · exact parsesOn_deserializeNumber.weaken.later
        (fun _ => (parses_consume closeBrace).weaken.onFirst)
    · exact parsesOn_raise _
  intro total held used s s' level
  apply (together_onFirst (together_consumeMaybe quote) s s'
    ⟨level.toLevel, level.object, level.held⟩).bind
  rintro quoted t _ t' ⟨⟨rfl, found⟩, same, holds⟩
  cases quoted with
  | true =>
      apply (together_onFirst (together_ungetc quote) t t' ⟨found, same, holds⟩).bind
      rintro _ u _ u' ⟨⟨_, level⟩, same, holds⟩
      exact named total held used u u' ⟨level, same, holds⟩
  | false =>
      apply (together_onFirst (together_consumeMaybe openBrace) t t' ⟨found, same, holds⟩).bind
      rintro braced u _ u' ⟨⟨rfl, found⟩, same, holds⟩
      cases braced with
      | true => exact intValue total held (used + 1) u u' ⟨found.toLevel, same, holds⟩
      | false => exact parsesOn_deserializeNumber total held used u u' ⟨found, same, holds⟩

theorem parses_deserializeStatusT (stack : Stack) : Parses 1 (ujsonDeserializeStatusT stack) := by
  have module : Parses 0 (deserializeModule stack) := by
    apply ((parsesOn_parseQs 4).onLocal _).weaken.later
    intro _
    apply (parses_consume comma).weaken.later
    intro _
    apply (parses_deserializeInteger 32).weaken.later
    intro arg
    exact (parses_consume closeBracket).weaken.later (fun _ => parses_pure _)
  have number : Parses 0 deserializeArg :=
    (parses_deserializeInteger 32).weaken.later (fun _ => parses_pure _)
  apply (parses_consume openBrace).first
  intro _
  apply ((privateStatus.parsesOn_deserialize stack).weaken.onLocal _).later
  intro code
  apply (parses_consume colon).weaken.later
  intro _
  apply ((parses_consumeMaybe openBracket).later (fun _ => module.ite number)).later
  intro detail
  exact (parses_consume closeBrace).weaken.later (fun _ => parses_pure _)

/-! ## Arrays and structs -/

theorem Scalar.parses (stack : Stack) (type : Scalar) : Parses 1 (type.parse stack) := by
  cases type with
  | uint64T | uint32T | uint16T | uint8T | sizeT => exact parses_deserializeInteger _
  | int64T | int32T | int16T | int8T => exact parses_deserializeInteger _
  | bool => exact parses_deserializeBool
  | statusT => exact parses_deserializeStatusT stack

theorem Scalar.parsesOn (stack : Stack) (type : Scalar) : ParsesOn 1 (type.deserialize stack) :=
  (type.parses stack).onFirst.first (fun value => parsesOn_assign value)

theorem parsesOn_deString (len : BitVec 32) :
    ParsesOn 1 (deString len : UjOn (Fin size -> BitVec 8) Unit) :=
  (parsesOn_parseQs len).first (fun _ => parsesOn_pure ())

theorem parses_separator (i : Nat) : Parses 0 (separator i) :=
  (parses_consume comma).weaken.ite (parses_pure ())

theorem parsesOn_items {σ : Type} {close : BitVec 8} {item : σ -> UjOn τ σ}
    (one : forall state, ParsesOn 0 (item state)) (state : σ) :
    ParsesOn 0 (items close item state) := by
  apply parsesOn_repeatedly
  intro state
  apply (parses_consumeMaybe close).onFirst.later
  intro closed
  exact (parsesOn_pure _).ite ((one state).later (fun _ => parsesOn_pure _))

theorem parsesOn_deLoop {expr : Nat -> UjOn τ Unit} (element : forall p, ParsesOn 1 (expr p))
    (dims : List Nat) (p : Nat) : ParsesOn 1 (deLoop expr dims p) := by
  induction dims generalizing p with
  | nil => exact (element p).first (fun _ => parsesOn_pure _)
  | cons count dims ih =>
      cases dims with
      | nil =>
          have item (state : Nat × Nat) : ParsesOn 0 (deItem expr count state) := by
            apply (parses_separator _).onFirst.later
            intro _
            exact ((element _).weaken.later (fun _ => parsesOn_pure _)).ite (parsesOn_pure _)
          apply (parses_consume openBracket).onFirst.first
          intro _
          exact (parsesOn_items item _).later (fun _ => parsesOn_pure _)
      | cons count' dims =>
          have row (state : Nat × Nat) :
              ParsesOn 0 (deRow (deLoop expr (count' :: dims)) state) := by
            apply (parses_separator _).onFirst.later
            intro _
            exact (ih state.2).weaken.later (fun _ => parsesOn_pure _)
          apply (parses_consume openBracket).onFirst.first
          intro _
          exact (parsesOn_items row _).later (fun _ => parsesOn_pure _)

theorem parsesOn_deArray {expr : UjOn τ Unit} (element : ParsesOn 1 expr) (dims : List Nat) :
    ParsesOn 1 (deArray dims expr : UjOn (Fin size -> τ) Unit) :=
  (parsesOn_deLoop (fun p => element.onElement p) dims 0).first (fun _ => parsesOn_pure ())

theorem parsesOn_deStruct (stack : Stack) {deField : List (BitVec 8) -> UjOn τ Unit}
    (fields : forall key, ParsesOn 0 (deField key)) : ParsesOn 1 (deStruct stack deField) := by
  have member (nfield : Nat) : ParsesOn 0 (deMember stack deField nfield) := by
    apply (parses_separator nfield).onFirst.later
    intro _
    apply (parses_parseLocal _ 128).weaken.onFirst.later
    intro key
    apply (parses_consume colon).weaken.onFirst.later
    intro _
    exact (fields key).later (fun _ => parsesOn_pure _)
  apply (parses_consume openBrace).onFirst.first
  intro _
  exact (parsesOn_items member 0).later (fun _ => parsesOn_pure ())

end

mutual

/-- The functions that fill objects see nothing but what there is to be read. -/
theorem Ty.parsesOn (stack : Stack) : (type : Ty) -> ParsesOn 1 (type.deserialize stack)
  | .scalar type => type.parsesOn stack
  | .enum decl => decl.parsesOn_deserialize stack
  | .struct invalidArgument fields =>
      parsesOn_deStruct stack (fields.parsesOn stack invalidArgument)

theorem Fields.parsesOn (stack : Stack) (invalidArgument : Error) :
    (fields : Fields) -> (key : List (BitVec 8)) ->
      ParsesOn 0 (fields.deserialize stack invalidArgument key)
  | .nil, _ => parsesOn_raise _
  | .field _ type dims rest, key =>
      ((parsesOn_deArray (type.parsesOn stack) dims).weaken.onPart _ _).ite
        ((rest.parsesOn stack invalidArgument key).onPart _ _)
  | .string _ _ dims rest, key =>
      ((parsesOn_deArray (parsesOn_deString _) dims).weaken.onPart _ _).ite
        ((rest.parsesOn stack invalidArgument key).onPart _ _)

end

end Ujson
end SunburstChip
