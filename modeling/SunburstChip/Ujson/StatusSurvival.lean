import SunburstChip.Ujson.StatusText

namespace SunburstChip
namespace Ujson

open Routine

/-!
# The statuses that come back

Which statuses are the same after they have been written and parsed.  An error
whose code has no defined name is refused.  The name of a module is not
escaped, so that a backslash in it is taken for the beginning of an escape
sequence: the name is refused, or ends too late, or comes back as another one.
A module without a name comes back as that of `ujson.c`.
-/

/-- The same as `status_extract` reports. -/
def SameStatus (s s' : Status) : Prop :=
  statusOk s' = statusOk s ∧ statusErr s' = statusErr s ∧ statusExtract s' = statusExtract s

/-! ## Names that are spoilt -/

/-- The element of an array that is filled. -/
abbrev Holds {size : Nat} (i : Fin size) (ch : BitVec 8) (s : Ujson × Option (Fin size -> BitVec 8)) :
    Prop :=
  Exists fun array => s.2 = some array ∧ array i = ch

section

variable {size : Nat} {i : Fin size} {ch : BitVec 8}

theorem onElement_holds {index : Nat} (other : (i : Nat) ≠ index) (ch' : BitVec 8) :
    Triple (Holds i ch) (onElement index (assign ch')) (fun _ => Holds i ch) := by
  rintro ⟨uj, object⟩ ⟨array, stored, is⟩
  have stored : object = some array := stored
  subst stored
  unfold onElement
  split
  · next inside =>
      refine ⟨_, rfl, ?_⟩
      exact (Function.update_of_ne (fun same => other (congrArg Fin.val same)) _ _).trans is
  · exact ⟨array, rfl, is⟩

/-- What an index at which a character is stored already means for the next round. -/
abbrev Before (i : Fin size) (ch : BitVec 8) (start : Nat × BitVec 32)
    (s : Ujson × Option (Fin size -> BitVec 8)) : Prop :=
  (i : Nat) < start.1 ∧ Holds i ch s

theorem round_holds (start : Nat × BitVec 32) :
    Triple (Before i ch start) (parseQsRound start)
      (Triple.Round (Before i ch) (fun out s => Holds i ch s ∧ forall n, out = .ok n -> (i : Nat) < n)) := by
  have keeps {α : Type} (m : Uj α) : Keeps (Before i ch start) (onFirst m) := fun _ holds => holds
  unfold parseQsRound
  refine Triple.keeping (keeps ujsonGetc) (fun _ _ inv => ⟨inv.2, nofun⟩) ?_
  intro got
  split
  · rintro s ⟨before, holds⟩
    refine ⟨holds, ?_⟩
    rintro n ⟨⟩
    exact before
  · refine Triple.keeping (keeps (unescape got)) (fun _ _ inv => ⟨inv.2, nofun⟩) ?_
    intro got
    split
    · rintro s ⟨before, holds⟩
      have kept := onElement_holds (Nat.ne_of_lt before) got s holds
      rw [bind_apply]
      generalize onElement start.1 (assign got) s = ended at kept ⊢
      rcases ended with ⟨stop | value, s'⟩
      · exact ⟨kept, nofun⟩
      · exact ⟨Nat.lt_succ_of_lt before, kept⟩
    · exact fun s inv => inv

/-- What has been stored stays as it is. -/
theorem rounds_holds (fuel : Nat) (start : Nat × BitVec 32) :
    Triple (Before i ch start) (rounds .endless parseQsRound fuel start)
      (fun out s => Holds i ch s ∧ forall n, out = .ok n -> (i : Nat) < n) :=
  Triple.rounds (Before i ch) round_holds (fun _ _ inv => ⟨inv.2, nofun⟩) fuel start

end

section

variable {a b c : BitVec 8}

/-- The array does not stand for the module `abc`. -/
def Differs (a b c : BitVec 8) (array : Fin 4 -> BitVec 8) : Prop :=
  Exists fun i : Fin 4 => (i : Nat) < 3 ∧ glyph (array i) ≠ [a, b, c].getD i 0

/-- What is left of parsing a name of a module. -/
def finish (fuel : Nat) (start : Nat × BitVec 32) : UjOn (Fin 4 -> BitVec 8) Nat := do
  let n <- rounds .endless parseQsRound fuel start
  onElement n (assign 0)
  pure n

/-- If the parser ends, the array does not stand for the module. -/
def Spoils (a b c : BitVec 8) (start : Nat × BitVec 32) (s : Ujson × Option (Fin 4 -> BitVec 8)) :
    Prop :=
  forall fuel n s', finish fuel start s = (.ok n, s') ->
    Exists fun array => s'.2 = some array ∧ Differs a b c array

variable {start next : Nat × BitVec 32} {s s' : Ujson × Option (Fin 4 -> BitVec 8)}

theorem finish_succ (fuel : Nat) :
    finish (fuel + 1) start s = andThen (fun out =>
      match out with
      | .inl next => finish fuel next
      | .inr n => onElement n (assign 0) >>= fun _ => pure n) (parseQsRound start s) := by
  unfold finish
  rw [bind_apply, rounds_succ]
  generalize parseQsRound start s = ended
  rcases ended with ⟨stop | next | n, s'⟩
  · rfl
  · rfl
  · rfl

theorem Spoils.step (round : parseQsRound start s = (.ok (.inl next), s'))
    (others : Spoils a b c next s') : Spoils a b c start s := by
  intro fuel n s'' ended
  cases fuel with
  | zero => cases ended
  | succ fuel =>
      rw [finish_succ, round] at ended
      exact others fuel n s'' ended

theorem spoils_failed {stop : Stop} (round : parseQsRound start s = (.error stop, s')) :
    Spoils a b c start s := by
  intro fuel n s'' ended
  cases fuel with
  | zero => cases ended
  | succ fuel =>
      rw [finish_succ, round] at ended
      cases ended

theorem spoils_ended {n : Nat} {uj : Ujson} {array : Fin 4 -> BitVec 8} (inside : n < 3)
    (round : parseQsRound start s = (.ok (.inr n), (uj, some array)))
    (differs : glyph 0 ≠ [a, b, c].getD n 0) : Spoils a b c start s := by
  intro fuel n' s'' ended
  cases fuel with
  | zero => cases ended
  | succ fuel =>
      have room : n < 4 := Nat.lt_succ_of_lt inside
      have closed : onElement n (assign 0) (uj, some array) = _ :=
        onElement_inside room (rfl : assign 0 (uj, some (array ⟨n, room⟩)) = _)
      rw [finish_succ, round, andThen] at ended
      dsimp only at ended
      rw [bind_ok closed] at ended
      injection ended with _ state
      rw [<- state]
      refine ⟨_, rfl, ⟨n, room⟩, inside, ?_⟩
      rw [alter, if_pos rfl]
      exact differs

/-- A character that has been stored is not that of the module. -/
theorem spoils_holds {i : Fin 4} {ch : BitVec 8} (inside : (i : Nat) < 3) (before : Before i ch start s)
    (differs : glyph ch ≠ [a, b, c].getD i 0) : Spoils a b c start s := by
  intro fuel n s'' ended
  have outcome := rounds_holds fuel start s before
  unfold finish at ended
  rw [bind_apply] at ended
  generalize rounds .endless parseQsRound fuel start s = loop at outcome ended
  rcases loop with ⟨stop | n', s₁⟩
  · cases ended
  · have kept := onElement_holds (Nat.ne_of_lt (outcome.2 n' rfl)) 0 s₁ outcome.1
    rw [andThen, bind_apply] at ended
    generalize onElement n' (assign 0) s₁ = last at kept ended
    rcases last with ⟨stop | value, s₂⟩
    · cases ended
    · injection ended with _ state
      rw [<- state]
      rcases kept with ⟨array, stored, is⟩
      refine ⟨array, stored, i, inside, ?_⟩
      rw [is]
      exact differs

/-- No letter but the backslash can follow a backslash. -/
theorem round_letter {ch : BitVec 8} (letter : Letter ch) (other : ch ≠ backslash) {uj : Ujson}
    {rest : List (Except Error (BitVec 8))} (left : pending uj = chars [backslash, ch] ++ rest)
    (object : Option (Fin 4 -> BitVec 8)) :
    Exists fun stop => Exists fun s' => parseQsRound start (uj, object) = (.error stop, s') := by
  have none : forall ch, Letter ch -> ch ≠ backslash ->
      ¬ (ch = quote ∨ ch = backslash ∨ ch = 0x2f) ∧ ch ≠ 0x62 ∧ ch ≠ 0x66 ∧ ch ≠ 0x6e ∧
      ch ≠ 0x72 ∧ ch ≠ 0x74 ∧ ch ≠ 0x75 := by decide +kernel
  rcases none ch letter other with ⟨plain, b, f, n, r, t, u⟩
  rcases scans_getc backslash uj _ left nofun with ⟨uj₁, done, middle, -⟩
  rcases scans_getc ch uj₁ rest middle nofun with ⟨uj₂, done', -, -⟩
  have refused : unescape backslash uj₁ = (.error (ujsonError .kOutOfRange 144 (by decide)), uj₂) := by
    rw [unescape, if_pos rfl, bind_ok done', escaped, if_neg plain, if_neg b, if_neg f, if_neg n,
      if_neg r, if_neg t, if_neg u]
    rfl
  refine ⟨ujsonError .kOutOfRange 144 (by decide), (uj₂, object), ?_⟩
  unfold parseQsRound
  rw [bind_apply, onFirst_apply, done, andThen, if_neg (by decide), bind_apply, onFirst_apply, refused]
  rfl

/-- The name of a module with a backslash in it comes back as another one, if at all. -/
theorem spoils_module (letterA : Letter a) (letterB : Letter b) (letterC : Letter c)
    (spoilt : backslash ∈ [a, b, c]) {uj : Ujson} {rest : List (Except Error (BitVec 8))}
    (left : pending uj = chars [a, b, c, quote] ++ rest) (contents : Fin 4 -> BitVec 8) :
    Spoils a b c (0, 3) (uj, some contents) := by
  -- A character that is read as itself, or a backslash that is read from two.
  have step {index : Nat} {room : BitVec 32} (inside : index < 4) (positive : room > 0) (ch : BitVec 8)
      {uj : Ujson} {text : List (BitVec 8)} (left : pending uj = chars (escape ch ++ text) ++ rest)
      (array : Fin 4 -> BitVec 8)
      (others : forall uj', pending uj' = chars text ++ rest ->
        Spoils a b c (index + 1, room - 1) (uj', some (alter index (fun _ => ch) array))) :
      Spoils a b c (index, room) (uj, some array) := by
    rw [chars_append, List.append_assoc] at left
    rcases reads_parseQsRound ch inside positive uj array _ left nofun with ⟨uj', round, after, -⟩
    exact Spoils.step round (others uj' after)
  have glyphs : forall ch, Letter ch -> glyph ch = ch := by decide +kernel
  have plain {ch : BitVec 8} (letter : Letter ch) (other : ch ≠ backslash) (text : List (BitVec 8)) :
      ch :: text = escape ch ++ text := by
    rw [escape_letter letter other]
    rfl
  have altered (index : Fin 4) (ch : BitVec 8) (array : Fin 4 -> BitVec 8) :
      alter index (fun _ => ch) array index = ch := if_pos rfl
  by_cases first : a = backslash
  · subst first
    by_cases second : b = backslash
    · subst second
      by_cases third : c = backslash
      · subst third
        apply step (by decide) (by decide) backslash left contents
        intro uj left
        apply step (by decide) (by decide) quote left
        intro uj left
        exact spoils_holds (i := 1) (by decide) ⟨by decide, _, rfl, altered 1 _ _⟩ (by decide)
      · apply step (by decide) (by decide) backslash left contents
        intro uj left
        rw [plain letterC third] at left
        apply step (by decide) (by decide) c left
        intro uj left
        refine spoils_holds (i := 1) (by decide) ⟨by decide, _, rfl, altered 1 _ _⟩ ?_
        rw [glyphs c letterC]
        exact third
    · rcases round_letter letterB second left (some contents) with ⟨stop, s', round⟩
      exact spoils_failed round
  · rw [plain letterA first] at left
    apply step (by decide) (by decide) a left contents
    intro uj left
    by_cases second : b = backslash
    · subst second
      by_cases third : c = backslash
      · subst third
        apply step (by decide) (by decide) backslash left
        intro uj left
        have closed : Reads false (parseQsRound (2, 3 - 1 - 1)) [quote] (.inr 2)
            (id : (Fin 4 -> BitVec 8) -> Fin 4 -> BitVec 8) :=
          Reads.map (scans_getc quote).onFirst (fun _ _ => rfl)
        rcases closed uj _ rest left nofun with ⟨uj', round, -⟩
        exact spoils_ended (by decide) round (by change glyph 0 ≠ backslash; decide)
      · rcases round_letter letterC third left _ with ⟨stop, s', round⟩
        exact spoils_failed round
    · have third : c = backslash := by
        simp only [List.mem_cons, List.not_mem_nil, or_false] at spoilt
        rcases spoilt with same | same | same
        · exact absurd same.symm first
        · exact absurd same.symm second
        · exact same.symm
      subst third
      rw [plain letterB second] at left
      apply step (by decide) (by decide) b left
      intro uj left
      apply step (by decide) (by decide) quote left
      intro uj left
      refine spoils_holds (i := 2) (by decide) ⟨by decide, _, rfl, altered 2 _ _⟩ ?_
      change glyph quote ≠ backslash
      decide

end

/-! ## Codes that have no name -/

theorem named_undefined {code : Nat} (undefined : 16 < code) (bound : code <= 32) :
    privateStatus.named (statusCodes.getD code []) = raise (.status privateStatus.invalidArgument) := by
  have none : forall code, code <= 32 -> 16 < code -> privateStatus.constants.find?
      (fun constant => ujsonStreq (statusCodes.getD code []) constant.1) = none := by decide +kernel
  unfold EnumDecl.named
  rw [none code bound undefined]

/-! ## Statuses that do not come back -/

/-- The module that a status is created with. -/
def moduleOf (moduleId : BitVec 32) (file : SourceFile) : List (BitVec 8) :=
  moduleName (bitfieldField32Read (if moduleId = 0 then file.moduleId else moduleId)
    statusFieldModuleId)

theorem moduleOf_status {code moduleId arg : BitVec 32} (isError : code ≠ AbslStatus.kOk.value)
    (positioned : Positioned moduleId) (file : SourceFile) :
    moduleName (statusModule (statusCreate code moduleId file arg)) = moduleOf moduleId file := by
  rw [statusModule, (statusCreate_packed isError positioned file).moduleId]
  rfl

/-- After a parser that reads its text. -/
theorem triple_scans {α β : Type} {m : Uj α} {next : α -> Uj β} {text text' : List (BitVec 8)}
    {value : α} {rest : List (Except Error (BitVec 8))} {post : Except Stop β -> Ujson -> Prop}
    (scans : Scans false m text value)
    (after : Triple (fun uj => pending uj = chars text' ++ rest) (next value) post) :
    Triple (fun uj => pending uj = chars (text ++ text') ++ rest) (m >>= next) post := by
  intro uj left
  rw [chars_append, List.append_assoc] at left
  rcases scans uj _ left nofun with ⟨uj', done, middle, -⟩
  rw [bind_ok done]
  exact after uj' middle

/-- The array that is parsed does not stand for the module. -/
theorem parse_lost (stack : Stack) {a b c : BitVec 8} (letterA : Letter a) (letterB : Letter b)
    (letterC : Letter c) (spoilt : backslash ∈ [a, b, c]) (rest : List (Except Error (BitVec 8))) :
    Triple (fun uj => pending uj = chars (quote :: [a, b, c, quote]) ++ rest)
      (onLocal ((stack .module').array 4) (ujsonParseQs 4))
      (fun out _ => forall array, out = .ok array -> Differs a b c array) := by
  have dark : isSpace quote = false := by decide
  intro uj left array parsed
  rcases scans_consume dark uj (chars [a, b, c, quote] ++ rest) left nofun with ⟨uj₁, done, middle, -⟩
  have same : ujsonParseQs 4 (uj, some ((stack .module').array 4)) =
      finish (uj₁.remaining + 1) (0, 3) (uj₁, some ((stack .module').array 4)) := by
    unfold ujsonParseQs
    rw [bind_apply, onFirst_apply, done]
    rfl
  unfold onLocal at parsed
  rw [same] at parsed
  have spoils := spoils_module letterA letterB letterC spoilt middle ((stack .module').array 4) (uj₁.remaining + 1)
  generalize finish (uj₁.remaining + 1) (0, 3) (uj₁, some ((stack .module').array 4)) = ended at parsed spoils
  rcases ended with ⟨stop | n, uj', object⟩
  · cases parsed
  · rcases spoils n _ rfl with ⟨array', stored, differs⟩
    have stored : object = some array' := stored
    subst stored
    injection parsed with parsed
    rw [<- parsed]
    exact differs

/-- The module does not come back, whatever follows it. -/
theorem module_lost (stack : Stack) {m : BitVec 32} (lost : m = 0 ∨ backslash ∈ moduleName m)
    (arg : BitVec 32) (rest : List (Except Error (BitVec 8))) :
    Triple (fun uj => pending uj =
        chars (quote :: (moduleName m ++ (quote :: comma :: (decimal arg.toNat ++ [closeBracket])))) ++
          rest)
      (deserializeModule stack)
      (fun out _ => forall detail, out = .ok detail ->
        Positioned detail.1 ∧ moduleOf detail.1 ujsonC ≠ moduleName m) := by
  by_cases spoilt : backslash ∈ moduleName m
  · rcases moduleName_letters m with ⟨a, b, c, name, letterA, letterB, letterC⟩
    rw [name] at spoilt ⊢
    unfold deserializeModule
    refine Triple.returning (parse_lost stack letterA letterB letterC spoilt
      (chars (comma :: (decimal arg.toNat ++ [closeBracket])) ++ rest)) (fun _ _ => nofun) ?_
    intro array differs
    have always {α : Type} (m : Uj α) : Keeps (fun _ => True) m := fun _ _ => trivial
    refine Triple.keeping (always _) (fun _ _ _ => nofun) (fun _ => ?_)
    refine Triple.keeping (always _) (fun _ _ _ => nofun) (fun arg => ?_)
    refine Triple.keeping (always _) (fun _ _ _ => nofun) (fun _ => ?_)
    rintro uj - detail ⟨⟩
    refine ⟨positioned_makeModuleId _ _ _, ?_⟩
    rcases differs with ⟨i, inside, differs⟩
    unfold moduleOf
    split
    · intro same
      rw [<- same] at spoilt
      exact absurd spoilt (by decide)
    · rw [moduleName_makeModuleId]
      intro same
      apply differs
      rw [<- same]
      have few : forall i : Fin 4, (i : Nat) < 3 -> i = 0 ∨ i = 1 ∨ i = 2 := by decide
      rcases few i inside with rfl | rfl | rfl
      · rfl
      · rfl
      · rfl
  · have zero : m = 0 := lost.resolve_right spoilt
    intro uj left detail parsed
    rcases scans_module stack spoilt arg uj rest left nofun with ⟨uj', done, -⟩
    rw [done] at parsed
    injection parsed with parsed
    rw [<- parsed, zero]
    have none : Positioned 0 ∧ moduleOf 0 ujsonC ≠ moduleName 0 := by decide
    exact none

/-- A code that is not defined is refused. -/
theorem code_refused (stack : Stack) {s : Status} (undefined : ¬ (1 <= (statusErr s).toNat ∧
    (statusErr s).toNat <= 16)) {uj : Ujson} {rest : List (Except Error (BitVec 8))}
    (left : pending uj = chars (quoted (errorName s)) ++ rest) :
    Exists fun stop => Exists fun uj' =>
      onLocal (stack .code).word (privateStatus.deserialize stack) uj = (.error stop, uj') := by
  have bound := statusErr_lt s
  have unnamed : privateStatus.named (errorName s) = raise (.status privateStatus.invalidArgument) := by
    apply named_undefined
    · split
      · decide
      · next some =>
          have positive : (statusErr s).toNat ≠ 0 := fun zero => some (BitVec.eq_of_toNat_eq zero)
          omega
    · split
      · decide
      · omega
  rcases privateStatus.deserialize_quoted stack left (some (stack .code).word) with ⟨uj₁, left', same⟩
  rcases scans_parseLocal _ (errorName_plain s).2.1 (by decide) (errorName_plain s).2.2 uj₁ rest
    left' nofun with ⟨uj', done, -⟩
  refine ⟨.status privateStatus.invalidArgument, uj', ?_⟩
  unfold onLocal
  rw [same, bind_apply, onFirst_apply, done, andThen, unnamed]
  rfl

/-- The text of any other status is refused, or read as a different status. -/
theorem status_lost (stack : Stack) {s : Status} (lost : ¬ Survives s)
    (rest : List (Except Error (BitVec 8))) :
    Triple (fun uj => pending uj = chars (statusText s) ++ rest) (ujsonDeserializeStatusT stack)
      (fun out _ => forall s', out = .ok s' -> ¬ SameStatus s s') := by
  have braceDark : isSpace openBrace = false := by decide
  have colonDark : isSpace colon = false := by decide
  have bracketDark : isSpace openBracket = false := by decide
  cases error : s.value.msb with
  | false =>
      refine absurd (Or.inl ?_) lost
      rw [statusOk, error]
      rfl
  | true =>
      rw [statusText_error error]
      unfold ujsonDeserializeStatusT
      refine triple_scans (scans_consume braceDark) ?_
      by_cases defined : 1 <= (statusErr s).toNat ∧ (statusErr s).toNat <= 16
      · have name : errorName s = statusCodes.getD (statusErr s).toNat [] := by
          have nonzero : statusErr s ≠ 0 := by
            intro zero
            rw [zero] at defined
            exact absurd defined (by decide)
          unfold errorName
          rw [if_neg nonzero]
        have coded : BitVec.ofNat 32 (statusErr s).toNat ≠ AbslStatus.kOk.value := by
          rw [BitVec.ofNat_toNat, BitVec.setWidth_eq]
          intro zero
          rw [zero] at defined
          exact absurd defined (by decide)
        have module' : statusModule s = 0 ∨ backslash ∈ moduleName (statusModule s) := by
          by_contra kept
          rw [not_or] at kept
          exact lost (Or.inr ⟨defined.1, defined.2, kept⟩)
        rw [name]
        refine triple_scans (scans_onLocal (stack .code).word (reads_code stack defined.2)) ?_
        refine triple_scans (scans_consume colonDark) ?_
        have bracketed : Triple
            (fun uj => pending uj = chars ([openBracket] ++ (quote :: (moduleName (statusModule s) ++
              (quote :: comma :: (decimal (bitfieldField32Read s.value statusFieldArg).toNat ++
                [closeBracket]))))) ++ (chars [closeBrace] ++ rest)) (deserializeDetail stack)
            (fun out _ => forall detail, out = .ok detail ->
              Positioned detail.1 ∧ moduleOf detail.1 ujsonC ≠ moduleName (statusModule s)) :=
          triple_scans (scans_consumeMaybe bracketDark)
            (module_lost stack module' (bitfieldField32Read s.value statusFieldArg) _)
        rw [chars_append, List.append_assoc]
        refine Triple.returning bracketed (fun _ _ _ ended => by cases ended) ?_
        rintro detail ⟨positioned, other⟩
        have always {α : Type} (m : Uj α) : Keeps (fun _ => True) m := fun _ _ => trivial
        refine Triple.keeping (always _) (fun _ _ _ _ ended => by cases ended) (fun _ => ?_)
        rintro uj - s' ⟨⟩ same
        have packed : Packed _ _ detail.2 _ := statusCreate_packed coded positioned ujsonC
        have extracted := same.2.2
        rw [statusExtract_error packed.error, statusExtract_error error] at extracted
        injection extracted with _ _ module'
        injection module' with module'
        rw [moduleOf_status coded positioned] at module'
        exact other module'
      · intro uj left
        rw [chars_append, List.append_assoc] at left
        rcases code_refused stack defined left with ⟨stop, uj', refused⟩
        rw [bind_error refused]
        intro s' ended
        cases ended

/-! ## The statuses that can be created -/

/-- `MODULE_ID`, where it is set. -/
def givenModule : Option (BitVec 8 × BitVec 8 × BitVec 8) -> BitVec 32
  | none => 0
  | some (a, b, c) => makeModuleId a b c

theorem positioned_givenModule (module' : Option (BitVec 8 × BitVec 8 × BitVec 8)) :
    Positioned (givenModule module') := by
  rcases module' with _ | ⟨a, b, c⟩
  · exact positioned_zero
  · exact positioned_makeModuleId a b c

/-- What a status is created with so that it comes back: no error and an argument
that is not negative; or an error with a defined code, and a module that has a
name without backslashes. -/
def ComesBack (code moduleId : BitVec 32) (file : SourceFile) (arg : BitVec 32) : Prop :=
  (code = AbslStatus.kOk.value ∧ arg.msb = false) ∨
  (code ≠ AbslStatus.kOk.value ∧ code.toNat <= 16 ∧ moduleOf moduleId file ≠ ascii "@@@" ∧
    backslash ∉ moduleOf moduleId file)

theorem statusModule_eq_zero_iff (s : Status) :
    statusModule s = 0 ↔ moduleName (statusModule s) = ascii "@@@" := by
  constructor
  · intro zero
    rw [zero]
    rfl
  · intro name
    have recomposed := makeModuleId_moduleName (statusModule s)
    have masked : statusModule s &&& 0x7fff = statusModule s := by
      unfold statusModule bitfieldField32Read
      rw [BitVec.and_assoc, BitVec.and_self]
    rw [name] at recomposed
    have read := read_moduleId (statusModule s)
    rw [<- recomposed, masked] at read
    exact read.symm

theorem survives_iff {code moduleId : BitVec 32} (any : code.toNat < 32)
    (positioned : Positioned moduleId) (file : SourceFile) (arg : BitVec 32) :
    Survives (statusCreate code moduleId file arg) ↔ ComesBack code moduleId file arg := by
  by_cases isOk : code = AbslStatus.kOk.value
  · cases sign : arg.msb with
    | false =>
        have created : statusCreate code moduleId file arg = ⟨arg⟩ := by
          unfold statusCreate
          rw [if_pos ⟨isOk, by rw [sign]; rfl⟩]
        refine iff_of_true (Or.inl ?_) (Or.inl ⟨isOk, sign⟩)
        rw [created, statusOk, sign]
        rfl
    | true =>
        have created : statusCreate code moduleId file arg =
            packStatus code (if moduleId = 0 then file.moduleId else moduleId) 33 := by
          unfold statusCreate
          rw [if_neg (fun both => by rw [sign] at both; exact Bool.false_ne_true both.2), if_pos isOk]
        have packed : Packed code (if moduleId = 0 then file.moduleId else moduleId) 33 _ :=
          packStatus_packed code 33 (by
            split
            · exact positioned_makeModuleId _ _ _
            · exact positioned)
        rw [<- created] at packed
        have err : statusErr (statusCreate code moduleId file arg) = 0 := by
          rw [packed.statusErr, isOk]
          rfl
        apply iff_of_false
        · rintro (ok | ⟨coded, -⟩)
          · rw [statusOk, packed.error] at ok
            cases ok
          · rw [err] at coded
            exact absurd coded (by decide)
        · rintro (⟨-, positive⟩ | ⟨isError, -⟩)
          · exact absurd (sign.symm.trans positive) (by decide)
          · exact isError isOk
  · have packed : Packed code _ arg _ := statusCreate_packed isOk positioned file
    have err : statusErr (statusCreate code moduleId file arg) = code := by
      rw [packed.statusErr]
      apply BitVec.eq_of_toNat_eq
      rw [BitVec.toNat_and]
      change code.toNat &&& (2 ^ 5 - 1) = code.toNat
      rw [Nat.and_two_pow_sub_one_eq_mod, Nat.mod_eq_of_lt any]
    have coded : 1 <= code.toNat := Nat.one_le_iff_ne_zero.mpr
      (fun zero => isOk (BitVec.eq_of_toNat_eq zero))
    unfold Survives ComesBack
    rw [statusOk, packed.error, err, Ne, statusModule_eq_zero_iff, moduleOf_status isOk positioned]
    constructor
    · rintro (ok | ⟨-, defined, named, plain⟩)
      · cases ok
      · exact Or.inr ⟨isOk, defined, named, plain⟩
    · rintro (⟨ok, -⟩ | ⟨-, defined, named, plain⟩)
      · exact absurd ok isOk
      · exact Or.inr ⟨coded, defined, named, plain⟩

/-- A status is the same after it has been written and parsed, whatever comes
behind it, exactly if it has been created with what comes back. -/
theorem status_roundTrip_iff {code : BitVec 32} (any : code.toNat < 32)
    (module' : Option (BitVec 8 × BitVec 8 × BitVec 8)) (file : SourceFile) (arg : BitVec 32)
    (stack : Stack) {text : List (BitVec 8)}
    (put : written (ujsonSerializeStatusT (statusCreate code (givenModule module') file arg)) =
      some text) {uj : Ujson} {rest : List (Except Error (BitVec 8))}
    (left : pending uj = chars text ++ rest) :
    (Exists fun s' => Exists fun uj' => ujsonDeserializeStatusT stack uj = (.ok s', uj') ∧
      SameStatus (statusCreate code (givenModule module') file arg) s') ↔
    ComesBack code (givenModule module') file arg := by
  rw [<- survives_iff any (positioned_givenModule module') file arg]
  have text := (((renders_status _).written).mp put).2
  rw [<- text] at left
  constructor
  · rintro ⟨s', uj', parsed, same⟩
    by_contra lost
    have outcome := status_lost stack lost rest uj left s'
    rw [parsed] at outcome
    exact outcome rfl same
  · intro survives
    rcases scans_status stack survives uj rest left nofun with ⟨uj', done, -⟩
    exact ⟨_, uj', done, rfl, rfl, rfl⟩

/-- An error of a module whose name has a backslash in it. -/
def backslashed : Status :=
  statusCreate AbslStatus.kInternal.value (makeModuleId 0x41 backslash 0x42) ujsonC 7

theorem backslashed_lost :
    written (ujsonSerializeStatusT backslashed) = some (ascii "\x7b\"Internal\":[\"A\\B\",7]\x7d") ∧
    ¬ Exists fun s' => Exists fun uj' =>
      ujsonDeserializeStatusT (fun _ _ => 0) (delivering (ascii "\x7b\"Internal\":[\"A\\B\",7]\x7d")) =
        (.ok s', uj') ∧ SameStatus backslashed s' := by
  have refused : (ujsonDeserializeStatusT (fun _ _ => 0)
      (delivering (ascii "\x7b\"Internal\":[\"A\\B\",7]\x7d"))).1 =
      .error (ujsonError .kOutOfRange 144 (by decide)) := by decide +kernel
  refine ⟨by decide +kernel, ?_⟩
  rintro ⟨s', uj', parsed, -⟩
  rw [parsed] at refused
  cases refused

theorem status_roundTrip_iff_internal :
    (Exists fun s' => Exists fun uj' =>
      ujsonDeserializeStatusT (fun _ _ => 0) (delivering (ascii "\x7b\"Internal\":[\"JSM\",7]\x7d")) =
        (.ok s', uj') ∧
      SameStatus (statusCreate 13 (givenModule (some (0x6a, 0x73, 0x6d))) ujsonC 7) s') ↔
    ComesBack 13 (givenModule (some (0x6a, 0x73, 0x6d))) ujsonC 7 :=
  status_roundTrip_iff (by decide) (some (0x6a, 0x73, 0x6d)) ujsonC 7 (fun _ _ => 0)
    (by decide +kernel) (List.append_nil _).symm

end Ujson
end SunburstChip
