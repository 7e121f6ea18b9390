import SunburstChip.Runtime.Vfprintf

namespace SunburstChip
namespace Print

/-!
# Logging without the printer

`base_log_internal_dv_cheri` hands the arguments of a message to the testbench as
words.  It scans the format on its own, to tell which of them are pointers, in
one round for each argument.
-/

/-! ## The scanner of the logger -/

/-- The loop that looks for the next specifier and skips each `%%`. -/
def locateSpecifier : Text -> Option Text
  | [] => none
  | [c] => if c = 0 then some [c] else none
  | c :: next :: format =>
      if c = 0 then some (c :: next :: format)
      else if c = kPercent then
        if next ≠ kPercent then some (c :: next :: format) else locateSpecifier format
      else locateSpecifier (next :: format)

/-- The loop that skips the digits of a width. -/
def skipDigits : Text -> Option Text
  | [] => none
  | c :: format => if isDigit c then skipDigits format else some (c :: format)

/-- An argument that is a word. -/
def logWord (format : Text) (args : List Arg) : Option (List (BitVec 32) × Text × List Arg) :=
  (vaWord args).map (fun (value, args) => ([value], format, args))

/-- The argument of a specifier, with the cells behind its type. -/
def logSpecifier (nonStd : Bool) (type : BitVec 8) (format : Text) (args : List Arg) :
    Option (List (BitVec 32) × Text × List Arg) :=
  if nonStd then
    if type = kUnsignedHexLow ∨ type = kHexLeLow ∨ type = kUnsignedHexHigh ∨
        type = kHexLeHigh then
      (vaSize args).bind (fun (n, args) =>
        (vaPointer args).map (fun (ptr, args) => ([n, ptr.1], format, args)))
    else logWord format args
  else if type = kPointer ∨ type = kString then
    (vaPointer args).map (fun (ptr, args) => ([ptr.1], format, args))
  else logWord format args

/-- One round of `base_log_internal_dv_cheri`: the words written to the device, the
position in the format, and the arguments that are left. -/
def logArgument (format : Text) (args : List Arg) :
    Option (List (BitVec 32) × Text × List Arg) :=
  (locateSpecifier format).bind (fun format =>
    if format.head? = some kPercent then
      let nonStd := decide (format.tail.head? = some bang)
      (skipDigits (if nonStd then format.tail.tail else format.tail)).bind (fun format =>
        match format with
        | [] => none
        | type :: format => logSpecifier nonStd type format args)
    else logWord format args)

/-- The loop of `base_log_internal_dv_cheri` over `nargs` arguments. -/
def logArguments : Nat -> Text -> List Arg -> Option (List (BitVec 32) × List Arg)
  | 0, _, args => some ([], args)
  | nargs + 1, format, args =>
      (logArgument format args).bind (fun (words, format, args) =>
        (logArguments nargs format args).map (fun (further, args) => (words ++ further, args)))

/-- `base_log_internal_dv_cheri`: the words written to the device, and the arguments
that have not been read. -/
def baseLogInternalDvCheri (format : Text) (logOffset : BitVec 32) (nargs : Nat)
    (args : List Arg) : Option (List (BitVec 32) × List Arg) :=
  (logArguments nargs format args).map (fun (words, args) => (logOffset :: words, args))

/-! ## What the logger reads -/

/-- What the logger takes for a specifier. -/
def logKinds (spec : FormatSpecifier) : List Kind :=
  if spec.isNonstd then
    if spec.type = kUnsignedHexLow ∨ spec.type = kHexLeLow ∨ spec.type = kUnsignedHexHigh ∨
        spec.type = kHexLeHigh then [.size, .pointer]
    else [.word]
  else if spec.type = kPointer ∨ spec.type = kString then [.pointer]
  else [.word]

/-- A `%%`, which the logger skips. -/
def FormatSpecifier.isPlain (spec : FormatSpecifier) : Bool :=
  decide (spec.type = kPercent ∧ spec.isNonstd = false ∧ spec.padding = 0)

/-- What the logger takes in a number of rounds. -/
def logReads : Nat -> List FormatSpecifier -> List Kind
  | 0, _ => []
  | nargs + 1, specs =>
      match specs.dropWhile FormatSpecifier.isPlain with
      | [] => .word :: logReads nargs []
      | spec :: specs => logKinds spec ++ logReads nargs specs

/-- The word that an argument comes to. -/
def Arg.value : Arg -> BitVec 32
  | .word value => value
  | .size value => value
  | .pointer address _ => address

/-- Words made of arguments of given kinds. -/
def readAs : List Kind -> List Arg -> Option (List (BitVec 32) × List Arg)
  | [], args => some ([], args)
  | _ :: _, [] => none
  | kind :: kinds, arg :: args =>
      if arg.kind = kind then (readAs kinds args).map (fun read => (arg.value :: read.1, read.2))
      else none

theorem readAs_append (kinds more : List Kind) (args : List Arg) :
    readAs (kinds ++ more) args =
      (readAs kinds args).bind (fun (words, args) =>
        (readAs more args).map (fun (further, args) => (words ++ further, args))) := by
  induction kinds generalizing args with
  | nil => simp [readAs]
  | cons kind kinds ih =>
      cases args with
      | nil => rfl
      | cons arg args =>
          simp only [List.cons_append, readAs]
          split
          · simp [ih, Option.map_bind, Option.bind_map, Function.comp_def]
          · rfl

/-- Arguments are read as what they are. -/
theorem readAs_iff (kinds : List Kind) (args rest : List Arg) :
    (Exists fun words => readAs kinds args = some (words, rest)) ↔ Takes kinds args rest := by
  induction kinds generalizing args with
  | nil =>
      constructor
      · rintro ⟨words, read⟩
        cases read
        exact .none _
      · rintro ⟨taken, rfl, none⟩
        rw [List.map_eq_nil_iff.mp none]
        exact ⟨[], rfl⟩
  | cons kind kinds ih =>
      constructor
      · rintro ⟨words, read⟩
        cases args with
        | nil => cases read
        | cons arg args =>
            rw [readAs] at read
            split at read
            · next same =>
                rcases Option.map_eq_some_iff.mp read with ⟨⟨further, _⟩, behind, result⟩
                cases result
                rcases (ih args).mp ⟨further, behind⟩ with ⟨taken, rfl, rfl⟩
                exact ⟨arg :: taken, rfl, by rw [List.map_cons, same]⟩
            · cases read
      · rintro ⟨taken, rfl, kindred⟩
        cases taken with
        | nil => cases kindred
        | cons arg taken =>
            cases kindred
            rcases (ih (taken ++ rest)).mpr ⟨taken, rfl, rfl⟩ with ⟨further, read⟩
            refine ⟨arg.value :: further, ?_⟩
            rw [List.cons_append, readAs, if_pos rfl, read]
            rfl

theorem logWord_eq (format : Text) (args : List Arg) :
    logWord format args =
      (readAs [.word] args).map (fun read => (read.1, format, read.2)) := by
  cases args with
  | nil => rfl
  | cons arg args =>
      cases arg with
      | word value => rfl
      | size value => rfl
      | pointer address cells => rfl

theorem logPointer_eq (format : Text) (args : List Arg) :
    (vaPointer args).map (fun read => ([read.1.1], format, read.2)) =
      (readAs [.pointer] args).map (fun read => (read.1, format, read.2)) := by
  cases args with
  | nil => rfl
  | cons arg args =>
      cases arg with
      | word value => rfl
      | size value => rfl
      | pointer address cells => rfl

theorem logBuffer_eq (format : Text) (args : List Arg) :
    ((vaSize args).bind (fun (n, args) =>
      (vaPointer args).map (fun (ptr, args) => ([n, ptr.1], format, args)))) =
      (readAs [.size, .pointer] args).map (fun read => (read.1, format, read.2)) := by
  cases args with
  | nil => rfl
  | cons arg args =>
      cases arg with
      | word value => rfl
      | pointer address cells => rfl
      | size value =>
          cases args with
          | nil => rfl
          | cons arg args =>
              cases arg with
              | word value => rfl
              | size value => rfl
              | pointer address cells => rfl

theorem logSpecifier_eq (spec : FormatSpecifier) (format : Text) (args : List Arg) :
    logSpecifier spec.isNonstd spec.type format args =
      (readAs (logKinds spec) args).map (fun read => (read.1, format, read.2)) := by
  unfold logSpecifier logKinds
  by_cases nonStd : spec.isNonstd = true
  · rw [if_pos nonStd, if_pos nonStd]
    by_cases prefixed : spec.type = kUnsignedHexLow ∨ spec.type = kHexLeLow ∨
        spec.type = kUnsignedHexHigh ∨ spec.type = kHexLeHigh
    · rw [if_pos prefixed, if_pos prefixed]
      exact logBuffer_eq format args
    · rw [if_neg prefixed, if_neg prefixed]
      exact logWord_eq format args
  · rw [if_neg nonStd, if_neg nonStd]
    by_cases pointed : spec.type = kPointer ∨ spec.type = kString
    · rw [if_pos pointed, if_pos pointed]
      exact logPointer_eq format args
    · rw [if_neg pointed, if_neg pointed]
      exact logWord_eq format args

/-! ## The scanners in step -/

theorem digit_padding (spec : FormatSpecifier) (c : BitVec 8) : (spec.digit c).padding ≠ 0 := by
  unfold FormatSpecifier.digit
  have zeroes : (0x30 : BitVec 8) ≠ 0 := by decide
  have spaces : (0x20 : BitVec 8) ≠ 0 := by decide
  split
  · exact zeroes
  · dsimp only
    split
    · exact spaces
    · next padded => exact padded

variable {format : Text} {spec : FormatSpecifier} {specs : List FormatSpecifier}

/-- The logger skips what the printer reads as a width. -/
theorem widthLoop_skip {behind : Text} {read : FormatSpecifier} {c : BitVec 8}
    (result : widthLoop format spec = some (read, c, behind)) :
    skipDigits format = some (c :: behind) ∧ read.isNonstd = spec.isNonstd ∧
      (read.padding = 0 -> spec.padding = 0 ∧ format = c :: behind) := by
  induction format generalizing spec with
  | nil => cases result
  | cons d format ih =>
      rw [widthLoop] at result
      split at result
      · next zero =>
          cases result
          have other : isDigit 0 = false := by decide
          rw [skipDigits, zero, other]
          exact ⟨rfl, rfl, fun padded => ⟨padded, rfl⟩⟩
      · split at result
        · next digit =>
            rcases ih result with ⟨skipped, marked, padded⟩
            rw [skipDigits, if_pos digit]
            refine ⟨skipped, ?_, ?_⟩
            · rw [marked]
              unfold FormatSpecifier.digit
              split
              · rfl
              · rfl
            · intro zero
              exact absurd (padded zero).1 (digit_padding spec d)
        · next other =>
            cases result
            rw [skipDigits, if_neg other]
            exact ⟨rfl, rfl, fun padded => ⟨padded, rfl⟩⟩

/-- A specifier as the logger sees it. -/
theorem accepted_skip {behind : Text}
    (accepted : consumeFormatSpecifier (kPercent :: format) = some (.accepted spec behind)) :
    spec.isNonstd = decide (format.head? = some bang) ∧
      skipDigits (if spec.isNonstd then format.tail else format) = some (spec.type :: behind) ∧
      (spec.isPlain = true ↔ format.head? = some kPercent) ∧
      (spec.isPlain = true -> format = kPercent :: behind) := by
  unfold consumeFormatSpecifier at accepted
  rcases Option.map_eq_some_iff.mp accepted with ⟨⟨read, c, rest⟩, result, same⟩
  rcases widthLoop_skip result with ⟨skipped, marked, padded⟩
  dsimp only at same skipped marked padded result
  split at same
  · cases same
  split at same
  · cases same
  cases same
  have shape : FormatSpecifier.isPlain ⟨c, read.width, read.padding, read.isNonstd⟩ = true ->
      format = kPercent :: behind := by
    intro plain
    rcases of_decide_eq_true plain with ⟨type, standard, zero⟩
    have unmarked := marked.symm.trans standard
    have written := (padded zero).2
    rwa [unmarked, if_neg Bool.false_ne_true, show c = kPercent from type] at written
  refine ⟨marked, ?_, ?_, shape⟩
  · rw [<- marked] at skipped
    exact skipped
  · constructor
    · intro plain
      rw [shape plain]
      rfl
    · intro percent
      cases format with
      | nil => cases percent
      | cons d format =>
          cases percent
          have unmarked : decide ((kPercent :: format).head? = some bang) = false := by
            simp
          rw [unmarked, if_neg Bool.false_ne_true] at result
          cases result
          rfl

/-- A format goes on behind its cell with a cell. -/
theorem Formatted.ne_nil (formatted : Formatted format specs) : format ≠ [] := by
  cases formatted with
  | finish beyond => exact List.cons_ne_nil _ _
  | literal written other further => exact List.cons_ne_nil _ _
  | specifier accepted further => exact List.cons_ne_nil _ _

/-- What is left of a format by the logger's scan for a specifier. -/
theorem Formatted.locate (formatted : Formatted format specs) :
    Exists fun position => locateSpecifier format = some position ∧
      Formatted position (specs.dropWhile FormatSpecifier.isPlain) ∧
      (position.head? = some 0 ∨ position.head? = some kPercent) := by
  induction formatted with
  | finish beyond =>
      refine ⟨0 :: beyond, ?_, .finish beyond, Or.inl rfl⟩
      cases beyond with
      | nil => rfl
      | cons next beyond => rfl
  | @literal c format specs written other further ih =>
      rcases ih with ⟨position, located, formatted, stops⟩
      refine ⟨position, ?_, formatted, stops⟩
      cases format with
      | nil => exact absurd rfl further.ne_nil
      | cons next format => rw [locateSpecifier, if_neg written, if_neg other, located]
  | @specifier format behind spec specs accepted further ih =>
      have skip := accepted_skip accepted
      cases plain : spec.isPlain with
      | true =>
          rcases ih with ⟨position, located, formatted, stops⟩
          refine ⟨position, ?_, ?_, stops⟩
          · rw [skip.2.2.2 plain, locateSpecifier, if_neg (by decide), if_pos rfl,
              if_neg (not_not.mpr rfl), located]
          · rwa [List.dropWhile_cons_of_pos plain]
      | false =>
          have kept := Bool.eq_false_iff.mp plain
          refine ⟨kPercent :: format, ?_, ?_, Or.inr rfl⟩
          · cases format with
            | nil =>
                have none := skip.2.1
                split at none
                · cases none
                · cases none
            | cons next format =>
                have other : next ≠ kPercent := by
                  intro same
                  exact kept (skip.2.2.1.mpr (congrArg some same))
                rw [locateSpecifier, if_neg (by decide), if_pos rfl, if_pos other]
          · rw [List.dropWhile_cons_of_neg kept]
            exact .specifier accepted further

/-- What the logger takes in a round for the specifiers from where it stops. -/
def nextKinds : List FormatSpecifier -> List Kind
  | [] => [.word]
  | spec :: _ => logKinds spec

theorem logReads_succ (nargs : Nat) (specs : List FormatSpecifier) :
    logReads (nargs + 1) specs =
      nextKinds (specs.dropWhile FormatSpecifier.isPlain) ++
        logReads nargs (specs.dropWhile FormatSpecifier.isPlain).tail := by
  rw [logReads]
  cases specs.dropWhile FormatSpecifier.isPlain with
  | nil => rfl
  | cons spec specs => rfl

/-- One round of the logger goes to behind the next specifier that is not a `%%`. -/
theorem Formatted.logArgument (formatted : Formatted format specs) :
    Exists fun position =>
      Formatted position (specs.dropWhile FormatSpecifier.isPlain).tail ∧
      forall args, Print.logArgument format args =
        (readAs (nextKinds (specs.dropWhile FormatSpecifier.isPlain)) args).map
          (fun read => (read.1, position, read.2)) := by
  rcases formatted.locate with ⟨position, located, formatted, stops⟩
  generalize specs.dropWhile FormatSpecifier.isPlain = left at formatted
  cases formatted with
  | finish beyond =>
      refine ⟨0 :: beyond, .finish beyond, ?_⟩
      intro args
      have finished : ¬ (0 :: beyond).head? = some kPercent := by simp
      unfold Print.logArgument
      rw [located, Option.bind_some, if_neg finished]
      exact logWord_eq (0 :: beyond) args
  | literal written other further =>
      rcases stops with zero | percent
      · exact absurd (Option.some.inj zero) written
      · exact absurd (Option.some.inj percent) other
  | @specifier format behind spec specs accepted further =>
      rcases accepted_skip accepted with ⟨marked, skipped, _, _⟩
      refine ⟨behind, further, ?_⟩
      intro args
      unfold Print.logArgument
      have here : (kPercent :: format).head? = some kPercent := rfl
      have same : decide ((kPercent :: format).tail.head? = some bang) = spec.isNonstd :=
        marked.symm
      rw [located, Option.bind_some, if_pos here, same, List.tail_cons]
      dsimp only
      rw [skipped]
      exact logSpecifier_eq spec behind args

/-- The logger reads arguments of the kinds it takes the specifiers for. -/
theorem Formatted.logArguments (formatted : Formatted format specs) (nargs : Nat)
    (args : List Arg) :
    Print.logArguments nargs format args = readAs (logReads nargs specs) args := by
  induction nargs generalizing format specs args with
  | zero => rfl
  | succ nargs ih =>
      rcases formatted.logArgument with ⟨position, further, round⟩
      rw [Print.logArguments, round, logReads_succ, readAs_append, Option.bind_map]
      congr 1
      funext read
      simp only [Function.comp_apply, ih further]

/-! ## Where the logger and the printer agree -/

/-- No specifier takes two arguments, and none that the logger takes an argument for
although the printer takes none is in front of a pointer. -/
structure Agreeable (specs : List FormatSpecifier) : Prop where
  single : forall spec, spec ∈ specs -> argKinds spec ≠ [.size, .pointer]
  inStep : specs.Pairwise (fun earlier later =>
    argKinds earlier = [] -> earlier.isPlain = false -> argKinds later ≠ [.pointer])

/-- The types of specifiers that are not unknown. -/
def knownTypes : List (BitVec 8) :=
  [kPercent, kCharacter, kFourCC, kString, kSignedDec1, kSignedDec2, kUnsignedOct, kPointer,
    kUnsignedHexLow, kSvHexLow, kUnsignedHexHigh, kSvHexHigh, kHexLeLow, kHexLeHigh, kUnsignedDec,
    kSvBinary, kStatusResult]

theorem branch_unknown (unknown : spec.type ∉ knownTypes) :
    spec.branch = badSpec := by
  simp only [knownTypes, List.mem_cons, List.not_mem_nil, or_false, not_or] at unknown
  unfold FormatSpecifier.branch
  simp only [unknown, if_false, or_self]

/-- The logger takes one argument where the printer takes none, or they take the same
one, or the printer takes two. -/
theorem argKinds_cases (spec : FormatSpecifier) :
    (argKinds spec = [] ∧ logKinds spec = [.word]) ∨
    (Exists fun kind => kind ≠ .size ∧ argKinds spec = [kind] ∧ logKinds spec = [kind]) ∨
    argKinds spec = [.size, .pointer] := by
  by_cases known : spec.type ∈ knownTypes
  · rcases spec with ⟨type, width, padding, isNonstd⟩
    dsimp only [knownTypes] at known
    simp only [List.mem_cons, List.not_mem_nil, or_false] at known
    have word : Kind.word ≠ .size := by decide
    have pointer : Kind.pointer ≠ .size := by decide
    rcases known with rfl | rfl | rfl | rfl | rfl | rfl | rfl | rfl | rfl | rfl | rfl | rfl | rfl |
      rfl | rfl | rfl | rfl
    all_goals
      cases isNonstd
      all_goals
        first
        | exact Or.inl ⟨rfl, rfl⟩
        | exact Or.inr (Or.inl ⟨.word, word, rfl, rfl⟩)
        | exact Or.inr (Or.inl ⟨.pointer, pointer, rfl, rfl⟩)
        | exact Or.inr (Or.inr rfl)
  · left
    constructor
    · unfold argKinds
      rw [branch_unknown known]
      rfl
    · simp only [knownTypes, List.mem_cons, List.not_mem_nil, or_false, not_or] at known
      unfold logKinds
      simp only [known, or_self, if_false, ite_self]

theorem plain_takes_nothing (plain : spec.isPlain = true) :
    argKinds spec = [] := by
  rcases of_decide_eq_true plain with ⟨type, standard, _⟩
  unfold argKinds FormatSpecifier.branch
  rw [if_pos type, standard]
  rfl

theorem logReads_plain (nargs : Nat) (specs : List FormatSpecifier) (plain : spec.isPlain = true) :
    logReads nargs (spec :: specs) = logReads nargs specs := by
  cases nargs with
  | zero => rfl
  | succ nargs => rw [logReads_succ, logReads_succ, List.dropWhile_cons_of_pos plain]

theorem logReads_other (nargs : Nat) (specs : List FormatSpecifier) (other : spec.isPlain = false) :
    logReads (nargs + 1) (spec :: specs) = logKinds spec ++ logReads nargs specs := by
  rw [logReads_succ, List.dropWhile_cons_of_neg (Bool.eq_false_iff.mp other)]
  rfl

/-- Every round takes one argument, and another one with each size. -/
theorem logReads_length (nargs : Nat) (specs : List FormatSpecifier) :
    (logReads nargs specs).length = nargs + (logReads nargs specs).count .size := by
  induction nargs generalizing specs with
  | zero => rfl
  | succ nargs ih =>
      have next : forall left, (nextKinds left).length = 1 + (nextKinds left).count .size := by
        intro left
        cases left with
        | nil => rfl
        | cons spec left =>
            rw [nextKinds, logKinds]
            split_ifs
            · rfl
            · rfl
            · rfl
            · rfl
      rw [logReads_succ, List.length_append, List.count_append, next, ih]
      omega

/-- Behind an argument too many the logger only agrees on words. -/
theorem words_of_lag {nargs lag : Nat} (positive : 0 < lag)
    (single : forall spec, spec ∈ specs -> argKinds spec ≠ [.size, .pointer])
    (same : List.replicate lag .word ++ logReads nargs specs = specs.flatMap argKinds) :
    forall kind, kind ∈ specs.flatMap argKinds -> kind = .word := by
  induction specs generalizing nargs lag with
  | nil =>
      intro kind inside
      cases inside
  | cons spec specs ih =>
      have behind : forall later, later ∈ specs -> argKinds later ≠ [.size, .pointer] :=
        fun later inside => single later (List.mem_cons_of_mem spec inside)
      cases plain : spec.isPlain with
      | true =>
          rw [logReads_plain nargs specs plain] at same
          rw [List.flatMap_cons, plain_takes_nothing plain, List.nil_append] at same ⊢
          exact ih positive behind same
      | false =>
          cases nargs with
          | zero =>
              rw [<- same]
              intro kind inside
              rcases List.mem_append.mp inside with word | none
              · exact List.eq_of_mem_replicate word
              · cases none
          | succ nargs =>
              rw [logReads_other nargs specs plain] at same
              rw [List.flatMap_cons] at same ⊢
              rcases argKinds_cases spec with ⟨idle, word⟩ | ⟨kind, _, taken, read⟩ | two
              · rw [idle, word, List.nil_append, <- List.append_assoc,
                  <- List.replicate_succ'] at same
                rw [idle, List.nil_append]
                exact ih (Nat.succ_pos lag) behind same
              · rcases lag with _ | lag
                · omega
                · rw [taken, read, List.replicate_succ] at same
                  simp only [List.cons_append, List.nil_append, List.cons.injEq] at same
                  rcases same with ⟨first, same⟩
                  subst first
                  have shifted : List.replicate (lag + 1) .word ++ logReads nargs specs =
                      specs.flatMap argKinds := by
                    rw [List.replicate_succ', List.append_assoc]
                    exact same
                  intro kind inside
                  rw [taken] at inside
                  rcases List.mem_cons.mp inside with here | later
                  · exact here
                  · exact ih (Nat.succ_pos lag) behind shifted kind later
              · exact absurd two (single spec List.mem_cons_self)

/-- Where there are words alone the logger reads nothing else. -/
theorem logReads_words (nargs : Nat)
    (words : forall spec, spec ∈ specs -> logKinds spec = [.word]) :
    logReads nargs specs = List.replicate nargs .word := by
  induction nargs generalizing specs with
  | zero => rfl
  | succ nargs ih =>
      have left : forall spec, spec ∈ specs.dropWhile FormatSpecifier.isPlain ->
          logKinds spec = [.word] :=
        fun spec inside => words spec ((List.dropWhile_sublist _).subset inside)
      rw [logReads_succ, ih (fun spec inside => left spec (List.mem_of_mem_tail inside))]
      cases rest : specs.dropWhile FormatSpecifier.isPlain with
      | nil => rfl
      | cons spec further =>
          rw [rest] at left
          rw [nextKinds, left spec List.mem_cons_self]
          rfl

theorem eq_replicate_of_words {kinds : List Kind}
    (words : forall kind, kind ∈ kinds -> kind = .word) :
    kinds = List.replicate kinds.length .word :=
  List.eq_replicate_iff.mpr ⟨rfl, words⟩

/-- Behind a specifier that only the logger takes an argument for they agree exactly on
words. -/
theorem logReads_lagging
    (single : forall later, later ∈ specs -> argKinds later ≠ [.size, .pointer])
    (other : spec.isPlain = false) (idle : argKinds spec = []) (word : logKinds spec = [.word]) :
    logReads ((spec :: specs).flatMap argKinds).length (spec :: specs) =
        (spec :: specs).flatMap argKinds ↔
      forall later, later ∈ specs -> argKinds later ≠ [.pointer] := by
  rw [List.flatMap_cons, idle, List.nil_append]
  constructor
  · intro same later inside pointer
    have taken : Kind.pointer ∈ specs.flatMap argKinds :=
      List.mem_flatMap.mpr ⟨later, inside, by rw [pointer]; exact List.mem_cons_self⟩
    cases length : (specs.flatMap argKinds).length with
    | zero =>
        rw [List.eq_nil_of_length_eq_zero length] at taken
        cases taken
    | succ nargs =>
        rw [length, logReads_other nargs specs other, word] at same
        have words := words_of_lag (Nat.succ_pos 0) single same
        exact absurd (words .pointer taken) (by decide)
  · intro none
    have words : forall later, later ∈ specs -> logKinds later = [.word] ∧
        forall kind, kind ∈ argKinds later -> kind = .word := by
      intro later inside
      rcases argKinds_cases later with ⟨nothing, read⟩ | ⟨kind, sized, taken, read⟩ | two
      · rw [nothing, read]
        exact ⟨rfl, fun kind here => absurd here List.not_mem_nil⟩
      · cases kind with
        | word =>
            rw [taken, read]
            exact ⟨rfl, fun kind here => List.mem_singleton.mp here⟩
        | size => exact absurd rfl sized
        | pointer => exact absurd taken (none later inside)
      · exact absurd two (single later inside)
    have every : forall kind, kind ∈ specs.flatMap argKinds -> kind = .word := by
      intro kind inside
      rcases List.mem_flatMap.mp inside with ⟨later, among, here⟩
      exact (words later among).2 kind here
    have all : forall each, each ∈ spec :: specs -> logKinds each = [.word] := by
      intro each inside
      rcases List.mem_cons.mp inside with first | later
      · rw [first, word]
      · exact (words each later).1
    rw [logReads_words _ all]
    exact (eq_replicate_of_words every).symm

/-- The logger takes what the printer takes exactly if the specifiers are agreeable. -/
theorem logReads_agree_iff (specs : List FormatSpecifier) :
    logReads (specs.flatMap argKinds).length specs = specs.flatMap argKinds ↔
      Agreeable specs := by
  by_cases single : forall spec, spec ∈ specs -> argKinds spec ≠ [.size, .pointer]
  · have inStep : logReads (specs.flatMap argKinds).length specs = specs.flatMap argKinds ↔
        specs.Pairwise (fun earlier later =>
          argKinds earlier = [] -> earlier.isPlain = false -> argKinds later ≠ [.pointer]) := by
      induction specs with
      | nil => exact iff_of_true rfl List.Pairwise.nil
      | cons spec specs ih =>
          have behind : forall later, later ∈ specs -> argKinds later ≠ [.size, .pointer] :=
            fun later inside => single later (List.mem_cons_of_mem spec inside)
          rw [List.pairwise_cons]
          cases plain : spec.isPlain with
          | true =>
              rw [List.flatMap_cons, plain_takes_nothing plain, List.nil_append,
                logReads_plain _ specs plain, ih behind]
              simp
          | false =>
              rcases argKinds_cases spec with ⟨idle, word⟩ | ⟨kind, _, taken, read⟩ | two
              · rw [logReads_lagging behind plain idle word]
                constructor
                · intro none
                  refine ⟨fun later inside _ _ => none later inside, ?_⟩
                  exact List.pairwise_of_forall_mem_list
                    (fun _ _ later inside _ _ => none later inside)
                · intro pairs later inside
                  exact pairs.1 later inside idle rfl
              · rw [List.flatMap_cons, taken, List.singleton_append, List.length_cons,
                  logReads_other _ specs plain, read, List.singleton_append, List.cons.injEq,
                  ih behind]
                simp
              · exact absurd two (single spec List.mem_cons_self)
    rw [inStep]
    exact ⟨fun pairs => ⟨single, pairs⟩, fun agreeable => agreeable.inStep⟩
  · constructor
    · intro same
      exfalso
      apply single
      intro spec inside two
      have length := logReads_length (specs.flatMap argKinds).length specs
      rw [same] at length
      have sized : Kind.size ∈ specs.flatMap argKinds :=
        List.mem_flatMap.mpr ⟨spec, inside, by rw [two]; exact List.mem_cons_self⟩
      have counted := List.count_pos_iff.mpr sized
      omega
    · intro agreeable
      exact absurd agreeable.single single

/-- For a format that the printer accepts, and the arguments that it takes for it, the
logger reads the same arguments, all of them and each as what it is, exactly if the
specifiers are agreeable. -/
theorem log_agrees_iff {format : Text} {specs : List FormatSpecifier} {args : List Arg}
    {texts : List Text} (logOffset : BitVec 32) (formatted : Formatted format specs)
    (matching : vfprintf format args = some (texts, [])) :
    (Exists fun words => baseLogInternalDvCheri format logOffset args.length args =
      some (words, [])) ↔ Agreeable specs := by
  have kinds : args.map Arg.kind = specs.flatMap argKinds := by
    rcases vfprintfLoop_takes formatted matching with ⟨taken, same, kinds⟩
    rw [same, List.append_nil, kinds]
  have length : args.length = (specs.flatMap argKinds).length := by
    rw [<- kinds, List.length_map]
  have reads : (Exists fun words => baseLogInternalDvCheri format logOffset args.length args =
      some (words, [])) ↔ Takes (logReads args.length specs) args [] := by
    rw [<- readAs_iff, <- formatted.logArguments args.length args]
    constructor
    · rintro ⟨words, logged⟩
      rcases Option.map_eq_some_iff.mp logged with ⟨⟨further, _⟩, result, same⟩
      cases same
      exact ⟨further, result⟩
    · rintro ⟨words, result⟩
      refine ⟨logOffset :: words, ?_⟩
      unfold baseLogInternalDvCheri
      rw [result]
      rfl
  rw [reads, <- logReads_agree_iff, <- length, <- kinds]
  constructor
  · rintro ⟨taken, same, read⟩
    rw [List.append_nil] at same
    rw [<- read, <- same]
  · intro same
    exact ⟨args, (List.append_nil args).symm, same.symm⟩

/-- The arguments of `%s:%d` are read as a pointer and a word. -/
theorem log_agrees_file :
    (Exists fun words => baseLogInternalDvCheri
      [kPercent, kString, 0x3a, kPercent, kSignedDec1, 0] 0x40 2
      [.pointer 0x1000 (ascii "a.c" ++ [0]), .word 7] = some (words, [])) ↔
    Agreeable [⟨kString, 0, 0, false⟩, ⟨kSignedDec1, 0, 0, false⟩] := by
  have file : consumeFormatSpecifier [kPercent, kString, 0x3a, kPercent, kSignedDec1, 0] =
      some (.accepted ⟨kString, 0, 0, false⟩ [0x3a, kPercent, kSignedDec1, 0]) := by decide
  have line : consumeFormatSpecifier [kPercent, kSignedDec1, 0] =
      some (.accepted ⟨kSignedDec1, 0, 0, false⟩ [0]) := by decide
  have colon : (0x3a : BitVec 8) ≠ 0 ∧ (0x3a : BitVec 8) ≠ kPercent := by decide
  have printed : vfprintf [kPercent, kString, 0x3a, kPercent, kSignedDec1, 0]
      [.pointer 0x1000 (ascii "a.c" ++ [0]), .word 7] =
      some ([ascii "a.c", ascii ":", ascii "7"], []) := by decide
  exact log_agrees_iff 0x40
    (.specifier file (.literal colon.1 colon.2 (.specifier line (.finish [])))) printed

/-- The length of a `%!s` is read as a word, and its pointer as another one. -/
theorem log_disagrees_string :
    Formatted [kPercent, bang, kString, 0] [⟨kString, 0, 0, true⟩] ∧
    vfprintf [kPercent, bang, kString, 0] [.size 2, .pointer 0x1000 (ascii "ok")] =
      some ([ascii "ok"], []) ∧
    ¬ Exists fun words => baseLogInternalDvCheri [kPercent, bang, kString, 0] 0x40 2
      [.size 2, .pointer 0x1000 (ascii "ok")] = some (words, []) := by
  have text : consumeFormatSpecifier [kPercent, bang, kString, 0] =
      some (.accepted ⟨kString, 0, 0, true⟩ [0]) := by decide
  have refused : baseLogInternalDvCheri [kPercent, bang, kString, 0] 0x40 2
      [.size 2, .pointer 0x1000 (ascii "ok")] = none := by decide
  refine ⟨.specifier text (.finish []), by decide, ?_⟩
  rintro ⟨words, read⟩
  rw [refused] at read
  cases read

end Print
end SunburstChip
