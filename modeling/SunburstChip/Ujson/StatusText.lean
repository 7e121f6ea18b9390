import SunburstChip.Ujson.StringText

namespace SunburstChip

namespace Ujson

open Routine

/-!
# The texts of statuses

A status is written by the formatter, as an object with the name of its code,
and the module and the argument of an error.  The name of a module goes between
quotes as it is.
-/

/-- The text of what a status consists of. -/
def detailText (extracted : Extracted) : List (BitVec 8) :=
  match extracted.modId with
  | some mod => openBracket :: quote :: (mod ++ (quote :: comma ::
      (decimal extracted.arg.toNat ++ [closeBracket])))
  | none => decimal extracted.arg.toNat

/-- The text of a status. -/
def statusText (s : Status) : List (BitVec 8) :=
  openBrace :: quote :: ((statusExtract s).code ++
    (quote :: colon :: (detailText (statusExtract s) ++ [closeBrace])))

/-! ## Writing -/

theorem digitsLoop_eq {room : Nat} {value : BitVec 32} (text : List (BitVec 8)) (positive : value ≠ 0)
    (enough : value.toNat < 10 ^ room) :
    Print.digitsLoop 10 Print.kDigitsLow room value text = some (decimal value.toNat ++ text) := by
  induction room generalizing value text with
  | zero =>
      refine absurd (BitVec.eq_of_toNat_eq ?_) positive
      exact Nat.lt_one_iff.mp enough
  | succ room ih =>
      have digits : forall n, n < 10 -> Print.kDigitsLow.getD n 0 = digit n := by decide
      have last : (value % 10).toNat = value.toNat % 10 := BitVec.toNat_umod
      have front : (value / 10).toNat = value.toNat / 10 := BitVec.toNat_udiv
      unfold Print.digitsLoop
      rw [if_neg positive, last, digits _ (Nat.mod_lt _ (by decide))]
      by_cases zero : value / 10 = 0
      · have small : value.toNat < 10 := by
          rw [zero] at front
          have none : 0 = value.toNat / 10 := front
          omega
        rw [zero, decimal_of_lt small, Nat.mod_eq_of_lt small]
        cases room with
        | zero => rfl
        | succ room => rfl
      · have large : 10 <= value.toNat := by
          by_contra small
          apply zero
          apply BitVec.eq_of_toNat_eq
          rw [front]
          exact Nat.div_eq_of_lt (Nat.lt_of_not_le small)
        have further : (value / 10).toNat < 10 ^ room := by
          rw [front, Nat.div_lt_iff_lt_mul (by decide)]
          exact enough
        rw [ih _ zero further, front, decimal_of_ge large, List.append_assoc]
        rfl

/-- A number in decimal, with padding in front of it. -/
theorem writeDigits_decimal (value : BitVec 32) (width : Nat) (padding : BitVec 8) :
    Print.writeDigits value width padding 10 Print.kDigitsLow =
      some (List.replicate (min width 32 - (decimal value.toNat).length) padding ++
        decimal value.toNat) := by
  have digits : (if value = 0 then some [Print.kDigitsLow.getD 0 0]
      else Print.digitsLoop 10 Print.kDigitsLow 32 value []) = some (decimal value.toNat) := by
    split
    · next zero =>
        rw [zero]
        decide
    · next positive =>
        rw [digitsLoop_eq [] positive (Nat.lt_trans value.isLt (by decide)), List.append_nil]
  have length := List.length_pos_iff.mpr (decimal_ne_nil value.toNat)
  have missing : min (if width = 0 then 1 else width) 32 - (decimal value.toNat).length =
      min width 32 - (decimal value.toNat).length := by
    split
    · omega
    · rfl
  unfold Print.writeDigits
  rw [digits, Option.map_some, missing]

theorem writeDigits_eq (value : BitVec 32) :
    Print.writeDigits value 0 0 10 Print.kDigitsLow = some (decimal value.toNat) := by
  rw [writeDigits_decimal, Nat.zero_min, Nat.zero_sub]
  rfl

theorem renders_putPieces (pieces : List (List (BitVec 8))) :
    Renders (putPieces pieces) True pieces.flatten () := by
  induction pieces with
  | nil => exact renders_pure ()
  | cons piece pieces ih =>
      have put : Renders (attempt (ujsonPutbuf piece)) True piece (.ok ()) := by
        intro uj accepting
        refine Or.inl ⟨trivial, [piece], List.flatten_singleton, ?_⟩
        rw [attempt_apply, putbuf_accepting accepting]
      exact put.before ih

theorem renders_status (s : Status) :
    Renders (ujsonSerializeStatusT s) True (statusText s) () := by
  unfold ujsonSerializeStatusT Print.writeStatus
  dsimp only
  rw [writeDigits_eq, Option.map_some]
  dsimp only
  apply (renders_putPieces _).congr Iff.rfl
  intro _
  unfold statusText detailText
  cases (statusExtract s).modId with
  | some mod => simp [ascii, List.flatten]
  | none => simp [ascii, List.flatten]

/-! ## Parsing -/

/-- The module of an error. -/
def statusModule (s : Status) : BitVec 32 := bitfieldField32Read s.value statusFieldModuleId

/-- The statuses whose text can be read: one that is OK, and an error with a
code that is defined, of a module that is not the one without a name and whose
name has no backslash in it. -/
def Survives (s : Status) : Prop :=
  statusOk s = true ∨
  (1 <= (statusErr s).toNat ∧ (statusErr s).toNat <= 16 ∧ statusModule s ≠ 0 ∧
    backslash ∉ moduleName (statusModule s))

theorem statusExtract_ok {s : Status} (ok : statusOk s = true) :
    statusExtract s = ⟨ascii "Ok", s.value, none⟩ := by
  have sign : s.value.msb = false := Bool.not_eq_true' _ ▸ ok
  have err : statusErr s = 0 := by
    unfold statusErr
    rw [sign]
    rfl
  unfold statusExtract
  rw [sign, err]
  rfl

/-- The code of an error is known by its name, which for no code at all is a name of its own. -/
def errorName (s : Status) : List (BitVec 8) :=
  statusCodes.getD (if statusErr s = 0 then 32 else (statusErr s).toNat) []

theorem statusExtract_error {s : Status} (error : s.value.msb = true) :
    statusExtract s = ⟨errorName s, bitfieldField32Read s.value statusFieldArg,
      some (moduleName (statusModule s))⟩ := by
  have index : (if s.value.msb = true ∧ statusErr s = 0 then statusCodes.length - 1
      else (statusErr s).toNat) = if statusErr s = 0 then 32 else (statusErr s).toNat := by
    rw [error]
    by_cases zero : statusErr s = 0
    · rw [if_pos ⟨rfl, zero⟩, if_pos zero]
      rfl
    · rw [if_neg (fun both => zero both.2), if_neg zero]
  have coded : (if statusErr s = 0 then 32 else (statusErr s).toNat) ≠ 0 := by
    split
    · decide
    · next some => exact fun zero => some (BitVec.eq_of_toNat_eq zero)
  unfold statusExtract
  dsimp only
  rw [index, if_pos coded, if_pos coded]
  rfl

theorem statusErr_lt (s : Status) : (statusErr s).toNat < 32 := by
  unfold statusErr
  split
  · unfold bitfieldField32Read
    rw [BitVec.toNat_and]
    exact Nat.lt_of_le_of_lt Nat.and_le_right (by decide)
  · decide

/-- The name of a code goes between quotes as it is. -/
theorem errorName_plain (s : Status) :
    (errorName s).flatMap escape = errorName s ∧ FitsKey (errorName s) ∧ 0 ∉ errorName s := by
  have all : forall i, i <= 32 ->
      (statusCodes.getD i []).flatMap escape = statusCodes.getD i [] ∧
      FitsKey (statusCodes.getD i []) ∧ 0 ∉ statusCodes.getD i [] := by decide +kernel
  have bound := statusErr_lt s
  apply all
  split
  · decide
  · omega

theorem statusText_error {s : Status} (error : s.value.msb = true) :
    statusText s = [openBrace] ++ (quoted (errorName s) ++ ([colon] ++
      ([openBracket] ++ (quote :: (moduleName (statusModule s) ++ (quote :: comma ::
        (decimal (bitfieldField32Read s.value statusFieldArg).toNat ++ [closeBracket])))) ++
      [closeBrace]))) := by
  unfold statusText quoted
  rw [statusExtract_error error]
  dsimp only
  rw [(errorName_plain s).1, List.cons_append, List.cons_append, List.append_assoc]
  rfl

theorem scans_onLocal {τ α : Type} {looks : Bool} {m : UjOn τ α} {text : List (BitVec 8)} {value : α}
    {fill : τ -> τ} (contents : τ) (reads : Reads looks m text value fill) :
    Scans looks (onLocal contents m) text (fill contents) := by
  intro uj rest left delimited
  rcases reads uj contents rest left delimited with ⟨uj', done, after⟩
  refine ⟨uj', ?_, after⟩
  unfold onLocal
  rw [done]
  rfl

/-- A defined code is read from its name. -/
theorem reads_code (stack : Stack) {code : Nat} (defined : code <= 16) :
    Reads false (privateStatus.deserialize stack) (quoted (statusCodes.getD code [])) ()
      (fun _ => .ofNat 32 code) := by
  have member : forall code, code <= 16 ->
      (statusCodes.getD code [], BitVec.ofNat 32 code) ∈ privateStatus.constants ∧
      FitsKey (statusCodes.getD code []) ∧ 0 ∉ statusCodes.getD code [] := by decide +kernel
  rcases member code defined with ⟨listed, short, noNull⟩
  have distinct : (privateStatus.constants.map Prod.fst).Nodup := by decide +kernel
  exact reads_name privateStatus stack distinct listed short noNull

theorem opens_close (ch : BitVec 8) (text : List (BitVec 8)) (other : isDigit ch = false) :
    Opens (ch :: text) := fun _ => other

/-- The characters of module names. -/
def Letter (ch : BitVec 8) : Prop := 0x40 <= ch ∧ ch <= 0x5f

instance (ch : BitVec 8) : Decidable (Letter ch) := inferInstanceAs (Decidable (_ ∧ _))

theorem moduleName_letters (m : BitVec 32) :
    Exists fun a => Exists fun b => Exists fun c =>
      moduleName m = [a, b, c] ∧ Letter a ∧ Letter b ∧ Letter c := by
  have letter (word : BitVec 32) : Letter (0x40#8 + (word &&& 0x1f).setWidth 8) := by
    have all : forall x : BitVec 8, x < 32 -> Letter (0x40#8 + x) := by decide
    apply all
    have small : (word &&& 0x1f).toNat < 32 := by
      rw [BitVec.toNat_and]
      exact Nat.lt_of_le_of_lt Nat.and_le_right (by decide)
    rw [BitVec.lt_def, BitVec.toNat_setWidth]
    exact Nat.lt_of_le_of_lt (Nat.mod_le _ _) small
  exact ⟨_, _, _, rfl, letter _, letter _, letter _⟩

theorem escape_letter {ch : BitVec 8} (letter : Letter ch) (plain : ch ≠ backslash) :
    escape ch = [ch] := by
  have all : forall ch, Letter ch -> ch ≠ backslash -> escape ch = [ch] := by decide +kernel
  exact all ch letter plain

/-- A string of three characters, as an array of four. -/
theorem reads_three {a b c : BitVec 8} :
    Reads false (ujsonParseQs 4) (quoted [a, b, c]) 3
      (fillString [a, b, c] : (Fin 4 -> BitVec 8) -> Fin 4 -> BitVec 8) :=
  reads_parseQs (Nat.lt_succ_self 3) (Nat.lt_succ_self 3)

/-- The module of an error and its argument are read. -/
theorem scans_module (stack : Stack) {m : BitVec 32} (plain : backslash ∉ moduleName m)
    (arg : BitVec 32) :
    Scans false (deserializeModule stack)
      (quote :: (moduleName m ++ (quote :: comma :: (decimal arg.toNat ++ [closeBracket]))))
      ((m &&& 0x7fff) <<< 16, arg) := by
  have recomposed := makeModuleId_moduleName m
  rcases moduleName_letters m with ⟨a, b, c, name, letterA, letterB, letterC⟩
  rw [name] at plain recomposed ⊢
  simp only [List.mem_cons, List.not_mem_nil, or_false, not_or] at plain
  have text : quote :: ([a, b, c] ++ (quote :: comma :: (decimal arg.toNat ++ [closeBracket]))) =
      quoted [a, b, c] ++ ([comma] ++ (decimal arg.toNat ++ [closeBracket])) := by
    unfold quoted
    rw [List.flatMap_cons, List.flatMap_cons, List.flatMap_cons,
      escape_letter letterA (Ne.symm plain.1), escape_letter letterB (Ne.symm plain.2.1),
      escape_letter letterC (Ne.symm plain.2.2)]
    rfl
  have commaDark : isSpace comma = false := by decide
  have closeDark : isSpace closeBracket = false := by decide
  rw [text]
  apply Scans.bind (scans_onLocal ((stack .module').array 4) reads_three) ?_ nofun
  apply Scans.bind (scans_consume commaDark) ?_ nofun
  apply Scans.bind (scans_unsigned (by decide) arg) ?_ (fun _ => opens_close _ _ (by decide))
  apply (scans_consume closeDark).map
  rw [<- recomposed]
  rfl

/-- A status is created again from its parts. -/
theorem statusCreate_extracted {s : Status} (error : s.value.msb = true) (coded : statusErr s ≠ 0)
    (named : statusModule s ≠ 0) (file : SourceFile) :
    statusCreate (statusErr s) ((statusModule s &&& 0x7fff) <<< 16) file
      (bitfieldField32Read s.value statusFieldArg) = s := by
  have masked : statusModule s &&& 0x7fff = statusModule s := by
    unfold statusModule bitfieldField32Read
    rw [BitVec.and_assoc, BitVec.and_self]
  have same := read_moduleId (statusModule s)
  rw [masked] at same ⊢
  have positioned : Positioned (statusModule s <<< 16) := by
    rw [<- masked, <- makeModuleId_moduleName]
    exact positioned_makeModuleId _ _ _
  have nonzero : statusModule s <<< 16 ≠ 0 := by
    intro zero
    rw [zero] at same
    exact named same.symm
  have packed : Packed (statusErr s) _ (bitfieldField32Read s.value statusFieldArg) _ :=
    statusCreate_packed coded positioned file
  rw [if_neg nonzero] at packed
  apply Status.eq_of_fields
  · rw [packed.error, error]
  · rw [packed.code, statusErr, if_pos error, bitfieldField32Read, BitVec.and_assoc, BitVec.and_self]
  · rw [packed.arg, bitfieldField32Read, BitVec.and_assoc, BitVec.and_self]
  · rw [packed.moduleId, same]
    rfl

/-- The text of a status that survives is read as this status. -/
theorem scans_status (stack : Stack) {s : Status} (survives : Survives s) :
    Scans false (ujsonDeserializeStatusT stack) (statusText s) s := by
  have braceDark : isSpace openBrace = false := by decide
  have colonDark : isSpace colon = false := by decide
  have bracketDark : isSpace openBracket = false := by decide
  have closeDark : isSpace closeBrace = false := by decide
  -- Around the code and what comes after it, the parser is the same.
  have frame {code : Nat} (defined : code <= 16) {detail : List (BitVec 8)}
      {value : BitVec 32 × BitVec 32} {looks : Bool}
      (scans : Scans looks (deserializeDetail stack) detail value)
      (created : statusCreate (.ofNat 32 code) value.1 ujsonC value.2 = s) :
      Scans false (ujsonDeserializeStatusT stack) ([openBrace] ++ (quoted (statusCodes.getD code []) ++
        ([colon] ++ (detail ++ [closeBrace])))) s := by
    apply Scans.bind (scans_consume braceDark) ?_ nofun
    apply Scans.bind (scans_onLocal (stack .code).word (reads_code stack defined)) ?_ nofun
    apply Scans.bind (scans_consume colonDark) ?_ nofun
    apply Scans.bind scans ?_ (fun _ => opens_close _ _ (by decide))
    apply (scans_consume closeDark).map
    rw [created]
  cases error : s.value.msb with
  | false =>
      have ok : statusOk s = true := by
        rw [statusOk, error]
        rfl
      have created : statusCreate (.ofNat 32 0) 0 ujsonC s.value = s := by
        unfold statusCreate
        rw [if_pos ⟨rfl, by rw [error]; rfl⟩]
      rcases decimal_cons s.value.toNat with ⟨ch, text, numeral, isFirst⟩
      have dark : forall ch : BitVec 8, isDigit ch = true -> isSpace ch = false ∧ openBracket ≠ ch := by
        decide
      have detail : Scans true (deserializeDetail stack) (decimal s.value.toNat) (0, s.value) := by
        have number : Scans true deserializeArg (decimal s.value.toNat) (0, s.value) :=
          (scans_unsigned (by decide) s.value).map rfl
        rw [numeral] at number ⊢
        exact number.other (dark ch isFirst).1 (dark ch isFirst).2
      have scans := frame (Nat.zero_le 16) detail created
      unfold statusText
      rw [statusExtract_ok ok]
      exact scans
  | true =>
      rcases survives with ok | ⟨coded, defined, named, plain⟩
      · rw [statusOk, error] at ok
        cases ok
      · have nonzero : statusErr s ≠ 0 := by
          intro zero
          rw [zero] at coded
          exact absurd coded (by decide)
        have name : errorName s = statusCodes.getD (statusErr s).toNat [] := by
          unfold errorName
          rw [if_neg nonzero]
        have detail : Scans false (deserializeDetail stack)
            ([openBracket] ++ (quote :: (moduleName (statusModule s) ++ (quote :: comma ::
              (decimal (bitfieldField32Read s.value statusFieldArg).toNat ++ [closeBracket])))))
            ((statusModule s &&& 0x7fff) <<< 16, bitfieldField32Read s.value statusFieldArg) :=
          Scans.bind (scans_consumeMaybe bracketDark) (scans_module stack plain _) nofun
        have created : statusCreate (.ofNat 32 (statusErr s).toNat)
            ((statusModule s &&& 0x7fff) <<< 16) ujsonC (bitfieldField32Read s.value statusFieldArg) =
            s := by
          rw [BitVec.ofNat_toNat, BitVec.setWidth_eq]
          exact statusCreate_extracted error nonzero named ujsonC
        rw [statusText_error error, name]
        exact frame defined detail created

end Ujson
end SunburstChip
