import SunburstChip.Hw.TlulSramServes

namespace SunburstChip

/-- `prim_generic_ram_1p`: what is stored, and what has been read last. -/
structure PrimRam1p (α : Type) where
  mem : Nat -> α
  rdataO : α

namespace PrimRam1p

variable {α : Type}

/-- What the memory does at an edge, where a write makes one word of another. -/
def next (ram : PrimRam1p α) (req write : Bool) (addr : Nat) (put : α -> α) : PrimRam1p α :=
  if req then
    if write then { ram with mem := Function.update ram.mem addr (put (ram.mem addr)) }
    else { ram with rdataO := ram.mem addr }
  else ram

theorem next_mem (ram : PrimRam1p α) (req write : Bool) (addr : Nat) (put : α -> α) :
    (ram.next req write addr put).mem =
      if req && write then Function.update ram.mem addr (put (ram.mem addr)) else ram.mem := by
  cases req <;> cases write <;> rfl

theorem next_rdataO (ram : PrimRam1p α) (req write : Bool) (addr : Nat) (put : α -> α) :
    (ram.next req write addr put).rdataO =
      if req && !write then ram.mem addr else ram.rdataO := by
  cases req <;> cases write <;> rfl

/-- What a write makes of a word whose mask has a bit for eight bits of data: those of the eight that
are not all in the mask stay as they are. -/
def merge (wmask wdata old : BitVec 32) : BitVec 32 :=
  wires 32 fun i =>
    if wmask.extractLsb' (8 * (i / 8)) 8 == .allOnes 8 then wdata.getLsbD i else old.getLsbD i

end PrimRam1p

namespace Sram

open Tlul TlulAdapterSram

/-!
# The memory with tags

`sram.sv`: a memory for data and one for tags behind the adapter.  There is a tag for
each capability, which is two words, or for each word.  Any write to a word writes its
tag, and the tag says whether it was a capability that was written.

What the memory does is what a map from addresses to words and tags does that answers
the requests one by one.
-/

/-! ## The circuit -/

/-- `AddrWidth` and `SingleTagPerCap` -/
structure Params where
  addrWidth : Nat
  singleTagPerCap : Bool
deriving DecidableEq

/-- `SramAw` -/
def Params.sramAw (params : Params) : Nat := params.addrWidth - 2

/-- `TOff` -/
def Params.tOff (params : Params) : Nat := if params.singleTagPerCap then 1 else 0

/-- The parameters of `sram_adapter`. -/
def Params.adapter (params : Params) : TlulAdapterSram.Params := ⟨params.sramAw, 1, true, false, false⟩

/-- The flops and the memories. -/
structure State (params : Params) where
  sramAdapter : TlulAdapterSram.State params.adapter
  uRam : PrimRam1p (BitVec 32)
  uCapRam : PrimRam1p Bool
  memRvalid : Bool

variable {params : Params}

/-- The access to the memories: `en_ifetch_i` is `MuBi4True`. -/
def access (s : State params) (tl : H2d) : ToSram params.sramAw := toSram s.sramAdapter tl muBi4True

/-- What the adapter has from the memories. -/
def fromSram (s : State params) (tl : H2d) : FromSram where
  gnt := (access s tl).req
  rdata := s.uRam.rdataO
  rdataCap := s.uCapRam.rdataO
  rvalid := s.memRvalid
  rerror := false

/-- `tl_o` -/
def tlO (s : State params) (tl : H2d) : D2h := TlulAdapterSram.tlO s.sramAdapter (fromSram s tl)

/-- `sram`, where `words` and `tags` are what is stored at first. -/
def sram (params : Params) (words : Nat -> BitVec 32) (tags : Nat -> Bool) :
    Circuit (State params) H2d where
  reset := ⟨(adapter params.adapter).reset, ⟨words, 0⟩, ⟨tags, false⟩, false⟩
  next s tl :=
    { sramAdapter := (adapter params.adapter).next s.sramAdapter ⟨tl, muBi4True, fromSram s tl⟩
      uRam := s.uRam.next (access s tl).req (access s tl).we (access s tl).addr.toNat
        (PrimRam1p.merge (access s tl).wmask (access s tl).wdata)
      uCapRam := s.uCapRam.next (access s tl).req (access s tl).we
        ((access s tl).addr.toNat >>> params.tOff) (fun _ => (access s tl).wdataCap)
      memRvalid := (access s tl).req && !(access s tl).we }

/-! ## What the memory is for -/

/-- Words and their tags. -/
structure TaggedMemory where
  words : Nat -> BitVec 32
  tags : Nat -> Bool

section

variable (params : Params) (a : Request)

/-- The word that a request is about, and the capability it is a part of. -/
def wordOf : Nat := (a.address.extractLsb' 2 params.sramAw).toNat

def granuleOf : Nat := wordOf params a >>> params.tOff

/-- The request is refused. -/
def refused : Bool := errorInternal params.adapter muBi4True a

/-- The request writes. -/
def writes : Bool := !refused params a && weO a

/-- The word after a write of some of its bytes. -/
def written (old : BitVec 32) : BitVec 32 :=
  wires 32 fun i => if a.mask.getLsbD (i / 8) then a.data.getLsbD i else old.getLsbD i

/-- What the memory is after a request. -/
def TaggedMemory.serve (m : TaggedMemory) : TaggedMemory :=
  if writes params a then
    { words := Function.update m.words (wordOf params a) (written a (m.words (wordOf params a)))
      tags := Function.update m.tags (granuleOf params a) a.user.capability }
  else m

/-- The answer to a request. -/
def TaggedMemory.answer (m : TaggedMemory) : Response :=
  let reads := !refused params a && a.opcode == get
  tlulRspIntgGen
    { opcode := if a.opcode == get then .accessAckData else .accessAck
      param := 0
      size := a.size
      source := a.source
      sink := 0
      data :=
        if reads then m.words (wordOf params a) &&& bitMask a.mask
        else errorBlankingData a.user.instrType
      user := ⟨0, if reads then 0 else secdedInv3932ZeroEcc,
        reads && m.tags (granuleOf params a)⟩
      error := refused params a }

end

/-- What the memory is after some requests. -/
def TaggedMemory.after (params : Params) (m : TaggedMemory) : List Request -> TaggedMemory
  | [] => m
  | a :: rest => TaggedMemory.after params (m.serve params a) rest

/-- The answers to some requests. -/
def TaggedMemory.answers (params : Params) (m : TaggedMemory) : List Request -> List Response
  | [] => []
  | a :: rest => m.answer params a :: TaggedMemory.answers params (m.serve params a) rest

/-! ## The circuit does what the memory does -/

/-- The memories as one that the adapter may have behind it. -/
def ram (params : Params) : Memory params.adapter.sramAw TaggedMemory where
  look m addr := (m.words addr.toNat, m.tags (addr.toNat >>> params.tOff))
  put m access :=
    { words := Function.update m.words access.addr.toNat
        (PrimRam1p.merge access.wmask access.wdata (m.words access.addr.toNat))
      tags := Function.update m.tags (access.addr.toNat >>> params.tOff) access.wdataCap }

/-- The flops and the memories as those of the adapter with one memory. -/
def view (s : State params) : Joined params.adapter TaggedMemory :=
  ⟨s.sramAdapter, ⟨s.uRam.mem, s.uCapRam.mem⟩, s.uRam.rdataO, s.uCapRam.rdataO, s.memRvalid⟩

theorem tlO_view (s : State params) (tl : H2d) : (view s).tlO muBi4True tl = tlO s tl := by
  unfold tlO Joined.tlO fromSram Joined.fromSram access toSram reqO
  rcases tl.a with _ | a <;> rfl

/-- The circuit runs as the adapter with one memory does. -/
theorem view_next (words : Nat -> BitVec 32) (tags : Nat -> Bool) (s : State params) (tl : H2d) :
    view ((sram params words tags).next s tl) =
      (joined (ram params) muBi4True ⟨words, tags⟩).next (view s) tl := by
  have gnt : fromSram s tl = (view s).fromSram muBi4True tl := by
    unfold fromSram Joined.fromSram access toSram reqO
    rcases tl.a with _ | a <;> rfl
  refine Joined.ext ?_ ?_ ?_ ?_ rfl
  · change (adapter params.adapter).next s.sramAdapter ⟨tl, muBi4True, fromSram s tl⟩ = _
    rw [gnt]
    rfl
  · change TaggedMemory.mk (PrimRam1p.next _ _ _ _ _).mem (PrimRam1p.next _ _ _ _ _).mem =
      if ((access s tl).req && (access s tl).we) = true then _ else _
    rw [PrimRam1p.next_mem, PrimRam1p.next_mem]
    split <;> rfl
  · exact PrimRam1p.next_rdataO _ _ _ _ _
  · exact PrimRam1p.next_rdataO _ _ _ _ _

theorem state_view (words : Nat -> BitVec 32) (tags : Nat -> Bool) (tls : Nat -> H2d) (t : Nat) :
    view ((sram params words tags).state tls t) =
      (joined (ram params) muBi4True ⟨words, tags⟩).state tls t :=
  @Circuit.state_map _ _ _ _ (sram params words tags) tls _ view (fun _ tl => tl) rfl
    (view_next words tags) t

/-- A byte of the data is in the mask with all its bits or with none. -/
theorem bitMask_byte (mask : BitVec 4) {i : Nat} (inside : i < 32) :
    ((bitMask mask).extractLsb' (8 * (i / 8)) 8 == .allOnes 8) = mask.getLsbD (i / 8) := by
  have bits (j : Nat) (low : j < 8) :
      ((bitMask mask).extractLsb' (8 * (i / 8)) 8).getLsbD j = mask.getLsbD (i / 8) := by
    rw [BitVec.getLsbD_extractLsb', decide_eq_true low, Bool.true_and, bitMask,
      getLsbD_wires _ (by omega), show (8 * (i / 8) + j) / 8 = i / 8 by omega]
  rcases set : mask.getLsbD (i / 8) with _ | _
  · refine beq_false_of_ne fun same => ?_
    have first := bits 0 (by decide)
    rw [same, set] at first
    exact Bool.noConfusion first
  · refine beq_iff_eq.mpr (BitVec.eq_of_getLsbD_eq fun j low => ?_)
    rw [bits j low, set, BitVec.getLsbD_allOnes, decide_eq_true low]

/-- A write to the memory writes the bytes that are in the mask. -/
theorem merge_eq {a : Request} (we : weO a = true) (old : BitVec 32) :
    PrimRam1p.merge (accessOf params.adapter a).wmask (accessOf params.adapter a).wdata old =
      written a old := by
  refine BitVec.eq_of_getLsbD_eq fun i inside => ?_
  change (PrimRam1p.merge (bitMask a.mask) (if weO a = true then _ else _) old).getLsbD i = _
  rw [if_pos we, PrimRam1p.merge, written, getLsbD_wires _ inside, getLsbD_wires _ inside,
    bitMask_byte _ inside, BitVec.getLsbD_and, bitMask, getLsbD_wires _ inside]
  cases a.mask.getLsbD (i / 8)
  · rfl
  · exact Bool.and_true _

theorem serve_eq (m : TaggedMemory) (a : Request) :
    (ram params).serve muBi4True m a = m.serve params a := by
  unfold Memory.serve TaggedMemory.serve
  change (if (!refused params a && weO a) = true then _ else _) = if writes params a = true then _ else _
  unfold writes
  split
  · rename_i goes
    have we := (Bool.and_eq_true _ _ ▸ goes).2
    change TaggedMemory.mk (Function.update _ _ (PrimRam1p.merge _ _ _)) (Function.update _ _ (if weO a = true then _ else _)) = _
    rw [merge_eq we, if_pos we]
    rfl
  · rfl

theorem answers_eq (m : TaggedMemory) (requests : List Request) :
    (ram params).answers muBi4True m requests = m.answers params requests := by
  induction requests generalizing m with
  | nil => rfl
  | cons a rest ih =>
      change (ram params).answer muBi4True m a :: _ = m.answer params a :: _
      rw [serve_eq, ih]
      rfl

theorem after_eq (m : TaggedMemory) (requests : List Request) :
    (ram params).after muBi4True m requests = m.after params requests := by
  induction requests generalizing m with
  | nil => rfl
  | cons a rest ih =>
      change (ram params).after muBi4True _ rest = _
      rw [serve_eq, ih]
      rfl

/-- The link of the memory. -/
def link (params : Params) (words : Nat -> BitVec 32) (tags : Nat -> Bool) (tls : Nat -> H2d) :
    Link where
  h2d := tls
  d2h t := tlO ((sram params words tags).state tls t) (tls t)

theorem link_eq (words : Nat -> BitVec 32) (tags : Nat -> Bool) (tls : Nat -> H2d) :
    link params words tags tls =
      TlulAdapterSram.link (ram params) muBi4True ⟨words, tags⟩ tls := by
  unfold link TlulAdapterSram.link
  refine congrArg (Link.mk tls) (funext fun t => ?_)
  rw [<- state_view, tlO_view]

/-- The responses to the requests that have been taken are those of the map from addresses to words
and tags, and what is stored is what that has.  A response is on the channel a cycle after its
request has been taken. -/
theorem tagged_memory_answers (words : Nat -> BitVec 32) (tags : Nat -> Bool) (tls : Nat -> H2d)
    (t : Nat) : Exists fun owes : List Response => owes.length <= 1 ∧
      TaggedMemory.answers params ⟨words, tags⟩ ((link params words tags tls).requests t) =
        (link params words tags tls).responses t ++ owes ∧
      ((link params words tags tls).d2h t).d = owes.head? ∧
      (view ((sram params words tags).state tls t)).mem =
        TaggedMemory.after params ⟨words, tags⟩ ((link params words tags tls).requests t) := by
  rcases @answered params.adapter _ muBi4True (ram params) rfl ⟨words, tags⟩ tls t with
    ⟨owes, few, balance, offers, mem⟩
  rw [answers_eq, <- link_eq] at balance
  rw [after_eq, <- link_eq, <- state_view] at mem
  rw [<- link_eq] at offers
  exact ⟨owes, few, balance, offers, mem⟩

/-! ## Tags -/

/-- The last of some requests that has written to a capability. -/
def lastWrite (params : Params) (granule : Nat) (requests : List Request) : Option Request :=
  requests.reverse.find? fun a => writes params a && granuleOf params a == granule

/-- A tag is what the last write to its capability said. -/
theorem tags_after (m : TaggedMemory) (granule : Nat) (requests : List Request) :
    (m.after params requests).tags granule =
      ((lastWrite params granule requests).map (fun w => w.user.capability)).getD
        (m.tags granule) := by
  unfold lastWrite
  induction requests generalizing m with
  | nil => rfl
  | cons a rest ih =>
      change (TaggedMemory.after params (m.serve params a) rest).tags granule = _
      rw [ih, List.reverse_cons, List.find?_append]
      rcases later : rest.reverse.find? (fun a => writes params a && granuleOf params a == granule) with
        _ | w
      · have own : (m.serve params a).tags granule =
            (([a].find? fun a => writes params a && granuleOf params a == granule).map
              (fun w => w.user.capability)).getD (m.tags granule) := by
          unfold TaggedMemory.serve
          rw [List.find?_singleton]
          by_cases goes : writes params a = true
          · rw [if_pos goes, goes, Bool.true_and]
            by_cases here : granuleOf params a = granule
            · rw [here, beq_self_eq_true, if_pos rfl]
              exact Function.update_self _ _ _
            · rw [beq_false_of_ne here, if_neg Bool.false_ne_true]
              exact Function.update_of_ne (Ne.symm here) _ _
          · rw [if_neg goes, Bool.eq_false_iff.mpr goes]
            rfl
        exact own
      · rfl

theorem answers_getElem? (m : TaggedMemory) (requests : List Request) (i : Nat) :
    (m.answers params requests)[i]? =
      requests[i]?.map ((m.after params (requests.take i)).answer params) := by
  induction requests generalizing m i with
  | nil => rfl
  | cons a rest ih =>
      cases i with
      | zero => rfl
      | succ i => exact ih (m.serve params a) i

/-- In every run, a response carries a capability if and only if it is for a read that is not refused,
and the last write to the capability that is read, of those taken before it, was of a capability. -/
theorem capability_last_written (words : Nat -> BitVec 32) (tags : Nat -> Bool) (tls : Nat -> H2d)
    {t i : Nat} {r : Response} (response : ((link params words tags tls).responses t)[i]? = some r) :
    Exists fun a => ((link params words tags tls).requests t)[i]? = some a ∧
      r.user.capability = (!refused params a && a.opcode == get &&
        ((lastWrite params (granuleOf params a)
          (((link params words tags tls).requests t).take i)).map
            (fun w => w.user.capability)).getD (tags (granuleOf params a))) := by
  rcases @answered params.adapter _ muBi4True (ram params) rfl ⟨words, tags⟩ tls t with
    ⟨owes, _, balance, _, _⟩
  rw [answers_eq, <- link_eq] at balance
  have inside : i < ((link params words tags tls).responses t).length :=
    (List.getElem?_eq_some_iff.mp response).1
  have answer := congrArg (fun responses : List Response => responses[i]?) balance
  change (TaggedMemory.answers _ _ _)[i]? = (_ ++ owes)[i]? at answer
  rw [answers_getElem?, List.getElem?_append_left inside, response] at answer
  rcases Option.map_eq_some_iff.mp answer with ⟨a, request, same⟩
  refine ⟨a, request, ?_⟩
  rw [<- same, <- tags_after ⟨words, tags⟩]
  rfl

/-- A capability is stored in two words, and a word of it is read. -/
def stores (t : Nat) : H2d where
  a :=
    if t < 3 then
      some ⟨putFullData, 0, 2, 7, 0x100, 0xf, 0xc0ffee, ⟨0, muBi4False, 0, 0, true⟩⟩
    else if t < 5 then
      some ⟨putFullData, 0, 2, 7, 0x104, 0xf, 0xfeed, ⟨0, muBi4False, 0, 0, true⟩⟩
    else some ⟨get, 0, 2, 7, 0x100, 0xf, 0, ⟨0, muBi4False, 0, 0, false⟩⟩
  dReady := true

theorem capability_last_written_stores :
    Exists fun a => ((link ⟨17, true⟩ (fun _ => 0) (fun _ => false) stores).requests 8)[2]? = some a ∧
      true = (!refused ⟨17, true⟩ a && a.opcode == get &&
        ((lastWrite ⟨17, true⟩ (granuleOf ⟨17, true⟩ a)
          (((link ⟨17, true⟩ (fun _ => 0) (fun _ => false) stores).requests 8).take 2)).map
            (fun w => w.user.capability)).getD false) := by
  have response : ((link ⟨17, true⟩ (fun _ => 0) (fun _ => false) stores).responses 8)[2]? =
      some ⟨.accessAckData, 0, 2, 7, 0, 0xc0ffee, ⟨0x1a, 0, true⟩, false⟩ := by decide +kernel
  exact capability_last_written _ _ _ response

end Sram
end SunburstChip
